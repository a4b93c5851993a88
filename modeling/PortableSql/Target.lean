import PortableSql.Grammar
import PortableSql.Json.Reader
import PortableSql.Json.Writer

/-!
Which dialect statements are rendered for, and how undefined cells are treated.

A target can be read from a JSON text: an object with the members `dialect` and
`use_null_as_default`, each at most once, or a list of their values. Absent parts take their
defaults, and other members are ignored.
-/

namespace PortableSql

/-- A dialect and the treatment of undefined cells of inserts. -/
structure Target where
  dialect : Dialect := .generic
  /-- Whether undefined cells become `NULL` in place of the marker of the grammar. -/
  nullAsDefault : Bool := false
deriving DecidableEq, Inhabited

namespace Target

/-- The target of a dialect, with defaults otherwise. -/
def ofDialect (dialect : Dialect) : Target := { dialect }

/-- The grammar of the dialect. -/
def grammar (target : Target) : Grammar :=
  target.dialect.grammar

/-- What an undefined cell of an insert becomes; such cells are refused when absent. -/
def undefinedMarker (target : Target) : Option String :=
  if target.nullAsDefault then some "NULL" else target.grammar.undefinedMarker

/-- A dialect given as the name in a string. -/
def dialectOf? : Json.Tree → Option Dialect
  | .string codes => (Json.textOf? codes).bind fun cs => Dialect.ofName? (String.ofList cs)
  | _ => none

/-- A flag. -/
def flagOf? : Json.Tree → Option Bool
  | .bool value => some value
  | _ => none

/-- The parts of a target under way; a part that was given is present. -/
structure Parts where
  dialect : Option Dialect := none
  nullAsDefault : Option Bool := none

/-- One more member of an object. -/
def Parts.member? (parts : Parts) (member : List Nat × Json.Tree) : Option Parts := do
  let name := String.ofList (← Json.textOf? member.1)
  if name = "dialect" then
    if parts.dialect.isSome then none
    return { parts with dialect := some (← dialectOf? member.2) }
  else if name = "use_null_as_default" then
    if parts.nullAsDefault.isSome then none
    return { parts with nullAsDefault := some (← flagOf? member.2) }
  else
    return parts

/-- The target with the given parts. -/
def ofParts (parts : Parts) : Target :=
  ⟨parts.dialect.getD .generic, parts.nullAsDefault.getD false⟩

/-- The target of a tree. -/
def ofTree? : Json.Tree → Option Target
  | .array [] => some {}
  | .array [dialect] => return ofParts { dialect := some (← dialectOf? dialect) }
  | .array [dialect, flag] => return ⟨← dialectOf? dialect, ← flagOf? flag⟩
  | .object members => (members.foldlM Parts.member? {}).map ofParts
  | _ => none

/-- The target that a JSON text describes. -/
def parse? (text : String) : Option Target := do
  ofTree? (← Json.Tree.parse? text)

/-- A target as a document. -/
def toJson (target : Target) : Json :=
  .object [("dialect", .string target.dialect.name),
    ("use_null_as_default", .bool target.nullAsDefault)]

end Target

end PortableSql
