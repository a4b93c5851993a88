import PortableSql.Target
import PortableSql.Identifier
import PortableSql.Logged
import PortableSql.Sql
import PortableSql.Statement
import PortableSql.Template
import PortableSql.Value.Shown

/-!
Rendered parts of statements, and how they read in each position.

A rendered operand is an operand whose nested statements and fragments are rendered already. What it
looks like depends on where it stands: `inValue`, `bare`, `enclosed`, `asIdentifier` and
`inCell` are its forms. The forms differ in parentheses, in nulls and in what they refuse.
-/

namespace PortableSql

/-- Pieces of SQL text, or the fault that prevents them. -/
abbrev Rendering := Render (List Piece)

/-- An operand whose nested parts are rendered. -/
inductive Rendered where
  | value (value : Value)
  | undefined
  /-- A statement without parentheses. -/
  | query (body : Rendering)
  /-- A fragment. -/
  | raw (body : Rendering)

namespace Rendering

/-- A text alone. -/
def text (s : String) : Rendering :=
  pure [.text s]

/-- A placeholder alone. -/
def slot (v : Value) : Rendering :=
  pure [.slot v]

/-- Nothing. -/
def nothing : Rendering :=
  pure []

/-- One rendering after another. -/
def concat : List Rendering → Rendering
  | [] => nothing
  | first :: rest => do
    let pieces ← first
    let more ← concat rest
    return pieces ++ more

/-- A rendering between two texts. -/
def between (before after : String) (body : Rendering) : Rendering :=
  concat [text before, body, text after]

/-- Renderings with a text between each two. -/
def separated (separator : String) : List Rendering → Rendering
  | [] => nothing
  | first :: rest => concat (first :: rest.map fun item => concat [text separator, item])

/-- Renderings separated by commas. -/
def commaSeparated : List Rendering → Rendering :=
  separated ", "

/-- An event and no text. -/
def event (e : Event) : Rendering := do
  Render.event e
  return []

/-- A list of renderings after a text in front of them, or nothing when there are none. -/
def clause (lead : String) (items : List Rendering) : Rendering :=
  if items.isEmpty then nothing else concat [text lead, commaSeparated items]

end Rendering

namespace Rendered

/-- In the place of a value: statements stand between parentheses. -/
def inValue : Rendered → Rendering
  | .value v => .slot v
  | .raw body => body
  | .query body => .between "(" ")" body
  | .undefined => throw .undefinedOperand

/-- In the place of a whole statement or of a binding: without parentheses. -/
def bare : Rendered → Rendering
  | .query body => body
  | other => other.inValue

/-- Where parentheses are called for: around fragments too. -/
def enclosed : Rendered → Rendering
  | .raw body => .between "(" ")" body
  | other => other.inValue

/-- On the right of a comparison: a null is a word and not bound. -/
def compared : Rendered → Rendering
  | .value .null => .text "NULL"
  | other => other.inValue

/-- In a cell of an insert: what is undefined becomes the marker. -/
def inCell (marker : Option String) (column : String) : Option Rendered → Rendering
  | none | some .undefined =>
    match marker with
    | some text => .text text
    | none => throw (.undefinedCell column)
  | some other => other.inValue

/-- The names that a value stands for in an identifier position: a text or an array of texts. -/
def names : Value → Except Fault (List String)
  | .text name => .ok [name]
  | .array items =>
    items.mapM fun
      | .text name => .ok name
      | other => .error (.identifierNotText other.shown)
  | other => .error (.identifierNotText other.shown)

/-- In an identifier position of a template. -/
def asIdentifier (grammar : Grammar) : Rendered → Rendering
  | .value v => do
    let list ← (ExceptT.mk (pure (names v)) : Render (List String))
    return [.text (Identifier.renderList grammar "" list)]
  | other => other.bare

end Rendered

namespace Template

/-- Fills the tokens of a template with bindings by position; `given` and `template` serve the
report of a mismatch. -/
def fillPositional (grammar : Grammar) (template : String) (given : Nat) :
    List (Token Unit) → List Rendered → Rendering
  | [], [] => .nothing
  | [], left => throw (.unusedBindings template (given - left.length) given)
  | .text chars :: tokens, bindings =>
    .concat [.text (String.ofList chars), fillPositional grammar template given tokens bindings]
  | .value () :: tokens, binding :: bindings =>
    .concat [binding.bare, fillPositional grammar template given tokens bindings]
  | .identifier () :: tokens, binding :: bindings =>
    .concat [binding.asIdentifier grammar, fillPositional grammar template given tokens bindings]
  | .value () :: _, [] | .identifier () :: _, [] => throw (.missingBindings template given)

/-- The first binding of a name. -/
def lookup (template name : String) (bindings : Keyed Rendered) : Render Rendered :=
  match Keyed.get? name bindings with
  | some binding => pure binding
  | none => throw (.missingName name template)

/-- Fills the tokens of a template with bindings by name. -/
def fillNamed (grammar : Grammar) (template : String) (bindings : Keyed Rendered) :
    List (Token String) → Rendering
  | [] => .nothing
  | .text chars :: tokens =>
    .concat [.text (String.ofList chars), fillNamed grammar template bindings tokens]
  | .value name :: tokens =>
    .concat [do (← lookup template name bindings).bare,
      fillNamed grammar template bindings tokens]
  | .identifier name :: tokens =>
    .concat [do (← lookup template name bindings).asIdentifier grammar,
      fillNamed grammar template bindings tokens]

/-- A template filled with rendered bindings. -/
def fill (grammar : Grammar) (template : String) : Bindings Rendered → Rendering
  | .none => .text template
  | .positional bindings =>
    fillPositional grammar template bindings.length (positional template.toList) bindings
  | .named pairs => fillNamed grammar template pairs (named template.toList)

end Template

/-- A fragment whose bindings are rendered. -/
def Fragment.render (grammar : Grammar) (fragment : Fragment Rendered) : Rendering :=
  let body := Template.fill grammar fragment.template fragment.bindings
  match fragment.around with
  | some (before, after) => .between before after body
  | none => body

end PortableSql
