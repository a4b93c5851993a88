import PortableSql.Json
import PortableSql.Number.Style
import PortableSql.Text.Quoted

/-!
Writing JSON documents.

`Json.compact` puts no space anywhere; `Json.pretty` gives every item a line of its own. Both escape
quotes, backslashes and the controls below the space, and nothing else. `Json.shown` is the form in
which a document appears inside messages.
-/

namespace PortableSql

/-- A number in the digits of a style. -/
def JsonNumber.write (style : NumeralStyle) : JsonNumber → String
  | .integer n _ => toString n
  | .double x _ => style.write x

namespace Json

/-- One character of a string. -/
def escapeChar (c : Char) : String :=
  match c with
  | '"' => "\\\""
  | '\\' => "\\\\"
  | '\x08' => "\\b"
  | '\t' => "\\t"
  | '\n' => "\\n"
  | '\x0c' => "\\f"
  | '\r' => "\\r"
  | _ =>
    if c.toNat < 0x10 then "\\u000" ++ Text.hexDigits c.toNat
    else if c.toNat < 0x20 then "\\u00" ++ Text.hexDigits c.toNat
    else c.toString

/-- A string between quotes. -/
def writeString (s : String) : String :=
  "\"" ++ String.join (s.toList.map escapeChar) ++ "\""

mutual

/-- A document without spaces. -/
def compact : Json → String
  | .null => "null"
  | .bool value => if value then "true" else "false"
  | .number value => value.write .json
  | .string value => writeString value
  | .array items => "[" ++ ",".intercalate (compactItems items) ++ "]"
  | .object members => "\x7b" ++ ",".intercalate (compactMembers members) ++ "\x7d"

/-- The items of an array without spaces. -/
def compactItems : List Json → List String
  | [] => []
  | item :: items => item.compact :: compactItems items

/-- The members of an object without spaces. -/
def compactMembers : List (String × Json) → List String
  | [] => []
  | (key, value) :: members => (writeString key ++ ":" ++ value.compact) :: compactMembers members

end

/-- The lines of an array or object between its brackets, indented by two more spaces. -/
def block (indent : Nat) (first last : String) (lines : List String) : String :=
  if lines.isEmpty then
    first ++ last
  else
    let margin := "\n" ++ String.ofList (List.replicate (2 * indent) ' ')
    first ++ ",".intercalate (lines.map fun line => margin ++ "  " ++ line) ++ margin ++ last

mutual

/-- A document with a line for every item, at a depth of indentation. -/
def prettyAt (indent : Nat) : Json → String
  | .array items => block indent "[" "]" (prettyItems (indent + 1) items)
  | .object members => block indent "\x7b" "\x7d" (prettyMembers (indent + 1) members)
  | .null => "null"
  | .bool value => if value then "true" else "false"
  | .number value => value.write .json
  | .string value => writeString value

/-- The items of an array. -/
def prettyItems (indent : Nat) : List Json → List String
  | [] => []
  | item :: items => item.prettyAt indent :: prettyItems indent items

/-- The members of an object. -/
def prettyMembers (indent : Nat) : List (String × Json) → List String
  | [] => []
  | (key, value) :: members =>
    (writeString key ++ ": " ++ value.prettyAt indent) :: prettyMembers indent members

end

/-- A document with a line for every item, indented by two spaces a level. -/
def pretty (document : Json) : String :=
  document.prettyAt 0

mutual

/-- A document as it appears inside messages. -/
def shown : Json → String
  | .null => "Null"
  | .bool value => if value then "Bool(true)" else "Bool(false)"
  | .number value => "Number(" ++ value.write .json ++ ")"
  | .string value => "String(" ++ Text.quoted value ++ ")"
  | .array items => "Array [" ++ ", ".intercalate (shownItems items) ++ "]"
  | .object members => "Object \x7b" ++ ", ".intercalate (shownMembers members) ++ "\x7d"

/-- The items of an array inside messages. -/
def shownItems : List Json → List String
  | [] => []
  | item :: items => item.shown :: shownItems items

/-- The members of an object inside messages. -/
def shownMembers : List (String × Json) → List String
  | [] => []
  | (key, value) :: members => (Text.quoted key ++ ": " ++ value.shown) :: shownMembers members

end

end Json

end PortableSql
