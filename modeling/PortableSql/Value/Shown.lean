import PortableSql.Json.Writer
import PortableSql.Value

/-!
Values as they appear inside messages: the kind of the value, and the value in parentheses.
-/

namespace PortableSql.Value

mutual

/-- A value inside a message. -/
def shown : Value → String
  | .null => "Null"
  | .bool value => if value then "Bool(true)" else "Bool(false)"
  | .int value => "Int(" ++ toString value.toInt ++ ")"
  | .float value => "Float(" ++ NumeralStyle.message.write value ++ ")"
  | .text value => "Text(" ++ Text.quoted value ++ ")"
  | .blob bytes =>
    "Blob([" ++ ", ".intercalate (bytes.map fun byte => toString byte.toNat) ++ "])"
  | .date value => "Date(" ++ value.text ++ ")"
  | .timestamp value => "DateTime(" ++ value.text ++ ")"
  | .json document => "Json(" ++ document.shown ++ ")"
  | .array items => "Array([" ++ ", ".intercalate (shownList items) ++ "])"
  | .returning columns => "Returning(" ++ Text.quotedList columns ++ ")"

/-- Values inside a message. -/
def shownList : List Value → List String
  | [] => []
  | item :: items => item.shown :: shownList items

end

end PortableSql.Value
