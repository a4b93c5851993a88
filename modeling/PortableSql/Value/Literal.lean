import PortableSql.Grammar
import PortableSql.Json.Writer
import PortableSql.Value

/-!
Values as literals inside SQL text.

Texts, dates and documents stand between single quotes, and a quote inside is written twice. Arrays,
blobs and booleans are spelled as the grammar says. An output slot has no literal and stays a
question mark.
-/

namespace PortableSql.Value

/-- Characters with every single quote doubled. -/
def doubleQuotes : List Char → List Char
  | [] => []
  | c :: rest => if c = '\'' then '\'' :: '\'' :: doubleQuotes rest else c :: doubleQuotes rest

/-- A text between single quotes. -/
def textLiteral (s : String) : String :=
  String.ofList ('\'' :: doubleQuotes s.toList ++ ['\''])

/-- The two upper-case hexadecimal digits of a byte. -/
def byteDigits (byte : UInt8) : List Char :=
  [byte.toNat / 16, byte.toNat % 16].map fun n => (Nat.digitChar n).toUpper

/-- The literal of a blob. -/
def blobLiteral (form : BlobLiteral) (bytes : List UInt8) : String :=
  let digits := String.ofList (bytes.flatMap byteDigits)
  match form with
  | .hexString => "X'" ++ digits ++ "'"
  | .escaped => "'\\x" ++ digits ++ "'"
  | .prefixed => "0x" ++ digits

/-- The literals of an array. -/
def arrayLiteral (form : ArrayLiteral) (items : List String) : String :=
  let joined := ", ".intercalate items
  match form with
  | .parenthesized => "(" ++ joined ++ ")"
  | .constructor => "ARRAY[" ++ joined ++ "]"

mutual

/-- The literal of a value. -/
def literal (grammar : Grammar) : Value → String
  | .null => "NULL"
  | .bool value => if value then grammar.booleans.1 else grammar.booleans.2
  | .int value => toString value.toInt
  | .float value => NumeralStyle.inline.write value
  | .text value => textLiteral value
  | .blob bytes => blobLiteral grammar.blobLiteral bytes
  | .date value => textLiteral value.text
  | .timestamp value => textLiteral value.literalText
  | .json document => textLiteral document.compact
  | .array items => arrayLiteral grammar.arrayLiteral (literals grammar items)
  | .returning _ => "?"

/-- The literals of a list of values. -/
def literals (grammar : Grammar) : List Value → List String
  | [] => []
  | item :: items => item.literal grammar :: literals grammar items

end

end PortableSql.Value
