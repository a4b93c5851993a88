import PortableSql.Text.Printable

/-!
The quoted form in which texts appear inside messages.

A quoted text stands between double quotes; a quote and a backslash are preceded by a backslash,
four controls have a letter of their own, and every other character that cannot be shown is
written as its hexadecimal code in braces.
-/

namespace PortableSql.Text

/-- The lower-case hexadecimal digits of a number, without leading zeros. -/
def hexDigits (n : Nat) : String :=
  String.ofList (Nat.toDigits 16 n)

/-- One character of a quoted text. -/
def quotedChar (c : Char) : String :=
  if c = '\x00' then "\\0"
  else if c = '\t' then "\\t"
  else if c = '\r' then "\\r"
  else if c = '\n' then "\\n"
  else if c = '\\' then "\\\\"
  else if c = '"' then "\\\""
  else if isPrintable c then c.toString
  else "\\u\x7b" ++ hexDigits c.toNat ++ "\x7d"

/-- A text between double quotes with its special characters escaped. -/
def quoted (s : String) : String :=
  "\"" ++ String.join (s.toList.map quotedChar) ++ "\""

/-- The quoted texts of a list between square brackets. -/
def quotedList (items : List String) : String :=
  "[" ++ ", ".intercalate (items.map quoted) ++ "]"

example : quoted "a\"b\\\n" = "\"a\\\"b\\\\\\n\"" := by decide +kernel
example : quotedList ["id", "x"] = "[\"id\", \"x\"]" := by decide +kernel

end PortableSql.Text
