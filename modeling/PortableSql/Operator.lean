import PortableSql.Fault

/-!
Comparison operators.

An operator is written into SQL text without quotes, so it has to be on a list of permitted ones.
`Operator.parse` compares without regard to white space and letter case and keeps the spelling of
the caller; a question mark in it is escaped when it is written.
-/

namespace PortableSql

/-- A permitted comparison operator. -/
structure Operator where
  /-- The caller's spelling, without white space at its ends. -/
  text : String
  /-- The lower-case form with single spaces. -/
  normalized : String
deriving DecidableEq

namespace Operator

/-- The permitted operators, in lower case with single spaces. -/
def permitted : List String := [
  "=", "<", ">", "<=", ">=", "<>", "!=", "like", "not like", "ilike", "not ilike", "between",
  "not between", "in", "not in", "is", "is not", "exists", "not exists", "rlike", "not rlike",
  "regexp", "not regexp", "similar to", "not similar to", "&", "|", "^", "<<", ">>", "~", "~*",
  "!~", "!~*", "#", "&&", "@>", "<@", "||", "&<", "&>", "-|-", "@@", "!!", "?", "?|", "?&"]

/-- Lower case for the characters whose lower case is a single ASCII letter: the letters `A` to `Z`
and the Kelvin sign. No other character can become part of a permitted operator. -/
def lowerChar (c : Char) : Char :=
  if c = '\u212a' then 'k' else c.toLower

/-- The form in which an operator is compared. -/
def normalize (s : String) : String :=
  (" ".intercalate (Text.words s)).map lowerChar

/-- The operator that a text spells, if it is permitted. -/
def parse (s : String) : Except Fault Operator :=
  let normalized := normalize s
  if permitted.contains normalized then .ok ⟨Text.trim s, normalized⟩ else .error (.operator s)

/-- Escapes every question mark. -/
def escapeMarks : List Char → List Char
  | [] => []
  | c :: rest => if c = '?' then '\\' :: '?' :: escapeMarks rest else c :: escapeMarks rest

/-- The operator as SQL text. -/
def render (op : Operator) : String :=
  String.ofList (escapeMarks op.text.toList)

/-- Equality. -/
def equals : Operator := ⟨"=", "="⟩

example : (parse "=").toOption = some equals := by decide +kernel
example : (parse " Not\tBETWEEN").toOption = some ⟨"Not\tBETWEEN", "not between"⟩ := by
  decide +kernel
example : (parse "isnt").toOption = none := by decide +kernel

end Operator

end PortableSql
