import PortableSql.Value.Literal

/-!
SQL text with its bound values.

A placeholder is a question mark that no backslash precedes, and it stands for the next bound value.
`Sql.addText` appends text and escapes the question marks in it, so that only `Sql.addSlot` writes
placeholders. `Sql.literal` puts the literals of the values where the placeholders are.
-/

namespace PortableSql

/-- SQL text and the values of its placeholders, in order. -/
structure Sql where
  text : String
  bindings : List Value

/-- A part of SQL text on its way to the buffer. -/
inductive Piece where
  /-- Text without placeholders. -/
  | text (s : String)
  /-- A placeholder and its value. -/
  | slot (value : Value)
  /-- Text with placeholders, written before. -/
  | whole (sql : Sql)

namespace Sql

/-- Nothing. -/
def empty : Sql := ⟨"", []⟩

/-- Whether there is no text. -/
def isEmpty (sql : Sql) : Bool :=
  sql.text.isEmpty

/-- Precedes the question marks of a text by a backslash, unless they have one; `escaped` says
whether a backslash in front of the text is still open. -/
def escapeMarks (escaped : Bool) : List Char → List Char
  | [] => []
  | c :: rest =>
    if c = '?' ∧ escaped = false then
      '\\' :: '?' :: escapeMarks false rest
    else
      c :: escapeMarks (c == '\\' && !escaped) rest

/-- Text with more text appended to it whose question marks are escaped. -/
def appendEscaped (text s : String) : String :=
  if '?' ∈ s.toList then
    let escaped := text.toList.getLast? == some '\\'
    text ++ String.ofList (escapeMarks escaped s.toList)
  else
    text ++ s

/-- Appends text that holds no placeholder. -/
def addText (sql : Sql) (s : String) : Sql :=
  { sql with text := appendEscaped sql.text s }

/-- Appends a placeholder for a value. -/
def addSlot (sql : Sql) (value : Value) : Sql :=
  ⟨sql.text ++ "?", sql.bindings ++ [value]⟩

/-- Appends text with placeholders as it is. -/
def append (sql other : Sql) : Sql :=
  ⟨sql.text ++ other.text, sql.bindings ++ other.bindings⟩

/-- Appends one piece. -/
def write (sql : Sql) : Piece → Sql
  | .text s => sql.addText s
  | .slot value => sql.addSlot value
  | .whole other => sql.append other

end Sql

namespace Piece

/-- The text after a piece is written to it. -/
def writeText (text : String) : Piece → String
  | .text s => Sql.appendEscaped text s
  | .slot _ => text ++ "?"
  | .whole sql => text ++ sql.text

/-- The values of the placeholders in a piece. -/
def bindings : Piece → List Value
  | .text _ => []
  | .slot value => [value]
  | .whole sql => sql.bindings

end Piece

namespace Sql

/-- The text and values of pieces written one after another, the text and the values each in one
pass. -/
def ofPieces (pieces : List Piece) : Sql :=
  ⟨pieces.foldl Piece.writeText "", pieces.flatMap Piece.bindings⟩

/-- Writing pieces to a buffer appends their text and their values. -/
theorem foldl_write (pieces : List Piece) (sql : Sql) :
    pieces.foldl write sql =
      ⟨pieces.foldl Piece.writeText sql.text, sql.bindings ++ pieces.flatMap Piece.bindings⟩ := by
  induction pieces generalizing sql with
  | nil => simp
  | cons piece pieces ih =>
    rw [List.foldl_cons, ih]
    cases piece <;>
      simp [write, addText, addSlot, append, Piece.writeText, Piece.bindings]

/-- The buffer of pieces is what writing them one after another to an empty buffer gives. -/
theorem ofPieces_eq_foldl (pieces : List Piece) : ofPieces pieces = pieces.foldl write empty := by
  rw [foldl_write]
  rfl

theorem append_assoc (a b c : Sql) : (a.append b).append c = a.append (b.append c) := by
  simp [append, String.append_assoc]

/-- Characters with the literals of values in place of the placeholders; an escaped question mark
loses its backslash, and a placeholder beyond the values stays. -/
def literalChars (grammar : Grammar) : List Char → List Value → List Char
  | [], _ => []
  | '\\' :: '?' :: rest, values => '?' :: literalChars grammar rest values
  | '?' :: rest, value :: values =>
    (value.literal grammar).toList ++ literalChars grammar rest values
  | c :: rest, values => c :: literalChars grammar rest values

/-- The text with every value written into it. -/
def literal (sql : Sql) (grammar : Grammar) : String :=
  String.ofList (literalChars grammar sql.text.toList sql.bindings)

/-- Characters with a numbered name in place of each placeholder, and how many there were; `count`
placeholders came before. -/
def numberedChars (count : Nat) : List Char → List Char × Nat
  | [] => ([], count)
  | '\\' :: '?' :: rest =>
    let (chars, total) := numberedChars count rest
    ('\\' :: '?' :: chars, total)
  | '?' :: rest =>
    let (chars, total) := numberedChars (count + 1) rest
    (':' :: Nat.toDigits 10 (count + 1) ++ chars, total)
  | c :: rest =>
    let (chars, total) := numberedChars count rest
    (c :: chars, total)

/-- Text whose placeholders are named `:1`, `:2` and so on, and how many there are. -/
def numbered (text : String) : String × Nat :=
  let (chars, total) := numberedChars 0 text.toList
  (String.ofList chars, total)

end Sql

end PortableSql
