import PortableSql.Sql

/-!
Placeholders in SQL text.

A placeholder is a question mark that no backslash stands directly in front of. Text is read with a
state, whether the character before it is a backslash; so counts over texts and pieces written one
after another add up when the state is handed on. Text that is pushed holds no placeholder. A slot
holds one unless it is written directly behind a backslash, and then it is hidden.
-/

namespace PortableSql

namespace Sql

/-- Whether the last of some characters is a backslash; `behind` says it of what is in front. -/
def endsBehind (behind : Bool) (cs : List Char) : Bool :=
  (cs.getLast?.map (· == '\\')).getD behind

/-- How many question marks have no backslash directly in front. -/
def marks (behind : Bool) : List Char → Nat
  | [] => 0
  | c :: rest => (if c = '?' ∧ behind = false then 1 else 0) + marks (c == '\\') rest

/-- How many placeholders a text has. -/
def placeholders (text : String) : Nat :=
  marks false text.toList

@[simp] theorem endsBehind_nil (behind : Bool) : endsBehind behind [] = behind := rfl

@[simp] theorem endsBehind_cons (behind : Bool) (c : Char) (cs : List Char) :
    endsBehind behind (c :: cs) = endsBehind (c == '\\') cs := by
  cases cs with
  | nil => rfl
  | cons d rest => simp [endsBehind, List.getLast?_cons]

theorem endsBehind_append (behind : Bool) (xs ys : List Char) :
    endsBehind behind (xs ++ ys) = endsBehind (endsBehind behind xs) ys := by
  induction xs generalizing behind with
  | nil => rfl
  | cons c rest ih => simp [ih]

theorem marks_append (behind : Bool) (xs ys : List Char) :
    marks behind (xs ++ ys) = marks behind xs + marks (endsBehind behind xs) ys := by
  induction xs generalizing behind with
  | nil => simp [marks]
  | cons c rest ih => simp [marks, ih, Nat.add_assoc]

/-! ### Pushed text -/

theorem escapeMarks_eq_self {cs : List Char} (absent : '?' ∉ cs) (escaped : Bool) :
    escapeMarks escaped cs = cs := by
  induction cs generalizing escaped with
  | nil => rfl
  | cons c rest ih =>
    have different : c ≠ '?' := fun equal => absent (by simp [equal])
    have tail : '?' ∉ rest := fun member => absent (by simp [member])
    simp [escapeMarks, different, ih tail]

/-- Text without question marks and backslashes is passed by. -/
theorem escapeMarks_append_left {xs ys : List Char} (plain : '?' ∉ xs ∧ '\\' ∉ xs) :
    escapeMarks false (xs ++ ys) = xs ++ escapeMarks false ys := by
  induction xs with
  | nil => rfl
  | cons c rest ih =>
    simp only [List.mem_cons, not_or] at plain
    have mark : c ≠ '?' := Ne.symm plain.1.1
    have backslash : c ≠ '\\' := Ne.symm plain.2.1
    simp [escapeMarks, mark, beq_false_of_ne backslash, ih ⟨plain.1.2, plain.2.2⟩]

theorem endsBehind_escapeMarks (behind escaped : Bool) (cs : List Char) :
    endsBehind behind (escapeMarks escaped cs) = endsBehind behind cs := by
  induction cs generalizing behind escaped with
  | nil => rfl
  | cons c rest ih =>
    by_cases mark : c = '?' ∧ escaped = false
    · simp [escapeMarks, mark, ih]
    · simp [escapeMarks, mark, ih]

/-- Escaped text has no placeholder: an open backslash is one directly in front. -/
theorem marks_escapeMarks {behind escaped : Bool} (opened : escaped = true → behind = true)
    (cs : List Char) : marks behind (escapeMarks escaped cs) = 0 := by
  induction cs generalizing behind escaped with
  | nil => rfl
  | cons c rest ih =>
    by_cases mark : c = '?' ∧ escaped = false
    · have tail := @ih false false (by simp)
      simp [escapeMarks, marks, mark, tail]
    · have tail := @ih (c == '\\') (c == '\\' && !escaped) (by simp +contextual)
      have none : ¬(c = '?' ∧ behind = false) := by
        rintro ⟨question, front⟩
        cases escaped with
        | true => simp [opened rfl] at front
        | false => exact mark ⟨question, rfl⟩
      simp [escapeMarks, marks, mark, tail, none]

theorem appendEscaped_toList (text s : String) :
    (appendEscaped text s).toList =
      text.toList ++ escapeMarks (endsBehind false text.toList) s.toList := by
  have state : (text.toList.getLast? == some '\\') = endsBehind false text.toList := by
    unfold endsBehind
    cases text.toList.getLast? with
    | none => rfl
    | some c => simp
  unfold appendEscaped
  split
  · simp [state]
  · rename_i absent
    simp [escapeMarks_eq_self absent]

end Sql

namespace Piece

/-- The characters that a piece adds; `behind` says whether a backslash is in front of them. -/
def chars (behind : Bool) : Piece → List Char
  | .text s => Sql.escapeMarks behind s.toList
  | .slot _ => ['?']
  | .whole sql => sql.text.toList

/-- How many values of a piece get no placeholder behind a text. A slot gets none directly behind a
backslash. -/
def hidden (behind : Bool) : Piece → Nat
  | .text _ => 0
  | .slot _ => if behind then 1 else 0
  | .whole sql => sql.bindings.length - Sql.marks behind sql.text.toList

/-- How many values of pieces get no placeholder, the pieces written one after another. -/
def hiddenAll (behind : Bool) : List Piece → Nat
  | [] => 0
  | piece :: rest =>
    piece.hidden behind + hiddenAll (Sql.endsBehind behind (piece.chars behind)) rest

/-- Whether a backslash is last after pieces. -/
def endsBehindAll (behind : Bool) : List Piece → Bool
  | [] => behind
  | piece :: rest => endsBehindAll (Sql.endsBehind behind (piece.chars behind)) rest

/-- A piece as statements write it: text written before comes from such pieces. -/
inductive Written : Piece → Prop where
  | text (s : String) : Written (.text s)
  | slot (value : Value) : Written (.slot value)
  | whole {pieces : List Piece} (written : ∀ piece ∈ pieces, Written piece) :
      Written (.whole (Sql.ofPieces pieces))

theorem hiddenAll_append (behind : Bool) (xs ys : List Piece) :
    hiddenAll behind (xs ++ ys) = hiddenAll behind xs + hiddenAll (endsBehindAll behind xs) ys := by
  induction xs generalizing behind with
  | nil => simp [hiddenAll, endsBehindAll]
  | cons piece rest ih => simp [hiddenAll, endsBehindAll, ih, Nat.add_assoc]

theorem endsBehindAll_append (behind : Bool) (xs ys : List Piece) :
    endsBehindAll behind (xs ++ ys) = endsBehindAll (endsBehindAll behind xs) ys := by
  induction xs generalizing behind with
  | nil => rfl
  | cons piece rest ih => simp [endsBehindAll, ih]

theorem writeText_toList (text : String) (piece : Piece) :
    (piece.writeText text).toList =
      text.toList ++ piece.chars (Sql.endsBehind false text.toList) := by
  cases piece with
  | text s => exact Sql.appendEscaped_toList text s
  | slot value => simp [writeText, chars]
  | whole sql => simp [writeText, chars]

/-- Every value of a piece gets a placeholder or is hidden, if that holds of the text written
before. -/
theorem marks_add_hidden (piece : Piece) (behind : Bool)
    (bounded : ∀ sql, piece = .whole sql → Sql.marks behind sql.text.toList ≤ sql.bindings.length) :
    Sql.marks behind (piece.chars behind) + piece.hidden behind = piece.bindings.length := by
  cases piece with
  | text s => simp [chars, hidden, bindings, Sql.marks_escapeMarks (fun opened => opened)]
  | slot value => cases behind <;> simp [chars, hidden, bindings, Sql.marks]
  | whole sql =>
    have := bounded sql rfl
    simp only [chars, hidden, bindings]
    omega

end Piece

namespace Sql

theorem marks_le_of_behind (behind : Bool) (cs : List Char) :
    marks behind cs ≤ marks false cs := by
  cases cs with
  | nil => exact Nat.le_refl _
  | cons c rest =>
    simp only [marks]
    split <;> split <;> simp_all

theorem foldl_writeText_marks (pieces : List Piece) (text : String)
    (bounded : ∀ sql, .whole sql ∈ pieces → placeholders sql.text ≤ sql.bindings.length) :
    placeholders (pieces.foldl Piece.writeText text) +
        Piece.hiddenAll (endsBehind false text.toList) pieces =
      placeholders text + (pieces.flatMap Piece.bindings).length := by
  induction pieces generalizing text with
  | nil => simp [Piece.hiddenAll]
  | cons piece rest ih =>
    have first := piece.marks_add_hidden (endsBehind false text.toList) (by
      rintro sql rfl
      exact Nat.le_trans (marks_le_of_behind _ _) (bounded sql (by simp)))
    have others := ih (piece.writeText text) fun sql member => bounded sql (by simp [member])
    have joined : placeholders (piece.writeText text) = placeholders text +
        marks (endsBehind false text.toList) (piece.chars (endsBehind false text.toList)) := by
      rw [placeholders, Piece.writeText_toList, marks_append]
      rfl
    rw [Piece.writeText_toList, endsBehind_append] at others
    simp only [List.foldl_cons, Piece.hiddenAll, List.flatMap_cons, List.length_append]
    omega

end Sql

/-- Text written before has at most as many placeholders as values. -/
theorem Piece.Written.placeholders_le {piece : Piece} (written : piece.Written) :
    ∀ sql, piece = .whole sql → Sql.placeholders sql.text ≤ sql.bindings.length := by
  induction written with
  | text s => simp
  | slot value => simp
  | @whole pieces _ ih =>
    rintro sql ⟨⟩
    have count := Sql.foldl_writeText_marks pieces "" fun sql member =>
      ih (.whole sql) member sql rfl
    have start : Sql.placeholders "" = 0 := rfl
    simp only [Sql.ofPieces]
    omega

namespace Sql

/-- Every value has a placeholder or is hidden, and there are no other placeholders. -/
theorem placeholders_add_hidden {pieces : List Piece}
    (written : ∀ piece ∈ pieces, piece.Written) :
    placeholders (ofPieces pieces).text + Piece.hiddenAll false pieces =
      (ofPieces pieces).bindings.length := by
  have count := foldl_writeText_marks pieces "" fun sql member =>
    (written _ member).placeholders_le sql rfl
  have start : placeholders "" = 0 := rfl
  simpa [start, ofPieces] using count

end Sql

end PortableSql
