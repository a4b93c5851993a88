import PortableSql.Proofs.Compiled
import PortableSql.Value.Literal

/-!
Backslashes that only escape question marks.

Text that is pushed gets a backslash in front of each of its question marks, and where no name and
no raw text has a backslash of its own these are the only ones. Such text is easy to put together:
it does not end with a backslash, so it never matters what it stands in front of, and each value in
it has a placeholder (`Sql.escaped_ofPieces`).
-/

namespace PortableSql

/-! ### Text -/

/-- A text without backslashes. -/
abbrev PlainText (text : String) : Prop :=
  '\\' ∉ text.toList

/-- A literal text is compared with its characters, which are not read from it again. -/
theorem PlainText.ofList {chars : List Char} (absent : '\\' ∉ chars) :
    PlainText (String.ofList chars) := by
  rwa [PlainText, String.toList_ofList]

namespace Sql

/-- Every backslash is directly in front of a question mark. -/
def EscapesOnly : List Char → Prop
  | [] => True
  | c :: rest => (c = '\\' → rest.head? = some '?') ∧ EscapesOnly rest

namespace EscapesOnly

variable {xs ys cs : List Char}

theorem of_not_mem (absent : '\\' ∉ cs) : EscapesOnly cs := by
  induction cs with
  | nil => trivial
  | cons c rest ih =>
    rw [List.mem_cons, not_or] at absent
    exact ⟨fun backslash => absurd backslash.symm absent.1, ih absent.2⟩

theorem append (first : EscapesOnly xs) (second : EscapesOnly ys) : EscapesOnly (xs ++ ys) := by
  induction xs with
  | nil => exact second
  | cons c rest ih =>
    refine ⟨fun backslash => ?_, ih first.2⟩
    obtain ⟨more, rfl⟩ := List.head?_eq_some_iff.mp (first.1 backslash)
    rfl

/-- A backslash is never last. -/
theorem endsBehind_eq (escapes : EscapesOnly cs) : endsBehind false cs = false := by
  induction cs with
  | nil => rfl
  | cons c rest ih =>
    rw [endsBehind_cons]
    by_cases backslash : c = '\\'
    · obtain ⟨more, rfl⟩ := List.head?_eq_some_iff.mp (escapes.1 backslash)
      exact ih escapes.2
    · rw [beq_false_of_ne backslash]
      exact ih escapes.2

/-- Behind an open backslash comes the question mark that it escapes. -/
theorem escapeMarks {escaped : Bool} (opened : escaped = true → cs.head? = some '?')
    (escapes : EscapesOnly cs) :
    EscapesOnly (escapeMarks escaped cs) ∧
      (escaped = true → (Sql.escapeMarks escaped cs).head? = some '?') := by
  induction cs generalizing escaped with
  | nil => exact ⟨trivial, opened⟩
  | cons c rest ih =>
    by_cases mark : c = '?' ∧ escaped = false
    · obtain ⟨rfl, rfl⟩ := mark
      have tail := (@ih false nofun escapes.2).1
      exact ⟨⟨fun _ => rfl, nofun, tail⟩, nofun⟩
    · have front : (c == '\\' && !escaped) = true → rest.head? = some '?' := by
        intro state
        simp only [Bool.and_eq_true, beq_iff_eq] at state
        exact escapes.1 state.1
      obtain ⟨tail, kept⟩ := ih front escapes.2
      rw [Sql.escapeMarks, if_neg mark]
      refine ⟨⟨fun backslash => kept ?_, tail⟩, fun state => opened state⟩
      -- An open backslash is in front of a question mark, so it is not in front of this one.
      cases escaped with
      | false => simp [backslash]
      | true => simp [backslash] at opened

theorem doubleQuotes (escapes : EscapesOnly cs) : EscapesOnly (Value.doubleQuotes cs) := by
  induction cs with
  | nil => trivial
  | cons c rest ih =>
    have tail := ih escapes.2
    unfold Value.doubleQuotes
    split
    · exact ⟨nofun, nofun, tail⟩
    · refine ⟨fun backslash => ?_, tail⟩
      obtain ⟨more, rfl⟩ := List.head?_eq_some_iff.mp (escapes.1 backslash)
      rfl

end EscapesOnly

/-- Written text whose backslashes only escape question marks, and which has a placeholder for each
of its values. -/
structure Escaped (sql : Sql) : Prop where
  text : EscapesOnly sql.text.toList
  placeholders : placeholders sql.text = sql.bindings.length

end Sql

/-! ### Pieces -/

namespace Piece

/-- A piece whose backslashes only escape question marks. -/
def EscapesOnly : Piece → Prop
  | .text s => Sql.EscapesOnly s.toList
  | .slot _ => True
  | .whole sql => sql.Escaped

variable {piece : Piece} {pieces : List Piece}

theorem EscapesOnly.chars (escapes : piece.EscapesOnly) :
    Sql.EscapesOnly (piece.chars false) := by
  cases piece with
  | text s => exact (@Sql.EscapesOnly.escapeMarks s.toList false nofun escapes).1
  | slot value => exact ⟨nofun, trivial⟩
  | whole sql => exact escapes.text

theorem EscapesOnly.marks_eq (escapes : piece.EscapesOnly) :
    Sql.marks false (piece.chars false) = piece.bindings.length := by
  cases piece with
  | text s => exact Sql.marks_escapeMarks (fun opened => opened) s.toList
  | slot value => rfl
  | whole sql => exact escapes.placeholders

theorem EscapesOnly.charsAll (each : ∀ piece ∈ pieces, piece.EscapesOnly) :
    Sql.EscapesOnly (charsAll false pieces) ∧
      Sql.marks false (Piece.charsAll false pieces) = (pieces.flatMap bindings).length := by
  induction pieces with
  | nil => exact ⟨trivial, rfl⟩
  | cons piece rest ih =>
    have first := each piece List.mem_cons_self
    obtain ⟨text, count⟩ := ih fun other member => each other (List.mem_cons_of_mem _ member)
    have clear := first.chars.endsBehind_eq
    constructor
    · rw [Piece.charsAll, clear]
      exact first.chars.append text
    · rw [Piece.charsAll, clear, Sql.marks_append, clear, first.marks_eq, count,
        List.flatMap_cons, List.length_append]

end Piece

/-- Each value of such pieces has a placeholder. -/
theorem Sql.escaped_ofPieces {pieces : List Piece} (each : ∀ piece ∈ pieces, piece.EscapesOnly) :
    (ofPieces pieces).Escaped := by
  obtain ⟨text, count⟩ := Piece.EscapesOnly.charsAll each
  constructor
  · rw [toList_text_ofPieces]
    exact text
  · rw [placeholders, toList_text_ofPieces]
    exact count

/-! ### Renderings -/

namespace Rendering

/-- A rendering that is stopped or gives such pieces. -/
def EscapesOnly (r : Rendering) : Prop :=
  r.Ensures (fun pieces => ∀ piece ∈ pieces, piece.EscapesOnly) fun _ => True

namespace EscapesOnly

variable {r : Rendering} {rs : List Rendering} {s : String}

theorem text (plain : PlainText s) : (text s).EscapesOnly :=
  .pure (List.forall_mem_singleton.mpr (Sql.EscapesOnly.of_not_mem plain))

/-- A literal text of the grammar itself. -/
theorem word {chars : List Char} (absent : '\\' ∉ chars) :
    (Rendering.text (String.ofList chars)).EscapesOnly :=
  text (.ofList absent)

theorem slot (value : Value) : (slot value).EscapesOnly :=
  .pure (List.forall_mem_singleton.mpr trivial)

theorem nothing : nothing.EscapesOnly :=
  .pure nofun

theorem throw (fault : Fault) : EscapesOnly (MonadExcept.throw fault) :=
  Render.Ensures.throw trivial

theorem event (e : Event) : (event e).EscapesOnly :=
  Render.Ensures.bind (P := fun _ => True) trivial fun _ _ => .pure nofun

theorem whole {pieces : List Piece} (each : ∀ piece ∈ pieces, piece.EscapesOnly) :
    EscapesOnly (pure [.whole (Sql.ofPieces pieces)]) :=
  .pure (List.forall_mem_singleton.mpr (Sql.escaped_ofPieces each))

theorem nil : (concat []).EscapesOnly :=
  nothing

theorem cons (first : r.EscapesOnly) (rest : (concat rs).EscapesOnly) :
    (concat (r :: rs)).EscapesOnly :=
  first.bind fun _ front => rest.bind fun _ back =>
    .pure (List.forall_mem_append.mpr ⟨front, back⟩)

theorem literal {chars : List Char} (absent : '\\' ∉ chars) (rest : (concat rs).EscapesOnly) :
    (concat (Rendering.text (String.ofList chars) :: rs)).EscapesOnly :=
  cons (word absent) rest

theorem last (only : r.EscapesOnly) : (concat [r]).EscapesOnly :=
  cons only nil

theorem concat (each : ∀ r ∈ rs, r.EscapesOnly) : (concat rs).EscapesOnly := by
  induction rs with
  | nil => exact nil
  | cons r rest ih =>
    have others := ih fun r member => each r (List.mem_cons_of_mem _ member)
    exact cons (each r List.mem_cons_self) others

theorem between {front back : String} (words : PlainText front ∧ PlainText back)
    (inside : r.EscapesOnly) : (between front back r).EscapesOnly :=
  cons (text words.1) (cons inside (last (text words.2)))

theorem parenthesized (inside : r.EscapesOnly) : (Rendering.between "(" ")" r).EscapesOnly :=
  between ⟨.ofList (by decide), .ofList (by decide)⟩ inside

theorem guarded {condition : Bool} (inside : r.EscapesOnly) :
    (guarded condition r).EscapesOnly := by
  unfold Rendering.guarded
  split
  · exact inside
  · exact nothing

theorem count {lead : List Char} (absent : '\\' ∉ lead) (n : UInt64) :
    (count (String.ofList lead) n).EscapesOnly :=
  literal absent (last (slot _))

theorem count? {lead : List Char} (absent : '\\' ∉ lead) (n : Option UInt64) :
    (count? (String.ofList lead) n).EscapesOnly := by
  cases n with
  | none => exact nothing
  | some n => exact count absent n

theorem top (n : UInt64) : (top n).EscapesOnly :=
  cons (count (by decide) n) (last (word (by decide)))

theorem separated {separator : List Char} (absent : '\\' ∉ separator)
    (each : ∀ r ∈ rs, r.EscapesOnly) :
    (separated (String.ofList separator) rs).EscapesOnly := by
  cases rs with
  | nil => exact nothing
  | cons first rest =>
    refine cons (each first List.mem_cons_self) (concat fun item member => ?_)
    obtain ⟨r, inRest, rfl⟩ := List.mem_map.mp member
    exact literal absent (last (each r (List.mem_cons_of_mem _ inRest)))

theorem commaSeparated (each : ∀ r ∈ rs, r.EscapesOnly) : (commaSeparated rs).EscapesOnly :=
  separated (by decide) each

theorem clause {lead : List Char} (absent : '\\' ∉ lead) (each : ∀ r ∈ rs, r.EscapesOnly) :
    (clause (String.ofList lead) rs).EscapesOnly := by
  unfold Rendering.clause
  split
  · exact nothing
  · exact literal absent (last (commaSeparated each))

end EscapesOnly

end Rendering

end PortableSql
