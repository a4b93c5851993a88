import PortableSql.Proofs.Placeholders

/-!
Text that is pushed to a buffer.

Pushing counts backslashes in pairs, from one look at the end of the buffer, and puts one in front
of each question mark that no open backslash escapes. A placeholder is told by the character in
front of it alone. An open backslash is directly in front of what it escapes, so both agree: a
buffer has the same placeholders after a push as before, at the same positions
(`Sql.slots_addText`).
-/

namespace PortableSql.Sql

/-! ### Positions of placeholders -/

/-- A placeholder stands at a position; `behind` says whether a backslash is in front of the
text. -/
def SlotAt (behind : Bool) (cs : List Char) (i : Nat) : Prop :=
  cs[i]? = some '?' ∧ endsBehind behind (cs.take i) = false

variable {behind escaped : Bool} {c : Char} {cs xs ys : List Char} {i start : Nat}

theorem not_slotAt_nil : ¬SlotAt behind [] i := by
  simp [SlotAt]

theorem slotAt_zero : SlotAt behind (c :: cs) 0 ↔ c = '?' ∧ behind = false := by
  simp [SlotAt]

theorem slotAt_succ : SlotAt behind (c :: cs) (i + 1) ↔ SlotAt (c == '\\') cs i := by
  simp [SlotAt]

/-- The placeholders of two texts are those of the first, and those of the second behind it. -/
theorem slotAt_append : SlotAt behind (xs ++ ys) i ↔
    SlotAt behind xs i ∨ ∃ j, i = xs.length + j ∧ SlotAt (endsBehind behind xs) ys j := by
  induction xs generalizing behind i with
  | nil => simp [not_slotAt_nil]
  | cons c xs ih =>
    cases i with
    | zero =>
      simp only [List.cons_append, slotAt_zero, List.length_cons]
      constructor
      · intro own
        exact .inl own
      · rintro (own | ⟨j, none, -⟩)
        · exact own
        · omega
    | succ i =>
      rw [List.cons_append, slotAt_succ, slotAt_succ, ih, endsBehind_cons]
      have shift (j : Nat) : i = xs.length + j ↔ i + 1 = (c :: xs).length + j := by
        rw [List.length_cons]
        omega
      simp only [shift]

/-- A text without placeholders has none at any position. -/
theorem not_slotAt_of_marks (none : marks behind cs = 0) (i : Nat) : ¬SlotAt behind cs i := by
  induction cs generalizing behind i with
  | nil => exact not_slotAt_nil
  | cons c cs ih =>
    rw [marks, Nat.add_eq_zero_iff] at none
    obtain ⟨own, others⟩ := none
    cases i with
    | zero =>
      rw [slotAt_zero]
      intro mark
      rw [if_pos mark] at own
      cases own
    | succ i =>
      rw [slotAt_succ]
      exact ih others i

/-! ### Backslashes that are put in -/

/-- The positions of the backslashes that `escapeMarks` puts into a text that begins at `start`. -/
def escapesAt (escaped : Bool) (start : Nat) : List Char → List Nat
  | [] => []
  | c :: rest =>
    if c = '?' ∧ escaped = false then
      start :: escapesAt false (start + 2) rest
    else
      escapesAt (c == '\\' && !escaped) (start + 1) rest

/-- A text that begins at `start`, without the characters at some positions. -/
def without (positions : List Nat) (start : Nat) : List Char → List Char
  | [] => []
  | c :: rest =>
    if start ∈ positions then without positions (start + 1) rest
    else c :: without positions (start + 1) rest

variable {positions : List Nat} {p : Nat}

/-- Positions behind a text take nothing from it. -/
theorem without_append (outside : ∀ p ∈ positions, start + xs.length ≤ p) :
    without positions start (xs ++ ys) = xs ++ without positions (start + xs.length) ys := by
  induction xs generalizing start with
  | nil => rfl
  | cons c xs ih =>
    have here : start ∉ positions := by
      intro member
      have far := outside start member
      rw [List.length_cons] at far
      omega
    have later : start + 1 + xs.length = start + (c :: xs).length := by
      rw [List.length_cons]
      omega
    rw [List.cons_append, without, if_neg here, ih (later ▸ outside), later]
    rfl

/-- A position in front of a text takes nothing from it. -/
theorem without_of_lt (front : p < start) :
    without (p :: positions) start cs = without positions start cs := by
  induction cs generalizing start with
  | nil => rfl
  | cons c cs ih =>
    have other : start ≠ p := by
      omega
    simp only [without, List.mem_cons, other, false_or, ih (Nat.lt_succ_of_lt front)]

theorem le_of_mem_escapesAt (member : p ∈ escapesAt escaped start cs) : start ≤ p := by
  induction cs generalizing escaped start with
  | nil => cases member
  | cons c cs ih =>
    rw [escapesAt] at member
    split at member
    · rcases List.mem_cons.mp member with rfl | later
      · exact Nat.le_refl p
      · have := ih later
        omega
    · have := ih member
      omega

/-- Without the backslashes that were put in, a text is what it was. -/
theorem without_escapesAt (escaped : Bool) (start : Nat) (cs : List Char) :
    without (escapesAt escaped start cs) start (escapeMarks escaped cs) = cs := by
  induction cs generalizing escaped start with
  | nil => rfl
  | cons c cs ih =>
    by_cases mark : c = '?' ∧ escaped = false
    · -- The backslash goes, and the question mark behind it stays.
      have next : start + 1 ∉ escapesAt false (start + 2) cs := by
        intro member
        have := le_of_mem_escapesAt member
        omega
      rw [escapesAt, if_pos mark, escapeMarks, if_pos mark, without, if_pos List.mem_cons_self,
        without_of_lt (Nat.lt_succ_self start), without, if_neg next, ih, mark.1]
    · have here : start ∉ escapesAt (c == '\\' && !escaped) (start + 1) cs := by
        intro member
        have := le_of_mem_escapesAt member
        omega
      rw [escapesAt, if_neg mark, escapeMarks, if_neg mark, without, if_neg here, ih]

/-- What is put in is a backslash directly in front of a question mark. -/
theorem getElem?_of_mem_escapesAt (member : p ∈ escapesAt escaped start cs) :
    ∃ j, p = start + j ∧ (escapeMarks escaped cs)[j]? = some '\\' ∧
      (escapeMarks escaped cs)[j + 1]? = some '?' := by
  induction cs generalizing escaped start with
  | nil => cases member
  | cons c cs ih =>
    by_cases mark : c = '?' ∧ escaped = false
    · rw [escapesAt, if_pos mark] at member
      rw [escapeMarks, if_pos mark]
      rcases List.mem_cons.mp member with rfl | later
      · exact ⟨0, rfl, rfl, rfl⟩
      · obtain ⟨j, rfl, backslash, question⟩ := ih later
        exact ⟨j + 2, by omega, backslash, question⟩
    · rw [escapesAt, if_neg mark] at member
      rw [escapeMarks, if_neg mark]
      obtain ⟨j, rfl, backslash, question⟩ := ih member
      exact ⟨j + 1, by omega, backslash, question⟩

/-! ### Pushed text -/

/-- Pushed text keeps what a buffer holds and the positions of its placeholders, and adds none. It
puts backslashes in front of question marks of the text; without these the buffer is what it was
with the text behind it. -/
theorem slots_addText (sql : Sql) (s : String) :
    let before := sql.text.toList
    let after := (sql.addText s).text.toList
    (sql.addText s).bindings = sql.bindings ∧ before <+: after ∧
    (∀ i, SlotAt false after i ↔ SlotAt false before i) ∧
    ∃ added : List Nat,
      (∀ p ∈ added, before.length ≤ p ∧ after[p]? = some '\\' ∧ after[p + 1]? = some '?') ∧
      without added 0 after = before ++ s.toList := by
  intro before after
  let escaped := endsBehind false before
  have whole : after = before ++ escapeMarks escaped s.toList := appendEscaped_toList sql.text s
  refine ⟨rfl, ⟨_, whole.symm⟩, fun i => ?_, escapesAt escaped before.length s.toList, ?_, ?_⟩
  · -- The state of the push is exact where the buffer ends, so no question mark of the text counts.
    have none := marks_escapeMarks (fun opened : escaped = true => opened) s.toList
    rw [whole, slotAt_append]
    constructor
    · rintro (own | ⟨j, -, pushed⟩)
      · exact own
      · exact absurd pushed (not_slotAt_of_marks none j)
    · intro own
      exact .inl own
  · intro p member
    obtain ⟨j, rfl, backslash, question⟩ := getElem?_of_mem_escapesAt member
    refine ⟨Nat.le_add_right _ _, ?_, ?_⟩
    · rw [whole, List.getElem?_append_right (Nat.le_add_right _ _), Nat.add_sub_cancel_left]
      exact backslash
    · rw [whole, Nat.add_assoc, List.getElem?_append_right (Nat.le_add_right _ _),
        Nat.add_sub_cancel_left]
      exact question
  · have outside : ∀ p ∈ escapesAt escaped before.length s.toList, 0 + before.length ≤ p := by
      intro p member
      rw [Nat.zero_add]
      exact le_of_mem_escapesAt member
    rw [whole, without_append outside, Nat.zero_add, without_escapesAt]

/-- Behind three backslashes the first question mark is escaped already, and the last one is not. -/
example : ((⟨"a\\\\\\", []⟩ : Sql).addText "?\\\\?").text = "a\\\\\\?\\\\\\?" := by
  decide

end PortableSql.Sql
