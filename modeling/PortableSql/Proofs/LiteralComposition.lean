import PortableSql.Proofs.LiteralAgreement

/-!
Literals of texts put together.

The scan that writes values into a text goes through the characters and the values side by side. A
text with one placeholder for each of its values uses up just these, so behind it the scan goes on
with the text and the values that follow, whatever it has written. Only an escape across the seam is
read differently: a backslash at the end and a question mark behind it (`Sql.literal_append_iff`).
-/

namespace PortableSql.Sql

variable {c : Char} {xs ys : List Char} {grammar : Grammar} {values others : List Value}

/-! ### The seam -/

/-- An escape stands across the seam of two texts. -/
def EscapesAcross (xs ys : List Char) : Prop :=
  xs.getLast? = some '\\' ∧ ys.head? = some '?'

instance (xs ys : List Char) : Decidable (EscapesAcross xs ys) :=
  inferInstanceAs (Decidable (_ ∧ _))

theorem EscapesAcross.cons (across : EscapesAcross xs ys) (c : Char) :
    EscapesAcross (c :: xs) ys := by
  obtain ⟨last, question⟩ := across
  refine ⟨?_, question⟩
  rw [List.getLast?_cons, last]
  rfl

/-! ### The scan across a seam -/

/-- A character that neither is a placeholder nor begins an escape stays. -/
theorem literalChars_cons (mark : c ≠ '?') (lone : c = '\\' → xs.head? ≠ some '?')
    (values : List Value) :
    literalChars grammar (c :: xs) values = c :: literalChars grammar xs values := by
  apply literalChars.eq_4
  · intro rest backslash question
    apply lone backslash
    rw [question]
    rfl
  · intro value others _ question
    exact mark question

/-- Behind a text with one placeholder for each value, the scan goes on with what follows. -/
theorem literalChars_append (agree : marks false xs = values.length)
    (apart : ¬EscapesAcross xs ys) :
    literalChars grammar (xs ++ ys) (values ++ others) =
      literalChars grammar xs values ++ literalChars grammar ys others := by
  -- The induction follows the scan of the first text: its four cases are the end of the text, an
  -- escape, a placeholder with a value, and any other character.
  fun_induction literalChars grammar xs values with
  | case1 values =>
    obtain rfl : values = [] := List.length_eq_zero_iff.mp agree.symm
    rfl
  | case2 rest values ih =>
    have tail : marks false rest = values.length := by
      simpa [marks] using agree
    have apart' : ¬EscapesAcross rest ys := by
      intro across
      exact apart ((across.cons '?').cons '\\')
    exact congrArg ('?' :: ·) (ih tail apart')
  | case3 rest value values ih =>
    have tail : marks false rest = values.length := by
      rw [marks, if_pos ⟨rfl, rfl⟩, List.length_cons, Nat.add_comm] at agree
      exact Nat.succ.inj agree
    have apart' : ¬EscapesAcross rest ys := by
      intro across
      exact apart (across.cons '?')
    change (value.literal grammar).toList ++
      literalChars grammar (rest ++ ys) (values ++ others) = _
    rw [ih tail apart', List.append_assoc]
  | case4 c rest values escaped filled ih =>
    obtain ⟨mark, lone, tail⟩ := kept_char agree escaped filled
    have apart' : ¬EscapesAcross rest ys := by
      intro across
      exact apart (across.cons c)
    -- A backslash that is last has the seam behind it.
    have lone' : c = '\\' → (rest ++ ys).head? ≠ some '?' := by
      rintro rfl
      cases rest with
      | nil =>
        intro question
        exact apart ⟨rfl, question⟩
      | cons d rest => exact lone rfl
    rw [List.cons_append, literalChars_cons mark lone', ih tail apart', List.cons_append]

/-- The scan reads an escape across the seam as one, which neither of the two texts has. -/
theorem literalChars_append_ne (agree : marks false xs = values.length)
    (across : EscapesAcross xs ys) :
    literalChars grammar (xs ++ ys) (values ++ others) ≠
      literalChars grammar xs values ++ literalChars grammar ys others := by
  obtain ⟨last, question⟩ := across
  obtain ⟨front, rfl⟩ := List.getLast?_eq_some_iff.mp last
  obtain ⟨back, rfl⟩ := List.head?_eq_some_iff.mp question
  have count : marks false front = values.length := by
    rw [← agree, marks_append]
    simp [marks]
  have apart (zs : List Char) : ¬EscapesAcross front ('\\' :: zs) := by
    intro seam
    cases seam.2
  have joined : literalChars grammar (front ++ '\\' :: '?' :: back) (values ++ others) =
      literalChars grammar front values ++ '?' :: literalChars grammar back others :=
    literalChars_append count (apart ('?' :: back))
  have alone : literalChars grammar (front ++ ['\\']) (values ++ []) =
      literalChars grammar front values ++ ['\\'] :=
    literalChars_append count (apart [])
  rw [List.append_nil] at alone
  rw [List.append_assoc, List.singleton_append, joined, alone, List.append_assoc]
  intro same
  cases List.append_cancel_left same

/-- The literal of a text with one placeholder for each value, and of a text behind it, is the
literal of the one and then the literal of the other, exactly if no escape stands across the
seam. -/
theorem literal_append_iff {a : Sql} (agree : placeholders a.text = a.bindings.length) (b : Sql)
    (grammar : Grammar) :
    (a.append b).literal grammar = a.literal grammar ++ b.literal grammar ↔
      ¬EscapesAcross a.text.toList b.text.toList := by
  have chars : (a.append b).literal grammar = a.literal grammar ++ b.literal grammar ↔
      literalChars grammar (a.text.toList ++ b.text.toList) (a.bindings ++ b.bindings) =
        literalChars grammar a.text.toList a.bindings ++
          literalChars grammar b.text.toList b.bindings := by
    simp only [literal, append, String.toList_append, ← String.ofList_append, String.ofList_inj]
  rw [chars]
  constructor
  · intro composed across
    exact literalChars_append_ne agree across composed
  · intro apart
    exact literalChars_append agree apart

/-- A value that looks like a placeholder, in front of a text whose first character is one. -/
theorem literal_append_marks :
    let a : Sql := ⟨"x = ? and y \\? ", [.text "it's \\?"]⟩
    let b : Sql := ⟨"?\\", [.int 1]⟩
    placeholders a.text = a.bindings.length ∧ ¬EscapesAcross a.text.toList b.text.toList ∧
      (a.append b).literal Dialect.generic.grammar = "x = 'it''s \\?' and y ? 1\\" := by
  intro a b
  have agree : placeholders a.text = a.bindings.length := by
    decide
  have apart : ¬EscapesAcross a.text.toList b.text.toList := by
    decide
  refine ⟨agree, apart, ?_⟩
  rw [(literal_append_iff agree b Dialect.generic.grammar).mpr apart]
  decide +kernel

end PortableSql.Sql
