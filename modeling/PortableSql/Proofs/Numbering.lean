import PortableSql.Proofs.Escapes
import PortableSql.Proofs.LiteralAgreement

/-!
Placeholders by number.

A statement inside a block names its placeholders by their numbers. `Sql.numberPlaceholders` says
what that is: the text is cut at its placeholders, and the name of the first stands behind the first
piece, the name of the second behind the second. The scan that numbers a text agrees with it
(`Sql.numbered_eq`), and the two parts of a text are numbered one after the other.
-/

namespace PortableSql.Sql

/-- Pieces of text, each behind the name of a number; the first is behind `start`. -/
def numberPieces (start : Nat) (pieces : List (List Char)) : List Char :=
  (pieces.zipIdx start).flatMap fun (piece, number) => ':' :: Nat.toDigits 10 number ++ piece

/-- A text with the names `:1`, `:2` and so on in the place of its placeholders. -/
def numberPlaceholders (text : String) : List Char :=
  let pieces := cut false text.toList
  pieces.first ++ numberPieces 1 pieces.others

/-- Characters with names in the place of the placeholders; `count` placeholders came before, and
`behind` says whether a backslash is in front. -/
def numberMarks (behind : Bool) (count : Nat) : List Char → List Char
  | [] => []
  | c :: rest =>
    if c = '?' ∧ behind = false then
      ':' :: Nat.toDigits 10 (count + 1) ++ numberMarks false (count + 1) rest
    else
      c :: numberMarks (c == '\\') count rest

theorem numberMarks_mark (count : Nat) (rest : List Char) :
    numberMarks false count ('?' :: rest) =
      ':' :: Nat.toDigits 10 (count + 1) ++ numberMarks false (count + 1) rest := rfl

theorem numberMarks_char {behind : Bool} {c : Char} (plain : ¬(c = '?' ∧ behind = false))
    (count : Nat) (rest : List Char) :
    numberMarks behind count (c :: rest) = c :: numberMarks (c == '\\') count rest := by
  rw [numberMarks, if_neg plain]

theorem numberMarks_eq_cut (behind : Bool) (count : Nat) (cs : List Char) :
    numberMarks behind count cs =
      (cut behind cs).first ++ numberPieces (count + 1) (cut behind cs).others := by
  induction cs generalizing behind count with
  | nil => rfl
  | cons c rest ih =>
    by_cases mark : c = '?' ∧ behind = false
    · obtain ⟨rfl, rfl⟩ := mark
      rw [numberMarks_mark, ih, cut_mark]
      simp [numberPieces]
    · rw [numberMarks_char mark, ih, cut_char mark, List.cons_append]

theorem numberPlaceholders_eq (text : String) :
    numberPlaceholders text = numberMarks false 0 text.toList :=
  (numberMarks_eq_cut false 0 text.toList).symm

/-- The two parts of a text are numbered one after the other. -/
theorem numberMarks_append (behind : Bool) (count : Nat) (xs ys : List Char) :
    numberMarks behind count (xs ++ ys) = numberMarks behind count xs ++
      numberMarks (endsBehind behind xs) (count + marks behind xs) ys := by
  induction xs generalizing behind count with
  | nil => rfl
  | cons c rest ih =>
    by_cases mark : c = '?' ∧ behind = false
    · obtain ⟨rfl, rfl⟩ := mark
      rw [List.cons_append, numberMarks_mark, ih, numberMarks_mark, marks, if_pos ⟨rfl, rfl⟩,
        endsBehind_cons, ← Nat.add_assoc]
      simp
    · rw [List.cons_append, numberMarks_char mark, ih, numberMarks_char mark, marks, if_neg mark,
        endsBehind_cons, Nat.zero_add, List.cons_append]

/-- Text without placeholders stays. -/
theorem numberMarks_eq_self {behind : Bool} {cs : List Char} (none : marks behind cs = 0)
    (count : Nat) : numberMarks behind count cs = cs := by
  induction cs generalizing behind with
  | nil => rfl
  | cons c rest ih =>
    rw [marks, Nat.add_eq_zero_iff] at none
    have plain : ¬(c = '?' ∧ behind = false) := fun mark => by simp [mark] at none
    rw [numberMarks_char plain, ih none.2]

/-- The scan passes an escaped question mark in one step and names every other one. -/
theorem numberedChars_eq (count : Nat) (cs : List Char) :
    numberedChars count cs = (numberMarks false count cs, count + marks false cs) := by
  fun_induction numberedChars count cs with
  | case1 count => rfl
  | case2 count rest chars total found ih =>
    rw [found, Prod.mk.injEq] at ih
    obtain ⟨rfl, rfl⟩ := ih
    simp [numberMarks, marks]
  | case3 count rest chars total found ih =>
    rw [found, Prod.mk.injEq] at ih
    obtain ⟨rfl, rfl⟩ := ih
    simp [numberMarks, marks, Nat.add_assoc]
  | case4 count c rest escaped marked chars total found ih =>
    rw [found, Prod.mk.injEq] at ih
    obtain ⟨rfl, rfl⟩ := ih
    have other : ¬(c = '?' ∧ false = false) := fun mark => marked mark.1
    -- A backslash here escapes nothing.
    have lone : c = '\\' → rest.head? ≠ some '?' := by
      rintro rfl front
      obtain ⟨more, rfl⟩ := List.head?_eq_some_iff.mp front
      exact escaped more rfl rfl
    have same : cut (c == '\\') rest = cut false rest := by
      by_cases backslash : c = '\\'
      · exact cut_behind _ (lone backslash)
      · rw [beq_false_of_ne backslash]
    rw [numberMarks_char other, marks, if_neg other, Nat.zero_add, numberMarks_eq_cut (c == '\\'),
      ← length_others_cut (c == '\\'), same, ← numberMarks_eq_cut, length_others_cut]

theorem numbered_eq (text : String) :
    numbered text = (String.ofList (numberPlaceholders text), placeholders text) := by
  rw [numbered, numberedChars_eq, numberPlaceholders_eq, placeholders, Nat.zero_add]

/-- A number is written in digits. -/
theorem plain_toDigits {c : Char} (other : c.isDigit = false) (n : Nat) :
    c ∉ Nat.toDigits 10 n := fun member =>
  absurd (Nat.isDigit_of_mem_toDigits (by decide) (by decide) member) (by simp [other])

/-- An integer is written in digits and a sign. -/
theorem plain_toString {c : Char} (other : c.isDigit = false) (sign : c ≠ '-') (n : Int) :
    c ∉ (toString n).toList := by
  have digits (m : Nat) : c ∉ (Nat.repr m).toList := by
    rw [Nat.repr, String.toList_ofList]
    exact plain_toDigits other m
  cases n with
  | ofNat m => exact digits m
  | negSucc m =>
    change c ∉ ("-" ++ Nat.repr (m + 1)).toList
    rw [String.toList_append, List.mem_append, not_or]
    exact ⟨fun member => sign (List.mem_singleton.mp member), digits (m + 1)⟩

theorem EscapesOnly.numberMarks {cs : List Char} (escapes : EscapesOnly cs) (behind : Bool)
    (count : Nat) : EscapesOnly (numberMarks behind count cs) := by
  induction cs generalizing behind count with
  | nil => trivial
  | cons c rest ih =>
    by_cases mark : c = '?' ∧ behind = false
    · obtain ⟨rfl, rfl⟩ := mark
      have plain : '\\' ∉ ':' :: Nat.toDigits 10 (count + 1) := by
        simp [plain_toDigits]
      rw [numberMarks_mark]
      exact (of_not_mem plain).append (ih escapes.2 false (count + 1))
    · rw [numberMarks_char mark]
      refine ⟨fun backslash => ?_, ih escapes.2 (c == '\\') count⟩
      obtain ⟨more, rfl⟩ := List.head?_eq_some_iff.mp (escapes.1 backslash)
      simp [Sql.numberMarks, backslash]

/-- Where backslashes only escape, numbering leaves no question mark to escape. -/
theorem escapeMarks_numberMarks {behind : Bool} {cs : List Char} (escapes : EscapesOnly cs)
    (opened : behind = true → cs.head? = some '?') (count : Nat) :
    escapeMarks behind (numberMarks behind count cs) = numberMarks behind count cs := by
  induction cs generalizing behind count with
  | nil => rfl
  | cons c rest ih =>
    by_cases mark : c = '?' ∧ behind = false
    · obtain ⟨rfl, rfl⟩ := mark
      have plain : '?' ∉ ':' :: Nat.toDigits 10 (count + 1) ∧
          '\\' ∉ ':' :: Nat.toDigits 10 (count + 1) := by
        simp [plain_toDigits]
      rw [numberMarks_mark, escapeMarks_append_left plain, @ih false escapes.2 nofun]
    · have state : (c == '\\' && !behind) = (c == '\\') := by
        cases behind with
        | false => simp
        | true =>
          obtain rfl : c = '?' := by simpa using opened rfl
          rfl
      rw [numberMarks_char mark, escapeMarks, if_neg mark, state,
        ih escapes.2 (fun backslash => escapes.1 (by simpa using backslash))]

end PortableSql.Sql
