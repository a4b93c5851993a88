import PortableSql.Identifier

/-!
The parts of a name in the name.

Taking a name apart takes nothing but white space, and the keyword in front of an alias, out of it.
So a name with an alias is its expression, a joint and its alias between white space, and any other
name is its expression between white space (`Identifier.Divides.parts`).
-/

namespace PortableSql

/-! ### White space -/

/-- White space alone, or nothing. -/
def Text.Blank (cs : List Char) : Prop :=
  ∀ c ∈ cs, isBlank c = true

namespace Text

theorem Blank.cons {c : Char} {cs : List Char} (first : isBlank c = true) (rest : Blank cs) :
    Blank (c :: cs) :=
  List.forall_mem_cons.mpr ⟨first, rest⟩

theorem exists_trimStartChars (cs : List Char) :
    ∃ front, cs = front ++ trimStartChars cs ∧ Blank front :=
  ⟨cs.takeWhile isBlank, List.takeWhile_append_dropWhile.symm, fun _ member =>
    List.all_eq_true.mp List.all_takeWhile _ member⟩

theorem exists_trimChars (cs : List Char) :
    ∃ front back, cs = front ++ (trimChars cs ++ back) ∧ Blank front ∧ Blank back := by
  obtain ⟨front, whole, blank⟩ := exists_trimStartChars cs
  obtain ⟨back, inner, blank'⟩ := exists_trimStartChars (trimStartChars cs).reverse
  refine ⟨front, back.reverse, ?_, blank, fun c member => blank' c (List.mem_reverse.mp member)⟩
  have reversed := congrArg List.reverse inner
  rw [List.reverse_reverse, List.reverse_append] at reversed
  rw [trimChars, ← reversed]
  exact whole

end Text

namespace Identifier

open Text (Blank)

/-! ### Names with an alias -/

/-- The letters of the keyword. -/
def Keyword (a s : Char) : Prop :=
  (a = 'a' ∨ a = 'A') ∧ isKeywordS s = true

/-- White space, at least one character of it. -/
def Gap (cs : List Char) : Prop :=
  cs ≠ [] ∧ Blank cs

/-- The keyword between an expression and its alias, with the white space around it. -/
inductive Joint : List Char → Prop where
  | intro {front back : List Char} {a s : Char} (keyword : Keyword a s) (ahead : Gap front)
      (behind : Gap back) : Joint (front ++ a :: s :: back)

theorem exists_of_aliasText? {read cs text : List Char} (found : aliasText? read cs = some text) :
    ∃ back, read.reverse ++ cs = text ++ back ∧ Blank back := by
  fun_induction aliasText? read cs with
  | case1 => cases found
  | case2 => cases found
  | case3 read c rest _ blank =>
    cases found
    exact ⟨rest, by simp, List.all_eq_true.mp blank⟩
  | case4 read c rest _ _ ih =>
    obtain ⟨back, whole, blank⟩ := ih found
    exact ⟨back, by simpa using whole, blank⟩

theorem exists_of_afterKeyword? {cs text : List Char} (found : afterKeyword? cs = some text) :
    ∃ gap back, cs = gap ++ (text ++ back) ∧ Gap gap ∧ Blank back := by
  induction cs with
  | nil => cases found
  | cons c rest ih =>
    rw [afterKeyword?] at found
    split at found
    · rename_i blank
      rw [Option.orElse_eq_orElse, Option.orElse_eq_or, Option.or_eq_some_iff] at found
      rcases found with later | ⟨-, here⟩
      · obtain ⟨gap, back, rfl, inner, last⟩ := ih later
        exact ⟨c :: gap, back, rfl, ⟨List.cons_ne_nil _ _, .cons blank inner.2⟩, last⟩
      · obtain ⟨back, whole, last⟩ := exists_of_aliasText? here
        exact ⟨[c], back, congrArg (c :: ·) whole, ⟨List.cons_ne_nil _ _, .cons blank nofun⟩, last⟩
    · cases found

theorem exists_of_keyword? {cs text : List Char} (found : keyword? cs = some text) :
    ∃ a s gap back, cs = a :: s :: (gap ++ (text ++ back)) ∧ Keyword a s ∧ Gap gap ∧
      Blank back := by
  unfold keyword? at found
  split at found
  · rename_i a s rest
    split at found
    · rename_i letters
      obtain ⟨gap, back, rfl, inner, last⟩ := exists_of_afterKeyword? found
      obtain ⟨first, second⟩ := Bool.and_eq_true_iff.mp letters
      exact ⟨a, s, gap, back, rfl, ⟨by simpa using first, second⟩, inner, last⟩
    · cases found
  · cases found

theorem exists_of_beforeKeyword? {cs text : List Char} (found : beforeKeyword? cs = some text) :
    ∃ joint back, cs = joint ++ (text ++ back) ∧ Joint joint ∧ Blank back := by
  induction cs with
  | nil => cases found
  | cons c rest ih =>
    rw [beforeKeyword?] at found
    split at found
    · rename_i blank
      rw [Option.orElse_eq_orElse, Option.orElse_eq_or, Option.or_eq_some_iff] at found
      rcases found with later | ⟨-, here⟩
      · obtain ⟨_, back, rfl, ⟨keyword, ahead, behind⟩, last⟩ := ih later
        have longer : Gap (c :: _) := ⟨List.cons_ne_nil _ _, .cons blank ahead.2⟩
        exact ⟨_, back, rfl, .intro keyword longer behind, last⟩
      · obtain ⟨a, s, gap, back, rfl, keyword, behind, last⟩ := exists_of_keyword? here
        have alone : Gap [c] := ⟨List.cons_ne_nil _ _, .cons blank nofun⟩
        exact ⟨[c] ++ a :: s :: gap, back, by simp, .intro keyword alone behind, last⟩
    · cases found

theorem exists_of_aliased? {read cs expr text : List Char}
    (found : aliased? read cs = some (expr, text)) :
    ∃ joint back, read.reverse ++ cs = expr ++ (joint ++ (text ++ back)) ∧ Joint joint ∧
      Blank back := by
  fun_induction aliased? read cs with
  | case1 => cases found
  | case2 => cases found
  | case3 read c rest _ name before =>
    cases found
    obtain ⟨joint, back, rfl, joins, last⟩ := exists_of_beforeKeyword? before
    exact ⟨joint, back, by simp, joins, last⟩
  | case4 read c rest _ _ ih =>
    obtain ⟨joint, back, whole, joins, last⟩ := ih found
    exact ⟨joint, back, by simpa using whole, joins, last⟩

theorem exists_of_aliasParts? {cs expr text : List Char}
    (found : aliasParts? cs = some (expr, text)) :
    ∃ front joint back, cs = front ++ (expr ++ (joint ++ (text ++ back))) ∧ Blank front ∧
      Joint joint ∧ Blank back := by
  induction cs with
  | nil => cases found
  | cons c rest ih =>
    rw [aliasParts?] at found
    split at found
    · rename_i blank
      rw [Option.orElse_eq_orElse, Option.orElse_eq_or, Option.or_eq_some_iff] at found
      rcases found with later | ⟨-, here⟩
      · obtain ⟨front, joint, back, rfl, ahead, joins, last⟩ := ih later
        exact ⟨c :: front, joint, back, rfl, .cons blank ahead, joins, last⟩
      · obtain ⟨joint, back, whole, joins, last⟩ := exists_of_aliased? here
        exact ⟨[], joint, back, whole, nofun, joins, last⟩
    · obtain ⟨joint, back, whole, joins, last⟩ := exists_of_aliased? found
      exact ⟨[], joint, back, whole, nofun, joins, last⟩

/-! ### Names -/

/-- A name is what its parts are with white space around them, and a joint in front of the alias. -/
inductive Divides (name : List Char) : List Char × Option (List Char) → Prop where
  | plain {front expr back : List Char} (whole : name = front ++ (expr ++ back))
      (ahead : Blank front) (last : Blank back) : Divides name (expr, none)
  | aliased {front expr joint text back : List Char}
      (whole : name = front ++ (expr ++ (joint ++ (text ++ back)))) (ahead : Blank front)
      (joins : Joint joint) (last : Blank back) : Divides name (expr, some text)

theorem Divides.parts (name : String) :
    Divides name.toList ((parts name).1.toList, (parts name).2.map String.toList) := by
  unfold Identifier.parts
  split
  · rename_i expr text found
    obtain ⟨front, joint, back, whole, ahead, joins, last⟩ := exists_of_aliasParts? found
    rw [String.toList_ofList, Option.map_some, String.toList_ofList]
    exact .aliased whole ahead joins last
  · obtain ⟨front, back, whole, ahead, last⟩ := Text.exists_trimChars name.toList
    rw [Text.trim, String.toList_ofList]
    exact .plain whole ahead last

end Identifier

end PortableSql
