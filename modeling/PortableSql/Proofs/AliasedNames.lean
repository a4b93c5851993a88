import PortableSql.Proofs.NameParts
import PortableSql.Proofs.OperatorDispatch

/-!
Aliases in any spelling.

A name that is spelled as an expression, the keyword and an alias, with whatever white space around
each of them, is taken apart at that keyword: the search goes from the left, and the expression has
no keyword of its own behind its first word (`Identifier.render_aliased`).
-/

namespace PortableSql

/-! ### Words between white space -/

namespace Text

/-- White space inside of a text is between its words. -/
theorem wordsOf_append_cons {c : Char} (white : isBlank c = true) (xs ys : List Char) :
    wordsOf (xs ++ c :: ys) = wordsOf xs ++ wordsOf ys := by
  match xs with
  | [] =>
    rw [List.nil_append, wordsOf_cons, if_pos white]
    rfl
  | d :: xs =>
    by_cases blank : isBlank d = true
    · rw [List.cons_append, wordsOf_cons, if_pos blank, wordsOf_append_cons white xs ys,
        wordsOf_cons, if_pos blank]
    · -- The first word is read as a whole, and what is behind it is shorter.
      let word := (d :: xs).takeWhile fun e => !isBlank e
      let rest := (d :: xs).dropWhile fun e => !isBlank e
      have whole : d :: xs = word ++ rest := List.takeWhile_append_dropWhile.symm
      have first : word = d :: xs.takeWhile fun e => !isBlank e :=
        List.takeWhile_cons_of_pos (by simpa using blank)
      have solid : Solid word := by
        refine ⟨first ▸ List.cons_ne_nil _ _, fun e member => ?_⟩
        simpa using List.all_eq_true.mp List.all_takeWhile e member
      have apart : ∀ e ∈ rest.head?, isBlank e = true := by
        intro e member
        have head := List.head?_dropWhile_not (fun e => !isBlank e) (d :: xs)
        rw [member] at head
        simpa using head
      have apart' : ∀ e ∈ (rest ++ c :: ys).head?, isBlank e = true := by
        intro e member
        cases found : rest with
        | nil =>
          rw [found] at member
          obtain rfl : c = e := Option.some.inj member
          exact white
        | cons f fs =>
          rw [found] at member
          exact apart e (found ▸ member)
      have shorter : rest.length < (d :: xs).length := by
        rw [whole, List.length_append, first, List.length_cons]
        omega
      rw [whole, List.append_assoc, wordsOf_append solid apart', wordsOf_append solid apart,
        wordsOf_append_cons white rest ys]
      rfl
termination_by xs.length
decreasing_by
  · exact Nat.lt_succ_self _
  · exact shorter

theorem wordsOf_ne_nil {c : Char} (dark : isBlank c = false) (cs : List Char) :
    wordsOf (c :: cs) ≠ [] := by
  rw [wordsOf_cons, if_neg (Bool.eq_false_iff.mp dark)]
  split
  · split <;> exact List.cons_ne_nil _ _
  · exact List.cons_ne_nil _ _

end Text

namespace Identifier

open Text (Blank)

instance : DecidablePred Blank := fun cs =>
  decidable_of_iff (cs.all Text.isBlank = true) List.all_eq_true

instance : DecidablePred Gap := fun cs =>
  inferInstanceAs (Decidable (cs ≠ [] ∧ Blank cs))

instance (a s : Char) : Decidable (Keyword a s) :=
  inferInstanceAs (Decidable ((a = 'a' ∨ a = 'A') ∧ isKeywordS s = true))

/-! ### The keyword -/

/-- A word that is the keyword in any letter case. -/
def IsKeyword (word : List Char) : Prop :=
  ∃ a s, word = [a, s] ∧ Keyword a s

theorem isKeyword_pair {a s : Char} : IsKeyword [a, s] ↔ Keyword a s := by
  constructor
  · rintro ⟨_, _, ⟨⟩, keyword⟩
    exact keyword
  · exact fun keyword => ⟨a, s, rfl, keyword⟩

instance : DecidablePred IsKeyword := fun word =>
  match word with
  | [_, _] => decidable_of_iff _ isKeyword_pair.symm
  | [] | [_] | _ :: _ :: _ :: _ => isFalse (by rintro ⟨_, _, ⟨⟩, _⟩)

theorem Keyword.dark {a s : Char} (keyword : Keyword a s) :
    Text.isBlank a = false ∧ Text.isBlank s = false := by
  obtain ⟨first, second⟩ := keyword
  constructor
  · rcases first with rfl | rfl <;> decide
  · rw [isKeywordS, Bool.or_eq_true, Bool.or_eq_true, beq_iff_eq, beq_iff_eq, beq_iff_eq] at second
    rcases second with (rfl | rfl) | rfl <;> decide

theorem Keyword.ne_dot {a s : Char} (keyword : Keyword a s) : a ≠ '.' ∧ s ≠ '.' := by
  obtain ⟨first, second⟩ := keyword
  constructor
  · rcases first with rfl | rfl <;> decide
  · rintro rfl
    revert second
    decide

theorem Keyword.solid {a s : Char} (keyword : Keyword a s) : Text.Solid [a, s] := by
  obtain ⟨first, second⟩ := keyword.dark
  refine ⟨List.cons_ne_nil _ _, ?_⟩
  simp [first, second]

/-! ### Texts without white space at their ends -/

/-- What the first character of a text is, that of a front of it is. -/
theorem forall_head?_of_append {P : Char → Prop} {front back : List Char}
    (whole : ∀ c ∈ (front ++ back).head?, P c) : ∀ c ∈ front.head?, P c := by
  intro c first
  refine whole c ?_
  rw [List.head?_append, Option.mem_def.mp first]
  rfl

theorem not_blank_of_getLast? {cs : List Char} (nonempty : cs ≠ [])
    (last : ∀ c ∈ cs.getLast?, Text.isBlank c = false) : ¬Blank cs := by
  intro blank
  have dark := last _ (List.getLast?_eq_some_getLast nonempty)
  rw [blank _ (List.getLast_mem nonempty)] at dark
  cases dark

/-- A text of one line, with something other than white space at both ends. -/
structure Tight (cs : List Char) : Prop where
  nonempty : cs ≠ []
  line : '\n' ∉ cs
  first : ∀ c ∈ cs.head?, Text.isBlank c = false
  last : ∀ c ∈ cs.getLast?, Text.isBlank c = false

theorem tight_iff {cs : List Char} :
    Tight cs ↔ cs ≠ [] ∧ '\n' ∉ cs ∧ cs.head?.all (!Text.isBlank ·) = true ∧
      cs.getLast?.all (!Text.isBlank ·) = true := by
  have dark (c? : Option Char) :
      c?.all (!Text.isBlank ·) = true ↔ ∀ c ∈ c?, Text.isBlank c = false := by
    simp [Option.all_eq_true]
  rw [dark, dark]
  exact ⟨fun ⟨nonempty, line, first, last⟩ => ⟨nonempty, line, first, last⟩,
    fun ⟨nonempty, line, first, last⟩ => ⟨nonempty, line, first, last⟩⟩

instance : DecidablePred Tight := fun _ => decidable_of_iff _ tight_iff.symm

/-- Behind its first word a text does not hold the keyword. -/
def KeywordFree (cs : List Char) : Prop :=
  ∀ word ∈ (Text.wordsOf cs).tail, ¬IsKeyword word

instance : DecidablePred KeywordFree := fun cs =>
  inferInstanceAs (Decidable (∀ word ∈ (Text.wordsOf cs).tail, ¬IsKeyword word))

/-- The keyword between white space is a word, and not the first one. -/
theorem not_keywordFree_append {front gap back : List Char} {a s : Char}
    (begun : ∀ c ∈ front.head?, Text.isBlank c = false) (nonempty : front ≠ []) (white : Gap gap)
    (keyword : Keyword a s) (ends : ∀ c ∈ back.head?, Text.isBlank c = true) :
    ¬KeywordFree (front ++ (gap ++ a :: s :: back)) := by
  obtain ⟨c, gap, rfl⟩ := List.exists_cons_of_ne_nil white.1
  obtain ⟨blank, others⟩ := List.forall_mem_cons.mp white.2
  have later : Text.wordsOf (gap ++ a :: s :: back) = [a, s] :: Text.wordsOf back := by
    rw [Text.wordsOf_append_of_blank others]
    exact Text.wordsOf_append keyword.solid ends
  obtain ⟨d, front, rfl⟩ := List.exists_cons_of_ne_nil nonempty
  obtain ⟨first, more, words⟩ :=
    List.exists_cons_of_ne_nil (Text.wordsOf_ne_nil (begun d rfl) front)
  have whole : Text.wordsOf ((d :: front) ++ (c :: gap ++ a :: s :: back)) =
      first :: (more ++ [a, s] :: Text.wordsOf back) := by
    rw [List.cons_append (a := c), Text.wordsOf_append_cons blank, later, words, List.cons_append]
  intro free
  refine free [a, s] ?_ (isKeyword_pair.mpr keyword)
  rw [whole]
  exact List.mem_append_right more List.mem_cons_self

/-! ### The alias that is found -/

theorem beforeKeyword?_of_dark {cs : List Char} (first : ∀ c ∈ cs.head?, Text.isBlank c = false) :
    beforeKeyword? cs = none := by
  cases cs with
  | nil => rfl
  | cons c cs => rw [beforeKeyword?, if_neg (Bool.eq_false_iff.mp (first c rfl))]

theorem aliasParts?_of_dark {cs : List Char} (first : ∀ c ∈ cs.head?, Text.isBlank c = false) :
    aliasParts? cs = aliased? [] cs := by
  cases cs with
  | nil => rfl
  | cons c cs => rw [aliasParts?, if_neg (Bool.eq_false_iff.mp (first c rfl))]

variable {expr ahead behind text back : List Char} {a s : Char}

/-- Nothing shorter than the alias has only white space behind it. -/
theorem aliasText?_append (read : List Char) (nonempty : text ≠ []) (line : '\n' ∉ text)
    (last : ∀ c ∈ text.getLast?, Text.isBlank c = false) (blank : Blank back) :
    aliasText? read (text ++ back) = some (read.reverse ++ text) := by
  induction text generalizing read with
  | nil => exact absurd rfl nonempty
  | cons c text ih =>
    obtain ⟨here, later⟩ := List.ne_and_not_mem_of_not_mem_cons line
    rw [List.cons_append, aliasText?, if_neg (Ne.symm here)]
    by_cases more : text = []
    · subst more
      rw [List.nil_append, if_pos (List.all_eq_true.mpr blank), List.reverse_cons]
    · rw [List.getLast?_cons_of_ne_nil more] at last
      have visible : ¬(text ++ back).all Text.isBlank = true := by
        intro white
        refine not_blank_of_getLast? more last fun d member => ?_
        exact List.all_eq_true.mp white d (List.mem_append_left back member)
      rw [if_neg visible, ih _ more later last, List.reverse_cons, List.append_assoc]
      rfl

theorem afterKeyword?_append (white : Gap behind) (tight : Tight text) (blank : Blank back) :
    afterKeyword? (behind ++ (text ++ back)) = some text := by
  obtain ⟨nonempty, white⟩ := white
  induction behind with
  | nil => exact absurd rfl nonempty
  | cons c behind ih =>
    obtain ⟨first, others⟩ := List.forall_mem_cons.mp white
    rw [List.cons_append, afterKeyword?, if_pos first]
    by_cases more : behind = []
    · subst more
      obtain ⟨d, text, rfl⟩ := List.exists_cons_of_ne_nil tight.nonempty
      have dark : Text.isBlank d = false := tight.first d rfl
      have stops : afterKeyword? (d :: text ++ back) = none := by
        rw [List.cons_append, afterKeyword?, if_neg (Bool.eq_false_iff.mp dark)]
      rw [List.nil_append, stops]
      exact aliasText?_append [] tight.nonempty tight.line tight.last blank
    · rw [ih more others]
      rfl

theorem beforeKeyword?_append (white : Gap ahead) (keyword : Keyword a s) (white' : Gap behind)
    (tight : Tight text) (blank : Blank back) :
    beforeKeyword? (ahead ++ a :: s :: (behind ++ (text ++ back))) = some text := by
  obtain ⟨nonempty, white⟩ := white
  induction ahead with
  | nil => exact absurd rfl nonempty
  | cons c ahead ih =>
    obtain ⟨first, others⟩ := List.forall_mem_cons.mp white
    rw [List.cons_append, beforeKeyword?, if_pos first]
    by_cases more : ahead = []
    · subst more
      have stops : beforeKeyword? (a :: s :: (behind ++ (text ++ back))) = none := by
        refine beforeKeyword?_of_dark ?_
        rintro c ⟨⟩
        exact keyword.dark.1
      have letters : ((a == 'a' || a == 'A') && isKeywordS s) = true := by
        simpa [Keyword] using keyword
      rw [List.nil_append, stops]
      show keyword? (a :: s :: (behind ++ (text ++ back))) = some text
      rw [keyword?, if_pos letters]
      exact afterKeyword?_append white' tight blank
    · rw [ih more others]
      rfl

/-! ### The expression that is found -/

/-- In front of the rest of a keyword free text no keyword is found, unless it is behind that rest:
it would be one of the words of the text. White space or a dot ends the text. -/
theorem beforeKeyword?_eq_none {front rest tail : List Char} (free : KeywordFree (front ++ rest))
    (begun : ∀ c ∈ front.head?, Text.isBlank c = false) (nonempty : front ≠ [])
    (apart : ∀ c ∈ tail.head?, Text.isBlank c = true ∨ c = '.')
    (visible : Blank rest → tail.head? = some '.') : beforeKeyword? (rest ++ tail) = none := by
  refine Option.eq_none_iff_forall_ne_some.mpr fun name found => ?_
  obtain ⟨_, back, whole, ⟨keyword, white, behind⟩, -⟩ := exists_of_beforeKeyword? found
  rename_i gap gap' a s
  have letters := keyword.ne_dot
  rw [List.append_assoc, List.append_eq_append_iff] at whole
  rcases whole with ⟨others, rfl, rest⟩ | ⟨word, rfl, rest⟩
  · have dot := visible fun c member => white.2 c (List.mem_append_left others member)
    cases others with
    | nil => exact letters.1 (by simpa [rest] using dot)
    | cons b others =>
      obtain rfl : b = '.' := by simpa [rest] using dot
      have blank := white.2 '.' (List.mem_append_right _ List.mem_cons_self)
      revert blank
      decide
  · match word with
    | [] =>
      have dot := visible (by simpa using white.2)
      rw [List.nil_append] at rest
      rw [← rest] at dot
      exact letters.1 (Option.some.inj dot)
    | [b] =>
      -- The second letter would be the first character behind the text.
      simp only [List.cons_append, List.nil_append, List.cons.injEq] at rest
      rcases apart s (by rw [← rest.2]; rfl) with blank | dot
      · rw [keyword.dark.2] at blank
        cases blank
      · exact letters.2 dot
    | b :: d :: later =>
      simp only [List.cons_append, List.cons.injEq] at rest
      obtain ⟨rfl, rfl, rest⟩ := rest
      refine not_keywordFree_append begun nonempty white keyword ?_ free
      intro c first
      obtain ⟨e, gap', rfl⟩ := List.exists_cons_of_ne_nil behind.1
      cases later with
      | nil => cases first
      | cons f later =>
        obtain rfl : f = c := Option.some.inj first
        simp only [List.cons_append, List.cons.injEq] at rest
        exact rest.1 ▸ behind.2 e List.mem_cons_self

/-- The expression and the alias behind what was read of the expression so far. -/
theorem aliased?_append (read : List Char) {rest : List Char} (more : rest ≠ [])
    (tight : Tight (read.reverse ++ rest)) (free : KeywordFree (read.reverse ++ rest))
    (white : Gap ahead) (keyword : Keyword a s) (white' : Gap behind) (tight' : Tight text)
    (blank : Blank back) :
    aliased? read (rest ++ (ahead ++ a :: s :: (behind ++ (text ++ back)))) =
      some (read.reverse ++ rest, text) := by
  induction rest generalizing read with
  | nil => exact absurd rfl more
  | cons c rest ih =>
    have line : c ≠ '\n' := by
      rintro rfl
      exact tight.line (List.mem_append_right _ List.mem_cons_self)
    have whole : read.reverse ++ c :: rest = (c :: read).reverse ++ rest := by
      rw [List.reverse_cons, List.append_assoc, List.singleton_append]
    rw [List.cons_append, aliased?, if_neg line]
    by_cases later : rest = []
    · subst later
      rw [List.nil_append, beforeKeyword?_append white keyword white' tight' blank, whole,
        List.append_nil]
    · rw [whole] at tight free ⊢
      have apart : ∀ d ∈ (ahead ++ a :: s :: (behind ++ (text ++ back))).head?,
          Text.isBlank d = true ∨ d = '.' := by
        obtain ⟨e, ahead, rfl⟩ := List.exists_cons_of_ne_nil white.1
        rintro d ⟨⟩
        exact .inl (white.2 e List.mem_cons_self)
      have visible : ¬Blank rest := by
        refine not_blank_of_getLast? later fun d final => tight.last d ?_
        rw [List.getLast?_append, Option.mem_def.mp final]
        rfl
      have started : (c :: read).reverse ≠ [] := by
        simp
      rw [beforeKeyword?_eq_none free (forall_head?_of_append tight.first) started apart
        fun blank => absurd blank visible]
      exact ih (c :: read) later tight free

theorem aliasParts?_append {front : List Char} (blank : Blank front) (tight : Tight expr)
    (free : KeywordFree expr) (white : Gap ahead) (keyword : Keyword a s) (white' : Gap behind)
    (tight' : Tight text) (blank' : Blank back) :
    aliasParts? (front ++ (expr ++ (ahead ++ a :: s :: (behind ++ (text ++ back))))) =
      some (expr, text) := by
  induction front with
  | nil =>
    have here := aliased?_append [] tight.nonempty tight free white keyword white' tight' blank'
    have dark : ∀ c ∈ (expr ++ (ahead ++ a :: s :: (behind ++ (text ++ back)))).head?,
        Text.isBlank c = false := by
      obtain ⟨c, expr, rfl⟩ := List.exists_cons_of_ne_nil tight.nonempty
      exact tight.first
    rw [List.nil_append, aliasParts?_of_dark dark]
    exact here
  | cons c front ih =>
    obtain ⟨first, others⟩ := List.forall_mem_cons.mp blank
    rw [List.cons_append, aliasParts?, if_pos first, ih others]
    rfl

/-! ### Names -/

/-- A name that is spelled as an expression, the keyword and an alias is shown as that expression
and that alias, which is one identifier whatever it holds. -/
theorem render_aliased (grammar : Grammar) {front expr ahead keyword behind text back : String}
    (blank : Blank front.toList) (tight : Tight expr.toList) (free : KeywordFree expr.toList)
    (white : Gap ahead.toList) (word : IsKeyword keyword.toList) (white' : Gap behind.toList)
    (tight' : Tight text.toList) (blank' : Blank back.toList) :
    render grammar (front ++ expr ++ ahead ++ keyword ++ behind ++ text ++ back) =
      renderPath grammar expr ++ (grammar.aliasSeparator ++ quote grammar text) := by
  obtain ⟨a, s, letters, word⟩ := word
  have whole : (front ++ expr ++ ahead ++ keyword ++ behind ++ text ++ back).toList =
      front.toList ++ (expr.toList ++
        (ahead.toList ++ a :: s :: (behind.toList ++ (text.toList ++ back.toList)))) := by
    simp [String.toList_append, letters]
  have found : parts (front ++ expr ++ ahead ++ keyword ++ behind ++ text ++ back) =
      (expr, some text) := by
    rw [parts, whole, aliasParts?_append blank tight free white word white' tight' blank']
    simp
  rw [render, found]
  rfl

/-- The expression may begin with the keyword, and the alias may hold it: the first one that stands
between white space behind a word divides the name. -/
theorem render_aliased_keywords :
    IsKeyword "A\u017f".toList ∧ KeywordFree "as b.c".toList ∧
      render Dialect.postgres.grammar "\n as b.c\t A\u017f  as d.e[1] AS f\n" =
        "\"as b\".\"c\" as \"as d.e[1] AS f\"" := by
  have word : IsKeyword "A\u017f".toList := by
    decide +kernel
  have free : KeywordFree "as b.c".toList := by
    decide +kernel
  have spelled : "\n as b.c\t A\u017f  as d.e[1] AS f\n" =
      "\n " ++ "as b.c" ++ "\t " ++ "A\u017f" ++ "  " ++ "as d.e[1] AS f" ++ "\n" := by
    decide +kernel
  have shown : renderPath Dialect.postgres.grammar "as b.c" ++
      (Dialect.postgres.grammar.aliasSeparator ++
        quote Dialect.postgres.grammar "as d.e[1] AS f") =
      "\"as b\".\"c\" as \"as d.e[1] AS f\"" := by
    decide +kernel
  refine ⟨word, free, ?_⟩
  rw [spelled, ← shown]
  exact render_aliased Dialect.postgres.grammar (by decide +kernel) (by decide +kernel) free
    (by decide +kernel) word (by decide +kernel) (by decide +kernel) (by decide +kernel)

end Identifier

end PortableSql
