import PortableSql.Proofs.BoundValues
import PortableSql.Proofs.Compiled
import PortableSql.Proofs.ConditionCalls

/-!
Comparisons by an operator.

Some operators stand for a condition that has a call of its own: a membership, a range or a null
check. A comparison by such an operator, however it is spelled, is that call; a `not` in the
operator flips the negation that is waiting (`Call.run_compare`).
-/

namespace PortableSql

/-! ### Spellings -/

namespace Text

/-- A text made of words: each is in any letter case, and white space stands around them and between
each two. -/
inductive Spelled : List (List Char) → List Char → Prop where
  | blank {gap : List Char} (blank : ∀ c ∈ gap, isBlank c = true) : Spelled [] gap
  | word {gap spelling word rest : List Char} {words : List (List Char)}
      (blank : ∀ c ∈ gap, isBlank c = true) (same : spelling.map Char.toLower = word)
      (apart : ∀ c ∈ rest.head?, isBlank c = true) (more : Spelled words rest) :
      Spelled (word :: words) (gap ++ spelling ++ rest)

/-- Not empty, and without white space. -/
def Solid (word : List Char) : Prop :=
  word ≠ [] ∧ ∀ c ∈ word, isBlank c = false

theorem toLower_of_isBlank {c : Char} (blank : isBlank c = true) : c.toLower = c := by
  have noLetter : ¬('A'.val ≤ c.val ∧ c.val ≤ 'Z'.val) := by
    rintro ⟨low, high⟩
    have low : 65 ≤ c.val.toNat := UInt32.le_iff_toNat_le.mp low
    have high : c.val.toNat ≤ 90 := UInt32.le_iff_toNat_le.mp high
    unfold isBlank at blank
    simp only [Bool.or_eq_true, Bool.and_eq_true, decide_eq_true_eq, beq_iff_eq, Char.toNat]
      at blank
    omega
  unfold Char.toLower
  exact dif_neg noLetter

theorem wordsOf_cons (c : Char) (cs : List Char) :
    wordsOf (c :: cs) = if isBlank c then wordsOf cs else
      match cs, wordsOf cs with
      | d :: _, word :: more => if isBlank d then [c] :: word :: more else (c :: word) :: more
      | _, more => [c] :: more := rfl

theorem solid_of_mem_wordsOf {cs word : List Char} (member : word ∈ wordsOf cs) : Solid word := by
  induction cs generalizing word with
  | nil => cases member
  | cons c cs ih =>
    rw [wordsOf_cons] at member
    split at member
    · exact ih member
    · rename_i dark
      have alone : Solid [c] := ⟨List.cons_ne_nil c [], by simpa using dark⟩
      split at member
      · rename_i d rest first more found
        have later : ∀ other ∈ first :: more, Solid other := fun other inside =>
          ih (found ▸ inside)
        obtain ⟨own, others⟩ := List.forall_mem_cons.mp later
        split at member
        · rcases List.mem_cons.mp member with rfl | inside
          · exact alone
          · exact later word inside
        · rcases List.mem_cons.mp member with rfl | inside
          · exact ⟨List.cons_ne_nil c first, List.forall_mem_cons.mpr
              ⟨Bool.eq_false_iff.mpr dark, own.2⟩⟩
          · exact others word inside
      · rcases List.mem_cons.mp member with rfl | inside
        · exact alone
        · exact ih inside

/-- White space in front of words is no part of them. -/
theorem wordsOf_append_of_blank {gap : List Char} (blank : ∀ c ∈ gap, isBlank c = true)
    (cs : List Char) : wordsOf (gap ++ cs) = wordsOf cs := by
  induction gap with
  | nil => rfl
  | cons c gap ih =>
    obtain ⟨first, others⟩ := List.forall_mem_cons.mp blank
    rw [List.cons_append, wordsOf_cons, if_pos first, ih others]

theorem wordsOf_of_blank {gap : List Char} (blank : ∀ c ∈ gap, isBlank c = true) :
    wordsOf gap = [] := by
  have none := wordsOf_append_of_blank blank []
  rwa [List.append_nil] at none

/-- A word ends where white space begins. -/
theorem wordsOf_append {word rest : List Char} (solid : Solid word)
    (apart : ∀ c ∈ rest.head?, isBlank c = true) :
    wordsOf (word ++ rest) = word :: wordsOf rest := by
  obtain ⟨some, dark⟩ := solid
  induction word with
  | nil => exact absurd rfl some
  | cons c word ih =>
    obtain ⟨first, others⟩ := List.forall_mem_cons.mp dark
    rw [List.cons_append, wordsOf_cons, if_neg (Bool.eq_false_iff.mp first)]
    cases word with
    | nil =>
      cases rest with
      | nil => rfl
      | cons d rest =>
        have blank : isBlank d = true := apart d rfl
        cases found : wordsOf (d :: rest) <;> simp [blank, found]
    | cons d word =>
      have next : isBlank d = false := others d List.mem_cons_self
      have later := ih (List.cons_ne_nil d word) others
      rw [List.cons_append] at later ⊢
      simp [later, next]

namespace Spelled

variable {words : List (List Char)} {cs : List Char}

/-- White space in front of a text belongs to none of its words. -/
theorem cons_of_blank (spelled : Spelled words cs) {c : Char} (white : isBlank c = true) :
    Spelled words (c :: cs) := by
  cases spelled with
  | blank blank => exact .blank (List.forall_mem_cons.mpr ⟨white, blank⟩)
  | word blank same apart more =>
    exact .word (List.forall_mem_cons.mpr ⟨white, blank⟩) same apart more

/-- A character in front of white space is a word of its own. -/
theorem cons_alone (spelled : Spelled words cs) (apart : ∀ d ∈ cs.head?, isBlank d = true)
    (c : Char) : Spelled ([c.toLower] :: words) (c :: cs) :=
  @word [] [c] _ _ _ nofun rfl apart spelled

/-- A character in front of a word belongs to it. -/
theorem cons_of_solid {first : List Char} {d : Char} (spelled : Spelled (first :: words) (d :: cs))
    (solid : isBlank d = false) (c : Char) :
    Spelled ((c.toLower :: first) :: words) (c :: d :: cs) := by
  generalize text : d :: cs = given at spelled
  cases spelled with
  | @word gap spelling _ _ _ blank same apart more =>
    cases gap with
    | nil => exact @word [] (c :: spelling) _ _ _ blank (congrArg (c.toLower :: ·) same) apart more
    | cons e gap =>
      obtain ⟨rfl, -⟩ := List.cons.inj text
      exact absurd (blank d List.mem_cons_self) (Bool.eq_false_iff.mp solid)

end Spelled

/-- Every text is made of its words. -/
theorem spelled_wordsOf (cs : List Char) :
    Spelled ((wordsOf cs).map (List.map Char.toLower)) cs := by
  induction cs with
  | nil => exact .blank nofun
  | cons c cs ih =>
    rw [wordsOf_cons]
    split
    · rename_i white
      exact ih.cons_of_blank white
    · cases cs with
      | nil => exact ih.cons_alone nofun c
      | cons d cs =>
        cases white : isBlank d with
        | true =>
          have alone := ih.cons_alone (fun e member => Option.some.inj member ▸ white) c
          cases found : wordsOf (d :: cs) <;> simpa [found, white] using alone
        | false =>
          cases found : wordsOf (d :: cs) with
          | nil =>
            rw [found] at ih
            cases ih with
            | blank blank => exact absurd (blank d List.mem_cons_self) (Bool.eq_false_iff.mp white)
          | cons word more =>
            rw [found] at ih
            simpa [found, white] using ih.cons_of_solid white c

/-- The words that a text is made of are its words. -/
theorem wordsOf_of_spelled {words : List (List Char)} {cs : List Char} (spelled : Spelled words cs)
    (solid : ∀ word ∈ words, Solid word) : (wordsOf cs).map (List.map Char.toLower) = words := by
  induction spelled with
  | blank gap =>
    rw [wordsOf_of_blank gap]
    rfl
  | @word gap spelling word rest words blank same apart more ih =>
    obtain ⟨⟨some, dark⟩, others⟩ := List.forall_mem_cons.mp solid
    subst same
    have found : spelling ≠ [] := fun none => some (congrArg (List.map Char.toLower) none)
    have plain : ∀ c ∈ spelling, isBlank c = false := by
      refine fun c member => Bool.eq_false_iff.mpr fun white => ?_
      have lower := dark c.toLower (List.mem_map_of_mem member)
      rw [toLower_of_isBlank white, white] at lower
      cases lower
    rw [List.append_assoc, wordsOf_append_of_blank blank, wordsOf_append ⟨found, plain⟩ apart,
      List.map_cons, ih others]

theorem map_toList_words (s : String) : (words s).map String.toList = wordsOf s.toList := by
  simp [words, Function.comp_def]

theorem map_intercalate {α β : Type} (f : α → β) (separator : List α) (lists : List (List α)) :
    (separator.intercalate lists).map f =
      (separator.map f).intercalate (lists.map (List.map f)) := by
  induction lists with
  | nil => rfl
  | cons list rest ih =>
    cases rest with
    | nil => simp
    | cons next rest =>
      simp only [List.map_cons, List.intercalate_cons_cons, List.map_append] at ih ⊢
      rw [ih]

end Text

namespace Operator

/-- A text spells an operator: it is made of the words of the operator. -/
def Spells (word s : String) : Prop :=
  Text.Spelled (Text.wordsOf word.toList) s.toList

theorem spells_of_words {word s : String}
    (same : (Text.wordsOf s.toList).map (List.map Char.toLower) = Text.wordsOf word.toList) :
    Spells word s := by
  unfold Spells
  rw [← same]
  exact Text.spelled_wordsOf s.toList

theorem lowerChar_eq {c : Char} (plain : c.toLower ≠ '\u212a') : lowerChar c = c.toLower := by
  unfold lowerChar
  split
  · rename_i kelvin
    rw [kelvin] at plain
    exact absurd (by decide) plain
  · rfl

/-- The words of permitted operators stand between single spaces. -/
theorem words_of_permitted : permitted.all (fun word =>
    (Text.wordsOf word.toList).all (fun part => '\u212a' ∉ part) &&
      [' '].intercalate (Text.wordsOf word.toList) == word.toList) = true := by
  decide +kernel

variable {word s : String} (listed : word ∈ permitted) (spelled : Spells word s)

include listed spelled

/-- However a permitted operator is spelled, it is compared in the same form. -/
theorem normalize_of_spells : normalize s = word := by
  have fits := List.all_eq_true.mp words_of_permitted word listed
  simp only [Bool.and_eq_true, List.all_eq_true, decide_eq_true_eq, beq_iff_eq] at fits
  obtain ⟨parts, spaced⟩ := fits
  have words := Text.wordsOf_of_spelled spelled fun _ => Text.solid_of_mem_wordsOf
  have lowered : (Text.wordsOf s.toList).map (List.map lowerChar) = Text.wordsOf word.toList := by
    rw [← words]
    refine List.map_congr_left fun spelling member => List.map_congr_left fun c inside => ?_
    refine lowerChar_eq fun kelvin => ?_
    have part : spelling.map Char.toLower ∈ Text.wordsOf word.toList := by
      rw [← words]
      exact List.mem_map_of_mem member
    exact parts _ part (kelvin ▸ List.mem_map_of_mem inside)
  rw [← String.toList_inj, normalize, String.toList_map, String.toList_intercalate,
    Text.map_toList_words, Text.map_intercalate, lowered]
  exact spaced

theorem parse_of_spells : parse s = .ok ⟨Text.trim s, word⟩ := by
  have normal := normalize_of_spells listed spelled
  rw [parse_of_listed (normal.symm ▸ listed), normal]

end Operator

/-! ### The conditions that operators stand for -/

namespace Filter

variable {σ : Type}

/-- The condition of its own that a comparison stands for, and whether its operator flips the
negation. -/
inductive Dedicated (column : Column σ) : String → Operand σ → Filter σ → Bool → Prop where
  | isIn (values : Operand σ) : Dedicated column "in" values (.isIn column values) false
  | notIn (values : Operand σ) : Dedicated column "not in" values (.isIn column values) true
  | between (low high : Value) : Dedicated column "between" (.value (.array [low, high]))
      (.between column (.value low) (.value high)) false
  | notBetween (low high : Value) : Dedicated column "not between" (.value (.array [low, high]))
      (.between column (.value low) (.value high)) true
  | equal : Dedicated column "=" (.value .null) (.null column) false
  | is : Dedicated column "is" (.value .null) (.null column) false
  | isNot : Dedicated column "is not" (.value .null) (.null column) true

/-- The operators that look at their operand. -/
def selective : List String :=
  ["in", "not in", "between", "not between", "=", "is", "is not"]

theorem Dedicated.permitted {column : Column σ} {word : String} {value : Operand σ} {f : Filter σ}
    {flip : Bool} (dedicated : Dedicated column word value f flip) :
    word ∈ Operator.permitted := by
  cases dedicated <;> decide

variable (target : Target) {operator word : String}

theorem compared_of_spells (listed : word ∈ Operator.permitted)
    (spelled : Operator.Spells word operator) (column : Column Attached)
    (value : Operand Attached) :
    compared target column operator value = (do
      let column ← column.resolve target
      let value ← value.resolve target
      comparison column ⟨Text.trim operator, word⟩ value) := by
  unfold compared
  rw [Operator.parse_of_spells listed spelled]

variable (connector : Connector) (negated : Bool)

theorem term_map (flip : Bool) (condition : Option (Condition Attached)) :
    term connector negated (condition.map (flip, ·)) =
      term connector (negated ^^ flip) (condition.map (false, ·)) := by
  cases condition with
  | none => rfl
  | some condition => simp [term]

/-- A comparison adds the terms of the condition that its operator stands for. -/
theorem terms_of_dedicated {column : Column Attached} {value : Operand Attached}
    {f : Filter Attached} {flip : Bool} (dedicated : Dedicated column word value f flip)
    (spelled : Operator.Spells word operator) :
    (Filter.compare column operator value).terms target connector negated =
      f.terms target connector (negated ^^ flip) := by
  have opened := compared_of_spells target dedicated.permitted spelled column value
  cases dedicated with
  | isIn | notIn =>
    simp [terms, opened, comparison, term_map]
  | between | notBetween =>
    simp [terms, opened, comparison, range, term, Operand.resolve]
  | equal | is | isNot =>
    simp [terms, opened, comparison, term, Operand.resolve, Operand.isNull, Value.isNull]

/-- Without two bounds there is no range. -/
theorem value_range_of_faults {column : Column Attached} {value : Operand Attached}
    (refused : rangeFaults value ≠ []) : (range column value).value = none := by
  unfold range
  split
  · exact absurd rfl refused
  · rfl

/-- A range without two bounds adds nothing. -/
theorem value_terms_of_rangeFaults (listed : word ∈ Operator.permitted)
    (spelled : Operator.Spells word operator) (ranged : word = "between" ∨ word = "not between")
    (column : Column Attached) {value : Operand Attached} (refused : rangeFaults value ≠ []) :
    ((Filter.compare column operator value).terms target connector negated).value = [] := by
  have none (column : Column Attached) :
      (range column (value.resolve target).value).value = none := by
    refine value_range_of_faults ?_
    rwa [rangeFaults_resolve]
  have notIn : ¬(word = "in" ∨ word = "not in") := by
    rcases ranged with rfl | rfl <;> decide
  simp [terms, compared_of_spells target listed spelled, comparison, notIn, ranged, none, term]

/-- The faults of a range: those that it brings along, and its own. -/
theorem faults_of_range (listed : word ∈ Operator.permitted)
    (spelled : Operator.Spells word operator) (ranged : word = "between" ∨ word = "not between")
    (column : Column Nested) (value : Operand Nested) :
    (Filter.compare column operator value).nestedFaults =
      column.nestedFaults ++ (value.nestedFaults ++ rangeFaults value) := by
  have notIn : ¬(word = "in" ∨ word = "not in") := by
    rcases ranged with rfl | rfl <;> decide
  rw [nestedFaults, Operator.parse_of_spells listed spelled]
  simp [comparisonFaults, notIn, ranged]

/-- A comparison with a null by an operator that does not look at its operand stays one. -/
theorem value_terms_of_null (listed : word ∈ Operator.permitted)
    (spelled : Operator.Spells word operator) (plain : word ∉ selective)
    (column : Column Attached) :
    ((Filter.compare column operator (.value .null)).terms target connector negated).value =
      [⟨connector, negated,
        .compare (column.resolve target).value ⟨Text.trim operator, word⟩ (.value .null)⟩] := by
  simp only [selective, List.mem_cons, List.not_mem_nil, or_false, not_or] at plain
  simp [terms, compared_of_spells target listed spelled, comparison, plain, term, Operand.resolve]

end Filter

/-! ### The rendering of a comparison with a null -/

/-- A null on the right of a comparison is a word and not bound. -/
theorem Condition.render_compare_null (target : Target) (negated : Bool)
    (column : Column Attached) (operator : Operator) :
    ((Condition.compare column operator (.value .null)).render target negated).outcome =
      (column.render target none).outcome.map (fun pieces =>
        .text (if negated then "not " else "") :: pieces ++
          [.text " ", .text operator.render, .text " ", .text "NULL"]) ∧
    ((Condition.compare column operator (.value .null)).render target negated).bound =
      (column.render target none).bound := by
  have parts : (Condition.compare column operator (.value .null)).render target negated =
      .concat [.negation negated, column.render target none, .text " ", .text operator.render,
        .text " ", .text "NULL"] := by
    rw [Condition.render]
    rfl
  rw [parts]
  constructor
  · rw [Rendering.negation, Rendering.outcome_concat_of_ok (Rendering.outcome_text _),
      Rendering.outcome_concat_cons]
    cases (column.render target none).outcome <;> rfl
  · have silent : (Rendering.concat [.text " ", .text operator.render, .text " ",
        .text "NULL"]).bound = .ok [] := by
      simp only [Rendering.bound_concat_text, Rendering.bound_concat_nil]
    rw [Rendering.negation, Rendering.bound_concat_text, Rendering.bound_concat_cons, silent]
    cases (column.render target none).bound with
    | error fault => rfl
    | ok values => exact congrArg Except.ok (List.append_nil values)

namespace Builder

/-- The modifiers of a call may as well wait before it. -/
theorem filter_await (b : Builder) (clause : FilterClause) (lead : Lead) {f g : Filter Attached}
    {flip : Bool} (same : f.terms b.target (b.modifiers lead).1 (b.modifiers lead).2 =
      g.terms b.target (b.modifiers lead).1 ((b.modifiers lead).2 ^^ flip)) :
    b.filter clause lead f =
      (b.await (b.modifiers lead).1 ((b.modifiers lead).2 ^^ flip)).filter clause {} g := by
  unfold filter
  dsimp only
  rw [same]
  simp only [await, modifiers, Option.getD_none, Bool.or_false]
  rfl

end Builder

namespace Call

variable {operator word : String} {column : Column Nested} {value : Operand Nested}

/-- A comparison is the call of the condition that its operator stands for. -/
theorem run_of_dedicated {f : Filter Nested} {flip : Bool}
    (dedicated : Filter.Dedicated column word value f flip)
    (spelled : Operator.Spells word operator) (b : Builder) (clause : FilterClause) (lead : Lead) :
    (filter clause lead (.compare column operator value)).run b =
      (filter clause {} f).run (b.await (b.modifiers lead).1 ((b.modifiers lead).2 ^^ flip)) := by
  have same {column value f flip} (attached : Filter.Dedicated column word value f flip) :=
    b.filter_await clause lead (Filter.terms_of_dedicated b.target (b.modifiers lead).1
      (b.modifiers lead).2 attached spelled)
  cases dedicated with
  | isIn | notIn =>
    simp only [run, Filter.attach, bind_assoc, pure_bind]
    exact bind_congr fun column => bind_congr fun values => same (by constructor)
  | between | notBetween | equal | is | isNot =>
    -- Bounds and nulls are plain values, so only the column is attached.
    simp only [run, Filter.attach, Operand.attach, bind_assoc, pure_bind]
    exact bind_congr fun column => same (by constructor)

/-- What a comparison puts behind the terms of its clause. -/
theorem terms_run_compare (b : Builder) (clause : FilterClause) (lead : Lead) :
    ((filter clause lead (.compare column operator value)).run b).value.terms clause =
      b.terms clause ++
        ((Filter.compare (column.attach b.target).value operator
          (value.attach b.target).value).terms b.target (b.modifiers lead).1
            (b.modifiers lead).2).value :=
  b.terms_filter clause lead _

/-- A comparison that adds no terms changes nothing in the statement. -/
theorem content_run_of_terms {call : Call} {clause : FilterClause} {lead : Lead}
    (own : call.condition? = some (clause, lead)) {b : Builder}
    (same : (call.run b).value.terms clause = b.terms clause) (part : Part) :
    (call.run b).value.content part = b.content part := by
  by_cases other : part = clause.part
  · subst other
    cases clause <;> exact same
  · exact content_run_of_ne (part?_of_condition? own) other b

/-- A comparison by a permitted operator, however it is spelled. Where the operator stands for a
condition of its own, it is the call of that condition on a builder whose negation is flipped if the
operator has a `not`. A range without two bounds adds nothing and leaves a fault recorded: the one
that is there, or else the first that the column or the operand brings along, or else that the value
has the wrong shape. By any other operator a null is written as a word and is not bound. -/
theorem run_compare (listed : word ∈ Operator.permitted) (spelled : Operator.Spells word operator)
    (b : Builder) (clause : FilterClause) (lead : Lead) (column : Column Nested)
    (value : Operand Nested) :
    let connector := (b.modifiers lead).1
    let negated := (b.modifiers lead).2
    let outcome := (filter clause lead (.compare column operator value)).run b
    let subject := (column.attach b.target).value
    (∀ f flip, Filter.Dedicated column word value f flip →
      outcome = (filter clause {} f).run (b.await connector (negated ^^ flip))) ∧
    (word = "between" ∨ word = "not between" → (∀ low high, value ≠ .value (.array [low, high])) →
      outcome.value.Rested ∧ (∀ part, outcome.value.content part = b.content part) ∧
      ∃ fault, fault.kind = .value ∧ outcome.value.fault =
        (b.fault.toList ++ (column.nestedFaults ++ (value.nestedFaults ++ [fault]))).head?) ∧
    (value = .value .null → word ∉ Filter.selective →
      ∃ condition, outcome.value.terms clause =
          b.terms clause ++ [⟨connector, negated, condition⟩] ∧
        ∀ target,
          let left := (subject.resolve b.target).value.render target none
          let rendered := condition.render target negated
          rendered.outcome = left.outcome.map (fun pieces =>
            .text (if negated then "not " else "") :: pieces ++ [.text " ",
              .text (Operator.render ⟨Text.trim operator, word⟩), .text " ", .text "NULL"]) ∧
          rendered.bound = left.bound) := by
  intro connector negated outcome subject
  refine ⟨fun f flip dedicated => run_of_dedicated dedicated spelled b clause lead,
    fun ranged unbounded => ?_, ?_⟩
  · have refused := Filter.rangeFaults_eq unbounded
    have attached : Filter.rangeFaults (value.attach b.target).value = [.betweenBounds] :=
      (Filter.rangeFaults_attach b.target value).trans refused
    refine ⟨⟨rfl, rfl⟩, content_run_of_terms rfl ?_, .betweenBounds, rfl, ?_⟩
    · have some : Filter.rangeFaults (value.attach b.target).value ≠ [] :=
        attached ▸ List.cons_ne_nil _ _
      rw [terms_run_compare,
        Filter.value_terms_of_rangeFaults _ _ _ listed spelled ranged _ some, List.append_nil]
    · have found := Filter.faults_of_range listed spelled ranged column value
      rw [refused] at found
      exact (fault_run b _).trans (congrArg (fun faults => (b.fault.toList ++ faults).head?) found)
  · rintro rfl plain
    refine ⟨.compare (subject.resolve b.target).value ⟨Text.trim operator, word⟩
      (.value .null), ?_, fun target => ?_⟩
    · refine (terms_run_compare b clause lead).trans ?_
      exact congrArg _ (Filter.value_terms_of_null _ _ _ listed spelled plain subject)
    · exact Condition.render_compare_null target negated _ _

/-- A negated list, a range without bounds and a pattern that is null, where an `or` waits. -/
theorem run_compare_spelled :
    let b := (Builder.start {}).or
    let numbers : Operand Nested := .value (.array [.int 1, .int 2, .int 3])
    let run (operator : String) (value : Operand Nested) : Logged Builder :=
      (filter .wheres {} (.compare (.name "a") operator value)).run b
    (Operator.Spells "not in" "\tNot  IN" ∧ run "\tNot  IN" numbers =
      (filter .wheres {} (.isIn (.name "a") numbers)).run (b.await .or true)) ∧
    (Operator.Spells "between" "BETWEEN " ∧ (run "BETWEEN " numbers).value.Rested ∧
      ∃ fault, fault.kind = .value ∧ (run "BETWEEN " numbers).value.fault = some fault) ∧
    (Operator.Spells "like" "Like" ∧ ∃ condition,
      (run "Like" (.value .null)).value.terms .wheres = [⟨.or, false, condition⟩] ∧
        (condition.render {} false).bound = .ok []) := by
  intro b numbers run
  have notIn : Operator.Spells "not in" "\tNot  IN" := Operator.spells_of_words (by decide)
  have between : Operator.Spells "between" "BETWEEN " := Operator.spells_of_words (by decide)
  have like : Operator.Spells "like" "Like" := Operator.spells_of_words (by decide)
  refine ⟨⟨notIn, ?_⟩, ⟨between, ?_⟩, like, ?_⟩
  · obtain ⟨dedicated, -, -⟩ := run_compare (by decide) notIn b .wheres {} (.name "a") numbers
    exact dedicated _ true (.notIn numbers)
  · obtain ⟨-, ranged, -⟩ := run_compare (by decide) between b .wheres {} (.name "a") numbers
    obtain ⟨rested, -, found⟩ := ranged (.inl rfl) (by simp [numbers])
    exact ⟨rested, found⟩
  · obtain ⟨-, -, plain⟩ := run_compare (by decide) like b .wheres {} (.name "a") (.value .null)
    obtain ⟨condition, added, rendered⟩ := plain rfl (by decide)
    exact ⟨condition, added, (rendered {}).2⟩

/-- What an operand of a range brings along is recorded in the place of the missing bounds. -/
theorem fault_of_between_attached :
    let query : Operand Nested :=
      .query (.callback [.filter .wheres {} (.compare (.name "x") "bogus" (.value (.int 1)))])
    let b := Builder.start {}
    let after := ((filter .wheres {} (.compare (.name "a") "between" query)).run b).value
    b.fault = none ∧ after.fault = some (.operator "bogus") ∧
      (Fault.operator "bogus").kind ≠ .value := by
  decide +kernel

end Call

end PortableSql
