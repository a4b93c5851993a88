import PortableSql.Proofs.SettledTrees

/-!
The shape of what builders build.

`Statement.Shaped` is what rendering relies on: no condition stands empty or compares with a word
that has a condition of its own, what must be a query is one, and no column is written twice. Every
operation keeps it, so every statement in the tree of a builder without a fault is shaped
(`Call.shaped_of_runAll`).
-/

namespace PortableSql

open Builder (Operation)

/-- What an insert writes is rows that name no column twice, or a query. -/
structure InsertPayload.Shaped {σ : Type} (payload : InsertPayload σ) : Prop where
  distinct : payload.Distinct
  query : ∀ source, payload = .query source → source.isQuery = true

/-- What every statement in the tree of a builder without a fault looks like. -/
structure Statement.Shaped (s : Statement) : Prop where
  wheres : Term.Shaped s.wheres
  havings : Term.Shaped s.havings
  joins : ∀ joined, .clause joined ∈ s.joins → Term.Shaped joined.conditions
  unions : ∀ part ∈ s.unions, part.query.isQuery = true
  insert : ∀ payload ∈ s.insert, payload.Shaped
  distinct : (Keyed.keys s.assignments).Nodup
  defined : ∀ pair ∈ s.assignments, pair.2 ≠ .undefined

/-! ### Conditions -/

namespace Filter

/-- A condition that has no others inside it and is shaped, if there is one. -/
def Leaf (condition : Option (Condition Attached)) : Prop :=
  ∀ found ∈ condition, found.nodes = [found] ∧ found.Shaped

theorem Leaf.none : Leaf none :=
  fun _ member => by cases member

theorem Leaf.some {condition : Condition Attached} (leaf : condition.nodes = [condition])
    (shaped : condition.Shaped) : Leaf (.some condition) := by
  rintro found ⟨⟩
  exact ⟨leaf, shaped⟩

theorem Leaf.term {condition : Option (Bool × Condition Attached)}
    (leaf : Leaf (condition.map Prod.snd)) (connector : Connector) (negated : Bool) :
    Term.Shaped (Filter.term connector negated condition) := by
  cases condition with
  | none => exact .nil
  | some found =>
    obtain ⟨alone, shaped⟩ := leaf found.2 rfl
    exact .single found.2 alone shaped connector (negated ^^ found.1)

theorem leaf_membership (column : Column Attached) (values : Operand Attached) :
    Leaf (membership column values).value := by
  cases values with
  | undefined => exact .none
  | query s => exact .some rfl (.inl rfl)
  | raw fragment => exact .some rfl (.inl rfl)
  | value v => cases v <;> exact .some rfl (.inr ⟨_, rfl⟩)

theorem leaf_range (column : Column Attached) (value : Operand Attached) :
    Leaf (range column value).value := by
  unfold range
  split
  · exact .some rfl trivial
  · exact .none

/-- A comparison that is left as it is has none of the words with conditions of their own, and no
null that would make it a null check. -/
theorem leaf_comparison (column : Column Attached) {operator : Operator}
    (permitted : operator.normalized ∈ Operator.permitted) (value : Operand Attached) :
    Leaf ((comparison column operator value).value.map Prod.snd) := by
  unfold comparison
  dsimp only
  split
  · have inner := leaf_membership column value
    simpa [Function.comp_def] using inner
  · rename_i notIn
    split
    · have inner := leaf_range column value
      simpa [Function.comp_def] using inner
    · rename_i notBetween
      split
      · exact .some rfl trivial
      · rename_i notNull
        refine .some rfl ⟨permitted, ?_, fun null listed => notNull ⟨null, ?_⟩⟩
        · grind
        · grind

theorem leaf_compared (target : Target) (column : Column Attached) (operator : String)
    (value : Operand Attached) :
    Leaf ((compared target column operator value).value.map Prod.snd) := by
  unfold compared
  cases parsed : Operator.parse operator with
  | error fault => exact .none
  | ok operator => exact leaf_comparison _ (Operator.permitted_of_parse parsed) _

theorem shaped_pairTerms (target : Target) (negated : Bool)
    (row : List (String × Operand Attached)) :
    Term.Shaped (pairTerms target negated row).value := by
  induction row with
  | nil => exact .nil
  | cons pair rest ih =>
    have first := (leaf_compared target (.name pair.1) "=" pair.2).term .and negated
    exact first.append ih

/-- The terms that a condition adds are shaped, whatever it asks for. -/
theorem shaped_terms (target : Target) (connector : Connector) (negated : Bool)
    (f : Filter Attached) : Term.Shaped (f.terms target connector negated).value := by
  cases f with
  | compare column operator value =>
    exact (leaf_compared target column operator value).term connector negated
  | isIn column values =>
    have inner := leaf_membership (column.resolve target).value (values.resolve target).value
    have flipped : Leaf (((membership (column.resolve target).value
        (values.resolve target).value).value.map (false, ·)).map Prod.snd) := by
      simpa [Function.comp_def] using inner
    exact flipped.term connector negated
  | null column => exact .single (.null _) rfl trivial connector negated
  | between column low high => exact .single (.between _ _ _) rfl trivial connector negated
  | «exists» query =>
    by_cases isQuery : (query.resolve target).value.isQuery
    · have added : Term.Shaped [⟨connector, negated, .exists (query.resolve target).value⟩] :=
        .single (.exists _) rfl isQuery connector negated
      simpa [terms, isQuery] using added
    · simpa [terms, isQuery] using Term.Shaped.nil
  | object row =>
    have pairs := shaped_pairTerms target negated row
    cases connector with
    | and => exact pairs
    | or => exact pairs.group .or false
  | raw fragment => exact .single (.raw _) rfl trivial connector negated
  | literal b => exact .single (.literal b) rfl trivial connector negated

end Filter

/-! ### Other parts -/

namespace Builder

theorem isQuery_unionParts (target : Target) (all wrap : Bool)
    (queries : List (Operand Attached)) :
    ∀ part ∈ (unionParts target all wrap queries).value, part.query.isQuery = true := by
  induction queries with
  | nil => exact fun _ member => absurd member List.not_mem_nil
  | cons query rest ih =>
    intro part member
    by_cases isQuery : (query.resolve target).value.isQuery
    · have listed : part = ⟨all, wrap, (query.resolve target).value⟩ ∨
          part ∈ (unionParts target all wrap rest).value := by
        simpa [unionParts, isQuery] using member
      rcases listed with rfl | inRest
      · exact isQuery
      · exact ih part inRest
    · refine ih part ?_
      simpa [unionParts, isQuery] using member

/-- What an insert writes is shaped if the operand of an insert from a query was accepted. -/
theorem shaped_insertPayload (target : Target) {payload : InsertPayload Attached}
    (distinct : payload.Distinct) (fits : (insertPayload target payload).fault = none) :
    (insertPayload target payload).value.Shaped := by
  cases payload with
  | rows table =>
    refine ⟨fun row member => ?_, nofun⟩
    obtain ⟨given, inTable, same⟩ := Operand.mem_resolveRows target member
    rw [same]
    exact distinct given inTable
  | query query =>
    by_cases isQuery : (query.resolve target).value.isQuery
    · refine ⟨?_, fun source same => ?_⟩
      · simp [insertPayload, isQuery, InsertPayload.Distinct]
      · have found : (query.resolve target).value = source := by
          simpa [insertPayload, isQuery] using same
        exact found ▸ isQuery
    · simp [insertPayload, isQuery, Build.fail] at fits

theorem defined_definedPairs (target : Target) (row : List (String × Operand Attached)) :
    ∀ pair ∈ (definedPairs target row).value, pair.2 ≠ .undefined := by
  induction row with
  | nil => exact fun _ member => absurd member List.not_mem_nil
  | cons pair rest ih =>
    obtain ⟨name, operand⟩ := pair
    cases operand with
    | undefined => exact ih
    | value | query | raw =>
      intro assigned member
      rcases List.mem_cons.mp member with rfl | inRest
      · exact nofun
      · exact ih assigned inRest

theorem shaped_groupConditions {built : Builder} (shaped : built.statement.Shaped) :
    Term.Shaped built.groupConditions.value := by
  unfold groupConditions
  rw [Build.value_bind]
  split
  · exact shaped.wheres
  · exact shaped.havings
  · exact .nil

end Builder

/-! ### Operations -/

namespace Statement.Shaped

variable {s : Statement} (shaped : s.Shaped)

theorem empty : Statement.empty.Shaped where
  wheres := .nil
  havings := .nil
  joins := fun _ member => absurd member List.not_mem_nil
  unions := nofun
  insert := nofun
  distinct := List.nodup_nil
  defined := nofun

include shaped

/-- A recorded fault is no part of the shape. -/
theorem record (fault : Option Fault) : (s.record fault).Shaped :=
  { shaped with }

theorem addTerms (clause : FilterClause) {terms : List (Term Attached)}
    (added : Term.Shaped terms) : (Builder.addTerms clause terms s).Shaped := by
  cases clause with
  | wheres => exact { shaped with wheres := shaped.wheres.append added }
  | havings => exact { shaped with havings := shaped.havings.append added }

theorem addJoin (join : Join Attached)
    (added : ∀ joined, join = .clause joined → Term.Shaped joined.conditions) :
    Statement.Shaped { s with joins := s.joins ++ [join] } := by
  refine { shaped with joins := fun joined member => ?_ }
  rcases List.mem_append.mp member with before | new
  · exact shaped.joins joined before
  · exact added joined (List.mem_singleton.mp new).symm

theorem addUnions {parts : List (UnionPart Attached)}
    (added : ∀ part ∈ parts, part.query.isQuery = true) :
    Statement.Shaped { s with unions := s.unions ++ parts } := by
  refine { shaped with unions := fun part member => ?_ }
  rcases List.mem_append.mp member with before | new
  · exact shaped.unions part before
  · exact added part new

theorem setInsert {payload : InsertPayload Attached} (written : payload.Shaped) :
    Statement.Shaped { s with kind := .insert, insert := some payload } := by
  refine { shaped with insert := ?_ }
  rintro found ⟨⟩
  exact written

theorem assign {pairs : List (String × Operand Attached)}
    (given : ∀ pair ∈ pairs, pair.2 ≠ .undefined) :
    Statement.Shaped { s with
      kind := .update, assignments := Keyed.insertAll s.assignments pairs } := by
  have distinct := Keyed.nodup_keys_insertAll pairs shaped.distinct
  refine { shaped with distinct, defined := fun pair member => ?_ }
  obtain ⟨source, inBoth, same⟩ := Keyed.mem_insertAll member
  rw [← same]
  rcases List.mem_append.mp inBoth with before | new
  · exact shaped.defined source before
  · exact given source new

end Statement.Shaped

namespace Builder.Operation

/-- An operation that records no fault keeps a statement shaped. -/
theorem shaped_apply {b : Builder} (op : Operation) (formed : op.Formed)
    (clean : (op.apply b).fault = none) (shaped : b.statement.Shaped)
    (group : ∀ built ∈ op.built?, built.statement.Shaped) : (op.apply b).statement.Shaped := by
  cases op with
  | or | and | not | withTarget => exact shaped
  | aggregate | distinct | withSchema | withAlias | limit | offset | lock | transacting | returning
  | delete | truncate | fail => exact { shaped with }
  | select | source | groupBy | orderBy | orderByRaw => exact { shaped with }
  | filter clause lead condition =>
    exact (shaped.record _).addTerms clause (condition.shaped_terms b.target _ _)
  | group clause lead built =>
    have inner := shaped_groupConditions (group built.value rfl)
    exact (shaped.record _).addTerms clause (inner.group _ _)
  | join draft =>
    refine (shaped.record _).addJoin _ ?_
    rintro joined ⟨⟩
    exact Term.shaped_resolveList b.target draft.conditions formed
  | joinRaw fragment =>
    refine (shaped.record _).addJoin _ fun joined other => ?_
    cases other
  | union queries all wrap =>
    exact (shaped.record _).addUnions (isQuery_unionParts b.target all wrap queries)
  | insert payload =>
    have fits : (insertPayload b.target payload).fault = none := by
      have both : (b.fault <|> (insertPayload b.target payload).fault) = none := clean
      rw [Option.orElse_eq_orElse, Option.orElse_eq_or, Option.or_eq_none_iff] at both
      exact both.2
    exact (shaped.record _).setInsert (shaped_insertPayload b.target formed fits)
  | update row =>
    exact (shaped.record _).assign (defined_definedPairs b.target row)

end Builder.Operation

namespace Call

/-- Every statement in the tree of a builder without a fault is shaped, whatever calls made it. -/
theorem shaped_of_runAll (calls : List Call) (target : Target)
    (clean : (runAll calls (.start target)).value.fault = none) :
    (runAll calls (.start target)).value.statement.All Statement.Shaped := by
  have invariant := Builder.invariant_of_unfaulted .empty Builder.Operation.shaped_apply
  exact invariant_runAll invariant calls (invariant.start target) clean

/-- A membership of one value, a null compared, a group and an object inside a nested statement. -/
theorem shaped_of_runAll_nested :
    let inner : List Call := [.source (.name "u"), .or,
      .filter .wheres {} (.object [("a", .value (.int 1)), ("b", .value .null), ("a", .undefined)])]
    let calls : List Call := [.source (.name "t"),
      .filter .wheres {} (.compare (.name "id") " NOT in" (.value (.int 1))),
      .group .wheres {} [.filter .havings {} (.exists (.query (.callback inner)))],
      .join .left (.name "v") [.onGroup .or [.on .and (.name "a") "<" (.name "b")]],
      .update [("n", .undefined), ("m", .raw ⟨"?", .positional [.value .null], none⟩)] []]
    let b := (runAll calls (.start {})).value
    b.fault = none ∧ b.statement.All Statement.Shaped :=
  ⟨by decide +kernel, shaped_of_runAll _ {} (by decide +kernel)⟩

end Call

end PortableSql
