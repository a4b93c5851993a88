import PortableSql.Proofs.FaultLog

/-!
What descriptions build.

A document holds no statement and no callback, so every operand of a described statement is plain: a
value, or a raw fragment that stands alone and binds values only (`Builder.plain_describe`). Such a
statement nests no other one.
-/

namespace PortableSql

variable {σ : Type}

/-- What a plain operand holds is plain. -/
theorem Operand.Plain.inside {operand : Operand σ} (plain : operand.Plain) :
    ∀ part ∈ operand.operands, part.Plain := by
  intro part member
  cases plain with
  | value v =>
    obtain rfl := List.mem_singleton.mp member
    exact .value v
  | raw lone =>
    rcases List.mem_cons.mp member with rfl | member
    · exact .raw lone
    · obtain ⟨v, rfl⟩ := lone.values part member
      exact .value v

/-! ### Resolving keeps operands plain -/

section Resolving

variable (target : Target)

theorem Operand.values_resolveList {values : List (Operand Attached)}
    (given : ∀ part ∈ operandsList values, ∃ v, part = .value v) :
    ∀ part ∈ operandsList (resolveList target values).value, ∃ v, part = .value v := by
  induction values with
  | nil => exact fun _ member => absurd member List.not_mem_nil
  | cons operand rest ih =>
    obtain ⟨v, rfl⟩ := given operand (List.mem_append_left _ operand.mem_operands)
    intro part member
    rcases List.mem_cons.mp member with rfl | inRest
    · exact ⟨v, rfl⟩
    · exact ih (fun other inside => given other (List.mem_append_right _ inside)) part inRest

theorem Operand.values_resolvePairs {pairs : List (String × Operand Attached)}
    (given : ∀ part ∈ operandsPairs pairs, ∃ v, part = .value v) :
    ∀ part ∈ operandsPairs (resolvePairs target pairs).value, ∃ v, part = .value v := by
  induction pairs with
  | nil => exact fun _ member => absurd member List.not_mem_nil
  | cons pair rest ih =>
    obtain ⟨name, operand⟩ := pair
    obtain ⟨v, rfl⟩ := given operand (List.mem_append_left _ operand.mem_operands)
    intro part member
    rcases List.mem_cons.mp member with rfl | inRest
    · exact ⟨v, rfl⟩
    · exact ih (fun other inside => given other (List.mem_append_right _ inside)) part inRest

theorem Fragment.Lone.resolve {fragment : Fragment (Operand Attached)} (lone : fragment.Lone) :
    (Fragment.resolve target fragment).value.Lone := by
  obtain ⟨template, bindings, around⟩ := fragment
  refine ⟨lone.alone, ?_⟩
  have values := lone.values
  cases bindings with
  | none => exact fun _ member => absurd member List.not_mem_nil
  | positional operands => exact Operand.values_resolveList target values
  | named pairs => exact Operand.values_resolvePairs target values

theorem Operand.Plain.resolve {operand : Operand Attached} (plain : operand.Plain) :
    (operand.resolve target).value.Plain := by
  cases plain with
  | value v => exact .value v
  | raw lone => exact .raw (lone.resolve target)

theorem Operand.plain_resolve {operand : Operand Attached}
    (given : ∀ part ∈ operand.operands, part.Plain) :
    ∀ part ∈ (operand.resolve target).value.operands, part.Plain :=
  ((given operand operand.mem_operands).resolve target).inside

theorem Fragment.plain_resolve (fragment : Fragment (Operand Attached))
    (given : ∀ part ∈ (Operand.raw fragment).operands, part.Plain) :
    ∀ part ∈ (Operand.raw (Fragment.resolve target fragment).value).operands, part.Plain := by
  have resolved := Operand.plain_resolve target given
  exact resolved

theorem Operand.plain_resolvePairs {pairs : List (String × Operand Attached)}
    (given : ∀ part ∈ operandsPairs pairs, part.Plain) :
    ∀ part ∈ operandsPairs (resolvePairs target pairs).value, part.Plain := by
  induction pairs with
  | nil => exact fun _ member => absurd member List.not_mem_nil
  | cons pair rest ih =>
    obtain ⟨inFirst, inRest⟩ := List.forall_mem_append.mp given
    exact List.forall_mem_append.mpr ⟨plain_resolve target inFirst, ih inRest⟩

theorem Operand.plain_resolveRows {rows : List (List (String × Operand Attached))}
    (given : ∀ part ∈ rows.flatMap operandsPairs, part.Plain) :
    ∀ part ∈ (resolveRows target rows).value.flatMap operandsPairs, part.Plain := by
  induction rows with
  | nil => exact fun _ member => absurd member List.not_mem_nil
  | cons row rest ih =>
    rw [List.flatMap_cons] at given
    obtain ⟨inFirst, inRest⟩ := List.forall_mem_append.mp given
    exact List.forall_mem_append.mpr ⟨plain_resolvePairs target inFirst, ih inRest⟩

theorem Column.plain_resolve {column : Column Attached}
    (given : ∀ part ∈ column.operands, part.Plain) :
    ∀ part ∈ (column.resolve target).value.operands, part.Plain := by
  cases column with
  | name | numeral | aggregate => exact fun _ member => absurd member List.not_mem_nil
  | query a => cases given (.query a) (List.mem_singleton_self _)
  | raw fragment => exact fragment.plain_resolve target given

theorem Column.plain_resolveList {columns : List (Column Attached)}
    (given : ∀ part ∈ columns.flatMap Column.operands, part.Plain) :
    ∀ part ∈ (resolveList target columns).value.flatMap Column.operands, part.Plain := by
  induction columns with
  | nil => exact fun _ member => absurd member List.not_mem_nil
  | cons column rest ih =>
    rw [List.flatMap_cons] at given
    obtain ⟨inFirst, inRest⟩ := List.forall_mem_append.mp given
    exact List.forall_mem_append.mpr ⟨plain_resolve target inFirst, ih inRest⟩

mutual

theorem Condition.plain_resolve : (condition : Condition Attached) →
    (∀ part ∈ condition.operands, part.Plain) →
    ∀ part ∈ (condition.resolve target).value.operands, part.Plain
  | .compare _ _ _, given => by
    obtain ⟨inColumn, inValue⟩ := List.forall_mem_append.mp given
    exact List.forall_mem_append.mpr
      ⟨Column.plain_resolve target inColumn, Operand.plain_resolve target inValue⟩
  | .columns _ _ _, given => by
    obtain ⟨inFirst, inSecond⟩ := List.forall_mem_append.mp given
    exact List.forall_mem_append.mpr
      ⟨Column.plain_resolve target inFirst, Column.plain_resolve target inSecond⟩
  | .isIn _ _, given => by
    obtain ⟨inColumn, inValues⟩ := List.forall_mem_append.mp given
    exact List.forall_mem_append.mpr
      ⟨Column.plain_resolve target inColumn, Operand.plain_resolve target inValues⟩
  | .null _, given => Column.plain_resolve target given
  | .between _ _ _, given => by
    obtain ⟨inFront, inHigh⟩ := List.forall_mem_append.mp given
    obtain ⟨inColumn, inLow⟩ := List.forall_mem_append.mp inFront
    refine List.forall_mem_append.mpr ⟨?_, Operand.plain_resolve target inHigh⟩
    exact List.forall_mem_append.mpr
      ⟨Column.plain_resolve target inColumn, Operand.plain_resolve target inLow⟩
  | .exists _, given => Operand.plain_resolve target given
  | .group terms, given => Term.plain_resolveList terms given
  | .raw fragment, given => fragment.plain_resolve target given
  | .literal _, _ => fun _ member => absurd member List.not_mem_nil

theorem Term.plain_resolveList : (terms : List (Term Attached)) →
    (∀ part ∈ Term.operandsList terms, part.Plain) →
    ∀ part ∈ Term.operandsList (Term.resolveList target terms).value, part.Plain
  | [], _ => fun _ member => absurd member List.not_mem_nil
  | ⟨_, _, condition⟩ :: rest, given => by
    obtain ⟨inFirst, inRest⟩ := List.forall_mem_append.mp given
    exact List.forall_mem_append.mpr
      ⟨Condition.plain_resolve condition inFirst, Term.plain_resolveList rest inRest⟩

end

end Resolving

/-! ### Conditions -/

namespace Filter

section

variable {column : Column Attached} {value : Operand Attached}
  (inColumn : ∀ part ∈ column.operands, part.Plain) (inValue : ∀ part ∈ value.operands, part.Plain)

include inColumn inValue

theorem plain_membership :
    ∀ part ∈ optionOperands (membership column value).value, part.Plain := by
  have among {values : Operand Attached} (inValues : ∀ part ∈ values.operands, part.Plain) :
      ∀ part ∈ optionOperands (some (.isIn column values)), part.Plain := by
    intro part member
    rw [optionOperands, Option.toList_some, List.flatMap_singleton] at member
    exact List.forall_mem_append.mpr ⟨inColumn, inValues⟩ part member
  cases value with
  | value v => cases v <;> exact among (Operand.Plain.value _).inside
  | undefined => exact fun _ member => absurd member List.not_mem_nil
  | query | raw => exact among inValue

omit inValue in
theorem plain_range : ∀ part ∈ optionOperands (range column value).value, part.Plain := by
  unfold range
  split
  · rename_i low high
    intro part member
    rw [Build.value_pure, optionOperands, Option.toList_some, List.flatMap_singleton] at member
    have bound (v : Value) : ∀ part ∈ (Operand.value v : Operand Attached).operands, part.Plain :=
      (Operand.Plain.value v).inside
    refine List.forall_mem_append.mpr ⟨?_, bound high⟩ part member
    exact List.forall_mem_append.mpr ⟨inColumn, bound low⟩
  · exact fun _ member => absurd member List.not_mem_nil

theorem plain_comparison (operator : Operator) :
    ∀ part ∈ flipOperands (comparison column operator value).value, part.Plain := by
  unfold comparison
  dsimp only
  split
  · intro part member
    rw [Build.value_bind, Build.value_pure, flipOperands_map] at member
    exact plain_membership inColumn inValue part member
  · split
    · intro part member
      rw [Build.value_bind, Build.value_pure, flipOperands_map] at member
      exact plain_range inColumn part member
    · split
      · intro part member
        rw [Build.value_pure, flipOperands, Option.toList_some, List.flatMap_singleton] at member
        exact inColumn part member
      · intro part member
        rw [Build.value_pure, flipOperands, Option.toList_some, List.flatMap_singleton] at member
        exact List.forall_mem_append.mpr ⟨inColumn, inValue⟩ part member

end

variable (target : Target)

theorem plain_compared {column : Column Attached} (operator : String) {value : Operand Attached}
    (inColumn : ∀ part ∈ column.operands, part.Plain)
    (inValue : ∀ part ∈ value.operands, part.Plain) :
    ∀ part ∈ flipOperands (compared target column operator value).value, part.Plain := by
  unfold compared
  cases Operator.parse operator with
  | error fault => exact fun _ member => absurd member List.not_mem_nil
  | ok operator =>
    exact plain_comparison (Column.plain_resolve target inColumn)
      (Operand.plain_resolve target inValue) operator

theorem plain_pairTerms (negated : Bool) {row : List (String × Operand Attached)}
    (given : ∀ part ∈ Operand.operandsPairs row, part.Plain) :
    ∀ part ∈ Term.operandsList (pairTerms target negated row).value, part.Plain := by
  induction row with
  | nil => exact fun _ member => absurd member List.not_mem_nil
  | cons pair rest ih =>
    obtain ⟨inFirst, inRest⟩ := List.forall_mem_append.mp given
    have inName : ∀ part ∈ (Column.name pair.1 : Column Attached).operands, part.Plain :=
      fun _ member => absurd member List.not_mem_nil
    have first := plain_compared target "=" inName inFirst
    rw [pairTerms, Build.value_bind, Build.value_bind, Build.value_pure,
      Term.operandsList_eq_flatMap, List.flatMap_append, ← Term.operandsList_eq_flatMap,
      ← Term.operandsList_eq_flatMap, operandsList_term]
    exact List.forall_mem_append.mpr ⟨first, ih inRest⟩

/-- The terms that a condition adds hold what was in the condition, or values. -/
theorem plain_terms (connector : Connector) (negated : Bool) {f : Filter Attached}
    (given : ∀ part ∈ f.operands, part.Plain) :
    ∀ part ∈ Term.operandsList (f.terms target connector negated).value, part.Plain := by
  -- A term alone holds the operands of its condition.
  have single {condition : Condition Attached}
      (inside : ∀ part ∈ condition.operands, part.Plain) :
      ∀ part ∈ Term.operandsList [⟨connector, negated, condition⟩], part.Plain := by
    rwa [Term.operandsList, Term.operandsList, List.append_nil]
  cases f with
  | compare column operator value =>
    obtain ⟨inColumn, inValue⟩ := List.forall_mem_append.mp given
    rw [terms, Build.value_bind, Build.value_pure, operandsList_term]
    exact plain_compared target operator inColumn inValue
  | isIn column values =>
    obtain ⟨inColumn, inValues⟩ := List.forall_mem_append.mp given
    rw [terms, Build.value_bind, Build.value_bind, Build.value_bind, Build.value_pure,
      operandsList_term, flipOperands_map]
    exact plain_membership (Column.plain_resolve target inColumn)
      (Operand.plain_resolve target inValues)
  | null column => exact single (Column.plain_resolve target given)
  | between column low high =>
    exact single (Condition.plain_resolve target (.between column low high) given)
  | «exists» query =>
    have inQuery := Operand.plain_resolve target given
    rw [terms, Build.value_bind]
    split
    · exact single inQuery
    · exact fun _ member => absurd member List.not_mem_nil
  | object row =>
    have pairs := plain_pairTerms target negated given
    cases connector with
    | and => exact pairs
    | or =>
      rw [terms, Build.value_bind, Build.value_pure]
      split
      · exact fun _ member => absurd member List.not_mem_nil
      · rwa [Term.operandsList, Term.operandsList, List.append_nil]
  | raw fragment => exact single (fragment.plain_resolve target given)
  | literal b => exact single fun _ member => absurd member List.not_mem_nil

end Filter

/-! ### Operations -/

/-- Every operand of a statement is plain. -/
def Statement.Plain (s : Statement) : Prop :=
  ∀ operand ∈ s.operands, operand.Plain

/-- A plain statement nests no other one. -/
theorem Statement.Plain.all {s : Statement} (plain : s.Plain) {P : Statement → Prop}
    (here : P s) : s.All P :=
  .intro here fun _ member => by cases plain _ member

namespace Builder

variable (target : Target)

theorem plain_unionParts (all wrap : Bool) {queries : List (Operand Attached)}
    (given : ∀ part ∈ queries.flatMap Operand.operands, part.Plain) :
    ∀ part ∈ (unionParts target all wrap queries).value.flatMap (·.query.operands),
      part.Plain := by
  induction queries with
  | nil => exact fun _ member => absurd member List.not_mem_nil
  | cons query rest ih =>
    rw [List.flatMap_cons] at given
    obtain ⟨inFirst, inRest⟩ := List.forall_mem_append.mp given
    rw [unionParts, Build.value_bind]
    split
    · exact List.forall_mem_append.mpr ⟨Operand.plain_resolve target inFirst, ih inRest⟩
    · exact ih inRest

theorem plain_insertPayload {payload : InsertPayload Attached}
    (given : ∀ part ∈ payload.operands, part.Plain) :
    ∀ part ∈ (insertPayload target payload).value.operands, part.Plain := by
  cases payload with
  | rows table => exact Operand.plain_resolveRows target given
  | query query =>
    have inQuery := Operand.plain_resolve target given
    rw [insertPayload, Build.value_bind]
    split
    · exact inQuery
    · exact inQuery

theorem plain_definedPairs {row : List (String × Operand Attached)}
    (given : ∀ part ∈ Operand.operandsPairs row, part.Plain) :
    ∀ part ∈ Operand.operandsPairs (definedPairs target row).value, part.Plain := by
  induction row with
  | nil => exact fun _ member => absurd member List.not_mem_nil
  | cons pair rest ih =>
    obtain ⟨name, operand⟩ := pair
    obtain ⟨inFirst, inRest⟩ := List.forall_mem_append.mp given
    have value := Operand.plain_resolve target inFirst
    cases operand with
    | undefined => exact ih inRest
    | value | query | raw => exact List.forall_mem_append.mpr ⟨value, ih inRest⟩

/-- What is attached and put into a plain statement leaves it plain if it is plain itself. -/
theorem plain_attach {α : Type} {b : Builder} {r : Build α} {f : α → Statement → Statement}
    {operands : α → List (Operand Attached)}
    (puts : ∀ x s part, part ∈ (f x s).operands → part ∈ s.operands ∨ part ∈ operands x)
    (plain : b.statement.Plain) (built : ∀ part ∈ operands r.value, part.Plain) :
    (b.attach r f).value.statement.Plain := by
  intro part member
  rcases puts _ _ part member with before | new
  · exact plain part before
  · exact built part new

/-- A plain operation keeps a statement plain. -/
theorem Operation.Plain.plain_apply {op : Operation} (given : op.Plain) {b : Builder}
    (plain : b.statement.Plain) : (op.apply b).statement.Plain := by
  have inside := given.operands
  cases op with
  | or | and | not | withTarget | distinct | withSchema | withAlias | limit | offset | lock
  | transacting | returning | delete | truncate | fail => exact plain
  | group => cases given.group
  | filter clause lead condition =>
    exact plain_attach (b := b.clearModifiers) (fun terms s part => puts_terms s part clause terms)
      plain (condition.plain_terms b.target _ _ inside)
  | aggregate a =>
    have same : ((aggregate a).apply b).statement.operands = b.statement.operands := by
      simp [apply, Builder.aggregate, edit, Statement.operands, Column.operands]
    rwa [Statement.Plain, same]
  | select columns =>
    exact plain_attach (fun columns s part => puts_columns s part columns) plain
      (Column.plain_resolveList b.target inside)
  | source table =>
    exact plain_attach (fun table s part => puts_table s part table) plain
      (Column.plain_resolve b.target inside)
  | join draft =>
    obtain ⟨inTable, inConditions⟩ := List.forall_mem_append.mp inside
    refine plain_attach (fun clause s part => puts_joins s part [.clause clause]) plain ?_
    rw [List.flatMap_singleton]
    exact List.forall_mem_append.mpr ⟨Column.plain_resolve b.target inTable,
      Term.plain_resolveList b.target draft.conditions inConditions⟩
  | joinRaw fragment =>
    refine plain_attach (fun raw s part => puts_joins s part [.raw raw]) plain ?_
    rw [List.flatMap_singleton]
    exact fragment.plain_resolve b.target inside
  | groupBy columns =>
    exact plain_attach (fun columns s part => puts_groups s part columns) plain
      (Column.plain_resolveList b.target inside)
  | orderBy column direction =>
    refine plain_attach (fun ordered s part => puts_orders s part [.column ordered direction])
      plain ?_
    rw [List.flatMap_singleton]
    exact Column.plain_resolve b.target inside
  | orderByRaw fragment =>
    refine plain_attach (fun raw s part => puts_orders s part [.raw raw]) plain ?_
    rw [List.flatMap_singleton]
    exact fragment.plain_resolve b.target inside
  | union queries all wrap =>
    exact plain_attach (fun parts s part => puts_unions s part parts) plain
      (plain_unionParts b.target all wrap inside)
  | insert payload =>
    exact plain_attach (fun payload s part => puts_insert s part payload) plain
      (plain_insertPayload b.target inside)
  | update row =>
    exact plain_attach (fun pairs s part => puts_assignments s part pairs) plain
      (plain_definedPairs b.target inside)

theorem plain_describe {b : Builder} (plain : b.statement.Plain) (description : Json) :
    (b.describe description).value.statement.Plain :=
  describe_induction (P := (·.statement.Plain)) (fun _ _ given => given.plain_apply) plain
    description

end Builder

end PortableSql
