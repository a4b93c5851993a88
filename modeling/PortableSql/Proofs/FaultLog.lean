import PortableSql.Proofs.Adoption

/-!
The faults of operations.

`Operation.faults` lists what is wrong with an operation in the order in which it is found: what the
statements nested in its arguments bring along, and what does not fit. The first entry is recorded
unless the builder has a fault already. An operation without faults adds no statement with a fault.
Callbacks are run for the target of the builder, so the faults depend on it.
-/

namespace PortableSql

variable {σ : Type}

/-! ### Faults of conditions -/

namespace Filter

/-- The faults of a comparison: that of its operator, or those of its operands. -/
def comparedFaults (target : Target) (column : Column Attached) (operator : String)
    (value : Operand Attached) : List Fault :=
  match Operator.parse operator with
  | .error fault => [fault]
  | .ok operator =>
    attachedFaults target column.operands ++ (attachedFaults target value.operands ++
      comparisonFaults operator value)

/-- The faults of a condition as asked for. -/
def faults (target : Target) : Filter Attached → List Fault
  | .compare column operator value => comparedFaults target column operator value
  | .isIn column values =>
    attachedFaults target column.operands ++
      (attachedFaults target values.operands ++ membershipFaults values)
  | .exists query =>
    attachedFaults target query.operands ++ if query.isQuery then [] else [.existsOperand]
  | .object row => row.flatMap fun (name, value) => comparedFaults target (.name name) "=" value
  | condition => attachedFaults target condition.operands

end Filter

section Resolved

variable (target : Target) (operand : Operand Attached)

/-- An operand that has to be a statement or a fragment is attached first and then refused. -/
theorem Operand.adopts_checked {β : Type} {g : β → List (Operand Attached)}
    {before : List (Operand Attached)} {ys : List (Operand Attached)} {fs : List Fault}
    {good bad : Operand Attached → Build β} (fault : Fault)
    (fits : ∀ q : Operand Attached, (good q).Adopts target g (q.operands ++ before) ys fs)
    (refused : ∀ q : Operand Attached, (bad q).Adopts target g (q.operands ++ before) ys fs) :
    Build.Adopts (do
      let q ← operand.resolve target
      if q.isQuery then
        good q
      else do
        Build.fail fault
        bad q)
      target g before (operand.operands ++ ys)
      (attachedFaults target operand.operands ++
        ((if operand.isQuery then [] else [fault]) ++ fs)) := by
  refine (operand.attaches_resolve target before).bind ?_
  rw [isQuery_resolve]
  split
  · exact fits _
  · exact (Build.Adopts.fail fault).bind (refused _)

theorem Filter.membershipFaults_resolve :
    membershipFaults (operand.resolve target).value = membershipFaults operand := by
  cases operand <;> rfl

theorem Filter.rangeFaults_resolve :
    rangeFaults (operand.resolve target).value = rangeFaults operand := by
  cases operand <;> rfl

theorem Filter.comparisonFaults_resolve (operator : Operator) :
    comparisonFaults operator (operand.resolve target).value =
      comparisonFaults operator operand := by
  unfold comparisonFaults
  rw [membershipFaults_resolve, rangeFaults_resolve]

end Resolved

/-! ### Conditions adopt what they attach -/

namespace Filter

/-- The operands of a condition that may be missing. -/
def optionOperands (condition : Option (Condition Attached)) : List (Operand Attached) :=
  condition.toList.flatMap Condition.operands

/-- The operands of a condition that comes with a flip of its negation. -/
def flipOperands (condition : Option (Bool × Condition Attached)) : List (Operand Attached) :=
  condition.toList.flatMap (·.2.operands)

theorem flipOperands_map (flip : Bool) (condition : Option (Condition Attached)) :
    flipOperands (condition.map (flip, ·)) = optionOperands condition := by
  cases condition <;> rfl

theorem operandsList_term (connector : Connector) (negated : Bool)
    (condition : Option (Bool × Condition Attached)) :
    Term.operandsList (term connector negated condition) = flipOperands condition := by
  rcases condition with _ | ⟨flip, condition⟩ <;> simp [term, Term.operandsList, flipOperands]

section

variable {target : Target} {before : List (Operand Attached)} {column : Column Attached}
  {value : Operand Attached}
  (inColumn : ∀ a, .query a ∈ column.operands → .query a ∈ before)
  (inValue : ∀ a, .query a ∈ value.operands → .query a ∈ before)

include inColumn inValue

theorem adopts_membership :
    (membership column value).Adopts target optionOperands before [] (membershipFaults value) := by
  cases value with
  | value v =>
    cases v <;> exact .pure fun a member => inColumn a (by
      simpa [optionOperands, Condition.operands, Operand.operands] using member)
  | undefined => exact (Build.Adopts.fail _).map (by simp [optionOperands])
  | query | raw =>
    refine .pure fun a member => ?_
    simp only [optionOperands, Option.toList, List.flatMap_cons, List.flatMap_nil, List.append_nil,
      Condition.operands, List.mem_append] at member
    exact member.elim (inColumn a) (inValue a)

omit inValue in
theorem adopts_range :
    (range column value).Adopts target optionOperands before [] (rangeFaults value) := by
  unfold range
  split
  · exact .pure fun a member => inColumn a (by
      simpa [optionOperands, Condition.operands, Operand.operands] using member)
  · rename_i unbounded
    rw [rangeFaults_eq unbounded]
    exact (Build.Adopts.fail _).map (by simp [optionOperands])

theorem adopts_comparison (operator : Operator) :
    (comparison column operator value).Adopts target flipOperands before []
      (comparisonFaults operator value) := by
  unfold comparison comparisonFaults
  dsimp only
  split
  · refine (adopts_membership inColumn inValue).map fun a member => .inl ?_
    rwa [flipOperands_map] at member
  · split
    · refine (adopts_range inColumn).map fun a member => .inl ?_
      rwa [flipOperands_map] at member
    · split
      · refine .pure fun a member => inColumn a ?_
        simpa [flipOperands, Condition.operands] using member
      · refine .pure fun a member => ?_
        simp only [flipOperands, Option.toList, List.flatMap_cons, List.flatMap_nil,
          List.append_nil, Condition.operands, List.mem_append] at member
        exact member.elim (inColumn a) (inValue a)

end

variable (target : Target)

theorem adopts_compared (before : List (Operand Attached)) (column : Column Attached)
    (operator : String) (value : Operand Attached) :
    (compared target column operator value).Adopts target flipOperands before
      (column.operands ++ value.operands) (comparedFaults target column operator value) := by
  unfold compared comparedFaults
  cases Operator.parse operator with
  | error fault =>
    exact ((Build.Adopts.fail fault).map (by simp [flipOperands])).of_eq (by simp) rfl
  | ok operator =>
    refine ((column.attaches_resolve target before).bind ((value.attaches_resolve target _).bind
      (adopts_comparison ?_ ?_ operator))).of_eq ?_ ?_
    · exact fun a member => List.mem_append_right _ (List.mem_append_left _ member)
    · exact fun a member => List.mem_append_left _ member
    · simp
    · rw [comparisonFaults_resolve]

theorem adopts_pairTerms (before : List (Operand Attached)) (negated : Bool)
    (row : List (String × Operand Attached)) :
    (pairTerms target negated row).Adopts target Term.operandsList before
      (Operand.operandsPairs row)
      (row.flatMap fun (name, value) => comparedFaults target (.name name) "=" value) := by
  induction row generalizing before with
  | nil => exact .pure (by simp [Term.operandsList])
  | cons pair rest ih =>
    obtain ⟨name, value⟩ := pair
    refine (adopts_compared target before (.name name) "=" value).both (ih _)
      fun a member => .inl ?_
    rwa [Term.operandsList_eq_flatMap, List.flatMap_append, ← Term.operandsList_eq_flatMap,
      ← Term.operandsList_eq_flatMap, operandsList_term] at member

theorem adopts_terms (connector : Connector) (negated : Bool) (f : Filter Attached) :
    (f.terms target connector negated).Adopts target Term.operandsList [] f.operands
      (f.faults target) := by
  cases f with
  | compare column operator value =>
    refine (adopts_compared target [] column operator value).map fun a member => .inl ?_
    rwa [operandsList_term] at member
  | isIn column values =>
    refine ((column.attaches_resolve target []).bind ((values.attaches_resolve target _).bind
      ((adopts_membership ?_ ?_).map fun a member => .inl ?_))).of_eq ?_ ?_
    · exact fun a member => List.mem_append_right _ (List.mem_append_left _ member)
    · exact fun a member => List.mem_append_left _ member
    · rwa [operandsList_term, flipOperands_map] at member
    · simp [operands]
    · rw [membershipFaults_resolve, faults]
  | null column =>
    refine (column.attaches_resolve target []).map fun a member => .inl ?_
    simpa [Term.operandsList, Condition.operands] using member
  | between column low high =>
    refine ((column.attaches_resolve target []).bind ((low.attaches_resolve target _).bind
      ((high.attaches_resolve target _).map fun a member => ?_))).of_eq ?_ ?_
    · simp only [Term.operandsList, Condition.operands, List.append_nil, List.mem_append]
        at member ⊢
      grind
    · simp [operands]
    · simp [faults, operands]
  | «exists» query =>
    refine (query.adopts_checked target .existsOperand (fun q => .pure fun a member => ?_)
      fun q => .pure (by simp [Term.operandsList])).of_eq (by simp [operands]) ?_
    · refine List.mem_append_left _ ?_
      simpa [Term.operandsList, Condition.operands] using member
    · rw [List.append_nil, faults]
  | object row =>
    have pairs := adopts_pairTerms target [] negated row
    cases connector with
    | and => exact pairs.map fun _ => .inl
    | or =>
      refine pairs.map fun a member => .inl ?_
      split at member
      · simp [Term.operandsList] at member
      · simpa [Term.operandsList, Condition.operands] using member
  | raw fragment =>
    refine (fragment.attaches_resolve_raw target []).map fun a member => .inl ?_
    simpa [Term.operandsList, Condition.operands] using member
  | literal b => exact .pure (by simp [Term.operandsList, Condition.operands])

end Filter

/-! ### Other parts -/

/-- The faults of a join under construction: its own, and those of what it attaches. -/
def JoinDraft.faults (target : Target) (draft : JoinDraft) : List Fault :=
  draft.fault.toList ++ attachedFaults target draft.operands

/-- The faults of queries that are to be appended by unions. -/
def Operand.unionFaults (target : Target) (queries : List (Operand Attached)) : List Fault :=
  queries.flatMap fun query =>
    attachedFaults target query.operands ++ if query.isQuery then [] else [.unionOperand]

/-- The faults of what an insert writes. -/
def InsertPayload.faults (target : Target) : InsertPayload Attached → List Fault
  | .rows table => attachedFaults target (table.flatMap Operand.operandsPairs)
  | .query source =>
    attachedFaults target source.operands ++ if source.isQuery then [] else [.insertOperand]

section Parts

variable (target : Target)

theorem JoinDraft.adopts_resolve (draft : JoinDraft) :
    (draft.resolve target).Adopts target (fun clause => Join.operands (.clause clause)) []
      draft.operands (draft.faults target) := by
  refine ((Build.Adopts.inherit draft.fault).bind
    ((draft.table.attaches_resolve target _).both (Term.attaches_resolveList target _ _)
      fun a => .inl)).of_eq ?_ ?_
  · exact fun a member => by simpa [operands] using member
  · rw [faults, operands, attachedFaults_append]

theorem Builder.adopts_unionParts (all wrap : Bool) (before : List (Operand Attached))
    (queries : List (Operand Attached)) :
    (unionParts target all wrap queries).Adopts target (·.flatMap (·.query.operands)) before
      (queries.flatMap Operand.operands) (Operand.unionFaults target queries) := by
  induction queries generalizing before with
  | nil => exact .pure (by simp)
  | cons query rest ih =>
    refine (query.adopts_checked target .unionOperand
      (fun q => (ih _).map fun a member => ?_) fun q => ih _).of_eq (fun a => ?_) ?_
    · rw [List.flatMap_cons, List.mem_append] at member
      exact member.elim (fun inQuery => .inr (List.mem_append_left _ inQuery)) .inl
    · rw [List.flatMap_cons]
      exact id
    · rw [Operand.unionFaults, Operand.unionFaults, List.flatMap_cons, List.append_assoc]

theorem Builder.adopts_insertPayload (payload : InsertPayload Attached) :
    (insertPayload target payload).Adopts target InsertPayload.operands [] payload.operands
      (payload.faults target) := by
  cases payload with
  | rows table =>
    refine (Operand.attaches_resolveRows target [] table).map fun a member => .inl ?_
    simpa [InsertPayload.operands] using member
  | query query =>
    have kept (q : Operand Attached) : Build.Adopts (pure (InsertPayload.query q)) target
        InsertPayload.operands (q.operands ++ []) [] [] :=
      .pure fun a member => List.mem_append_left _ member
    refine (query.adopts_checked target .insertOperand kept kept).of_eq (fun a member => ?_) ?_
    · simpa [InsertPayload.operands] using member
    · rw [List.append_nil, InsertPayload.faults]

theorem Builder.attaches_definedPairs (before : List (Operand Attached))
    (row : List (String × Operand Attached)) :
    (definedPairs target row).Attaches target Operand.operandsPairs before
      (Operand.operandsPairs row) := by
  induction row generalizing before with
  | nil => exact .pure (by simp [Operand.operandsPairs])
  | cons pair rest ih =>
    obtain ⟨name, operand⟩ := pair
    have value := operand.attaches_resolve target before
    cases operand with
    | undefined =>
      -- An undefined assignment is left out, and it attaches nothing that could bring a fault.
      refine (ih before).of_eq (fun a member => ?_) ?_
      · simpa [Operand.operandsPairs, Operand.operands] using member
      · rfl
    | value | query | raw => exact .both value (ih _) fun _ => .inl

end Parts

/-! ### Operations -/

namespace Builder

/-- What an operation that makes `b` into `b'` does: the first of `faults` is recorded unless `b`
has a fault, and what is nested was nested in `b` or `before`, or it is a statement that comes from
the operands `given` and then the fault that it has is among `faults`. -/
structure Grows (b b' : Builder) (before given : List (Operand Attached)) (faults : List Fault) :
    Prop where
  fault : b'.fault = (b.fault.toList ++ faults).head?
  nested : ∀ a, .query a ∈ b'.statement.operands →
    .query a ∈ b.statement.operands ∨ .query a ∈ before ∨
      ∃ g, .query g ∈ given ∧ a = .prepared (g.statement b.target) ∧
        ∀ fault ∈ (g.statement b.target).fault, fault ∈ faults

namespace Grows

variable {b : Builder}

/-- What leaves the fault and the parts of a statement alone. -/
theorem still {b' : Builder} (fault : b'.fault = b.fault)
    (operands : b'.statement.operands = b.statement.operands) : Grows b b' [] [] [] := by
  refine ⟨?_, fun a member => .inl (operands ▸ member)⟩
  rw [fault, Fault.head?_toList_append_nil]

/-- What is built is put into the statement, and its fault is recorded. -/
theorem attach {α : Type} {r : Build α} {f : α → Statement → Statement}
    {operands : α → List (Operand Attached)} {before given : List (Operand Attached)}
    {faults : List Fault} (adopts : r.Adopts b.target operands before given faults)
    (keeps : ∀ x s, (f x s).fault = s.fault)
    (puts : ∀ x s part, part ∈ (f x s).operands → part ∈ s.operands ∨ part ∈ operands x) :
    Grows b (b.attach r f).value before given faults := by
  refine ⟨?_, fun a member => ?_⟩
  · have recorded : (b.attach r f).value.fault = (b.fault <|> r.fault) := keeps _ _
    rw [recorded, adopts.fault, Fault.head?_toList_append]
  · rcases puts _ _ (.query a) member with inside | inside
    · exact .inl inside
    · exact .inr (adopts.nested a inside)

end Grows

/-! What is added to a part of a statement is all that is new in it. -/

section Putting

variable (s : Statement) (part : Operand Attached)

theorem puts_columns (columns : List (Column Attached))
    (member : part ∈ { s with columns := s.columns ++ columns }.operands) :
    part ∈ s.operands ∨ part ∈ columns.flatMap Column.operands := by
  simp only [Statement.operands, List.flatMap_append, List.mem_append] at member ⊢
  grind

theorem puts_joins (joins : List (Join Attached))
    (member : part ∈ { s with joins := s.joins ++ joins }.operands) :
    part ∈ s.operands ∨ part ∈ joins.flatMap Join.operands := by
  simp only [Statement.operands, List.flatMap_append, List.mem_append] at member ⊢
  grind

theorem puts_groups (groups : List (Column Attached))
    (member : part ∈ { s with groups := s.groups ++ groups }.operands) :
    part ∈ s.operands ∨ part ∈ groups.flatMap Column.operands := by
  simp only [Statement.operands, List.flatMap_append, List.mem_append] at member ⊢
  grind

theorem puts_orders (orders : List (Order Attached))
    (member : part ∈ { s with orders := s.orders ++ orders }.operands) :
    part ∈ s.operands ∨ part ∈ orders.flatMap Order.operands := by
  simp only [Statement.operands, List.flatMap_append, List.mem_append] at member ⊢
  grind

theorem puts_unions (unions : List (UnionPart Attached))
    (member : part ∈ { s with unions := s.unions ++ unions }.operands) :
    part ∈ s.operands ∨ part ∈ unions.flatMap (·.query.operands) := by
  simp only [Statement.operands, List.flatMap_append, List.mem_append] at member ⊢
  grind

theorem puts_terms (clause : FilterClause) (terms : List (Term Attached))
    (member : part ∈ (addTerms clause terms s).operands) :
    part ∈ s.operands ∨ part ∈ Term.operandsList terms := by
  cases clause <;>
    simp only [addTerms, Statement.operands, Term.operandsList_eq_flatMap, List.flatMap_append,
      List.mem_append] at member ⊢ <;> grind

theorem puts_table (table : Column Attached)
    (member : part ∈ { s with table := some table }.operands) :
    part ∈ s.operands ∨ part ∈ table.operands := by
  simp only [Statement.operands, Option.toList, List.flatMap_cons, List.flatMap_nil,
    List.append_nil, List.mem_append] at member ⊢
  grind

theorem puts_insert (payload : InsertPayload Attached)
    (member : part ∈ { s with kind := .insert, insert := some payload }.operands) :
    part ∈ s.operands ∨ part ∈ payload.operands := by
  simp only [Statement.operands, Option.toList, List.flatMap_cons, List.flatMap_nil,
    List.append_nil, List.mem_append] at member ⊢
  grind

theorem puts_assignments (pairs : List (String × Operand Attached))
    (member : part ∈ { s with
      kind := .update, assignments := Keyed.insertAll s.assignments pairs }.operands) :
    part ∈ s.operands ∨ part ∈ Operand.operandsPairs pairs := by
  simp only [Statement.operands, List.mem_append] at member ⊢
  rcases member with elsewhere | assigned
  · exact .inl (.inl elsewhere)
  · exact (Operand.mem_operandsPairs_insertAll assigned).imp_left .inr

end Putting

/-- What is wrong with a statement whose conditions are to become a group: that it has conditions of
both clauses. -/
def mixedFaults (s : Statement) : List Fault :=
  if s.wheres.isEmpty ∨ s.havings.isEmpty then [] else [.mixedGroup]

/-- The faults of a builder whose conditions are to become a group. -/
def groupFaults (built : Builder) : List Fault :=
  built.fault.toList ++ mixedFaults built.statement

namespace Operation

/-- The faults of an operation on a builder with a target, in the order in which they are found. -/
def faults (target : Target) : Operation → List Fault
  | .filter _ _ condition => condition.faults target
  | .group _ _ built => groupFaults built.value
  | .join draft => draft.faults target
  | .union queries _ _ => Operand.unionFaults target queries
  | .insert payload => payload.faults target
  | .fail fault => [fault]
  | op => attachedFaults target op.operands

/-- The operands of the builder whose conditions an operation makes a group of. -/
def builtOperands (op : Operation) : List (Operand Attached) :=
  op.built?.toList.flatMap (·.statement.operands)

theorem groupFaults_of_built? {op : Operation} {built : Builder} {target : Target}
    (isBuilt : built ∈ op.built?) : op.faults target = groupFaults built := by
  cases op with
  | group => cases isBuilt; rfl
  | _ => cases isBuilt

theorem grows_filter (b : Builder) (clause : FilterClause) (lead : Lead)
    (condition : Filter Attached) :
    Grows b (b.filter clause lead condition).value [] condition.operands
      (condition.faults b.target) := by
  have attached := Grows.attach (b := b.clearModifiers) (f := addTerms clause)
    (condition.adopts_terms b.target (b.modifiers lead).1 (b.modifiers lead).2)
    (fun _ _ => by cases clause <;> rfl) fun terms s part => puts_terms s part clause terms
  exact ⟨attached.fault, attached.nested⟩

theorem adopts_groupConditions (target : Target) (built : Builder)
    (before : List (Operand Attached)) :
    built.groupConditions.Adopts target Term.operandsList (built.statement.operands ++ before) []
      (groupFaults built) := by
  have inWheres (a : Attached) (member : .query a ∈ Term.operandsList built.statement.wheres) :
      .query a ∈ built.statement.operands := by
    simp [Statement.operands, member]
  have inHavings (a : Attached) (member : .query a ∈ Term.operandsList built.statement.havings) :
      .query a ∈ built.statement.operands := by
    simp [Statement.operands, member]
  refine (Build.Adopts.inherit built.fault).bind ?_
  split
  · rename_i wheres same
    rw [mixedFaults, same, List.isEmpty_nil, if_pos (.inr rfl)]
    exact .pure fun a member => List.mem_append_left before (inWheres a member)
  · rename_i havings same _
    rw [mixedFaults, same, List.isEmpty_nil, if_pos (.inl rfl)]
    exact .pure fun a member => List.mem_append_left before (inHavings a member)
  · rename_i someWheres someHavings
    have mixed : ¬ (built.statement.wheres.isEmpty = true ∨
        built.statement.havings.isEmpty = true) := by
      rw [List.isEmpty_iff, List.isEmpty_iff, not_or]
      exact ⟨someWheres, someHavings⟩
    rw [mixedFaults, if_neg mixed]
    exact (Build.Adopts.fail _).map (by simp [Term.operandsList])

theorem grows_group (b : Builder) (clause : FilterClause) (lead : Lead) (built : Logged Builder) :
    Grows b (b.group clause lead built).value built.value.statement.operands []
      (groupFaults built.value) := by
  have terms : Build.Adopts (do
      let inner ← Build.ofLogged built
      let conditions ← inner.groupConditions
      return if conditions.isEmpty then []
        else [⟨(b.modifiers lead).1, (b.modifiers lead).2, .group conditions⟩])
      b.target Term.operandsList built.value.statement.operands [] (groupFaults built.value) := by
    have inner : (Build.ofLogged built).Adopts b.target (·.statement.operands)
        built.value.statement.operands [] [] := ⟨rfl, fun a member => .inl member⟩
    refine inner.bind ((adopts_groupConditions b.target built.value _).map fun a member => .inl ?_)
    split at member
    · simp [Term.operandsList] at member
    · simpa [Term.operandsList, Condition.operands] using member
  have attached := Grows.attach (b := b.clearModifiers) (f := addTerms clause) terms
    (fun _ _ => by cases clause <;> rfl) fun terms s part => puts_terms s part clause terms
  exact ⟨attached.fault, attached.nested⟩

theorem grows_fail (b : Builder) (fault : Fault) : Grows b (b.fail fault) [] [] [fault] := by
  refine ⟨?_, fun a member => .inl member⟩
  rw [Fault.head?_toList_append]
  rfl

/-- Every operation records the first of its faults, and brings in no other statements than those in
its arguments. -/
theorem grows (op : Operation) (b : Builder) :
    Grows b (op.apply b) op.builtOperands op.operands (op.faults b.target) := by
  cases op with
  | or | and | not | withTarget | distinct | withSchema | withAlias | limit | offset | lock
  | transacting | returning | delete | truncate => exact .still rfl rfl
  | filter clause lead condition => exact grows_filter b clause lead condition
  | group clause lead built =>
    have same : builtOperands (.group clause lead built) = built.value.statement.operands := by
      simp [builtOperands, built?]
    rw [same]
    exact grows_group b clause lead built
  | fail fault => exact grows_fail b fault
  | aggregate a =>
    refine .still rfl ?_
    simp [apply, Builder.aggregate, edit, Statement.operands, Column.operands]
  | select columns =>
    exact .attach (Column.attaches_resolveList _ [] columns) (fun _ _ => rfl)
      fun columns s part => puts_columns s part columns
  | source table =>
    exact .attach (table.attaches_resolve _ []) (fun _ _ => rfl)
      fun table s part => puts_table s part table
  | join draft =>
    refine .attach (draft.adopts_resolve _) (fun _ _ => rfl) fun clause s part member => ?_
    simpa using puts_joins s part [.clause clause] member
  | joinRaw fragment =>
    refine .attach (fragment.attaches_resolve_raw _ []) (fun _ _ => rfl) fun raw s part member => ?_
    simpa [Join.operands] using puts_joins s part [.raw raw] member
  | groupBy columns =>
    exact .attach (Column.attaches_resolveList _ [] columns) (fun _ _ => rfl)
      fun columns s part => puts_groups s part columns
  | orderBy column direction =>
    refine .attach (column.attaches_resolve _ []) (fun _ _ => rfl) fun ordered s part member => ?_
    simpa [Order.operands] using puts_orders s part [.column ordered direction] member
  | orderByRaw fragment =>
    refine .attach (fragment.attaches_resolve_raw _ []) (fun _ _ => rfl) fun raw s part member => ?_
    simpa [Order.operands] using puts_orders s part [.raw raw] member
  | union queries all wrap =>
    exact .attach (adopts_unionParts _ all wrap [] queries) (fun _ _ => rfl)
      fun parts s part => puts_unions s part parts
  | insert payload =>
    exact .attach (adopts_insertPayload _ payload) (fun _ _ => rfl)
      fun payload s part => puts_insert s part payload
  | update row =>
    exact .attach (attaches_definedPairs _ [] row) (fun _ _ => rfl)
      fun pairs s part => puts_assignments s part pairs

end Operation

end Builder

/-! ### Plain operations -/

/-- Operands that a document can hold attach nothing. -/
theorem attachedFaults_of_plain {operands : List (Operand Attached)}
    (plain : ∀ operand ∈ operands, operand.Plain) (target : Target) :
    attachedFaults target operands = [] := by
  refine List.filterMap_eq_nil_iff.mpr fun operand member => ?_
  cases plain operand member <;> rfl

theorem Filter.faults_of_plain {condition : Filter Attached}
    (plain : ∀ operand ∈ condition.operands, operand.Plain) (target : Target) :
    condition.faults target = condition.ownFaults := by
  cases condition with
  | compare column operator value =>
    obtain ⟨inColumn, inValue⟩ := List.forall_mem_append.mp plain
    change comparedFaults target column operator value = operatorFaults operator value
    unfold comparedFaults operatorFaults
    cases Operator.parse operator with
    | error fault => rfl
    | ok operator =>
      dsimp only
      rw [attachedFaults_of_plain inColumn, attachedFaults_of_plain inValue]
      rfl
  | isIn column values =>
    obtain ⟨inColumn, inValues⟩ := List.forall_mem_append.mp plain
    rw [Filter.faults, attachedFaults_of_plain inColumn, attachedFaults_of_plain inValues]
    rfl
  | «exists» query => exact congrArg (· ++ _) (attachedFaults_of_plain plain target)
  | object row =>
    rw [Filter.operands, Operand.operandsPairs_eq_flatMap] at plain
    refine List.flatMap_eq_nil_iff.mpr fun pair member => ?_
    have none := attachedFaults_of_plain (fun operand inside =>
      plain operand (List.mem_flatMap.mpr ⟨pair, member, inside⟩)) target
    unfold comparedFaults
    rw [Operator.parse_equals]
    dsimp only
    rw [none]
    rfl
  | null | between | raw | literal => exact attachedFaults_of_plain plain target

open Builder (Operation) in
/-- All that is wrong with a plain operation is what does not fit in it. -/
theorem Builder.Operation.Plain.faults_eq {op : Operation} (plain : op.Plain) (target : Target) :
    op.faults target = op.ownFaults := by
  have none := attachedFaults_of_plain plain.operands target
  cases op with
  | filter clause lead condition => exact Filter.faults_of_plain plain.operands target
  | group => cases plain.group
  | join draft =>
    rw [faults, JoinDraft.faults]
    exact (congrArg _ none).trans (List.append_nil _)
  | union queries all wrap =>
    refine congrArg List.flatten (List.map_congr_left fun query member => ?_)
    rw [attachedFaults_of_plain fun operand inside =>
      plain.operands operand (List.mem_flatMap.mpr ⟨query, member, inside⟩), List.nil_append]
  | insert payload =>
    cases payload with
    | rows table => exact none
    | query source => exact congrArg (· ++ _) none
  | _ => first | exact none | rfl

end PortableSql
