import PortableSql.Proofs.ClauseOrder

/-!
Calls that add a condition.

Such a call takes the modifiers that are waiting and puts terms behind those of its clause, under
the connector that was waiting once its own modifiers are counted. It adds one term at most, except
that the pairs of an object stand side by side under `and`; nothing else in the statement changes
(`Call.run_adds`). The calls of a group are run on a builder of their own, which knows nothing of
the modifiers that wait outside and keeps its own to itself.
-/

namespace PortableSql

/-! ### The terms of conditions -/

namespace Filter

variable (target : Target) {connector : Connector} {negated : Bool}

/-- What a column and a value are compared for equality by. -/
def equality (column : Column Attached) (value : Operand Attached) : Condition Attached :=
  if value.isNull then .null column else .compare column .equals value

theorem comparison_equals (column : Column Attached) (value : Operand Attached) :
    comparison column .equals value = pure (some (false, equality column value)) := by
  by_cases null : value.isNull <;> simp [comparison, equality, Operator.equals, null]

/-- A comparison for equality is always possible. -/
theorem compared_equals (column : Column Attached) (value : Operand Attached) :
    compared target column "=" value = (do
      let column ← column.resolve target
      let value ← value.resolve target
      return some (false, equality column value)) := by
  unfold compared
  rw [Operator.parse_equals]
  simp only [comparison_equals]

/-- The pairs of a row are compared one by one. -/
theorem value_pairTerms (row : List (String × Operand Attached)) :
    (pairTerms target negated row).value = row.map fun (name, value) =>
      ⟨.and, negated, equality (.name name) (value.resolve target).value⟩ := by
  induction row with
  | nil => rfl
  | cons pair rest ih =>
    obtain ⟨name, value⟩ := pair
    rw [pairTerms, compared_equals, Build.value_bind, Build.value_bind, ih]
    simp [term, Column.resolve]

theorem length_term_le (condition : Option (Bool × Condition Attached)) :
    (term connector negated condition).length ≤ 1 := by
  cases condition <;> simp [term]

theorem connector_of_mem_term {condition : Option (Bool × Condition Attached)}
    {added : Term Attached} (member : added ∈ term connector negated condition) :
    added.connector = connector := by
  rcases condition with _ | ⟨flip, condition⟩
  · cases member
  · obtain rfl := List.mem_singleton.mp member
    rfl

/-- Every term that a condition adds has the connector that it is asked for under. -/
theorem connector_of_mem_terms (f : Filter Attached) {added : Term Attached}
    (member : added ∈ (f.terms target connector negated).value) :
    added.connector = connector := by
  cases f with
  | compare | isIn => exact connector_of_mem_term member
  | null | between | raw | literal =>
    obtain rfl := List.mem_singleton.mp member
    rfl
  | «exists» query =>
    rw [terms, Build.value_bind] at member
    split at member
    · obtain rfl := List.mem_singleton.mp member
      rfl
    · cases member
  | object row =>
    rw [terms, Build.value_bind] at member
    cases connector with
    | and =>
      rw [Build.value_pure, value_pairTerms] at member
      obtain ⟨pair, -, rfl⟩ := List.mem_map.mp member
      rfl
    | or =>
      rw [Build.value_pure] at member
      split at member
      · cases member
      · obtain rfl := List.mem_singleton.mp member
        rfl

/-- Side by side under `and`, the pairs of an object are as many terms. -/
theorem length_terms_object (row : List (String × Operand Attached)) :
    ((object row).terms target .and negated).value.length = row.length := by
  rw [terms, Build.value_bind, Build.value_pure, value_pairTerms, List.length_map]

/-- Everything else is one term at most. -/
theorem length_terms_le (f : Filter Attached)
    (single : ∀ row, f = .object row → connector = .or) :
    (f.terms target connector negated).value.length ≤ 1 := by
  cases f with
  | compare | isIn => exact length_term_le _
  | null | between | raw | literal => exact Nat.le_refl 1
  | «exists» query =>
    rw [terms, Build.value_bind]
    split
    · exact Nat.le_refl 1
    · exact Nat.zero_le 1
  | object row =>
    obtain rfl := single row rfl
    rw [terms, Build.value_bind, Build.value_pure]
    split
    · exact Nat.zero_le 1
    · exact Nat.le_refl 1

end Filter

/-! ### The builder after a condition -/

namespace Builder

/-- The same builder with other modifiers waiting. -/
def await (b : Builder) (connector : Connector) (negated : Bool) : Builder :=
  { b with connector, negated }

variable (b : Builder) (clause : FilterClause) (lead : Lead)

/-- Of what is built, the events leave the builder alone. -/
theorem value_attach_congr {first second : Build (List (Term Attached))}
    (value : first.value = second.value) (fault : first.fault = second.fault) :
    (b.attach first (addTerms clause)).value = (b.attach second (addTerms clause)).value := by
  unfold attach
  dsimp only
  rw [value, fault]

/-- Of the builder that was made for a group, its statement alone counts. -/
theorem group_congr {built other : Logged Builder}
    (same : built.value.statement = other.value.statement) :
    (b.group clause lead built).value = (b.group clause lead other).value := by
  have conditions : built.value.groupConditions = other.value.groupConditions := by
    unfold groupConditions fault
    rw [same]
  refine b.clearModifiers.value_attach_congr clause ?_ ?_
  · simp only [Build.ofLogged, Build.value_bind, conditions]
  · simp only [Build.ofLogged, Build.fault_bind, conditions]

end Builder

/-- Modifiers leave the statement alone. -/
theorem Modifier.statement_runAll (modifiers : List Modifier) (b : Builder) :
    (Call.runAll (modifiers.map call) b).value.statement = b.statement := by
  induction modifiers generalizing b with
  | nil => rfl
  | cons modifier rest ih => cases modifier <;> exact ih _

/-! ### Rows as arguments -/

/-- It makes no difference whether the pairs of a row are prepared before or after the last value
for each name is found. -/
theorem Operand.ofPairs_attachPairs (target : Target) (pairs : List (String × Operand Nested)) :
    Keyed.ofPairs (Operand.attachPairs target pairs).value =
      (Operand.attachPairs target (Keyed.ofPairs pairs)).value := by
  rw [attachPairs_value, attachPairs_value]
  exact Keyed.ofPairs_map (fun operand => (attach target operand).value) pairs

/-! ### Calls -/

namespace Call

/-- The clause that a call adds a condition to, and the modifiers that the call brings along. -/
def condition? : Call → Option (FilterClause × Lead)
  | .filter clause lead _ | .group clause lead _ => some (clause, lead)
  | _ => none

/-- How many terms a call may add under a connector: one at most, but those of an object stand side
by side under `and`, a term for each pair. -/
def Adds (connector : Connector) (count : Nat) : Call → Prop
  | .filter _ _ (.object pairs) =>
    match connector with
    | .and => count = (Keyed.ofPairs pairs).length
    | .or => count ≤ 1
  | _ => count ≤ 1

variable {call : Call} {clause : FilterClause} {lead : Lead}

theorem part?_of_condition? (own : call.condition? = some (clause, lead)) :
    call.part? = some clause.part := by
  cases call with
  | filter | group =>
    cases own
    rfl
  | _ => cases own

/-- The terms that a call puts behind those of its clause. -/
theorem exists_added (own : call.condition? = some (clause, lead)) (b : Builder) :
    ∃ added, (call.run b).value.terms clause = b.terms clause ++ added ∧
      call.Adds (b.modifiers lead).1 added.length ∧
      ∀ term ∈ added, term.connector = (b.modifiers lead).1 := by
  cases call with
  | filter clause lead f =>
    cases own
    refine ⟨_, b.terms_filter clause lead (f.attach b.target).value, ?_, fun term member =>
      Filter.connector_of_mem_terms _ _ member⟩
    generalize (b.modifiers lead).2 = negated
    cases f with
    | object pairs =>
      cases connector : (b.modifiers lead).1 with
      | or => exact Filter.length_terms_le _ _ fun _ _ => rfl
      | and =>
        have row : (Filter.attach b.target (.object pairs)).value =
            .object (Operand.attachPairs b.target (Keyed.ofPairs pairs)).value :=
          congrArg Filter.object (Operand.ofPairs_attachPairs b.target pairs)
        rw [row]
        refine (Filter.length_terms_object _ _).trans ?_
        rw [Operand.attachPairs_value, List.length_map]
    | _ => exact Filter.length_terms_le _ _ fun _ object => by cases object
  | group clause lead calls =>
    cases own
    refine ⟨_, b.terms_group clause lead _, ?_, fun term member => ?_⟩
    · unfold Term.grouped
      split
      · exact Nat.zero_le 1
      · exact Nat.le_refl 1
    · unfold Term.grouped at member
      split at member
      · cases member
      · obtain rfl := List.mem_singleton.mp member
        rfl
  | _ => cases own

/-- After a call that adds a condition no modifier waits. The terms of its clause are those that
were there and then those that are added, which have the connector that was waiting once the
modifiers of the call are counted. No other part changes. What a group adds was made on a fresh
builder, so it is the same whatever waits outside, and modifiers that still wait inside are gone. -/
theorem run_adds (own : call.condition? = some (clause, lead)) (b : Builder) :
    let after := (call.run b).value
    after.Rested ∧
    (∃ added, after.terms clause = b.terms clause ++ added ∧
      call.Adds (b.modifiers lead).1 added.length ∧
      ∀ term ∈ added, term.connector = (b.modifiers lead).1) ∧
    (∀ part, part ≠ clause.part → after.content part = b.content part) ∧
    ∀ calls, call = .group clause lead calls →
      (∀ connector negated,
        let waiting := (b.await connector negated).modifiers lead
        let outcome := (call.run (b.await connector negated)).value
        outcome.terms clause = b.terms clause ++ Term.grouped waiting.1 waiting.2
          (runAll calls (.start b.target)).value.groupConditions.value ∧
        outcome.fault = after.fault) ∧
      ∀ modifiers : List Modifier,
        ((group clause lead (calls ++ modifiers.map Modifier.call)).run b).value = after := by
  intro after
  have part := part?_of_condition? own
  have taken : call.addsCondition = true := by
    cases call with
    | filter | group => rfl
    | _ => cases own
  refine ⟨?_, exists_added own b, fun other => (content_run_of_ne part · b), ?_⟩
  · exact rested_run part fun plain => absurd (taken.symm.trans plain) Bool.noConfusion
  · rintro calls rfl
    refine ⟨fun connector negated => ⟨?_, ?_⟩, fun modifiers => ?_⟩
    · exact (b.await connector negated).terms_group clause lead _
    · cases clause <;> rfl
    · refine b.group_congr clause lead ?_
      rw [runAll_append, Modifier.statement_runAll]

/-- A negated group joined by `or`, in which another `or` is left waiting. -/
theorem run_adds_group :
    let b := (runAll [.filter .wheres {} (.null (.name "a")), .or] (.start {})).value
    let calls : List Call := [.filter .wheres {} (.null (.name "b"))]
    let after := ((group .wheres { negated := true } calls).run b).value
    (group .wheres { negated := true } calls).condition? = some (.wheres, { negated := true }) ∧
      after.Rested ∧
      after.terms .wheres = [⟨.and, false, .null (.name "a")⟩,
        ⟨.or, true, .group [⟨.and, false, .null (.name "b")⟩]⟩] ∧
      ((group .wheres { negated := true } (calls ++ [.or])).run b).value = after := by
  intro b calls after
  obtain ⟨rested, -, -, grouped⟩ := @run_adds (group .wheres { negated := true } calls) _ _ rfl b
  obtain ⟨outside, inside⟩ := grouped calls rfl
  exact ⟨rfl, rested, (outside .or false).1, inside [.or]⟩

end Call

end PortableSql
