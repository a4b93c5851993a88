import PortableSql.Proofs.ConditionCalls

/-!
An object is its pairs.

An object asks for a comparison for equality for each pair of a row. Under `and` they stand side by
side, and the builder is the same as after a call for each pair. Under `or` they are a group, and
the builder is the same as after a call of a group with these calls (`Call.run_object`).
-/

namespace PortableSql

/-- The pairs of a row are compared one after another. -/
theorem Filter.pairTerms_cons (target : Target) (negated : Bool) (name : String)
    (value : Operand Attached) (rest : List (String × Operand Attached)) :
    pairTerms target negated ((name, value) :: rest) = do
      return (← (equal (.name name) value).terms target .and negated) ++
        (← pairTerms target negated rest) := by
  simp [pairTerms, equal, terms]

/-! ### What is built for a clause -/

namespace Builder

variable (b : Builder) (clause : FilterClause)

theorem attach_nothing : (b.attach (pure []) (addTerms clause)).value = b := by
  obtain ⟨target, ⟨settings, _⟩, connector, negated⟩ := b
  cases clause <;> simp [attach, edit, addTerms, Statement.record]

theorem Rested.clearModifiers {b : Builder} (rested : b.Rested) : b.clearModifiers = b := by
  obtain ⟨connector, negated⟩ := rested
  unfold Builder.clearModifiers
  rw [← connector, ← negated]

/-- What is built in two steps is attached in two steps. -/
theorem attach_append (first second : Build (List (Term Attached))) :
    (b.attach (do return (← first) ++ (← second)) (addTerms clause)).value =
      ((b.attach first (addTerms clause)).value.attach second (addTerms clause)).value := by
  cases clause <;> simp [attach, edit, addTerms, Statement.record, Option.or_assoc]

/-- The conditions of a fresh builder are what was built for one of its clauses. -/
theorem groupConditions_attach (target : Target) (built : Build (List (Term Attached))) :
    let conditions := ((start target).attach built (addTerms clause)).value.groupConditions
    conditions.value = built.value ∧ conditions.fault = built.fault := by
  cases found : built.value <;> cases clause <;>
    simp [groupConditions, attach, edit, addTerms, Statement.record, start, Statement.empty, fault,
      Build.inherit, found]

/-- A group of what was built for one clause of a fresh builder. -/
theorem group_attach (lead : Lead) {made : Logged Builder} {target : Target}
    {built : Build (List (Term Attached))}
    (fresh : made.value = ((start target).attach built (addTerms clause)).value) :
    (b.group clause lead made).value = (b.clearModifiers.attach (do
      return Term.grouped (b.modifiers lead).1 (b.modifiers lead).2 (← built))
      (addTerms clause)).value := by
  obtain ⟨value, fault⟩ := groupConditions_attach clause target built
  rw [← fresh] at value fault
  refine b.clearModifiers.value_attach_congr clause ?_ ?_
  · simp only [Build.value_bind, Build.value_pure, Build.ofLogged, value]
    rfl
  · simp only [Build.fault_bind, Build.fault_pure, Build.ofLogged, fault]
    rfl

end Builder

namespace Call

/-- The comparisons that the pairs of a row ask for, as calls of their own. -/
def equalities (clause : FilterClause) (negated : Bool) (row : Keyed (Operand Nested)) :
    List Call :=
  row.map fun (name, value) => .filter clause { negated } (.equal (.name name) value)

variable (clause : FilterClause) (negated : Bool)

/-- A comparison for equality under `and`, whose negation says no more than what waits. -/
theorem run_equality {b : Builder} (connector : b.connector = .and)
    (waiting : (b.negated || negated) = negated) (name : String) (value : Operand Nested) :
    ((filter clause { negated } (.equal (.name name) value)).run b).value =
      (b.clearModifiers.attach ((Filter.equal (.name name) (value.attach b.target).value).terms
        b.target .and negated) (Builder.addTerms clause)).value := by
  have modifiers : b.modifiers { negated } = (.and, negated) := by
    rw [Builder.modifiers, connector, waiting]
    rfl
  change (b.filter clause { negated } _).value = _
  rw [Builder.filter, modifiers]
  rfl

/-- Where no modifier waits, the calls for the pairs build what the pairs are made into. -/
theorem runAll_equalities (row : Keyed (Operand Nested)) {b : Builder} (rested : b.Rested) :
    (runAll (equalities clause negated row) b).value =
      (b.attach (Filter.pairTerms b.target negated
        (Operand.attachPairs b.target row).value) (Builder.addTerms clause)).value := by
  induction row generalizing b with
  | nil => exact (b.attach_nothing clause).symm
  | cons pair rest ih =>
    obtain ⟨name, value⟩ := pair
    have first := run_equality clause negated rested.connector
      (by rw [rested.negated, Bool.false_or]) name value
    rw [rested.clearModifiers] at first
    have later := ih (b := ((filter clause { negated } (.equal (.name name) value)).run b).value)
      ⟨rfl, rfl⟩
    refine later.trans ?_
    rw [first]
    refine (b.attach_append clause _ _).symm.trans ?_
    exact congrArg (fun built => (b.attach built (Builder.addTerms clause)).value)
      (Filter.pairTerms_cons b.target negated name _ _).symm

/-- What waits under `and` is spent on the first call, which brings the same along. -/
theorem runAll_equalities_clear {row : Keyed (Operand Nested)} (some : row ≠ []) {b : Builder}
    (connector : b.connector = .and) (waiting : (b.negated || negated) = negated) :
    (runAll (equalities clause negated row) b).value =
      (runAll (equalities clause negated row) b.clearModifiers).value := by
  cases row with
  | nil => exact absurd rfl some
  | cons pair rest =>
    obtain ⟨name, value⟩ := pair
    have here := run_equality clause negated connector waiting name value
    have clear := run_equality (b := b.clearModifiers) clause negated rfl (Bool.false_or negated)
      name value
    exact congrArg (fun b => (runAll (equalities clause negated rest) b).value)
      (here.trans clear.symm)

/-- The terms of an object. -/
theorem run_object_eq (b : Builder) (lead : Lead) (pairs : List (String × Operand Nested)) :
    ((filter clause lead (.object pairs)).run b).value =
      (b.clearModifiers.attach ((Filter.object
        (Operand.attachPairs b.target (Keyed.ofPairs pairs)).value).terms b.target
          (b.modifiers lead).1 (b.modifiers lead).2) (Builder.addTerms clause)).value := by
  rw [← Operand.ofPairs_attachPairs]
  rfl

/-- A call of a group builds the group of what its calls build on a fresh builder. -/
theorem run_group_equalities (b : Builder) (lead : Lead) (row : Keyed (Operand Nested)) :
    ((group clause lead (equalities clause negated row)).run b).value =
      (b.clearModifiers.attach (do
        let pairs ← Filter.pairTerms b.target negated
          (Operand.attachPairs b.target row).value
        return Term.grouped (b.modifiers lead).1 (b.modifiers lead).2 pairs)
        (Builder.addTerms clause)).value :=
  b.group_attach clause lead (runAll_equalities clause negated row ⟨rfl, rfl⟩)

/-- An object is its pairs. Under `and` the builder is the same as after a comparison for equality
of each pair, in the order of the row, each with the negation that waits. Under `or` it is the same
as after an `or` group of these comparisons, which is not negated itself. -/
theorem run_object (b : Builder) (clause : FilterClause) (lead : Lead)
    {pairs : List (String × Operand Nested)} (filled : pairs ≠ []) :
    let connector := (b.modifiers lead).1
    let negated := (b.modifiers lead).2
    let each := equalities clause negated (Keyed.ofPairs pairs)
    let outcome := ((filter clause lead (.object pairs)).run b).value
    (connector = .and → outcome = (runAll each (b.await connector negated)).value) ∧
    (connector = .or → outcome =
      ((group clause { connector := some .or } each).run (b.await connector false)).value) := by
  intro connector negated each outcome
  have built : outcome = _ := run_object_eq clause b lead pairs
  refine ⟨fun isAnd => ?_, fun isOr => ?_⟩
  · have own : (b.modifiers lead).1 = .and := isAnd
    rw [own] at built
    have ready := runAll_equalities_clear clause negated (Keyed.ofPairs_ne_nil filled)
      (b := b.await connector negated) isAnd (Bool.or_self negated)
    have calls := runAll_equalities clause negated (Keyed.ofPairs pairs) (b := b.clearModifiers)
      ⟨rfl, rfl⟩
    refine built.trans (Eq.trans ?_ (ready.trans calls).symm)
    simp only [Filter.terms, bind_pure]
    rfl
  · have own : (b.modifiers lead).1 = .or := isOr
    rw [own] at built
    exact built.trans (run_group_equalities clause negated (b.await connector false)
      { connector := some .or } (Keyed.ofPairs pairs)).symm

/-- A null, an undefined value, a statement with a fault and a fragment, where a `not` waits. -/
theorem run_object_mixed :
    let b := (Builder.start {}).not
    let pairs : List (String × Operand Nested) := [("a", .value .null), ("b", .undefined),
      ("c", .query (.callback [.filter .havings {} (.exists .undefined)])),
      ("d", .raw ⟨"now()", .none, none⟩)]
    let run (lead : Lead) : Builder := ((filter .wheres lead (.object pairs)).run b).value
    pairs ≠ [] ∧ run {} = (runAll (equalities .wheres true pairs) b).value ∧
      run { connector := some .or } =
        ((group .wheres { connector := some .or } (equalities .wheres true pairs)).run
          (b.await .or false)).value := by
  intro b pairs run
  have filled : pairs ≠ [] := List.cons_ne_nil _ _
  have row : Keyed.ofPairs pairs = pairs := by
    simp [pairs, Keyed.ofPairs, Keyed.insertAll, Keyed.insert]
  refine ⟨filled, ?_, ?_⟩
  · have beside := (run_object b .wheres {} filled).1 rfl
    rwa [row] at beside
  · have grouped := (run_object b .wheres { connector := some .or } filled).2 rfl
    rwa [row] at grouped

end Call

end PortableSql
