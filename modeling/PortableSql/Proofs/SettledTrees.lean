import PortableSql.Proofs.CallFaults
import PortableSql.Proofs.Compiled
import PortableSql.Proofs.Invariants
import PortableSql.Proofs.SafeTree

/-!
What builders leave in the tree of a statement.

What a call nests in a statement was nested before, comes from a group, or is the statement that a
builder of its own made (`Operation.nested_apply`). So no callback is left anywhere in the tree, and
no join keeps the fault of its draft (`Builder.invariant_settled`). If the builder has no fault, no
statement in the tree has one; then only what rendering itself finds can stop the statement, and
that is never an operator (`Call.fault_complete`).
-/

namespace PortableSql

open Builder (Operation)

theorem Statement.operands_empty : Statement.empty.operands = [] := rfl

/-- What holds of an empty statement holds everywhere in it. -/
theorem Statement.all_empty {Q : Statement → Prop} (here : Q .empty) : Statement.empty.All Q := by
  refine .intro here fun a member => ?_
  rw [operands_empty] at member
  cases member

theorem Statement.settled_empty : Statement.empty.Settled where
  resolved := by
    intro a member
    rw [operands_empty] at member
    cases member
  joins := fun _ member => absurd member List.not_mem_nil

/-! ### Operations -/

namespace Builder.Operation

/-- Where what is nested in a statement after an operation comes from. -/
theorem nested_apply {P : Builder → Prop} {op : Operation} (admits : op.Admits P) {b : Builder}
    {a : Attached} (member : .query a ∈ (op.apply b).statement.operands) :
    .query a ∈ b.statement.operands ∨
      (∃ built ∈ op.built?, .query a ∈ built.statement.operands) ∨
        ∃ maker, P maker ∧ a = .prepared maker.statement ∧
          ∀ fault ∈ maker.fault, fault ∈ op.faults b.target := by
  rcases (grows op b).nested a member with inside | inBuilt | ⟨g, attached, rfl, recorded⟩
  · exact .inl inside
  · obtain ⟨built, isBuilt, inside⟩ := List.mem_flatMap.mp inBuilt
    exact .inr (.inl ⟨built, Option.mem_toList.mp isBuilt, inside⟩)
  · obtain ⟨maker, made, same⟩ := admits.nested g attached b.target
    rw [same] at recorded ⊢
    exact .inr (.inr ⟨maker, made, rfl, recorded⟩)

/-- A join that an operation adds has handed its fault over. -/
theorem joins_apply (op : Operation) (b : Builder) {joined : TableJoin Attached}
    (member : .clause joined ∈ (op.apply b).statement.joins) :
    .clause joined ∈ b.statement.joins ∨ joined.fault = none := by
  cases op with
  | join draft =>
    rcases List.mem_append.mp member with inside | added
    · exact .inl inside
    · cases List.mem_singleton.mp added
      exact .inr rfl
  | joinRaw fragment =>
    rcases List.mem_append.mp member with inside | added
    · exact .inl inside
    · cases List.mem_singleton.mp added
  | filter clause | group clause => cases clause <;> exact .inl member
  | _ => exact .inl member

end Builder.Operation

/-! ### No callback is left, and no join with a fault -/

theorem Builder.invariant_settled :
    Builder.Invariant fun b => b.statement.All Statement.Settled where
  start := fun _ => Statement.all_empty Statement.settled_empty
  step := by
    intro b op old admits
    refine .intro ⟨fun a member => ?_, fun joined member => ?_⟩ fun a member target => ?_
    · rcases Operation.nested_apply admits member with inside | ⟨built, isBuilt, inside⟩ | made
      · exact old.here.resolved a inside
      · exact (admits.group built isBuilt).here.resolved a inside
      · obtain ⟨maker, -, same, -⟩ := made
        exact ⟨maker.statement, same⟩
    · exact (Operation.joins_apply op b member).elim (old.here.joins joined) id
    · rcases Operation.nested_apply admits member with inside | ⟨built, isBuilt, inside⟩ | made
      · exact old.nested inside target
      · exact (admits.group built isBuilt).nested inside target
      · obtain ⟨maker, settled, rfl, -⟩ := made
        exact settled

/-- Calls leave a settled tree. -/
theorem Call.settled_runAll (calls : List Call) {b : Builder}
    (settled : b.statement.All Statement.Settled) :
    (Call.runAll calls b).value.statement.All Statement.Settled :=
  invariant_runAll Builder.invariant_settled calls settled

/-! ### Statements without a fault -/

/-- What holds of an empty statement and is kept by formed operations that record no fault holds of
every statement in the tree of a builder without a fault. -/
theorem Builder.invariant_of_unfaulted {Q : Statement → Prop} (empty : Q .empty)
    (step : ∀ {b : Builder} (op : Operation), op.Formed → (op.apply b).fault = none →
      Q b.statement → (∀ built ∈ op.built?, Q built.statement) → Q (op.apply b).statement) :
    Builder.Invariant fun b => b.fault = none → b.statement.All Q where
  start := fun _ _ => Statement.all_empty empty
  step := by
    intro b op whole admits clean
    obtain ⟨before, fits⟩ := op.faults_of_apply clean
    have old := whole before
    have group : ∀ built ∈ op.built?, built.statement.All Q := by
      intro built isBuilt
      have faults : op.faults b.target = Builder.groupFaults built :=
        Operation.groupFaults_of_built? isBuilt
      rw [fits, Builder.groupFaults, eq_comm, List.append_eq_nil_iff] at faults
      exact admits.group built isBuilt (Option.toList_eq_nil_iff.mp faults.1)
    refine .intro ?_ fun a member target => ?_
    · exact step op admits.formed clean old.here fun built isBuilt => (group built isBuilt).here
    · rcases Operation.nested_apply admits member with inside | ⟨built, isBuilt, inside⟩ | made
      · exact old.nested inside target
      · exact (group built isBuilt).nested inside target
      · obtain ⟨maker, made, rfl, recorded⟩ := made
        refine made (Option.eq_none_iff_forall_not_mem.mpr fun fault own => ?_)
        have listed := recorded fault own
        rw [fits] at listed
        cases listed

/-- A builder that has adopted all faults: if it has none, no statement in its tree has one. -/
def Builder.Adopted (b : Builder) : Prop :=
  b.fault = none → b.statement.All fun s => s.fault = none

theorem Builder.invariant_adopted : Builder.Invariant Adopted :=
  invariant_of_unfaulted rfl fun _ _ clean _ _ => clean

/-! ### What stops a statement -/

/-- The promise that no operator stops the rendering. -/
def Promise.noOperator : Promise where
  faults := fun fault => fault.kind ≠ .operator
  ofRendering := by
    intro fault own
    cases fault <;> simp_all [Fault.kind, Fault.ofRendering]
  guarded := False

namespace Statement

/-- A statement without a fault anywhere in it is never stopped by an operator. -/
theorem kind_of_compile_error {s : Statement} (clean : s.All fun t => t.faults = [])
    {target : Target} {fault : Fault} (stopped : (s.compile target).outcome = .error fault) :
    fault.kind ≠ .operator := by
  have expected : s.All fun t => ∀ fault ∈ t.faults, Promise.noOperator.faults fault := by
    refine clean.mono fun t none fault own => ?_
    rw [none] at own
    cases own
  have safe := safe_render target expected False.elim
  cases rendered : (s.render target).outcome with
  | error other =>
    rw [compile_of_error rendered] at stopped
    cases stopped
    exact safe.error rendered
  | ok pieces =>
    rw [compile_of_ok rendered] at stopped
    cases stopped

end Statement

namespace Call

/-- The fault of a builder is the first that its calls record, whatever is called later, and no
callback is left in its tree. If there is none, no statement and no join in the tree has one, so
that no operator can stop the rendering; otherwise every rendering stops with that fault. -/
theorem fault_complete (calls : List Call) (target : Target) :
    let b := (runAll calls (.start target)).value
    b.fault = (faultsAll calls).head? ∧
    (∀ fault, b.fault = some fault → ∀ later, (runAll later b).value.fault = some fault) ∧
    b.statement.All Statement.Resolved ∧
    (b.fault = none → b.statement.All (fun s => s.faults = []) ∧
      ∀ client fault, (b.statement.compile client).outcome = .error fault →
        fault.kind ≠ .operator) ∧
    (∀ fault, b.fault = some fault →
      ∀ client, (b.statement.compile client).outcome = .error fault) := by
  intro b
  have settled : b.statement.All Statement.Settled :=
    settled_runAll calls (Builder.invariant_settled.start target)
  have adopted : b.Adopted :=
    invariant_runAll Builder.invariant_adopted calls (Builder.invariant_adopted.start target)
  refine ⟨fault_runAll calls (.start target), ?_, settled.mono fun s => (·.resolved), ?_, ?_⟩
  · intro fault first later
    rw [fault_runAll later b, first]
    rfl
  · intro none
    have clean : b.statement.All fun s => s.faults = [] := by
      refine ((adopted none).and settled).mono fun s holds => ?_
      rw [holds.2.faults_eq, holds.1]
      rfl
    exact ⟨clean, fun client fault => Statement.kind_of_compile_error clean⟩
  · intro fault first client
    exact Statement.compile_of_fault first client

end Call

end PortableSql
