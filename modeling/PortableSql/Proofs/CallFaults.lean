import PortableSql.Proofs.FilledClauses

/-!
The faults of a sequence of calls.

`Call.faultsAll` lists what goes wrong in a sequence of calls, in the order of the calls. It is read
off the calls alone: a nested builder counts where it is attached, with the first of the faults of
the calls that build it, and so do callbacks to any depth. A builder has the first entry of the list
as its fault, for every target (`Call.fault_runAll`).

The conditions of a join are collected before the join is added, so the operators that do not fit
come first, and then what its table and its conditions attach.
-/

namespace PortableSql

open Builder (Operation)

/-! ### Calls on joins -/

mutual

/-- The faults that a call on a join under construction records. A group counts with its first. -/
def JoinCall.faults : JoinCall → List Fault
  | .on _ _ operator _ => Operator.faults operator
  | .onGroup _ calls => (JoinCall.faultsAll calls).head?.toList
  | .onRaw _ _ | .onShared _ => []

/-- The faults of calls on a join under construction, in order. -/
def JoinCall.faultsAll : List JoinCall → List Fault
  | [] => []
  | call :: rest => call.faults ++ JoinCall.faultsAll rest

end

/-! ### What calls attach -/

mutual

/-- What a nested statement brings along: the first fault of the calls that build it. -/
def Nested.faults : Nested → List Fault
  | .callback calls | .builder calls _ => (Call.faultsAll calls).head?.toList

/-- What an operand brings along. -/
def Operand.nestedFaults : Operand Nested → List Fault
  | .value _ | .undefined => []
  | .query nested => nested.faults
  | .raw fragment => Fragment.nestedFaults fragment

/-- What a fragment brings along. -/
def Fragment.nestedFaults : Fragment (Operand Nested) → List Fault
  | ⟨_, bindings, _⟩ => Bindings.nestedFaults bindings

/-- What bindings bring along. -/
def Bindings.nestedFaults : Bindings (Operand Nested) → List Fault
  | .none => []
  | .positional values => Operand.nestedFaultsList values
  | .named pairs => Operand.nestedFaultsPairs pairs

/-- What operands bring along, in order. -/
def Operand.nestedFaultsList : List (Operand Nested) → List Fault
  | [] => []
  | operand :: rest => operand.nestedFaults ++ Operand.nestedFaultsList rest

/-- What named operands bring along, in order. -/
def Operand.nestedFaultsPairs : List (String × Operand Nested) → List Fault
  | [] => []
  | (_, operand) :: rest => operand.nestedFaults ++ Operand.nestedFaultsPairs rest

/-- What each entry of a row brings along. -/
def Operand.nestedFaultsEntries : List (String × Operand Nested) → List (String × List Fault)
  | [] => []
  | (name, operand) :: rest => (name, operand.nestedFaults) :: Operand.nestedFaultsEntries rest

/-- What rows bring along; in each, the last value given for a name counts. -/
def Operand.nestedFaultsRows : List (List (String × Operand Nested)) → List Fault
  | [] => []
  | row :: rest =>
    (Keyed.ofPairs (Operand.nestedFaultsEntries row)).flatMap (·.2) ++
      Operand.nestedFaultsRows rest

/-- What a column brings along. -/
def Column.nestedFaults : Column Nested → List Fault
  | .name _ | .numeral _ | .aggregate _ => []
  | .query nested => nested.faults
  | .raw fragment => Fragment.nestedFaults fragment

/-- What columns bring along, in order. -/
def Column.nestedFaultsList : List (Column Nested) → List Fault
  | [] => []
  | column :: rest => column.nestedFaults ++ Column.nestedFaultsList rest

/-- What is wrong with a condition as asked for: what it brings along, and what does not fit. An
operator that is not permitted ends the reading of the condition. -/
def Filter.nestedFaults : Filter Nested → List Fault
  | .compare column operator value =>
    match Operator.parse operator with
    | .error fault => [fault]
    | .ok operator =>
      column.nestedFaults ++ (value.nestedFaults ++ Filter.comparisonFaults operator value)
  | .isIn column values =>
    column.nestedFaults ++ (values.nestedFaults ++ Filter.membershipFaults values)
  | .null column => column.nestedFaults
  | .between column low high => column.nestedFaults ++ low.nestedFaults ++ high.nestedFaults
  | .exists query => query.nestedFaults ++ if query.isQuery then [] else [.existsOperand]
  | .object row => (Keyed.ofPairs (Operand.nestedFaultsEntries row)).flatMap (·.2)
  | .raw fragment => Fragment.nestedFaults fragment
  | .literal _ => []

/-- What is wrong with queries that are to be appended by unions. -/
def Operand.nestedFaultsUnion : List (Operand Nested) → List Fault
  | [] => []
  | query :: rest =>
    (query.nestedFaults ++ if query.isQuery then [] else [.unionOperand]) ++
      Operand.nestedFaultsUnion rest

/-- What is wrong with what an insert writes. -/
def InsertPayload.nestedFaults : InsertPayload Nested → List Fault
  | .rows table => Operand.nestedFaultsRows table
  | .query source => source.nestedFaults ++ if source.isQuery then [] else [.insertOperand]

/-- What a call on a join brings along when the join is added. -/
def JoinCall.nestedFaults : JoinCall → List Fault
  | .on _ first operator second =>
    match Operator.parse operator with
    | .error _ => []
    | .ok _ => first.nestedFaults ++ second.nestedFaults
  | .onRaw _ fragment => Fragment.nestedFaults fragment
  | .onGroup _ calls => JoinCall.nestedFaultsAll calls
  | .onShared _ => []

/-- What calls on a join bring along, in order. -/
def JoinCall.nestedFaultsAll : List JoinCall → List Fault
  | [] => []
  | call :: rest => call.nestedFaults ++ JoinCall.nestedFaultsAll rest

/-- The faults of a call on a builder, in the order in which they are found. Besides what its calls
record, a group fails if they put conditions in both clauses. -/
def Call.faults : Call → List Fault
  | .filter _ _ condition => condition.nestedFaults
  | .group _ _ calls =>
    (Call.faultsAll calls).head?.toList ++
      if Call.fillsAll .wheres calls && Call.fillsAll .havings calls then [.mixedGroup] else []
  | .select columns | .first columns | .groupBy columns => Column.nestedFaultsList columns
  | .source column | .orderBy column _ => column.nestedFaults
  | .join _ table conditions =>
    JoinCall.faultsAll conditions ++ (table.nestedFaults ++ JoinCall.nestedFaultsAll conditions)
  | .joinRaw fragment | .orderByRaw fragment => Fragment.nestedFaults fragment
  | .union queries _ _ => Operand.nestedFaultsUnion queries
  | .insert payload _ => payload.nestedFaults
  | .update row _ => (Keyed.ofPairs (Operand.nestedFaultsEntries row)).flatMap (·.2)
  | .modify calls => Call.faultsAll calls
  | .describe description => Description.faults description
  | .or | .and | .not | .aggregate _ | .distinct | .withSchema _ | .withAlias _ | .limit _
  | .offset _ | .lock _ | .transacting | .returning _ | .delete | .truncate | .fork _
  | .withTarget _ => []

/-- The faults of calls in order. -/
def Call.faultsAll : List Call → List Fault
  | [] => []
  | call :: rest => call.faults ++ Call.faultsAll rest

end

/-! ### Descriptions -/

namespace Builder.Operation

theorem fault_apply (op : Operation) (b : Builder) {faults : List Fault}
    (same : op.faults b.target = faults) :
    (op.apply b).fault = (b.fault.toList ++ faults).head? := by
  rw [(grows op b).fault, same]

theorem fault_applyAll {ops : List Operation} (plain : ∀ op ∈ ops, op.Plain) (b : Builder) :
    (applyAll ops b).fault = (b.fault.toList ++ ops.flatMap ownFaults).head? := by
  induction ops generalizing b with
  | nil =>
    rw [List.flatMap_nil, Fault.head?_toList_append_nil]
    rfl
  | cons op rest ih =>
    have first := fault_apply op b ((plain op List.mem_cons_self).faults_eq b.target)
    have later := ih (fun other member => plain other (List.mem_cons_of_mem _ member)) (op.apply b)
    rw [first, Fault.head?_first_append] at later
    rw [List.flatMap_cons, ← List.append_assoc]
    exact later

end Builder.Operation

theorem Description.fault_describe (description : Json) (b : Builder) :
    (b.describe description).value.fault = (b.fault.toList ++ faults description).head? := by
  obtain ⟨ops, plain, listed, same⟩ := makes_describe description
  rw [same, Operation.fault_applyAll plain, listed]

/-! ### Joins under construction -/

namespace JoinDraft

variable (draft : JoinDraft)

theorem fault_record (fault : Option Fault) :
    (draft.record fault).fault = (draft.fault.toList ++ fault.toList).head? := by
  rw [Fault.head?_toList_append, Fault.head?_toList]
  rfl

theorem fault_onGroup (connector : Connector) (built : JoinDraft) :
    (draft.onGroup connector built).fault = (draft.fault.toList ++ built.fault.toList).head? := by
  rw [← draft.fault_record built.fault]
  unfold onGroup
  dsimp only
  split <;> rfl

end JoinDraft

mutual

theorem JoinCall.fault_run (target : Target) (draft : JoinDraft) : (call : JoinCall) →
    (call.run target draft).value.fault = (draft.fault.toList ++ call.faults).head?
  | .on connector first operator second => by
    rw [JoinCall.run, JoinCall.faults, Fault.head?_toList_append]
    exact draft.fault_on connector _ _ operator
  | .onRaw _ _ => (Fault.head?_toList_append_nil draft.fault).symm
  | .onGroup connector calls => by
    have inner := JoinCall.fault_runAll target calls (.start draft.kind draft.table)
    rw [JoinCall.run, JoinCall.faults, Logged.value_bind, Logged.value_pure,
      JoinDraft.fault_onGroup, inner]
    rfl
  | .onShared _ => (Fault.head?_toList_append_nil draft.fault).symm

theorem JoinCall.fault_runAll (target : Target) : (calls : List JoinCall) → (draft : JoinDraft) →
    (JoinCall.runAll target calls draft).value.fault =
      (draft.fault.toList ++ JoinCall.faultsAll calls).head?
  | [], draft => (Fault.head?_toList_append_nil draft.fault).symm
  | call :: rest, draft => by
    rw [JoinCall.runAll, JoinCall.faultsAll, Logged.value_bind, JoinCall.fault_runAll target rest,
      JoinCall.fault_run target draft call, Fault.head?_first_append, List.append_assoc]

end

/-! ### What is attached is what calls bring along -/

section Rows

variable (client : Target)

theorem attachedFaults_flatMap {α : Type} (items : List α) (f : α → List (Operand Attached)) :
    attachedFaults client (items.flatMap f) = items.flatMap fun item =>
      attachedFaults client (f item) :=
  List.filterMap_flatMap ..

/-- In a row the last value given for a name counts. -/
theorem attachedFaults_ofPairs {pairs : List (String × Operand Attached)}
    {entries : List (String × List Fault)}
    (same : pairs.map (fun (name, operand) => (name, attachedFaults client operand.operands)) =
      entries) :
    attachedFaults client (Operand.operandsPairs (Keyed.ofPairs pairs)) =
      (Keyed.ofPairs entries).flatMap (·.2) := by
  rw [← same, Keyed.ofPairs_map (fun operand => attachedFaults client operand.operands) pairs,
    List.flatMap_map, Operand.operandsPairs_eq_flatMap, attachedFaults_flatMap]

/-- A row is compared for equality, which fits every value. -/
theorem Filter.faults_object (row : Keyed (Operand Attached)) :
    (Filter.object row).faults client = attachedFaults client (Operand.operandsPairs row) := by
  rw [Operand.operandsPairs_eq_flatMap, attachedFaults_flatMap]
  refine congrArg List.flatten (List.map_congr_left fun pair _ => ?_)
  unfold comparedFaults
  rw [Operator.parse_equals]
  exact List.append_nil _

end Rows

section Attaching

variable (target : Target) (operand : Operand Nested)

theorem Operand.isQuery_attach : (operand.attach target).value.isQuery = operand.isQuery := by
  cases operand <;> rfl

theorem Filter.membershipFaults_attach :
    membershipFaults (operand.attach target).value = membershipFaults operand := by
  cases operand <;> rfl

theorem Filter.rangeFaults_attach :
    rangeFaults (operand.attach target).value = rangeFaults operand := by
  cases operand <;> rfl

theorem Filter.comparisonFaults_attach (operator : Operator) :
    comparisonFaults operator (operand.attach target).value =
      comparisonFaults operator operand := by
  rw [comparisonFaults, membershipFaults_attach, rangeFaults_attach]
  rfl

end Attaching

namespace JoinDraft

variable (client : Target) (draft : JoinDraft) (connector : Connector)

/-- The faults of the statements that the conditions of a join attach. -/
def conditionFaults : List Fault :=
  attachedFaults client (Term.operandsList draft.conditions)

theorem conditionFaults_add (condition : Condition Attached) :
    (draft.add connector condition).conditionFaults client =
      draft.conditionFaults client ++ attachedFaults client condition.operands := by
  simp [conditionFaults, add, Term.operandsList_eq_flatMap]

theorem conditionFaults_onGroup (built : JoinDraft) :
    (draft.onGroup connector built).conditionFaults client =
      draft.conditionFaults client ++ built.conditionFaults client := by
  unfold onGroup
  dsimp only
  split
  · rename_i empty
    have none : built.conditionFaults client = [] := by
      rw [conditionFaults, List.isEmpty_iff.mp empty]
      rfl
    rw [none, List.append_nil]
    rfl
  · exact conditionFaults_add client (draft.record built.fault) connector _

end JoinDraft

-- The recursion is that of the calls. What a nested statement has as its fault does not depend on
-- the target, so the list for the calls that build it is the same wherever it is attached.
mutual

theorem Nested.faults_attach (target client : Target) : (nested : Nested) →
    ((nested.attach target).value.statement client).fault.toList = nested.faults
  | .callback calls => congrArg Option.toList (Call.fault_runAll calls (.start client))
  | .builder calls none => congrArg Option.toList (Call.fault_runAll calls (.start target))
  | .builder calls (some dialect) =>
    congrArg Option.toList (Call.fault_runAll calls (.start (Target.ofDialect dialect)))

theorem Operand.faults_attach (target client : Target) : (operand : Operand Nested) →
    attachedFaults client (operand.attach target).value.operands = operand.nestedFaults
  | .value _ | .undefined => rfl
  | .query nested =>
    (attachedFaults_query client _).trans (Nested.faults_attach target client nested)
  | .raw fragment =>
    (attachedFaults_raw client _).trans (Fragment.faults_attach target client fragment)

theorem Fragment.faults_attach (target client : Target) : (fragment : Fragment (Operand Nested)) →
    attachedFaults client (Fragment.operands (Fragment.attach target fragment).value) =
      Fragment.nestedFaults fragment
  | ⟨_, bindings, _⟩ => Bindings.faults_attach target client bindings

theorem Bindings.faults_attach (target client : Target) : (bindings : Bindings (Operand Nested)) →
    attachedFaults client (Bindings.operands (Bindings.attach target bindings).value) =
      Bindings.nestedFaults bindings
  | .none => rfl
  | .positional values => Operand.faults_attachList target client values
  | .named pairs => Operand.faults_attachPairs target client pairs

theorem Operand.faults_attachList (target client : Target) : (values : List (Operand Nested)) →
    attachedFaults client (Operand.operandsList (Operand.attachList target values).value) =
      Operand.nestedFaultsList values
  | [] => rfl
  | operand :: rest => by
    rw [Operand.nestedFaultsList, ← Operand.faults_attach target client operand,
      ← Operand.faults_attachList target client rest]
    exact attachedFaults_append client _ _

theorem Operand.faults_attachPairs (target client : Target) :
    (pairs : List (String × Operand Nested)) →
    attachedFaults client (Operand.operandsPairs (Operand.attachPairs target pairs).value) =
      Operand.nestedFaultsPairs pairs
  | [] => rfl
  | (_, operand) :: rest => by
    rw [Operand.nestedFaultsPairs, ← Operand.faults_attach target client operand,
      ← Operand.faults_attachPairs target client rest]
    exact attachedFaults_append client _ _

theorem Operand.faults_attachEntries (target client : Target) :
    (pairs : List (String × Operand Nested)) →
    (Operand.attachPairs target pairs).value.map (fun (name, operand) =>
      (name, attachedFaults client operand.operands)) = Operand.nestedFaultsEntries pairs
  | [] => rfl
  | (_, operand) :: rest => by
    rw [Operand.nestedFaultsEntries, ← Operand.faults_attach target client operand,
      ← Operand.faults_attachEntries target client rest]
    rfl

theorem Operand.faults_attachRows (target client : Target) :
    (rows : List (List (String × Operand Nested))) →
    attachedFaults client ((Operand.attachRows target rows).value.flatMap Operand.operandsPairs) =
      Operand.nestedFaultsRows rows
  | [] => rfl
  | row :: rest => by
    rw [Operand.nestedFaultsRows, ← Operand.faults_attachRows target client rest,
      ← attachedFaults_ofPairs client (Operand.faults_attachEntries target client row)]
    exact attachedFaults_append client _ _

theorem Column.faults_attach (target client : Target) : (column : Column Nested) →
    attachedFaults client (column.attach target).value.operands = column.nestedFaults
  | .name _ | .numeral _ | .aggregate _ => rfl
  | .query nested =>
    (attachedFaults_query client _).trans (Nested.faults_attach target client nested)
  | .raw fragment =>
    (attachedFaults_raw client _).trans (Fragment.faults_attach target client fragment)

theorem Column.faults_attachList (target client : Target) : (columns : List (Column Nested)) →
    attachedFaults client ((Column.attachList target columns).value.flatMap Column.operands) =
      Column.nestedFaultsList columns
  | [] => rfl
  | column :: rest => by
    rw [Column.nestedFaultsList, ← Column.faults_attach target client column,
      ← Column.faults_attachList target client rest]
    exact attachedFaults_append client _ _

theorem Filter.faults_attach (target client : Target) : (condition : Filter Nested) →
    (condition.attach target).value.faults client = condition.nestedFaults
  | .compare column operator value => by
    change Filter.comparedFaults client (column.attach target).value operator _ = _
    unfold Filter.comparedFaults Filter.nestedFaults
    rw [Column.faults_attach target client column, Operand.faults_attach target client value]
    cases Operator.parse operator with
    | error fault => rfl
    | ok operator =>
      have own := Filter.comparisonFaults_attach target value operator
      exact congrArg (fun faults => column.nestedFaults ++ (value.nestedFaults ++ faults)) own
  | .isIn column values => by
    rw [Filter.nestedFaults, ← Column.faults_attach target client column,
      ← Operand.faults_attach target client values, ← Filter.membershipFaults_attach target values]
    rfl
  | .null column => Column.faults_attach target client column
  | .between column low high => by
    rw [Filter.nestedFaults, ← Column.faults_attach target client column,
      ← Operand.faults_attach target client low, ← Operand.faults_attach target client high,
      ← attachedFaults_append, ← attachedFaults_append]
    rfl
  | .exists query => by
    rw [Filter.nestedFaults, ← Operand.faults_attach target client query,
      ← Operand.isQuery_attach target query]
    rfl
  | .object row => (Filter.faults_object client _).trans
    (attachedFaults_ofPairs client (Operand.faults_attachEntries target client row))
  | .raw fragment =>
    (attachedFaults_raw client _).trans (Fragment.faults_attach target client fragment)
  | .literal _ => rfl

theorem Operand.faults_attachUnion (target client : Target) : (queries : List (Operand Nested)) →
    Operand.unionFaults client (Operand.attachList target queries).value =
      Operand.nestedFaultsUnion queries
  | [] => rfl
  | query :: rest => by
    rw [Operand.nestedFaultsUnion, ← Operand.faults_attach target client query,
      ← Operand.isQuery_attach target query, ← Operand.faults_attachUnion target client rest]
    rfl

theorem InsertPayload.faults_attach (target client : Target) :
    (payload : InsertPayload Nested) →
    (payload.attach target).value.faults client = payload.nestedFaults
  | .rows table => Operand.faults_attachRows target client table
  | .query source => by
    rw [InsertPayload.nestedFaults, ← Operand.faults_attach target client source,
      ← Operand.isQuery_attach target source]
    rfl

theorem JoinCall.faults_attach (target client : Target) (draft : JoinDraft) : (call : JoinCall) →
    (call.run target draft).value.table = draft.table ∧
      (call.run target draft).value.conditionFaults client =
        draft.conditionFaults client ++ call.nestedFaults
  | .on connector first operator second => by
    rw [JoinCall.nestedFaults, JoinCall.run]
    simp only [Logged.value_bind, Logged.value_pure]
    unfold JoinDraft.on
    cases Operator.parse operator with
    | error fault => exact ⟨rfl, (List.append_nil _).symm⟩
    | ok operator =>
      refine ⟨rfl, ?_⟩
      dsimp only
      rw [JoinDraft.conditionFaults_add, ← Column.faults_attach target client first,
        ← Column.faults_attach target client second, ← attachedFaults_append]
      rfl
  | .onRaw connector fragment => by
    refine ⟨rfl, ?_⟩
    rw [JoinCall.nestedFaults, ← Fragment.faults_attach target client fragment,
      ← attachedFaults_raw]
    exact draft.conditionFaults_add client connector _
  | .onGroup connector calls => by
    have inner := JoinCall.faults_attachAll target client calls (.start draft.kind draft.table)
    rw [JoinCall.nestedFaults, JoinCall.run, Logged.value_bind, Logged.value_pure,
      JoinDraft.conditionFaults_onGroup, inner.2]
    refine ⟨?_, rfl⟩
    unfold JoinDraft.onGroup
    dsimp only
    split <;> rfl
  | .onShared _ => ⟨rfl, (List.append_nil _).symm⟩

theorem JoinCall.faults_attachAll (target client : Target) : (calls : List JoinCall) →
    (draft : JoinDraft) →
    (JoinCall.runAll target calls draft).value.table = draft.table ∧
      (JoinCall.runAll target calls draft).value.conditionFaults client =
        draft.conditionFaults client ++ JoinCall.nestedFaultsAll calls
  | [], draft => ⟨rfl, (List.append_nil _).symm⟩
  | call :: rest, draft => by
    have first := JoinCall.faults_attach target client draft call
    have later := JoinCall.faults_attachAll target client rest (call.run target draft).value
    rw [JoinCall.runAll, JoinCall.nestedFaultsAll, Logged.value_bind]
    rw [first.1, first.2, List.append_assoc] at later
    exact later

/-- A call records the first of its faults unless the builder has one already. -/
theorem Call.fault_run (b : Builder) : (call : Call) →
    (call.run b).value.fault = (b.fault.toList ++ call.faults).head?
  | .filter clause lead condition =>
    Operation.fault_apply (.filter clause lead _) b
      (Filter.faults_attach b.target b.target condition)
  | .group clause lead calls => by
    have inner : (Call.runAll calls (.start b.target)).value.fault =
        (Call.faultsAll calls).head? := Call.fault_runAll calls (.start b.target)
    refine (Operation.fault_apply (.group clause lead _) b rfl).trans ?_
    rw [Call.faults, ← inner, Operation.faults, Builder.groupFaults]
    simp only [Fault.head?_toList_append]
    cases own : (Call.runAll calls (.start b.target)).value.fault with
    | none => rw [Call.mixedFaults_runAll own]
    | some fault => rfl
  | .select columns =>
    Operation.fault_apply (.select _) b (Column.faults_attachList b.target b.target columns)
  | .first columns =>
    Operation.fault_apply (.select _) b (Column.faults_attachList b.target b.target columns)
  | .source table =>
    Operation.fault_apply (.source _) b (Column.faults_attach b.target b.target table)
  | .join kind table conditions => by
    let draft := JoinDraft.start kind (table.attach b.target).value
    let built := (JoinCall.runAll b.target conditions draft).value
    have own := JoinCall.fault_runAll b.target conditions draft
    obtain ⟨sameTable, inConditions⟩ :=
      JoinCall.faults_attachAll b.target b.target conditions draft
    have brought : attachedFaults b.target built.operands =
        table.nestedFaults ++ JoinCall.nestedFaultsAll conditions := by
      rw [JoinDraft.operands, attachedFaults_append, sameTable,
        ← Column.faults_attach b.target b.target table]
      exact congrArg _ inConditions
    have joined := Operation.fault_apply (.join built) b rfl
    rw [Operation.faults, JoinDraft.faults, brought, own, Fault.head?_toList_append,
      Fault.head?_first_append] at joined
    exact joined.trans (Fault.head?_toList_append _ _).symm
  | .joinRaw fragment =>
    Operation.fault_apply (.joinRaw _) b ((attachedFaults_raw b.target _).trans
      (Fragment.faults_attach b.target b.target fragment))
  | .groupBy columns =>
    Operation.fault_apply (.groupBy _) b (Column.faults_attachList b.target b.target columns)
  | .orderBy column direction =>
    Operation.fault_apply (.orderBy _ direction) b (Column.faults_attach b.target b.target column)
  | .orderByRaw fragment =>
    Operation.fault_apply (.orderByRaw _) b ((attachedFaults_raw b.target _).trans
      (Fragment.faults_attach b.target b.target fragment))
  | .union queries all wrap =>
    Operation.fault_apply (.union _ all wrap) b
      (Operand.faults_attachUnion b.target b.target queries)
  | .insert payload _ =>
    Operation.fault_apply (.insert _) b (InsertPayload.faults_attach b.target b.target payload)
  | .update row _ =>
    Operation.fault_apply (.update _) b
      (attachedFaults_ofPairs b.target (Operand.faults_attachEntries b.target b.target row))
  | .modify calls => Call.fault_runAll calls b
  | .describe description => Description.fault_describe description b
  | .or | .and | .not | .aggregate _ | .distinct | .withSchema _ | .withAlias _ | .limit _
  | .offset _ | .lock _ | .transacting | .returning _ | .delete | .truncate | .fork _
  | .withTarget _ => (Fault.head?_toList_append_nil b.fault).symm

/-- A builder has the first of all faults of its calls. -/
theorem Call.fault_runAll : (calls : List Call) → (b : Builder) →
    (Call.runAll calls b).value.fault = (b.fault.toList ++ Call.faultsAll calls).head?
  | [], b => (Fault.head?_toList_append_nil b.fault).symm
  | call :: rest, b => by
    rw [Call.runAll, Call.faultsAll, Logged.value_bind, Call.fault_runAll rest,
      Call.fault_run b call, Fault.head?_first_append, List.append_assoc]

end

end PortableSql
