import PortableSql.Proofs.Shape
import PortableSql.Proofs.Traversal

/-!
What calls do to a builder.

Every call comes down to operations whose arguments wait to be resolved. `Operation.operands` lists
what the arguments hold; the statements nested in them were made by builders of their own. So a
property of builders that a fresh one has, and that every operation keeps if the builders of its
nested statements have it, is one of every builder that calls can make (`Builder.Invariant.runAll`).
-/

namespace PortableSql

variable {σ : Type}

/-! ### The operands of arguments -/

/-- The operands in a condition as asked for. -/
def Filter.operands : Filter σ → List (Operand σ)
  | .compare column _ value => column.operands ++ value.operands
  | .isIn column values => column.operands ++ values.operands
  | .null column => column.operands
  | .between column low high => column.operands ++ low.operands ++ high.operands
  | .exists query => query.operands
  | .object row => Operand.operandsPairs row
  | .raw fragment => (Operand.raw fragment).operands
  | .literal _ => []

/-- The operands in a join under construction. -/
def JoinDraft.operands (draft : JoinDraft) : List (Operand Attached) :=
  draft.table.operands ++ Term.operandsList draft.conditions

/-- The statements nested in operands are made by builders that have a property, whatever target a
callback is run for. -/
def MadeBy (P : Builder → Prop) (operands : List (Operand Attached)) : Prop :=
  ∀ a, .query a ∈ operands → ∀ target, ∃ maker, P maker ∧ a.statement target = maker.statement

namespace MadeBy

variable {P : Builder → Prop} {xs ys : List (Operand Attached)}

theorem nil : MadeBy P [] :=
  fun _ member => absurd member List.not_mem_nil

theorem append (front : MadeBy P xs) (back : MadeBy P ys) : MadeBy P (xs ++ ys) := by
  intro a member
  rcases List.mem_append.mp member with member | member
  · exact front a member
  · exact back a member

theorem mono (all : MadeBy P ys) (subset : ∀ a, .query a ∈ xs → .query a ∈ ys) : MadeBy P xs :=
  fun a member => all a (subset a member)

theorem raw {fragment : Fragment (Operand Attached)}
    (inside : MadeBy P (Fragment.operands fragment)) : MadeBy P (Operand.raw fragment).operands :=
  inside.mono fun a member => by simpa [Operand.operands] using member

end MadeBy

/-! ### What does not fit in arguments -/

/-- The fault of an operator as it is written. -/
def Operator.faults (operator : String) : List Fault :=
  match parse operator with
  | .ok _ => []
  | .error fault => [fault]

theorem Operator.faults_equals : Operator.faults "=" = [] := by
  rw [Operator.faults, parse_equals]

theorem JoinDraft.fault_on (draft : JoinDraft) (connector : Connector)
    (first second : Column Attached) (operator : String) :
    (draft.on connector first operator second).fault =
      (draft.fault <|> (Operator.faults operator).head?) := by
  unfold on Operator.faults
  cases Operator.parse operator with
  | ok operator => simp [add]
  | error fault => rfl

namespace Filter

/-- What is wrong with the operand of a membership. -/
def membershipFaults : Operand σ → List Fault
  | .undefined => [.inOperand]
  | _ => []

/-- What is wrong with a value for both bounds. -/
def boundsFaults : Value → List Fault
  | .array [_, _] => []
  | _ => [.betweenBounds]

/-- What is wrong with the operand of `between`. -/
def rangeFaults : Operand σ → List Fault
  | .value v => boundsFaults v
  | _ => [.betweenBounds]

/-- Only an array of two values has both bounds. -/
theorem rangeFaults_eq {value : Operand σ}
    (unbounded : ∀ low high, value ≠ .value (.array [low, high])) :
    rangeFaults value = [.betweenBounds] := by
  unfold rangeFaults boundsFaults
  split
  · split
    · exact absurd rfl (unbounded _ _)
    · rfl
  · rfl

/-- What is wrong with the operand of a permitted operator. -/
def comparisonFaults (operator : Operator) (value : Operand σ) : List Fault :=
  let word := operator.normalized
  if word = "in" ∨ word = "not in" then
    membershipFaults value
  else if word = "between" ∨ word = "not between" then
    rangeFaults value
  else
    []

/-- What is wrong with an operator as it is written, and with the value behind it. -/
def operatorFaults (operator : String) (value : Operand σ) : List Fault :=
  match Operator.parse operator with
  | .error fault => [fault]
  | .ok operator => comparisonFaults operator value

theorem operatorFaults_equals (value : Operand σ) : operatorFaults "=" value = [] := by
  rw [operatorFaults, Operator.parse_equals]
  rfl

/-- What does not fit in a condition as asked for. -/
def ownFaults : Filter σ → List Fault
  | .compare _ operator value => operatorFaults operator value
  | .isIn _ values => membershipFaults values
  | .exists query => if query.isQuery then [] else [.existsOperand]
  | _ => []

end Filter

/-! ### Operations -/

/-- An operation on a builder with its arguments. -/
inductive Builder.Operation where
  | or
  | and
  | not
  | filter (clause : FilterClause) (lead : Lead) (filter : Filter Attached)
  | group (clause : FilterClause) (lead : Lead) (built : Logged Builder)
  | select (columns : List (Column Attached))
  | aggregate (aggregate : Aggregate)
  | distinct
  | source (table : Column Attached)
  | withSchema (schema : String)
  | withAlias (name : String)
  | join (draft : JoinDraft)
  | joinRaw (fragment : Fragment (Operand Attached))
  | groupBy (columns : List (Column Attached))
  | orderBy (column : Column Attached) (direction : Direction)
  | orderByRaw (fragment : Fragment (Operand Attached))
  | limit (n : Option UInt64)
  | offset (n : Option UInt64)
  | union (queries : List (Operand Attached)) (all wrap : Bool)
  | lock (lock : Lock)
  | transacting
  | insert (payload : InsertPayload Attached)
  | update (row : List (String × Operand Attached))
  | returning (columns : List String)
  | delete
  | truncate
  | withTarget (target : Target)
  | fail (fault : Fault)

namespace Builder.Operation

/-- The builder after an operation. -/
def apply (b : Builder) : Operation → Builder
  | .or => b.or
  | .and => b.and
  | .not => b.not
  | .filter clause lead condition => (b.filter clause lead condition).value
  | .group clause lead built => (b.group clause lead built).value
  | .select columns => (b.select columns).value
  | .aggregate a => b.aggregate a
  | .distinct => b.distinct
  | .source table => (b.source table).value
  | .withSchema schema => b.withSchema schema
  | .withAlias name => b.withAlias name
  | .join draft => (b.join draft).value
  | .joinRaw fragment => (b.joinRaw fragment).value
  | .groupBy columns => (b.groupBy columns).value
  | .orderBy column direction => (b.orderBy column direction).value
  | .orderByRaw fragment => (b.orderByRaw fragment).value
  | .limit n => b.limit n
  | .offset n => b.offset n
  | .union queries all wrap => (b.union queries all wrap).value
  | .lock kind => b.lock kind
  | .transacting => b.transacting
  | .insert payload => (b.insert payload).value
  | .update row => (b.update row).value
  | .returning columns => b.returning columns
  | .delete => b.delete
  | .truncate => b.truncate
  | .withTarget target => b.withTarget target
  | .fail fault => b.fail fault

/-- The builder after operations in order. -/
def applyAll (ops : List Operation) (b : Builder) : Builder :=
  ops.foldl apply b

/-- The operands in the arguments of an operation. -/
def operands : Operation → List (Operand Attached)
  | .filter _ _ condition => condition.operands
  | .select columns | .groupBy columns => columns.flatMap Column.operands
  | .source table => table.operands
  | .join draft => draft.operands
  | .joinRaw fragment | .orderByRaw fragment => (Operand.raw fragment).operands
  | .orderBy column _ => column.operands
  | .union queries _ _ => queries.flatMap Operand.operands
  | .insert payload => payload.operands
  | .update row => Operand.operandsPairs row
  | _ => []

/-- The builder whose conditions an operation makes a group of. -/
def built? : Operation → Option Builder
  | .group _ _ built => some built.value
  | _ => none

/-- The target that an operation sets. -/
def target? : Operation → Option Target
  | .withTarget target => some target
  | _ => none

/-- The conditions of a join that is added are shaped, and the rows of an insert name no column
twice. -/
def Formed : Operation → Prop
  | .join draft => Term.Shaped draft.conditions
  | .insert payload => payload.Distinct
  | _ => True

/-- What does not fit in the arguments of an operation, once what they attach is left aside. -/
def ownFaults : Operation → List Fault
  | .filter _ _ condition => condition.ownFaults
  | .join draft => draft.fault.toList
  | .union queries _ _ => queries.flatMap fun query => if query.isQuery then [] else [.unionOperand]
  | .insert (.query query) => if query.isQuery then [] else [.insertOperand]
  | .fail fault => [fault]
  | _ => []

/-- An operation with an argument as calls make it: formed, and taking something only from builders
that have a property. These are the builders that made the statements nested in the argument, and
the one whose conditions become a group. -/
structure Admits (P : Builder → Prop) (op : Operation) : Prop where
  nested : MadeBy P op.operands
  group : ∀ built ∈ op.built?, P built
  formed : op.Formed

/-- A formed operation that takes nothing from other builders and keeps the target. -/
structure Plain (op : Operation) : Prop where
  operands : ∀ operand ∈ op.operands, operand.Plain
  group : op.built? = none
  formed : op.Formed
  target : op.target? = none

theorem Plain.nested {op : Operation} (plain : op.Plain) (a : Attached) :
    .query a ∉ op.operands := by
  intro member
  cases plain.operands _ member

theorem Plain.admits {op : Operation} (plain : op.Plain) (P : Builder → Prop) : op.Admits P where
  nested := fun a member => (plain.nested a member).elim
  group := fun built member => by simp [plain.group] at member
  formed := plain.formed

/-- An operation without operands takes nothing from other builders. -/
theorem Plain.bare {op : Operation} (nothing : op.operands = []) (group : op.built? = none)
    (formed : op.Formed) (target : op.target? = none) : op.Plain where
  operands := by simp [nothing]
  group := group
  formed := formed
  target := target

/-- What the clauses of descriptions do: plain operations in a row, in which `faults` do not fit. -/
def Makes (faults : List Fault) (f : Builder → Logged Builder) : Prop :=
  ∃ ops : List Operation, (∀ op ∈ ops, op.Plain) ∧ ops.flatMap ownFaults = faults ∧
    ∀ b, (f b).value = applyAll ops b

namespace Makes

variable {f g : Builder → Logged Builder} {faults more : List Fault}

theorem nothing : Makes [] fun b => pure b :=
  ⟨[], by simp, rfl, fun _ => rfl⟩

theorem one (op : Operation) (plain : op.Plain) (listed : op.ownFaults = faults)
    (same : ∀ b, (f b).value = op.apply b) : Makes faults f :=
  ⟨[op], by simpa using plain, by simpa using listed, same⟩

theorem append (first : Makes faults f) (second : Makes more g) :
    Makes (faults ++ more) fun b => f b >>= g := by
  obtain ⟨ops, plain, listed, same⟩ := first
  obtain ⟨others, also, behind, next⟩ := second
  refine ⟨ops ++ others, ?_, by rw [List.flatMap_append, listed, behind], fun b => ?_⟩
  · intro op member
    rcases List.mem_append.mp member with member | member
    · exact plain op member
    · exact also op member
  · rw [Logged.value_bind, same, next, applyAll, applyAll, applyAll, List.foldl_append]

theorem of_eq (makes : Makes faults f) (same : faults = more) : Makes more f :=
  same ▸ makes

end Makes

end Builder.Operation

/-! ### Descriptions -/

namespace Description

open Builder (Operation)

/-- A reading gives only actions that have a property. -/
def Reads (P : Action → Prop) (r : Except Fault Action) : Prop :=
  ∀ f, r = .ok f → P f

namespace Reads

variable {P : Action → Prop}

theorem ok {f : Action} (holds : P f) : Reads P (.ok f) := by
  rintro g ⟨⟩
  exact holds

theorem error (fault : Fault) : Reads P (.error fault) :=
  nofun

theorem bind {α : Type} {r : Except Fault α} {f : α → Except Fault Action}
    (each : ∀ x, r = .ok x → Reads P (f x)) : Reads P (r >>= f) := by
  cases r with
  | error fault => exact .error fault
  | ok x => exact each x rfl

end Reads

/-! What each clause can ask for, by the shape of its argument. -/

section Shapes

variable {P : Action → Prop} {clause : String} {arg : Json} {lead : Lead}

theorem array_of_readArray {lengths : List Nat} {items : List Json}
    (read : readArray clause lengths arg = .ok items) : arg = .array items := by
  unfold readArray at read
  dsimp only at read
  split at read
  · split at read
    · cases read
      rfl
    · cases read
  · cases read

theorem string_of_readString {text : String} (read : readString clause arg = .ok text) :
    arg = .string text := by
  cases arg with
  | string => cases read; rfl
  | null | bool | number | array | object => cases read

theorem strings_of_readString {items : List Json} {names : List String}
    (read : items.mapM (readString clause) = .ok names) : items = names.map .string := by
  induction items generalizing names with
  | nil =>
    cases read
    rfl
  | cons item rest ih =>
    obtain ⟨name, others, first, behind, rfl⟩ := mapM_cons_ok.mp read
    rw [string_of_readString first, ih behind, List.map_cons]

theorem reads_comparison
    (object : ∀ members, arg = .object members → P (filter lead (.object (rowOf members))))
    (equal : ∀ column value, arg = .array [.string column, value] →
      P (filter lead (.equal (.name column) (operandOf value))))
    (compare : ∀ column operator value, arg = .array [.string column, .string operator, value] →
      P (filter lead (.compare (.name column) operator (operandOf value)))) :
    Reads P (comparison clause arg lead) := by
  unfold comparison
  split
  · exact .ok (object _ rfl)
  · refine .bind fun items read => ?_
    have given := array_of_readArray read
    split
    · refine .bind fun column first => ?_
      rw [string_of_readString first] at given
      exact .ok (equal column _ given)
    · refine .bind fun column first => .bind fun operator second => ?_
      rw [string_of_readString first, string_of_readString second] at given
      exact .ok (compare column operator _ given)
    · exact .error _

theorem reads_membership
    (isIn : ∀ column values, arg = .array [.string column, .array values] →
      P (filter lead (.isIn (.name column) (operandOf (.array values))))) :
    Reads P (membership clause arg lead) := by
  refine .bind fun items read => ?_
  have given := array_of_readArray read
  split
  · refine .bind fun column first => ?_
    rw [string_of_readString first] at given
    split
    · exact .ok (isIn column _ given)
    · exact .error _
  · exact .error _

theorem reads_nullCheck
    (null : ∀ column, arg = .string column → P (filter lead (.null (.name column)))) :
    Reads P (nullCheck clause arg lead) :=
  .bind fun column read => .ok (null column (string_of_readString read))

theorem reads_range
    (between : ∀ column low high, arg = .array [.string column, .array [low, high]] →
      P (filter lead (.between (.name column) (operandOf low) (operandOf high)))) :
    Reads P (range clause arg lead) := by
  refine .bind fun items read => ?_
  have given := array_of_readArray read
  split
  · refine .bind fun column first => .bind fun bounds second => ?_
    rw [string_of_readString first, array_of_readArray second] at given
    split
    · exact .ok (between column _ _ given)
    · exact .error _
  · exact .error _

theorem reads_having
    (compare : ∀ column operator value, arg = .array [.string column, .string operator, value] →
      P fun b => b.filter .havings {} (.compare (.name column) operator (operandOf value))) :
    Reads P (do
      match ← readArray clause [3] arg with
      | [column, operator, value] =>
        let column ← readString clause column
        let operator ← readString clause operator
        return fun b => b.filter .havings {} (.compare (.name column) operator (operandOf value))
      | _ => wrongShape clause "an array of 3 elements") := by
  refine .bind fun items read => ?_
  have given := array_of_readArray read
  split
  · refine .bind fun column first => .bind fun operator second => ?_
    rw [string_of_readString first, string_of_readString second] at given
    exact .ok (compare column operator _ given)
  · exact .error _

theorem reads_join {kind : JoinKind}
    (equal : ∀ table first second, arg = .array [.string table, .string first, .string second] →
      P fun b => b.join
        ((JoinDraft.start kind (.name table)).on .and (.name first) "=" (.name second)))
    (compare : ∀ table first operator second,
      arg = .array [.string table, .string first, .string operator, .string second] →
      P fun b => b.join
        ((JoinDraft.start kind (.name table)).on .and (.name first) operator (.name second))) :
    Reads P (join clause arg kind) := by
  refine .bind fun items read => .bind fun names named => ?_
  have given := array_of_readArray read
  rw [strings_of_readString named] at given
  split
  · exact .ok (equal _ _ _ given)
  · exact .ok (compare _ _ _ _ given)
  · exact .error _

theorem reads_order (orders : ∀ orderings, P (orderByAll orderings)) :
    Reads P (order clause arg) := by
  unfold order
  split
  · exact .ok (orders _)
  · split
    · split
      · exact .bind fun direction _ => .ok (orders _)
      · exact .bind fun orderings _ => .ok (orders _)
    · exact .bind fun orderings _ => .ok (orders _)
  · exact .error _

theorem reads_distinct
    (distinct : ∀ names, P fun b : Builder => b.distinct.select (columns names)) :
    Reads P (do
      let names ← match arg with
        | .bool _ | .null => .ok []
        | _ => readStrings clause arg
      return fun b => b.distinct.select (columns names)) := by
  have next (names : List String) : Reads P (.ok fun b => b.distinct.select (columns names)) :=
    .ok (distinct names)
  split
  · exact next []
  · exact next []
  · exact .bind fun names _ => next names

end Shapes

/-! Documents hold values only, so every operand of a clause is plain. -/

theorem operands_operandOf (arg : Json) : (operandOf arg).operands = [operandOf arg] := by
  rw [operandOf, Operand.operands]

theorem plain_operandOf (arg : Json) : (operandOf arg).Plain :=
  .value (Value.ofJson arg)

theorem value_of_operandOf {arg : Json} {operand : Operand Attached}
    (member : operand ∈ (operandOf arg).operands) : ∃ v, operand = .value v := by
  rw [operands_operandOf] at member
  exact ⟨Value.ofJson arg, List.mem_singleton.mp member⟩

theorem value_of_entriesOf {members : List (String × Json)} {operand : Operand Attached}
    (member : operand ∈ Operand.operandsPairs (entriesOf members)) : ∃ v, operand = .value v := by
  rw [Operand.operandsPairs_eq_flatMap, entriesOf, List.flatMap_map] at member
  obtain ⟨entry, -, inside⟩ := List.mem_flatMap.mp member
  exact value_of_operandOf inside

theorem value_of_values (values : List Json) {operand : Operand Attached}
    (member : operand ∈ Operand.operandsList (values.map operandOf)) :
    ∃ v, operand = .value v := by
  rw [Operand.operandsList_eq_flatMap, List.flatMap_map] at member
  obtain ⟨value, -, inside⟩ := List.mem_flatMap.mp member
  exact value_of_operandOf inside

theorem plain_of_value {operand : Operand Attached} (found : ∃ v, operand = .value v) :
    operand.Plain := by
  obtain ⟨v, rfl⟩ := found
  exact .value v

theorem plain_rowOf (members : List (String × Json)) :
    ∀ operand ∈ Operand.operandsPairs (rowOf members), operand.Plain := by
  intro operand member
  rcases Operand.mem_operandsPairs_insertAll member with inNone | inMembers
  · simp [Operand.operandsPairs] at inNone
  · exact plain_of_value (value_of_entriesOf inMembers)

theorem plain_columns (names : List String) :
    ∀ operand ∈ (columns names).flatMap Column.operands, operand.Plain := by
  simp [columns, Column.operands]

theorem rowOf_of_readRow {clause : String} {arg : Json} {row : Keyed (Operand Attached)}
    (read : readRow clause arg = .ok row) : ∃ members, row = rowOf members := by
  unfold readRow at read
  split at read
  · exact ⟨_, (Except.ok.inj read).symm⟩
  · cases read

theorem rowOf_of_readRows {clause : String} {arg : Json} {rows : List (Keyed (Operand Attached))}
    (read : readRows clause arg = .ok rows) : ∀ row ∈ rows, ∃ members, row = rowOf members := by
  unfold readRows at read
  split at read
  · cases read
    intro row member
    exact ⟨_, List.mem_singleton.mp member⟩
  · intro row member
    obtain ⟨_, _, found⟩ := exists_of_mapM_ok read row member
    exact rowOf_of_readRow found
  · cases read

theorem lone_fragment {clause : String} {arg : Json} {raw : Fragment (Operand Attached)}
    (read : readFragment clause arg = .ok raw) : raw.Lone := by
  unfold readFragment at read
  split at read
  · cases read
    exact ⟨rfl, by simp [Fragment.operands, Bindings.operands]⟩
  · rename_i template bindings
    cases found : readString clause template with
    | error fault =>
      rw [found] at read
      cases read
    | ok text =>
      rw [found] at read
      cases read
      refine ⟨rfl, fun operand member => ?_⟩
      rw [Fragment.operands] at member
      split at member
      · exact value_of_values _ member
      · exact value_of_entriesOf member
      · exact value_of_values [_] member
  · cases read

theorem plain_fragment {clause : String} {arg : Json} {raw : Fragment (Operand Attached)}
    (read : readFragment clause arg = .ok raw) :
    ∀ operand ∈ (Operand.raw raw).operands, operand.Plain := by
  have lone := lone_fragment read
  intro operand member
  rcases List.mem_cons.mp member with rfl | inside
  · exact .raw lone
  · exact plain_of_value (lone.values operand inside)

theorem makes_filter (clause : FilterClause) (lead : Lead) {condition : Filter Attached}
    {faults : List Fault} (plain : ∀ operand ∈ condition.operands, operand.Plain)
    (listed : condition.ownFaults = faults) :
    Operation.Makes faults fun b => b.filter clause lead condition :=
  .one (.filter clause lead condition) ⟨plain, rfl, trivial, rfl⟩ listed fun _ => rfl

theorem makes_select (names : List String) : Operation.Makes [] fun b => b.select (columns names) :=
  .one (.select (columns names)) ⟨plain_columns names, rfl, trivial, rfl⟩ rfl fun _ => rfl

/-- What does not fit in a comparison that a document holds. -/
def comparedFaults : Json → List Fault
  | .array [_, .string operator, value] => Filter.operatorFaults operator (operandOf value)
  | _ => []

/-- What does not fit in a join that a document holds. -/
def joinedFaults : Json → List Fault
  | .array [_, _, .string operator, _] => Operator.faults operator
  | _ => []

theorem plain_compare (column operator : String) (value : Json) :
    ∀ operand ∈ (Filter.compare (.name column) operator (operandOf value)).operands,
      operand.Plain := by
  simp [Filter.operands, Column.operands, operands_operandOf, plain_operandOf]

theorem makes_comparison (clause : String) (arg : Json) (lead : Lead) :
    Reads (Operation.Makes (comparedFaults arg)) (comparison clause arg lead) := by
  refine reads_comparison ?object ?equal ?compare
  case object =>
    rintro members rfl
    exact makes_filter _ _ (plain_rowOf _) rfl
  case equal =>
    rintro column value rfl
    have fits : comparedFaults (.array [.string column, value]) = [] := by
      cases value <;> rfl
    rw [fits]
    exact makes_filter _ _ (plain_compare column "=" value) (Filter.operatorFaults_equals _)
  case compare =>
    rintro column operator value rfl
    exact makes_filter _ _ (plain_compare column operator value) rfl

theorem makes_membership (clause : String) (arg : Json) (lead : Lead) :
    Reads (Operation.Makes []) (membership clause arg lead) :=
  reads_membership fun column values _ => makes_filter _ _
    (by simp [Filter.operands, Column.operands, operands_operandOf, plain_operandOf]) rfl

theorem makes_nullCheck (clause : String) (arg : Json) (lead : Lead) :
    Reads (Operation.Makes []) (nullCheck clause arg lead) :=
  reads_nullCheck fun column _ => makes_filter _ _ (by simp [Filter.operands, Column.operands]) rfl

theorem makes_range (clause : String) (arg : Json) (lead : Lead) :
    Reads (Operation.Makes []) (range clause arg lead) :=
  reads_range fun column low high _ => makes_filter _ _
    (by simp [Filter.operands, Column.operands, operands_operandOf, plain_operandOf]) rfl

theorem operands_on (draft : JoinDraft) (connector : Connector) (first operator second : String) :
    (draft.on connector (.name first) operator (.name second)).operands = draft.operands := by
  unfold JoinDraft.on
  split
  · simp [JoinDraft.operands, JoinDraft.add, Term.operandsList_eq_flatMap, Condition.operands,
      Column.operands]
  · rfl

theorem makes_join (kind : JoinKind) (table first operator second : String) :
    Operation.Makes (Operator.faults operator) fun b => b.join
      ((JoinDraft.start kind (.name table)).on .and (.name first) operator (.name second)) := by
  refine .one (.join _) ⟨?_, rfl, JoinDraft.shaped_on .nil _ _ _ _, rfl⟩ ?_ fun _ => rfl
  · rw [Operation.operands, operands_on]
    simp [JoinDraft.operands, JoinDraft.start, Column.operands, Term.operandsList]
  · rw [Operation.ownFaults, JoinDraft.fault_on]
    unfold Operator.faults
    split <;> rfl

theorem makes_joined (clause : String) (arg : Json) (kind : JoinKind) :
    Reads (Operation.Makes (joinedFaults arg)) (join clause arg kind) := by
  refine reads_join ?equal ?compare
  case equal =>
    rintro table first second rfl
    exact (makes_join kind table first "=" second).of_eq Operator.faults_equals
  case compare =>
    rintro table first operator second rfl
    exact makes_join kind table first operator second

theorem makes_orderByAll (orderings : List (String × String)) :
    Operation.Makes [] (orderByAll orderings) := by
  induction orderings with
  | nil => exact .nothing
  | cons ordering rest ih =>
    have first : Operation.Makes [] fun b =>
        b.orderBy (.name ordering.1) (Direction.parse ordering.2) :=
      .one (.orderBy _ _) (.bare rfl rfl trivial rfl) rfl fun _ => rfl
    exact first.append ih

theorem makes_bare (op : Operation) (nothing : op.operands = []) (group : op.built? = none)
    (formed : op.Formed) (target : op.target? = none) :
    Operation.Makes op.ownFaults fun b => pure (op.apply b) :=
  .one op (.bare nothing group formed target) rfl fun _ => rfl

theorem makes_distinct (names : List String) :
    Operation.Makes [] fun b => b.distinct.select (columns names) :=
  (makes_bare .distinct rfl rfl trivial rfl).append (makes_select names)

theorem makes_source (table : String) : Operation.Makes [] fun b => b.source (.name table) :=
  .one (.source (.name table)) (.bare rfl rfl trivial rfl) rfl fun _ => rfl

theorem makes_groupBy (names : List String) :
    Operation.Makes [] fun b => b.groupBy (columns names) :=
  .one (.groupBy (columns names)) ⟨plain_columns names, rfl, trivial, rfl⟩ rfl fun _ => rfl

theorem makes_crossJoin (table : String) :
    Operation.Makes [] fun b => b.join (.start .cross (.name table)) :=
  .one (.join (.start .cross (.name table))) (.bare rfl rfl .nil rfl) rfl fun _ => rfl

theorem makes_first (names : List String) :
    Operation.Makes [] fun b => (·.limit (some 1)) <$> b.select (columns names) :=
  (makes_select names).append (makes_bare (.limit (some 1)) rfl rfl trivial rfl)

theorem makes_insert {clause : String} {arg : Json} {rows : List (Keyed (Operand Attached))}
    (read : readRows clause arg = .ok rows) :
    Operation.Makes [] fun b => b.insert (.rows rows) := by
  refine .one (.insert (.rows rows)) ⟨?_, rfl, ?_, rfl⟩ rfl fun _ => rfl
  · intro operand member
    obtain ⟨row, inRows, inside⟩ := List.mem_flatMap.mp member
    obtain ⟨members, rfl⟩ := rowOf_of_readRows read row inRows
    exact plain_rowOf members operand inside
  · intro row inRows
    obtain ⟨members, rfl⟩ := rowOf_of_readRows read row inRows
    exact Keyed.nodup_keys_ofPairs _

theorem makes_update {clause : String} {arg : Json} {row : Keyed (Operand Attached)}
    (read : readRow clause arg = .ok row) : Operation.Makes [] fun b => b.update row := by
  obtain ⟨members, rfl⟩ := rowOf_of_readRow read
  exact .one (.update _) ⟨plain_rowOf members, rfl, trivial, rfl⟩ rfl fun _ => rfl

theorem makes_having {arg : Json} (column operator : String) (value : Json)
    (given : arg = .array [.string column, .string operator, value]) :
    Operation.Makes (comparedFaults arg) fun b =>
      b.filter .havings {} (.compare (.name column) operator (operandOf value)) := by
  subst given
  exact makes_filter _ _ (plain_compare column operator value) rfl

/-- The clauses that compare a column with a value. -/
def comparing : List String :=
  ["where", "andWhere", "orWhere", "whereNot", "orWhereNot", "having"]

/-- The clauses that join a table on a comparison of columns. -/
def joining : List String :=
  ["join", "innerJoin", "leftJoin", "leftOuterJoin", "rightJoin", "rightOuterJoin",
    "fullOuterJoin"]

/-- What does not fit in a clause that can be read. -/
def ownFaults (clause : String) (arg : Json) : List Fault :=
  if clause ∈ comparing then comparedFaults arg
  else if clause ∈ joining then joinedFaults arg
  else []

theorem ownFaults_eq_nil {clause : String} (arg : Json) (other : clause ∉ comparing ++ joining) :
    ownFaults clause arg = [] := by
  rw [List.mem_append, not_or] at other
  rw [ownFaults, if_neg other.1, if_neg other.2]

/-- Every clause that can be read does what plain operations do. -/
theorem makes_action (clause : String) (arg : Json) :
    Reads (Operation.Makes (ownFaults clause arg)) (action clause arg) := by
  unfold action
  -- One goal for each name of a clause; names of one clause share a lemma.
  split
  all_goals first
    | exact makes_comparison _ _ _
    | exact reads_having makes_having
    | exact makes_joined _ _ _
    | exact .error _
    | rw [ownFaults_eq_nil arg (by decide)]
  all_goals first
    | exact makes_membership _ _ _
    | exact makes_nullCheck _ _ _
    | exact makes_range _ _ _
    | exact reads_order makes_orderByAll
    | exact reads_distinct makes_distinct
    | exact .bind fun names _ => .ok (makes_select names)
    | exact .bind fun names _ => .ok (makes_groupBy names)
    | exact .bind fun names _ => .ok (makes_first names)
    | exact .bind fun table _ => .ok (makes_source table)
    | exact .bind fun table _ => .ok (makes_crossJoin table)
    | exact .bind fun _ read => .ok (makes_filter _ _ (plain_fragment read) rfl)
    | exact .bind fun _ read => .ok (makes_insert read)
    | exact .bind fun _ read => .ok (makes_update read)
    | exact .bind fun schema _ => .ok (makes_bare (.withSchema schema) rfl rfl trivial rfl)
    | exact .bind fun name _ => .ok (makes_bare (.withAlias name) rfl rfl trivial rfl)
    | exact .bind fun column _ =>
        .ok (makes_bare (.aggregate ⟨_, column, false⟩) rfl rfl trivial rfl)
    | exact .bind fun n _ => .ok (makes_bare (.limit n) rfl rfl trivial rfl)
    | exact .bind fun n _ => .ok (makes_bare (.offset n) rfl rfl trivial rfl)
    | exact .bind fun names _ => .ok (makes_bare (.returning names) rfl rfl trivial rfl)
    | exact .ok (makes_bare .delete rfl rfl trivial rfl)
    | exact .ok (makes_bare .truncate rfl rfl trivial rfl)

/-- The faults of clauses: what does not fit in each, and the one that ends the description. -/
def clauseFaults : List (String × Json) → List Fault
  | [] => []
  | (clause, arg) :: rest =>
    match action clause arg with
    | .ok _ => ownFaults clause arg ++ clauseFaults rest
    | .error fault => [fault]

/-- The faults of a description. -/
def faults : Json → List Fault
  | .object clauses => clauseFaults clauses
  | _ => [.descriptionNotObject]

/-- So does a whole description; what cannot be read fails. -/
theorem makes_applyClauses (clauses : List (String × Json)) :
    Operation.Makes (clauseFaults clauses) (applyClauses clauses) := by
  induction clauses with
  | nil => exact .nothing
  | cons clause rest ih =>
    obtain ⟨name, arg⟩ := clause
    rw [clauseFaults]
    cases read : action name arg with
    | error fault =>
      have stops : applyClauses ((name, arg) :: rest) = fun b => pure (b.fail fault) := by
        funext b
        rw [applyClauses, read]
      rw [stops]
      exact makes_bare (.fail fault) rfl rfl trivial rfl
    | ok apply =>
      have goes : applyClauses ((name, arg) :: rest) = fun b => apply b >>= applyClauses rest := by
        funext b
        rw [applyClauses, read]
      rw [goes]
      exact (makes_action name arg apply read).append ih

theorem makes_describe (description : Json) :
    Operation.Makes (faults description) fun b => b.describe description := by
  cases description with
  | object clauses => exact makes_applyClauses clauses
  | null | bool | number | string | array =>
    exact makes_bare (.fail .descriptionNotObject) rfl rfl trivial rfl

end Description

namespace Builder

/-- What every plain operation keeps is kept by a description. -/
theorem describe_induction {P : Builder → Prop}
    (step : ∀ (op : Operation) (b : Builder), op.Plain → P b → P (op.apply b)) {b : Builder}
    (holds : P b) (description : Json) : P (b.describe description).value := by
  obtain ⟨ops, plain, -, same⟩ := Description.makes_describe description
  rw [same]
  clear same
  induction ops generalizing b with
  | nil => exact holds
  | cons op rest ih =>
    have next := step op b (plain op List.mem_cons_self) holds
    exact ih next fun other member => plain other (List.mem_cons_of_mem _ member)

/-- A plain operation keeps the target. -/
theorem Operation.Plain.target_apply {op : Operation} (plain : op.Plain) (b : Builder) :
    (op.apply b).target = b.target := by
  have keeps := plain.target
  cases op with
  | withTarget target => cases keeps
  | _ => rfl

theorem target_describe (b : Builder) (description : Json) :
    (b.describe description).value.target = b.target :=
  describe_induction (P := fun after => after.target = b.target)
    (fun _ after plain same => (plain.target_apply after).trans same) rfl description

end Builder

end PortableSql
