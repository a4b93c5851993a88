import PortableSql.Builder.Attached

/-!
Joins under construction.

A draft collects the conditions of a join before the join is added to a statement, so its operands
are still arguments. It keeps the first fault on the way. Adding it takes that fault over to the
statement first and then resolves the table and the conditions in order, so that the join that is
added has no fault of its own.
-/

namespace PortableSql

/-- A join under construction. -/
abbrev JoinDraft := TableJoin Attached

namespace JoinDraft

/-- A join without conditions. -/
def start (kind : JoinKind) (table : Column Attached) : JoinDraft :=
  { kind, table, conditions := [], shared := [], fault := none }

/-- Records a fault unless one is recorded already. -/
def record (draft : JoinDraft) (fault : Option Fault) : JoinDraft :=
  { draft with fault := draft.fault <|> fault }

/-- Adds a condition. -/
def add (draft : JoinDraft) (connector : Connector) (condition : Condition Attached) : JoinDraft :=
  { draft with conditions := draft.conditions ++ [⟨connector, false, condition⟩] }

/-- Adds a comparison of two columns, if the operator is permitted. -/
def on (draft : JoinDraft) (connector : Connector) (first : Column Attached) (operator : String)
    (second : Column Attached) : JoinDraft :=
  match Operator.parse operator with
  | .ok operator => draft.add connector (.columns first operator second)
  | .error fault => draft.record (some fault)

/-- Adds a raw condition. -/
def onRaw (draft : JoinDraft) (connector : Connector) (fragment : Fragment (Operand Attached)) :
    JoinDraft :=
  draft.add connector (.raw fragment)

/-- Adds the conditions of another draft as a group, unless there are none, and its fault. -/
def onGroup (draft : JoinDraft) (connector : Connector) (built : JoinDraft) : JoinDraft :=
  let draft := draft.record built.fault
  if built.conditions.isEmpty then draft else draft.add connector (.group built.conditions)

/-- Adds columns that both tables share. -/
def onShared (draft : JoinDraft) (columns : List String) : JoinDraft :=
  { draft with shared := draft.shared ++ columns }

end JoinDraft

mutual

/-- A join condition with its nested statements resolved. -/
def Condition.resolve (target : Target) : Condition Attached → Build (Condition Attached)
  | .compare column operator value => do
    let column ← column.resolve target
    return .compare column operator (← value.resolve target)
  | .columns first operator second => do
    let first ← first.resolve target
    return .columns first operator (← second.resolve target)
  | .isIn column values => do
    let column ← column.resolve target
    return .isIn column (← values.resolve target)
  | .null column => return .null (← column.resolve target)
  | .between column low high => do
    let column ← column.resolve target
    let low ← low.resolve target
    return .between column low (← high.resolve target)
  | .exists query => return .exists (← query.resolve target)
  | .group terms => return .group (← Term.resolveList target terms)
  | .raw fragment => return .raw (← fragment.resolve target)
  | .literal value => return .literal value

/-- Join conditions resolved in order. -/
def Term.resolveList (target : Target) : List (Term Attached) → Build (List (Term Attached))
  | [] => return []
  | ⟨connector, negated, condition⟩ :: rest => do
    let condition ← condition.resolve target
    return ⟨connector, negated, condition⟩ :: (← Term.resolveList target rest)

end

namespace JoinDraft

/-- The finished join. -/
def resolve (target : Target) (draft : JoinDraft) : Build (TableJoin Attached) := do
  Build.inherit draft.fault
  let table ← draft.table.resolve target
  let conditions ← Term.resolveList target draft.conditions
  return { draft with table, conditions, fault := none }

end JoinDraft

end PortableSql
