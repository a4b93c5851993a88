import PortableSql.Description

/-!
Builder calls as data.

A `Call` is one operation on a builder with its arguments as they are given. Callbacks are lists of
calls. A nested builder that is prepared beforehand is built when the arguments of the call it
belongs to are read, before the call itself and whether or not the call uses it; a callback is run
only when the call resolves it. `Call.runAll` applies calls in order and is total: it follows the
structure of the calls.
-/

namespace PortableSql

mutual

/-- A nested statement as it is given to a call. -/
inductive Nested where
  /-- A callback, run on a fresh builder. -/
  | callback (calls : List Call)
  /-- A builder prepared beforehand, for the target in effect or for a dialect of its own. -/
  | builder (calls : List Call) (dialect : Option Dialect)

/-- A call on a builder. -/
inductive Call where
  | or
  | and
  | not
  | filter (clause : FilterClause) (lead : Lead) (filter : Filter Nested)
  | group (clause : FilterClause) (lead : Lead) (calls : List Call)
  | select (columns : List (Column Nested))
  /-- Selects columns and limits the result to one row. -/
  | first (columns : List (Column Nested))
  | aggregate (aggregate : Aggregate)
  | distinct
  | source (table : Column Nested)
  | withSchema (schema : String)
  | withAlias (name : String)
  | join (kind : JoinKind) (table : Column Nested) (conditions : List JoinCall)
  | joinRaw (fragment : Fragment (Operand Nested))
  | groupBy (columns : List (Column Nested))
  | orderBy (column : Column Nested) (direction : Direction)
  | orderByRaw (fragment : Fragment (Operand Nested))
  | limit (n : Option UInt64)
  | offset (n : Option UInt64)
  | union (queries : List (Operand Nested)) (all wrap : Bool)
  | lock (lock : Lock)
  | transacting
  | insert (source : InsertPayload Nested) (returning : List String)
  | update (row : List (String × Operand Nested)) (returning : List String)
  | returning (columns : List String)
  | delete
  | truncate
  /-- Applies calls to the builder itself. -/
  | modify (calls : List Call)
  /-- Applies calls to a copy that is dropped. -/
  | fork (calls : List Call)
  | withTarget (target : Target)
  | describe (description : Json)

/-- A call on a join under construction. -/
inductive JoinCall where
  | on (connector : Connector) (first : Column Nested) (operator : String) (second : Column Nested)
  | onRaw (connector : Connector) (fragment : Fragment (Operand Nested))
  | onGroup (connector : Connector) (calls : List JoinCall)
  | onShared (columns : List String)

end

mutual

/-- A nested statement as an argument: a prepared builder is built, and a callback is kept for the
target that it will be run for. -/
def Nested.attach (target : Target) : Nested → Logged Attached
  | .callback calls =>
    return .callback fun client => Builder.statement <$> Call.runAll calls (.start client)
  | .builder calls dialect => do
    let own := match dialect with
      | some dialect => Target.ofDialect dialect
      | none => target
    return .prepared (← Call.runAll calls (.start own)).statement

/-- An operand as an argument. -/
def Operand.attach (target : Target) : Operand Nested → Logged (Operand Attached)
  | .value v => return .value v
  | .undefined => return .undefined
  | .query nested => return .query (← nested.attach target)
  | .raw fragment => return .raw (← Fragment.attach target fragment)

/-- A fragment as an argument. -/
def Fragment.attach (target : Target) :
    Fragment (Operand Nested) → Logged (Fragment (Operand Attached))
  | ⟨template, bindings, around⟩ =>
    return ⟨template, ← Bindings.attach target bindings, around⟩

/-- The bindings of a fragment as arguments. -/
def Bindings.attach (target : Target) :
    Bindings (Operand Nested) → Logged (Bindings (Operand Attached))
  | .none => return .none
  | .positional values => return .positional (← Operand.attachList target values)
  | .named pairs => return .named (← Operand.attachPairs target pairs)

/-- Operands as arguments, in order. -/
def Operand.attachList (target : Target) : List (Operand Nested) → Logged (List (Operand Attached))
  | [] => return []
  | operand :: rest => do
    let first ← operand.attach target
    return first :: (← Operand.attachList target rest)

/-- Named operands as arguments, in order. -/
def Operand.attachPairs (target : Target) :
    List (String × Operand Nested) → Logged (List (String × Operand Attached))
  | [] => return []
  | (name, operand) :: rest => do
    let first ← operand.attach target
    return (name, first) :: (← Operand.attachPairs target rest)

/-- Rows as arguments, in order; the last value given for a name counts. -/
def Operand.attachRows (target : Target) :
    List (List (String × Operand Nested)) → Logged (List (Keyed (Operand Attached)))
  | [] => return []
  | pairs :: rest => do
    let row ← Operand.attachPairs target pairs
    return Keyed.ofPairs row :: (← Operand.attachRows target rest)

/-- A column as an argument. -/
def Column.attach (target : Target) : Column Nested → Logged (Column Attached)
  | .name text => return .name text
  | .numeral text => return .numeral text
  | .aggregate a => return .aggregate a
  | .query nested => return .query (← nested.attach target)
  | .raw fragment => return .raw (← Fragment.attach target fragment)

/-- Columns as arguments, in order. -/
def Column.attachList (target : Target) : List (Column Nested) → Logged (List (Column Attached))
  | [] => return []
  | column :: rest => do
    let first ← column.attach target
    return first :: (← Column.attachList target rest)

/-- The parts of a condition as arguments. -/
def Filter.attach (target : Target) : Filter Nested → Logged (Filter Attached)
  | .compare column operator operand => do
    let column ← column.attach target
    return .compare column operator (← operand.attach target)
  | .isIn column operand => do
    let column ← column.attach target
    return .isIn column (← operand.attach target)
  | .null column => return .null (← column.attach target)
  | .between column low high => do
    let column ← column.attach target
    let low ← low.attach target
    return .between column low (← high.attach target)
  | .exists query => return .exists (← query.attach target)
  | .object pairs => return .object (Keyed.ofPairs (← Operand.attachPairs target pairs))
  | .raw fragment => return .raw (← Fragment.attach target fragment)
  | .literal b => return .literal b

/-- What an insert writes, as an argument. -/
def InsertPayload.attach (target : Target) : InsertPayload Nested → Logged (InsertPayload Attached)
  | .rows rows => return .rows (← Operand.attachRows target rows)
  | .query query => return .query (← query.attach target)

/-- One call on a join under construction. -/
def JoinCall.run (target : Target) (draft : JoinDraft) : JoinCall → Logged JoinDraft
  | .on connector first operator second => do
    let first ← first.attach target
    return draft.on connector first operator (← second.attach target)
  | .onRaw connector fragment => return draft.onRaw connector (← Fragment.attach target fragment)
  | .onGroup connector calls => do
    let built ← JoinCall.runAll target calls (.start draft.kind draft.table)
    return draft.onGroup connector built
  | .onShared columns => return draft.onShared columns

/-- Calls on a join under construction, in order. -/
def JoinCall.runAll (target : Target) : List JoinCall → JoinDraft → Logged JoinDraft
  | [], draft => return draft
  | call :: rest, draft => do
    let draft ← call.run target draft
    JoinCall.runAll target rest draft

/-- One call. -/
def Call.run (b : Builder) : Call → Logged Builder
  | .or => return b.or
  | .and => return b.and
  | .not => return b.not
  | .filter clause lead filter => do
    let filter ← filter.attach b.target
    b.filter clause lead filter
  | .group clause lead calls =>
    b.group clause lead (Call.runAll calls (.start b.target))
  | .select columns => do
    let columns ← Column.attachList b.target columns
    b.select columns
  | .first columns => do
    let columns ← Column.attachList b.target columns
    return (← b.select columns).limit (some 1)
  | .aggregate a => return b.aggregate a
  | .distinct => return b.distinct
  | .source table => do
    let table ← table.attach b.target
    b.source table
  | .withSchema schema => return b.withSchema schema
  | .withAlias name => return b.withAlias name
  | .join kind table conditions => do
    let table ← table.attach b.target
    let draft ← JoinCall.runAll b.target conditions (.start kind table)
    b.join draft
  | .joinRaw fragment => do
    let fragment ← Fragment.attach b.target fragment
    b.joinRaw fragment
  | .groupBy columns => do
    let columns ← Column.attachList b.target columns
    b.groupBy columns
  | .orderBy column direction => do
    let column ← column.attach b.target
    b.orderBy column direction
  | .orderByRaw fragment => do
    let fragment ← Fragment.attach b.target fragment
    b.orderByRaw fragment
  | .limit n => return b.limit n
  | .offset n => return b.offset n
  | .union queries all wrap => do
    let queries ← Operand.attachList b.target queries
    b.union queries all wrap
  | .lock kind => return b.lock kind
  | .transacting => return b.transacting
  | .insert source columns => do
    let source ← source.attach b.target
    return (← b.insert source).returning columns
  | .update pairs columns => do
    let pairs ← Operand.attachPairs b.target pairs
    return (← b.update (Keyed.ofPairs pairs)).returning columns
  | .returning columns => return b.returning columns
  | .delete => return b.delete
  | .truncate => return b.truncate
  | .modify calls => Call.runAll calls b
  | .fork calls => do
    let _ ← Call.runAll calls b
    return b
  | .withTarget target => return b.withTarget target
  | .describe description => b.describe description

/-- Calls in order. -/
def Call.runAll : List Call → Builder → Logged Builder
  | [], b => return b
  | call :: rest, b => do
    let b ← call.run b
    Call.runAll rest b

end

namespace JoinCall

/-- A comparison of two columns for equality. -/
def onEqual (connector : Connector) (first second : Column Nested) : JoinCall :=
  .on connector first "=" second

/-- The conditions of a join on one comparison of two columns. -/
def single (first : Column Nested) (operator : String) (second : Column Nested) : List JoinCall :=
  [.on .and first operator second]

end JoinCall

end PortableSql
