import PortableSql.Builder.Condition
import PortableSql.Builder.Join
import PortableSql.Render.Statement

/-!
The statement builder.

A builder is a statement under construction together with the target it will be rendered for and
the modifiers `or`, `and` and `not` that wait for the next condition. Every operation returns the
builder after it, with the events on the way when it resolves arguments. Faults do not stop
building: the first one is recorded on the statement, and rendering reports it.
-/

namespace PortableSql

/-- The list of conditions that a call adds to. -/
inductive FilterClause where
  | wheres
  | havings
deriving DecidableEq

/-- The modifiers that a call brings along: a connector, if any, and a negation. -/
structure Lead where
  connector : Option Connector := none
  negated : Bool := false
deriving DecidableEq

/-- A statement under construction. -/
structure Builder where
  target : Target
  statement : Statement
  /-- The connector of the next condition. -/
  connector : Connector
  /-- Whether the next condition is negated. -/
  negated : Bool

namespace Builder

/-- An empty select. -/
def start (target : Target) : Builder :=
  ⟨target, .empty, .and, false⟩

/-- The first fault recorded. -/
def fault (b : Builder) : Option Fault :=
  b.statement.fault

/-- Changes the statement. -/
def edit (b : Builder) (f : Statement → Statement) : Builder :=
  { b with statement := f b.statement }

/-- Records a fault unless one is recorded already. -/
def fail (b : Builder) (fault : Fault) : Builder :=
  b.edit (·.record (some fault))

/-- Changes the statement by something that was built for it, and records its fault. -/
def attach {α : Type} (b : Builder) (built : Build α) (f : α → Statement → Statement) :
    Logged Builder :=
  ⟨b.edit fun s => f built.value (s.record built.fault), built.events⟩

/-! ### Modifiers and the target -/

/-- Joins the next condition by `or`. -/
def or (b : Builder) : Builder :=
  { b with connector := .or }

/-- Joins the next condition by `and`. -/
def and (b : Builder) : Builder :=
  { b with connector := .and }

/-- Negates the next condition. -/
def not (b : Builder) : Builder :=
  { b with negated := true }

/-- The modifiers that are waiting, once those of a call are counted. -/
def modifiers (b : Builder) (lead : Lead) : Connector × Bool :=
  (lead.connector.getD b.connector, b.negated || lead.negated)

/-- No modifiers are waiting. -/
def clearModifiers (b : Builder) : Builder :=
  { b with connector := .and, negated := false }

/-- The same statement for another target. -/
def withTarget (b : Builder) (target : Target) : Builder :=
  { b with target }

/-! ### Conditions -/

/-- Adds terms to a list of conditions. -/
def addTerms (clause : FilterClause) (terms : List (Term Attached)) (s : Statement) :
    Statement :=
  match clause with
  | .wheres => { s with wheres := s.wheres ++ terms }
  | .havings => { s with havings := s.havings ++ terms }

/-- Adds a condition; the modifiers that were waiting are spent on it. -/
def filter (b : Builder) (clause : FilterClause) (lead : Lead) (filter : Filter Attached) :
    Logged Builder :=
  let (connector, negated) := b.modifiers lead
  b.clearModifiers.attach (filter.terms b.target connector negated) (addTerms clause)

/-- The conditions of a builder that serve as a group: those of the one clause that has any. -/
def groupConditions (built : Builder) : Build (List (Term Attached)) := do
  Build.inherit built.fault
  match built.statement.wheres, built.statement.havings with
  | wheres, [] => return wheres
  | [], havings => return havings
  | _, _ =>
    Build.fail .mixedGroup
    return []

/-- Adds the conditions of another builder as a group, unless there are none. -/
def group (b : Builder) (clause : FilterClause) (lead : Lead) (built : Logged Builder) :
    Logged Builder :=
  let (connector, negated) := b.modifiers lead
  let terms : Build (List (Term Attached)) := do
    let inner ← Build.ofLogged built
    let conditions ← inner.groupConditions
    return if conditions.isEmpty then [] else [⟨connector, negated, .group conditions⟩]
  b.clearModifiers.attach terms (addTerms clause)

/-! ### Columns and tables -/

/-- Adds columns to the select list. -/
def select (b : Builder) (columns : List (Column Attached)) : Logged Builder :=
  b.attach (Column.resolveList b.target columns) fun columns s =>
    { s with columns := s.columns ++ columns }

/-- Adds an aggregate to the select list. -/
def aggregate (b : Builder) (a : Aggregate) : Builder :=
  b.edit fun s => { s with columns := s.columns ++ [.aggregate a] }

/-- Selects distinct rows. -/
def distinct (b : Builder) : Builder :=
  b.edit fun s => { s with distinct := true }

/-- Sets the table. -/
def source (b : Builder) (table : Column Attached) : Logged Builder :=
  b.attach (table.resolve b.target) fun table s => { s with table := some table }

/-- Sets the schema of the table and of joined tables. -/
def withSchema (b : Builder) (schema : String) : Builder :=
  b.edit fun s => { s with schema := some schema }

/-- Names the statement for where it is nested as a column or a table. -/
def withAlias (b : Builder) (name : String) : Builder :=
  b.edit fun s => { s with aliasName := some name }

/-- Adds a join. -/
def join (b : Builder) (draft : JoinDraft) : Logged Builder :=
  b.attach (draft.resolve b.target) fun clause s =>
    { s with joins := s.joins ++ [.clause clause] }

/-- Adds a raw join. -/
def joinRaw (b : Builder) (fragment : Fragment (Operand Attached)) : Logged Builder :=
  b.attach (fragment.resolve b.target) fun fragment s =>
    { s with joins := s.joins ++ [.raw fragment] }

/-! ### Grouping, ordering and pagination -/

/-- Adds columns to group by. -/
def groupBy (b : Builder) (columns : List (Column Attached)) : Logged Builder :=
  b.attach (Column.resolveList b.target columns) fun columns s =>
    { s with groups := s.groups ++ columns }

/-- Adds a column to order by. -/
def orderBy (b : Builder) (column : Column Attached) (direction : Direction) : Logged Builder :=
  b.attach (column.resolve b.target) fun column s =>
    { s with orders := s.orders ++ [.column column direction] }

/-- Adds a raw ordering. -/
def orderByRaw (b : Builder) (fragment : Fragment (Operand Attached)) : Logged Builder :=
  b.attach (fragment.resolve b.target) fun fragment s =>
    { s with orders := s.orders ++ [.raw fragment] }

/-- Sets or clears the limit. -/
def limit (b : Builder) (n : Option UInt64) : Builder :=
  b.edit fun s => { s with limit := n }

/-- Sets or clears the offset. -/
def offset (b : Builder) (n : Option UInt64) : Builder :=
  b.edit fun s => { s with offset := n }

/-! ### Unions and locks -/

/-- The queries of a union, in order; what is neither a statement nor a fragment is refused. -/
def unionParts (target : Target) (all wrap : Bool) :
    List (Operand Attached) → Build (List (UnionPart Attached))
  | [] => return []
  | operand :: rest => do
    let query ← operand.resolve target
    if query.isQuery then
      return ⟨all, wrap, query⟩ :: (← unionParts target all wrap rest)
    else
      Build.fail .unionOperand
      unionParts target all wrap rest

/-- Appends queries by unions. -/
def union (b : Builder) (queries : List (Operand Attached)) (all wrap : Bool) : Logged Builder :=
  b.attach (unionParts b.target all wrap queries) fun parts s =>
    { s with unions := s.unions ++ parts }

/-- Asks for a row lock. -/
def lock (b : Builder) (lock : Lock) : Builder :=
  b.edit fun s => { s with lock := some lock }

/-- Marks the statement as part of a transaction. -/
def transacting (b : Builder) : Builder :=
  b.edit fun s => { s with transacting := true }

/-! ### Inserts, updates and deletes -/

/-- What an insert writes, resolved; a query has to be a statement or a fragment. -/
def insertPayload (target : Target) : InsertPayload Attached → Build (InsertPayload Attached)
  | .rows rows => return .rows (← Operand.resolveRows target rows)
  | .query query => do
    let query ← query.resolve target
    if query.isQuery then
      return .query query
    else
      Build.fail .insertOperand
      return .query query

/-- Makes the statement an insert. -/
def insert (b : Builder) (source : InsertPayload Attached) : Logged Builder :=
  b.attach (insertPayload b.target source) fun source s =>
    { s with kind := .insert, insert := some source }

/-- The pairs of a row that are defined, resolved in order. -/
def definedPairs (target : Target) :
    List (String × Operand Attached) → Build (List (String × Operand Attached))
  | [] => return []
  | (_, .undefined) :: rest => definedPairs target rest
  | (name, operand) :: rest => do
    let value ← operand.resolve target
    return (name, value) :: (← definedPairs target rest)

/-- Makes the statement an update and sets its assignments; undefined ones are left out. -/
def update (b : Builder) (row : List (String × Operand Attached)) : Logged Builder :=
  b.attach (definedPairs b.target row) fun pairs s =>
    { s with kind := .update, assignments := Keyed.insertAll s.assignments pairs }

/-- Adds returning columns. -/
def returning (b : Builder) (columns : List String) : Builder :=
  b.edit fun s => { s with returning := s.returning ++ columns }

/-- Makes the statement a delete. -/
def delete (b : Builder) : Builder :=
  b.edit fun s => { s with kind := .delete }

/-- Makes the statement a truncate. -/
def truncate (b : Builder) : Builder :=
  b.edit fun s => { s with kind := .truncate }

/-! ### Rendering -/

/-- The statement as SQL text with its bound values. -/
def toSql (b : Builder) : Render Sql :=
  b.statement.compile b.target

/-- The statement as SQL text with every value written into it. -/
def toQuery (b : Builder) : Render String :=
  b.statement.compileLiteral b.target

end Builder

end PortableSql
