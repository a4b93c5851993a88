import PortableSql.Keyed
import PortableSql.Logged
import PortableSql.Operator
import PortableSql.Target
import PortableSql.Value

/-!
Statements as trees.

A statement holds operands and columns, and these may hold further statements. The types of the
parts have a parameter `σ` for whatever stands in the place of a nested statement. In a statement
this is an `Attached`: a statement that is there already, or a callback that is still to be run.
A builder runs the callbacks in what it is given; one that is left in a tree is run when the tree is
rendered.
-/

namespace PortableSql

/-- The bindings of a raw fragment. -/
inductive Bindings (α : Type) where
  /-- None; the template is text as it is. -/
  | none
  | positional (values : List α)
  | named (pairs : List (String × α))

/-- Raw SQL: a template with bindings, between two texts if `around` is given. -/
structure Fragment (α : Type) where
  template : String
  bindings : Bindings α
  around : Option (String × String)

/-- What may stand in the place of a value. -/
inductive Operand (σ : Type) where
  | value (value : Value)
  /-- A value that was left out. -/
  | undefined
  | query (statement : σ)
  | raw (fragment : Fragment (Operand σ))

/-- An aggregate function of a column, which may carry an alias. -/
structure Aggregate where
  function : String
  column : String
  distinct : Bool
deriving DecidableEq

/-- What may stand in the place of an identifier. -/
inductive Column (σ : Type) where
  /-- A name, possibly dotted and with an alias. -/
  | name (text : String)
  /-- The text of a number, written as it is. -/
  | numeral (text : String)
  | aggregate (aggregate : Aggregate)
  | query (statement : σ)
  | raw (fragment : Fragment (Operand σ))

/-- How a condition is joined to the one before it. -/
inductive Connector where
  | and
  | or
deriving DecidableEq

mutual

/-- A condition. -/
inductive Condition (σ : Type) where
  | compare (column : Column σ) (operator : Operator) (value : Operand σ)
  /-- A comparison of two columns. -/
  | columns (first : Column σ) (operator : Operator) (second : Column σ)
  | isIn (column : Column σ) (values : Operand σ)
  | null (column : Column σ)
  | between (column : Column σ) (low high : Operand σ)
  | exists (query : Operand σ)
  | group (terms : List (Term σ))
  | raw (fragment : Fragment (Operand σ))
  /-- Always true or always false. -/
  | literal (value : Bool)

/-- A condition with its connector, which does not count on the first of a list, and its
negation. -/
structure Term (σ : Type) where
  connector : Connector
  negated : Bool
  condition : Condition σ

end

/-- The kinds of joins. -/
inductive JoinKind where
  | inner
  | left
  | leftOuter
  | right
  | rightOuter
  | fullOuter
  | outer
  | cross
deriving DecidableEq

/-- A join with the conditions it is made on, or the columns that both tables share. -/
structure TableJoin (σ : Type) where
  kind : JoinKind
  table : Column σ
  conditions : List (Term σ)
  shared : List String
  /-- The first fault recorded while the join was built. -/
  fault : Option Fault

/-- A join. -/
inductive Join (σ : Type) where
  | clause (clause : TableJoin σ)
  | raw (fragment : Fragment (Operand σ))

/-- A sort direction. -/
inductive Direction where
  | asc
  | desc
deriving DecidableEq

/-- An entry of an ordering. -/
inductive Order (σ : Type) where
  | column (column : Column σ) (direction : Direction)
  | raw (fragment : Fragment (Operand σ))

/-- A query appended by a union. -/
structure UnionPart (σ : Type) where
  all : Bool
  /-- Whether the query is put between parentheses. -/
  wrap : Bool
  query : Operand σ

/-- What an insert writes. -/
inductive InsertPayload (σ : Type) where
  | rows (rows : List (List (String × Operand σ)))
  | query (query : Operand σ)

/-- What a statement does. -/
inductive StatementKind where
  | select
  | insert
  | update
  | delete
  | truncate
deriving DecidableEq

/-- The parts of a statement that hold no further parts. -/
structure Settings where
  kind : StatementKind := .select
  schema : Option String := none
  /-- What the statement is called where it is nested as a column or a table. -/
  aliasName : Option String := none
  distinct : Bool := false
  limit : Option UInt64 := none
  offset : Option UInt64 := none
  returning : List String := []
  lock : Option Lock := none
  /-- Whether the statement runs inside a transaction. -/
  transacting : Bool := false
  /-- The first fault recorded while the statement was built. -/
  fault : Option Fault := none

mutual

/-- What stands in the place of a nested statement. -/
inductive Attached where
  /-- A statement. -/
  | prepared (statement : Statement)
  /-- A callback that is still to be run: what it builds for a target, and the events on the way. -/
  | callback (build : Target → Logged Statement)

/-- A statement. -/
@[ext]
structure Statement extends Settings where
  table : Option (Column Attached)
  columns : List (Column Attached)
  joins : List (Join Attached)
  wheres : List (Term Attached)
  groups : List (Column Attached)
  havings : List (Term Attached)
  orders : List (Order Attached)
  unions : List (UnionPart Attached)
  insert : Option (InsertPayload Attached)
  assignments : List (String × Operand Attached)

end

namespace Attached

/-- What an attachment gives for a target: its statement, and the events of running a callback. -/
def build (target : Target) : Attached → Logged Statement
  | .prepared statement => pure statement
  | .callback build => build target

/-- The statement that an attachment stands for under a target. -/
def statement (target : Target) (attached : Attached) : Statement :=
  (attached.build target).value

end Attached

namespace Connector

/-- The name of a connector. -/
def name : Connector → String
  | .and => "and"
  | .or => "or"

end Connector

namespace JoinKind

/-- A kind of join as SQL text. -/
def text : JoinKind → String
  | .inner => "inner join"
  | .left => "left join"
  | .leftOuter => "left outer join"
  | .right => "right join"
  | .rightOuter => "right outer join"
  | .fullOuter => "full outer join"
  | .outer => "outer join"
  | .cross => "cross join"

end JoinKind

namespace Direction

/-- A direction as SQL text. -/
def text : Direction → String
  | .asc => "asc"
  | .desc => "desc"

/-- The direction that a text asks for: descending for `desc` in any letter case, else ascending. -/
def parse (s : String) : Direction :=
  if Text.lowerAscii (Text.trim s) = "desc" then .desc else .asc

end Direction

namespace StatementKind

/-- The name of a kind of statement. -/
def name : StatementKind → String
  | .select => "select"
  | .insert => "insert"
  | .update => "update"
  | .delete => "delete"
  | .truncate => "truncate"

end StatementKind

namespace Operand

variable {σ : Type}

/-- Whether an operand is a bound null. -/
def isNull : Operand σ → Bool
  | .value v => v.isNull
  | _ => false

/-- Whether an operand is a statement or a fragment. -/
def isQuery : Operand σ → Bool
  | .query _ | .raw _ => true
  | _ => false

end Operand

namespace Statement

/-- A select of everything from nothing. -/
def empty : Statement :=
  { table := none, columns := [], joins := [], wheres := [], groups := [], havings := []
    orders := [], unions := [], insert := none, assignments := [] }

instance : Inhabited Statement := ⟨empty⟩

/-- Records a fault unless one is recorded already. -/
def record (s : Statement) (fault : Option Fault) : Statement :=
  { s with fault := s.fault <|> fault }

end Statement

end PortableSql
