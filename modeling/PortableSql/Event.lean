import PortableSql.Dialect
import PortableSql.Text.Quoted

/-!
What happens while a statement is built and rendered.

An event names what happened and under which dialect. Its level, its text and its named details
follow from that, so that a log can be written in any form.
-/

namespace PortableSql

/-- A row lock that a select asks for. -/
inductive Lock where
  | forUpdate
  | forShare
deriving DecidableEq

/-- How much attention an event deserves. -/
inductive Level where
  | trace
  | debug
  | warn
deriving DecidableEq

/-- Something that happened under a dialect. -/
inductive Event where
  /-- A callback for an operand is run. -/
  | operandCallback (dialect : Dialect)
  /-- A callback for a column or a table is run. -/
  | columnCallback (dialect : Dialect)
  /-- A select is put inside one that filters on row numbers. -/
  | rowNumberWrap (dialect : Dialect)
  /-- A lock is left out because the statement runs in no transaction. -/
  | lockOutsideTransaction (dialect : Dialect)
  /-- A lock is left out because the dialect has no clause for it. -/
  | lockUnsupported (dialect : Dialect) (lock : Lock)
  /-- The order and limit of an update or delete are left out. -/
  | orderDropped (dialect : Dialect)
  /-- The joins of an update or delete are left out. -/
  | joinsDropped (dialect : Dialect) (verb : String)
  /-- Returning columns are left out. -/
  | returningDropped (dialect : Dialect) (columns : List String)
  /-- A statement is rendered. -/
  | compiled (dialect : Dialect) (sql : String) (bindings : Nat)
deriving DecidableEq

namespace Lock

/-- The name of a lock in events. -/
def name : Lock → String
  | .forUpdate => "ForUpdate"
  | .forShare => "ForShare"

end Lock

namespace Level

/-- The name of a level. -/
def name : Level → String
  | .trace => "trace"
  | .debug => "debug"
  | .warn => "warn"

end Level

namespace Event

/-- The level of an event. -/
def level : Event → Level
  | .operandCallback _ | .columnCallback _ | .rowNumberWrap _ => .trace
  | .lockOutsideTransaction _ => .warn
  | .lockUnsupported _ _ | .orderDropped _ | .joinsDropped _ _ | .returningDropped _ _
  | .compiled _ _ _ => .debug

/-- What an event says. -/
def message : Event → String
  | .operandCallback _ => "resolving sub-query callback"
  | .columnCallback _ => "resolving sub-query callback in identifier position"
  | .rowNumberWrap _ => "wrapping select for rownum pagination"
  | .lockOutsideTransaction _ => "row lock requested outside of a transaction; lock omitted"
  | .lockUnsupported _ _ => "row lock not supported; lock omitted"
  | .orderDropped _ => "order by and limit are not supported on this mutation; clauses dropped"
  | .joinsDropped _ _ => "joins are not supported on this mutation; clause dropped"
  | .returningDropped _ _ => "returning is not supported here; clause dropped"
  | .compiled _ _ _ => "compiled statement"

/-- The named details of an event; the dialect comes first. -/
def fields : Event → List (String × String)
  | .operandCallback dialect | .columnCallback dialect | .rowNumberWrap dialect
  | .lockOutsideTransaction dialect | .orderDropped dialect => [("dialect", dialect.name)]
  | .lockUnsupported dialect lock => [("dialect", dialect.name), ("lock", lock.name)]
  | .joinsDropped dialect verb => [("dialect", dialect.name), ("verb", verb)]
  | .returningDropped dialect columns =>
    [("dialect", dialect.name), ("columns", Text.quotedList columns)]
  | .compiled dialect sql bindings =>
    [("dialect", dialect.name), ("sql", sql), ("bindings", toString bindings)]

end Event

end PortableSql
