import PortableSql.Statement

/-!
Arguments of builder calls, and how they become parts of a statement.

A callback in an argument is run when the argument is resolved and not before. Resolving records the
fault of every statement that is attached, in the order of the argument, and leaves no callback
behind.
-/

namespace PortableSql

namespace Attached

/-- The statement itself, its fault recorded; `run` is the event of running a callback. -/
def resolve (target : Target) (run : Event) : Attached → Build Attached
  | .prepared statement => do
    Build.inherit statement.fault
    return .prepared statement
  | .callback build => do
    Build.ofLogged (Logged.event run)
    let statement ← Build.ofLogged (build target)
    Build.inherit statement.fault
    return .prepared statement

end Attached

mutual

/-- An operand with its nested statements resolved. -/
def Operand.resolve (target : Target) : Operand Attached → Build (Operand Attached)
  | .value v => return .value v
  | .undefined => return .undefined
  | .query attached => return .query (← attached.resolve target (.operandCallback target.dialect))
  | .raw fragment => return .raw (← Fragment.resolve target fragment)

/-- A fragment with its bindings resolved. -/
def Fragment.resolve (target : Target) :
    Fragment (Operand Attached) → Build (Fragment (Operand Attached))
  | ⟨template, bindings, around⟩ =>
    return ⟨template, ← Bindings.resolve target bindings, around⟩

/-- Bindings resolved in order. -/
def Bindings.resolve (target : Target) :
    Bindings (Operand Attached) → Build (Bindings (Operand Attached))
  | .none => return .none
  | .positional values => return .positional (← Operand.resolveList target values)
  | .named pairs => return .named (← Operand.resolvePairs target pairs)

/-- Operands resolved in order. -/
def Operand.resolveList (target : Target) :
    List (Operand Attached) → Build (List (Operand Attached))
  | [] => return []
  | operand :: rest => do
    let first ← operand.resolve target
    return first :: (← Operand.resolveList target rest)

/-- Named operands resolved in order. -/
def Operand.resolvePairs (target : Target) :
    List (String × Operand Attached) → Build (List (String × Operand Attached))
  | [] => return []
  | (name, operand) :: rest => do
    let first ← operand.resolve target
    return (name, first) :: (← Operand.resolvePairs target rest)

end

/-- Rows resolved in order. -/
def Operand.resolveRows (target : Target) :
    List (List (String × Operand Attached)) → Build (List (List (String × Operand Attached)))
  | [] => return []
  | row :: rest => do
    let first ← Operand.resolvePairs target row
    return first :: (← Operand.resolveRows target rest)

/-- A column with its nested statements resolved. -/
def Column.resolve (target : Target) : Column Attached → Build (Column Attached)
  | .name text => return .name text
  | .numeral text => return .numeral text
  | .aggregate a => return .aggregate a
  | .query attached => return .query (← attached.resolve target (.columnCallback target.dialect))
  | .raw fragment => return .raw (← fragment.resolve target)

/-- Columns resolved in order. -/
def Column.resolveList (target : Target) : List (Column Attached) → Build (List (Column Attached))
  | [] => return []
  | column :: rest => do
    let first ← column.resolve target
    return first :: (← Column.resolveList target rest)

end PortableSql
