import PortableSql.Builder

/-!
Statements described by documents.

A description is an object whose members are clauses, applied to a builder in the order of the
document. `Description.action` reads one clause; an unknown clause or an argument of the wrong shape
is recorded as a fault and ends the description there.
-/

namespace PortableSql

namespace Description

/-- What a clause does to a builder. -/
abbrev Action := Builder → Logged Builder

/-- The fault of a clause whose argument is not what is expected. -/
def wrongShape {α : Type} (clause expected : String) : Except Fault α :=
  .error (.clauseShape clause expected)

/-! ### Shapes of arguments -/

/-- A string. -/
def readString (clause : String) : Json → Except Fault String
  | .string s => .ok s
  | _ => wrongShape clause "a string"

/-- A string or several. -/
def readStrings (clause : String) : Json → Except Fault (List String)
  | .string s => .ok [s]
  | .array items => items.mapM (readString clause)
  | _ => wrongShape clause "a string or an array of strings"

/-- An array of one of the given lengths. -/
def readArray (clause : String) (lengths : List Nat) (arg : Json) : Except Fault (List Json) :=
  let expected := "an array of " ++ " or ".intercalate (lengths.map toString) ++ " elements"
  match arg with
  | .array items => if items.length ∈ lengths then .ok items else wrongShape clause expected
  | _ => wrongShape clause expected

/-- A document as an operand. -/
def operandOf (arg : Json) : Operand Attached :=
  .value (Value.ofJson arg)

/-- The members of an object as named operands. -/
def entriesOf (members : List (String × Json)) : List (String × Operand Attached) :=
  members.map fun (name, value) => (name, operandOf value)

/-- The members of an object as a row. -/
def rowOf (members : List (String × Json)) : Keyed (Operand Attached) :=
  Keyed.ofPairs (entriesOf members)

/-- A row. -/
def readRow (clause : String) : Json → Except Fault (Keyed (Operand Attached))
  | .object members => .ok (rowOf members)
  | _ => wrongShape clause "an object"

/-- A count, or null for none. -/
def readCount (clause : String) (arg : Json) : Except Fault (Option UInt64) :=
  match arg, arg.natural? with
  | .null, _ => .ok none
  | _, some n => .ok (some n)
  | _, none => wrongShape clause "a non-negative integer"

/-- A raw fragment: a template alone or with its bindings. -/
def readFragment (clause : String) : Json → Except Fault (Fragment (Operand Attached))
  | .string template => .ok ⟨template, .none, none⟩
  | .array [template, bindings] => do
    let template ← readString clause template
    let bindings := match bindings with
      | .array values => .positional (values.map operandOf)
      | .object members => .named (entriesOf members)
      | single => .positional [operandOf single]
    return ⟨template, bindings, none⟩
  | _ => wrongShape clause "a string or [sql, bindings]"

/-! ### Clauses -/

/-- A condition on rows. -/
def filter (lead : Lead) (f : Filter Attached) : Action :=
  fun b => b.filter .wheres lead f

/-- An object of equalities, a column and a value, or a column, an operator and a value. -/
def comparison (clause : String) (arg : Json) (lead : Lead) : Except Fault Action :=
  match arg with
  | .object members => .ok (filter lead (.object (rowOf members)))
  | _ => do
    match ← readArray clause [2, 3] arg with
    | [column, value] =>
      return filter lead (.equal (.name (← readString clause column)) (operandOf value))
    | [column, operator, value] =>
      let column ← readString clause column
      let operator ← readString clause operator
      return filter lead (.compare (.name column) operator (operandOf value))
    | _ => wrongShape clause "an array of 2 or 3 elements"

/-- A column and an array of values. -/
def membership (clause : String) (arg : Json) (lead : Lead) : Except Fault Action := do
  match ← readArray clause [2] arg with
  | [column, values] =>
    let column ← readString clause column
    match values with
    | .array _ => return filter lead (.isIn (.name column) (operandOf values))
    | _ => wrongShape clause "[column, [values]]"
  | _ => wrongShape clause "an array of 2 elements"

/-- A column that is null. -/
def nullCheck (clause : String) (arg : Json) (lead : Lead) : Except Fault Action :=
  return filter lead (.null (.name (← readString clause arg)))

/-- A column and an array of two bounds. -/
def range (clause : String) (arg : Json) (lead : Lead) : Except Fault Action := do
  match ← readArray clause [2] arg with
  | [column, bounds] =>
    let column ← readString clause column
    match ← readArray clause [2] bounds with
    | [low, high] => return filter lead (.between (.name column) (operandOf low) (operandOf high))
    | _ => wrongShape clause "an array of 2 elements"
  | _ => wrongShape clause "an array of 2 elements"

/-- A table, a column, an operator unless it is equality, and another column. -/
def join (clause : String) (arg : Json) (kind : JoinKind) : Except Fault Action := do
  let items ← readArray clause [3, 4] arg
  let action (table first operator second : String) : Action := fun b =>
    b.join ((JoinDraft.start kind (.name table)).on .and (.name first) operator (.name second))
  match ← items.mapM (readString clause) with
  | [table, first, second] => return action table first "=" second
  | [table, first, operator, second] => return action table first operator second
  | _ => wrongShape clause "an array of 3 or 4 strings"

/-- Whether a document names a sort direction. -/
def namesDirection : Json → Bool
  | .string s => Text.lowerAscii s == "asc" || Text.lowerAscii s == "desc"
  | _ => false

/-- An entry of a list of orderings: a column, or an object with a column and perhaps an order. -/
def readOrdering (clause : String) : Json → Except Fault (String × String)
  | .object members => do
    let column ← match Keyed.get? "column" members with
      | some column => readString clause column
      | none => wrongShape clause "objects with a column"
    let direction ← match Keyed.get? "order" members with
      | some direction => readString clause direction
      | none => .ok "asc"
    return (column, direction)
  | other => return (← readString clause other, "asc")

/-- Orders by columns one after another. -/
def orderByAll : List (String × String) → Action
  | [], b => return b
  | (column, direction) :: rest, b => do
    orderByAll rest (← b.orderBy (.name column) (Direction.parse direction))

/-- A column, a column with a direction, or a list of orderings. -/
def order (clause : String) (arg : Json) : Except Fault Action :=
  match arg with
  | .string column => .ok (orderByAll [(column, "asc")])
  | .array items => do
    match items with
    | [.string column, direction] =>
      if namesDirection direction then
        return orderByAll [(column, ← readString clause direction)]
      else
        return orderByAll (← items.mapM (readOrdering clause))
    | _ => return orderByAll (← items.mapM (readOrdering clause))
  | _ => wrongShape clause "a column, [column, direction] or a list of orderings"

/-- One row or several. -/
def readRows (clause : String) : Json → Except Fault (List (Keyed (Operand Attached)))
  | .object members => .ok [rowOf members]
  | .array items => items.mapM (readRow clause)
  | _ => wrongShape clause "an object or an array of objects"

/-- An aggregate of a column. -/
def aggregate (clause : String) (arg : Json) : Except Fault Action := do
  let column ← readString clause arg
  return fun b => return b.aggregate ⟨clause, column, false⟩

/-- Column names as columns. -/
def columns (names : List String) : List (Column Attached) :=
  names.map .name

/-- What one clause does to a builder. -/
def action (clause : String) (arg : Json) : Except Fault Action :=
  match clause with
  | "select" | "columns" | "column" => do
    let names ← readStrings clause arg
    return fun b => b.select (columns names)
  | "distinct" => do
    let names ← match arg with
      | .bool _ | .null => .ok []
      | _ => readStrings clause arg
    return fun b => b.distinct.select (columns names)
  | "from" | "table" | "into" => do
    let table ← readString clause arg
    return fun b => b.source (.name table)
  | "withSchema" => do
    let schema ← readString clause arg
    return fun b => return b.withSchema schema
  | "as" => do
    let name ← readString clause arg
    return fun b => return b.withAlias name
  | "where" | "andWhere" => comparison clause arg {}
  | "orWhere" => comparison clause arg { connector := some .or }
  | "whereNot" => comparison clause arg { negated := true }
  | "orWhereNot" => comparison clause arg { connector := some .or, negated := true }
  | "whereIn" => membership clause arg {}
  | "whereNotIn" => membership clause arg { negated := true }
  | "orWhereIn" => membership clause arg { connector := some .or }
  | "orWhereNotIn" => membership clause arg { connector := some .or, negated := true }
  | "whereNull" => nullCheck clause arg {}
  | "whereNotNull" => nullCheck clause arg { negated := true }
  | "orWhereNull" => nullCheck clause arg { connector := some .or }
  | "orWhereNotNull" => nullCheck clause arg { connector := some .or, negated := true }
  | "whereBetween" => range clause arg {}
  | "whereNotBetween" => range clause arg { negated := true }
  | "whereRaw" => do
    let raw ← readFragment clause arg
    return filter {} (.raw raw)
  | "join" | "innerJoin" => join clause arg .inner
  | "leftJoin" => join clause arg .left
  | "leftOuterJoin" => join clause arg .leftOuter
  | "rightJoin" => join clause arg .right
  | "rightOuterJoin" => join clause arg .rightOuter
  | "fullOuterJoin" => join clause arg .fullOuter
  | "crossJoin" => do
    let table ← readString clause arg
    return fun b => b.join (.start .cross (.name table))
  | "groupBy" => do
    let names ← readStrings clause arg
    return fun b => b.groupBy (columns names)
  | "having" => do
    match ← readArray clause [3] arg with
    | [column, operator, value] =>
      let column ← readString clause column
      let operator ← readString clause operator
      return fun b => b.filter .havings {} (.compare (.name column) operator (operandOf value))
    | _ => wrongShape clause "an array of 3 elements"
  | "orderBy" => order clause arg
  | "limit" => do
    let n ← readCount clause arg
    return fun b => return b.limit n
  | "offset" => do
    let n ← readCount clause arg
    return fun b => return b.offset n
  | "first" => do
    let names ← readStrings clause arg
    return fun b => return (← b.select (columns names)).limit (some 1)
  | "count" | "min" | "max" | "sum" | "avg" => aggregate clause arg
  | "insert" => do
    let source ← readRows clause arg
    return fun b => b.insert (.rows source)
  | "update" => do
    let pairs ← readRow clause arg
    return fun b => b.update pairs
  | "returning" => do
    let names ← readStrings clause arg
    return fun b => return b.returning names
  | "delete" | "del" => .ok fun b => return b.delete
  | "truncate" => .ok fun b => return b.truncate
  | _ => .error (.unknownClause clause)

/-- Applies clauses in order, up to the first that cannot be read. -/
def applyClauses : List (String × Json) → Builder → Logged Builder
  | [], b => return b
  | (clause, arg) :: rest, b =>
    match action clause arg with
    | .ok apply => do applyClauses rest (← apply b)
    | .error fault => return b.fail fault

end Description

namespace Builder

/-- Applies a description. -/
def describe (b : Builder) : Json → Logged Builder
  | .object clauses => Description.applyClauses clauses b
  | _ => return b.fail .descriptionNotObject

end Builder

end PortableSql
