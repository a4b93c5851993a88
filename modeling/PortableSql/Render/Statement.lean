import PortableSql.Render.Insert
import PortableSql.Render.Mutation
import PortableSql.Render.Select

/-!
Rendering a whole statement.

The recursion follows the tree and nothing else: each part is rendered from its rendered parts by a
function that knows nothing about trees. A statement with a recorded fault is refused, wherever it
is nested, and so is a join with one. `Statement.compile` writes the pieces of a statement into one
buffer.
-/

namespace PortableSql

/-- An aggregate function of a column. -/
def Aggregate.render (grammar : Grammar) (a : Aggregate) : Rendering :=
  let (expr, aliasName) := Identifier.parts a.column
  .concat [
    .text a.function,
    .text "(",
    .guarded a.distinct (.text "distinct "),
    .text (Identifier.renderPath grammar expr),
    .text ")",
    match aliasName with
    | some name => .text (Identifier.renderAlias grammar name)
    | none => .nothing]

/-- A statement between parentheses and its alias, if it has one. -/
def Rendering.nested (grammar : Grammar) (aliasName : Option String) (body : Rendering) :
    Rendering :=
  .concat [.between "(" ")" body,
    match aliasName with
    | some name => .text (Identifier.renderAlias grammar name)
    | none => .nothing]

/-- What a negated condition begins with. -/
def Rendering.negation (negated : Bool) : Rendering :=
  .text (if negated then "not " else "")

/-- A column in a list of values: an array as its items, and an empty array as a condition that
holds only where it is negated. -/
def Rendering.membership (negated : Bool) (column : Rendering) (values : Rendered) : Rendering :=
  match values with
  | .value (.array []) => .concat [.text "1 = ", .slot (.int (if negated then 1 else 0))]
  | .value (.array items) =>
    .concat [column, .text (if negated then " not in " else " in "),
      .between "(" ")" (.commaSeparated (items.map .slot))]
  | other =>
    .concat [column, .text (if negated then " not in " else " in "), other.enclosed]

/-- Rendered conditions with their connectors; the first connector does not count. -/
def Rendering.connected : List (Connector × Rendering) → Rendering
  | [] => .nothing
  | (_, first) :: rest =>
    .concat (first :: rest.map fun (connector, condition) =>
      .concat [.text (match connector with | .and => " and " | .or => " or "), condition])

/-- Rendered conditions after the word of their clause, or nothing when there are none. -/
def Rendering.conditionClause (lead : String) (conditions : List (Connector × Rendering)) :
    Rendering :=
  .guarded (!conditions.isEmpty) (.concat [.text lead, .connected conditions])

/-- The table and the conditions of a join. -/
def JoinKind.render (kind : JoinKind) (grammar : Grammar) (table : Rendering)
    (shared : List String) (conditions : List (Connector × Rendering)) : Rendering :=
  .concat [
    .text kind.text,
    .text " ",
    table,
    if shared.isEmpty then
      .conditionClause " on " conditions
    else
      .concat [.text " using (", .text (Identifier.renderList grammar "" shared), .text ")"]]

/-- A query appended by a union. -/
def Rendered.union (query : Rendered) (all wrap : Bool) : Rendering :=
  .concat [
    .text (if all then " union all " else " union "),
    .guarded wrap (.text "("),
    query.bare,
    .guarded wrap (.text ")")]

/-- A statement whose clauses are rendered. -/
def Statement.assemble (target : Target) (s : Statement) (c : RenderedClauses) : Rendering :=
  match s.fault with
  | some fault => throw fault
  | none =>
    match s.kind with
    | .select => s.renderSelect target c
    | .insert => s.renderInsert target c
    | .update => s.renderUpdate target c
    | .delete => s.renderDelete target c
    | .truncate => renderTruncate target c

mutual

/-- An operand with its nested parts rendered. -/
def Operand.rendered (target : Target) : Operand Attached → Rendered
  | .value v => .value v
  | .undefined => .undefined
  | .query attached => .query (attached.render target)
  | .raw fragment => .raw (Fragment.rendered target fragment)

/-- A nested statement without parentheses. A callback is run for the target first. -/
def Attached.render (target : Target) : Attached → Rendering
  | .prepared s => Statement.render target s
  | .callback build => Statement.renderBuilt target (build target)

/-- A statement that was built just now. -/
def Statement.renderBuilt (target : Target) : Logged Statement → Rendering
  | ⟨s, events⟩ => do
    Render.eventList events
    Statement.render target s

/-- A raw fragment. -/
def Fragment.rendered (target : Target) : Fragment (Operand Attached) → Rendering
  | ⟨template, bindings, around⟩ =>
    Fragment.render target.grammar ⟨template, Bindings.rendered target bindings, around⟩

/-- The bindings of a fragment. -/
def Bindings.rendered (target : Target) : Bindings (Operand Attached) → Bindings Rendered
  | .none => .none
  | .positional values => .positional (Operand.renderedList target values)
  | .named pairs => .named (Operand.renderedPairs target pairs)

/-- Operands in order. -/
def Operand.renderedList (target : Target) : List (Operand Attached) → List Rendered
  | [] => []
  | operand :: rest => operand.rendered target :: Operand.renderedList target rest

/-- Named operands in order. -/
def Operand.renderedPairs (target : Target) : List (String × Operand Attached) → Keyed Rendered
  | [] => []
  | (name, operand) :: rest => (name, operand.rendered target) :: Operand.renderedPairs target rest

/-- The rows of an insert. -/
def Operand.renderedRows (target : Target) :
    List (List (String × Operand Attached)) → List (Keyed Rendered)
  | [] => []
  | row :: rest => Operand.renderedPairs target row :: Operand.renderedRows target rest

/-- A column; a name in the place of a table comes with the schema in front. -/
def Column.render (target : Target) (schema : Option String) : Column Attached → Rendering
  | .name text => .text (Identifier.renderTable target.grammar schema text)
  | .numeral text => .text text
  | .aggregate a => a.render target.grammar
  | .query attached =>
    .nested target.grammar (attached.statement target).aliasName (attached.render target)
  | .raw fragment => Fragment.rendered target fragment

/-- Columns in order. -/
def Column.renderList (target : Target) : List (Column Attached) → List Rendering
  | [] => []
  | column :: rest => column.render target none :: Column.renderList target rest

/-- The table of a statement, which is refused where there is none. -/
def Column.renderTable (target : Target) (schema : Option String) :
    Option (Column Attached) → Rendering
  | none => throw .noTable
  | some table => table.render target schema

/-- A condition. -/
def Condition.render (target : Target) (negated : Bool) : Condition Attached → Rendering
  | .compare column operator value =>
    .concat [.negation negated, column.render target none, .text " ", .text operator.render,
      .text " ", (value.rendered target).compared]
  | .columns first operator second =>
    .concat [.negation negated, first.render target none, .text " ", .text operator.render,
      .text " ", second.render target none]
  | .isIn column values =>
    .membership negated (column.render target none) (values.rendered target)
  | .null column =>
    .concat [column.render target none, .text (if negated then " is not null" else " is null")]
  | .between column low high =>
    .concat [column.render target none, .text (if negated then " not between " else " between "),
      (low.rendered target).inValue, .text " and ", (high.rendered target).inValue]
  | .exists query =>
    .concat [.text (if negated then "not exists " else "exists "),
      (query.rendered target).enclosed]
  | .group terms =>
    .concat [.negation negated, .between "(" ")" (.connected (Term.renderList target terms))]
  | .raw fragment => .concat [.negation negated, Fragment.rendered target fragment]
  | .literal value =>
    .concat [.negation negated, .text (if value then "1 = 1" else "1 = 0")]

/-- Conditions in order, with their connectors. -/
def Term.renderList (target : Target) :
    List (Term Attached) → List (Connector × Rendering)
  | [] => []
  | ⟨connector, negated, condition⟩ :: rest =>
    (connector, condition.render target negated) :: Term.renderList target rest

/-- A join; the schema of the statement holds for the joined table too. -/
def Join.render (target : Target) (schema : Option String) : Join Attached → Rendering
  | .clause ⟨kind, table, conditions, shared, fault⟩ =>
    match fault with
    | some fault => throw fault
    | none =>
      kind.render target.grammar (table.render target schema) shared
        (Term.renderList target conditions)
  | .raw fragment => Fragment.rendered target fragment

/-- Joins in order, each after a space. -/
def Join.renderList (target : Target) (schema : Option String) :
    List (Join Attached) → List Rendering
  | [] => []
  | join :: rest =>
    .concat [.text " ", join.render target schema] :: Join.renderList target schema rest

/-- An entry of an ordering. -/
def Order.render (target : Target) : Order Attached → Rendering
  | .column column direction =>
    .concat [column.render target none, .text " ", .text direction.text]
  | .raw fragment => Fragment.rendered target fragment

/-- The entries of an ordering. -/
def Order.renderList (target : Target) : List (Order Attached) → List Rendering
  | [] => []
  | order :: rest => order.render target :: Order.renderList target rest

/-- Unions in order. -/
def UnionPart.renderList (target : Target) : List (UnionPart Attached) → List Rendering
  | [] => []
  | ⟨all, wrap, query⟩ :: rest =>
    (query.rendered target).union all wrap :: UnionPart.renderList target rest

/-- What an insert writes. -/
def InsertPayload.rendered (target : Target) :
    Option (InsertPayload Attached) → Option RenderedPayload
  | none => none
  | some (.rows rows) => some (.rows (Operand.renderedRows target rows))
  | some (.query query) => some (.query (query.rendered target))

/-- A statement without parentheses. -/
def Statement.render (target : Target) : Statement → Rendering
  | s@⟨settings, table, columns, joins, wheres, groups, havings, orders, unions, insert,
      assignments⟩ =>
    s.assemble target
      { source := Column.renderTable target settings.schema table
        columns := Column.renderList target columns
        joins := .concat (Join.renderList target settings.schema joins)
        wheres := .conditionClause " where " (Term.renderList target wheres)
        groups := .clause " group by " (Column.renderList target groups)
        havings := .conditionClause " having " (Term.renderList target havings)
        orders := .clause " order by " (Order.renderList target orders)
        unions := .concat (UnionPart.renderList target unions)
        insert := InsertPayload.rendered target insert
        assignments := Operand.renderedPairs target assignments }

end

/-- A statement as SQL text with its bound values. -/
def Statement.compile (target : Target) (s : Statement) : Render Sql := do
  let sql := Sql.ofPieces (← s.render target)
  Render.event (.compiled target.dialect sql.text sql.bindings.length)
  return sql

/-- A statement as SQL text with every value written into it. -/
def Statement.compileLiteral (target : Target) (s : Statement) : Render String := do
  return (← s.compile target).literal target.grammar

end PortableSql
