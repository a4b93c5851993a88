import PortableSql.Render.Clauses

/-!
Updates, deletes and truncates.

Joins, order and limit of a mutation are written on the grammars that have them and left out with a
note on the others.
-/

namespace PortableSql.Statement

/-- The limit after the verb, on grammars that put it there. -/
def mutationLimitAhead (target : Target) (s : Statement) : Rendering :=
  match target.grammar.mutationLimit, s.limit with
  | .top, some limit => .top limit
  | _, _ => .nothing

/-- Order and limit at the end, or the note that they are left out. -/
def mutationOrderAndLimit (target : Target) (s : Statement) (c : RenderedClauses) : Rendering :=
  match target.grammar.mutationLimit with
  | .trailing => .concat [c.orders, .count? " limit " s.limit]
  | .top => c.orders
  | .omit =>
    .guarded (s.limit.isSome || !s.orders.isEmpty) (.event (.orderDropped target.dialect))

/-- What ends a mutation that returns nothing. -/
def mutationEnd (target : Target) (s : Statement) : Rendering :=
  .guarded s.returning.isEmpty (.text target.grammar.mutationSuffix)

/-- The joins of a mutation, or the note that they are left out. -/
def keptJoins (target : Target) (s : Statement) (c : RenderedClauses) (kept : Bool)
    (verb : String) : Rendering :=
  if kept then c.joins
  else .guarded (!s.joins.isEmpty) (.event (.joinsDropped target.dialect verb))

/-- One assignment. -/
def assignment (target : Target) (column : String) (value : Rendered) : Rendering :=
  .concat [.text (Identifier.render target.grammar column), .text " = ", value.inValue]

/-- An update. -/
def renderUpdate (target : Target) (s : Statement) (c : RenderedClauses) : Rendering :=
  if c.assignments.isEmpty then
    throw .noAssignments
  else
    .concat [
      .text "update ",
      s.mutationLimitAhead target,
      c.source,
      s.keptJoins target c target.grammar.updateJoins "update",
      .text " set ",
      .commaSeparated (c.assignments.map fun (column, value) => assignment target column value),
      s.returningAhead target "inserted",
      c.wheres,
      s.mutationOrderAndLimit target c,
      s.returningAtEnd target,
      s.mutationEnd target]

/-- What a joined delete calls the table whose rows it deletes, if the table is a name. -/
def deleteReference (target : Target) (s : Statement) : Rendering :=
  match s.table with
  | some (.name text) =>
    .concat [.text (Identifier.tableName target.grammar s.schema text), .text " "]
  | _ => .nothing

/-- A delete. -/
def renderDelete (target : Target) (s : Statement) (c : RenderedClauses) : Rendering :=
  let joined := target.grammar.deleteJoins && !s.joins.isEmpty
  .concat [
    .text "delete ",
    s.mutationLimitAhead target,
    .guarded joined (s.deleteReference target),
    .text "from ",
    c.source,
    s.keptJoins target c joined "delete",
    s.returningAhead target "deleted",
    c.wheres,
    s.mutationOrderAndLimit target c,
    match target.grammar.returning with
    | .rowId => s.returningNote target
    | _ => s.returningAtEnd target,
    s.mutationEnd target]

/-- A truncate. -/
def renderTruncate (target : Target) (c : RenderedClauses) : Rendering :=
  .between target.grammar.truncate.1 target.grammar.truncate.2 c.source

end PortableSql.Statement
