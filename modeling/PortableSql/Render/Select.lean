import PortableSql.Render.Clauses

/-!
Selects: the order of the clauses, pagination and row locks.

Limit and offset apply before unions on every grammar that writes them after the statement. A
grammar that counts rows wraps the statement and its unions in one or two more selects.
-/

namespace PortableSql.Statement

/-- The row lock, or the note why it is left out. -/
def lockClause (target : Target) (s : Statement) : Rendering :=
  match s.lock with
  | none => .nothing
  | some lock =>
    if s.transacting then
      let clause := match lock with
        | .forUpdate => target.grammar.lockUpdate
        | .forShare => target.grammar.lockShare
      match clause with
      | some clause => .concat [.text " ", .text clause]
      | none => .event (.lockUnsupported target.dialect lock)
    else
      .event (.lockOutsideTransaction target.dialect)

/-- Whether a select has a limit or an offset. -/
def isPaginated (s : Statement) : Bool :=
  s.limit.isSome || s.offset.isSome

/-- The limit after the verb, on grammars that put a limit alone there. -/
def selectLimitAhead (target : Target) (s : Statement) : Rendering :=
  match target.grammar.pagination, s.limit, s.offset with
  | .top, some limit, none => .top limit
  | _, _, _ => .nothing

/-- Everything up to the ordering. -/
def selectUpToOrder (target : Target) (s : Statement) (c : RenderedClauses) : Rendering :=
  .concat [
    .text "select ",
    .guarded s.distinct (.text "distinct "),
    s.selectLimitAhead target,
    if c.columns.isEmpty then .text "*" else .commaSeparated c.columns,
    .guarded s.table.isSome (.concat [.text " from ", c.source]),
    c.joins,
    .guarded target.grammar.lockInFrom (s.lockClause target),
    c.wheres,
    c.groups,
    c.havings,
    c.orders]

/-- Limit and offset at the end. -/
def limitAndOffset (target : Target) (s : Statement) : Rendering :=
  match target.grammar.pagination, s.limit, s.offset with
  | .limitOffset _, some limit, offset =>
    .concat [.count " limit " limit, .count? " offset " offset]
  | .limitOffset loneOffset, none, some offset =>
    let limit := match loneOffset with
      | .omit => .nothing
      | .literal text => .concat [.text " limit ", .text text]
      | .bound n => .concat [.text " limit ", .slot (.int n)]
    .concat [limit, .count " offset " offset]
  | .top, limit, some offset =>
    let fetch := match limit with
      | some limit => .concat [.count " fetch next " limit, .text " rows only"]
      | none => .nothing
    .concat [.count " offset " offset, .text " rows", fetch]
  | _, _, _ => .nothing

/-- The sum of two counts, the greatest count at most. -/
def addCounts (a b : UInt64) : UInt64 :=
  if a.toNat + b.toNat < UInt64.size then a + b else UInt64.ofNat (UInt64.size - 1)

/-- A finished select inside one or two that filter on the row number. -/
def rowNumberWrap (s : Statement) (unboundedLimit : UInt64) (inner : Sql) : Rendering :=
  let limit := s.limit.getD unboundedLimit
  match s.offset with
  | none =>
    .concat [.text "select * from (", pure [.whole inner], .count ") where rownum <= " limit]
  | some offset =>
    .concat [
      .text "select * from (select row_.*, ROWNUM rownum_ from (",
      pure [.whole inner],
      .count ") row_ where rownum <= " (addCounts limit offset),
      .count ") where rownum_ > " offset]

/-- A select and its unions, paginated. -/
def selectBody (target : Target) (s : Statement) (c : RenderedClauses) : Rendering :=
  match target.grammar.pagination, s.isPaginated with
  | .rowNumber unboundedLimit, true => do
    let inner ← Rendering.concat [s.selectUpToOrder target c, c.unions]
    Render.event (.rowNumberWrap target.dialect)
    s.rowNumberWrap unboundedLimit (Sql.ofPieces inner)
  | _, _ => .concat [s.selectUpToOrder target c, s.limitAndOffset target, c.unions]

/-- A select. -/
def renderSelect (target : Target) (s : Statement) (c : RenderedClauses) : Rendering :=
  .concat [s.selectBody target c, .guarded (!target.grammar.lockInFrom) (s.lockClause target)]

end PortableSql.Statement
