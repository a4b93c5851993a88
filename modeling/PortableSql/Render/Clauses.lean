import PortableSql.Render.Rendered

/-!
The rendered clauses of a statement, and the clauses that several kinds of statements share.

Rendering a statement has two steps. First every nested part is rendered, which gives its
`RenderedClauses`; then the kind of the statement and the grammar decide which clauses are written
and in which order. The second step never looks inside a nested part.
-/

namespace PortableSql

/-- What an insert writes, rendered. -/
inductive RenderedPayload where
  | rows (rows : List (Keyed Rendered))
  | query (query : Rendered)

/-- The rendered clauses of a statement; each comes with the words that introduce it. -/
structure RenderedClauses where
  /-- The table alone. -/
  source : Rendering
  /-- The columns, one by one. -/
  columns : List Rendering
  joins : Rendering
  wheres : Rendering
  groups : Rendering
  havings : Rendering
  orders : Rendering
  unions : Rendering
  insert : Option RenderedPayload
  assignments : Keyed Rendered

namespace Rendering

/-- A rendering that is there only on a condition. -/
def guarded (condition : Bool) (body : Rendering) : Rendering :=
  if condition then body else nothing

/-- A bound count after a text. -/
def count (lead : String) (n : UInt64) : Rendering :=
  concat [text lead, slot (Value.ofCount n)]

/-- A bound count after a text, if there is one. -/
def count? (lead : String) (n : Option UInt64) : Rendering :=
  match n with
  | some n => count lead n
  | none => nothing

/-- A row limit in front of what it limits. -/
def top (limit : UInt64) : Rendering :=
  concat [count "top (" limit, text ") "]

end Rendering

namespace Statement

/-- The note that returning columns are left out, if there are any. -/
def returningNote (target : Target) (s : Statement) : Rendering :=
  .guarded (!s.returning.isEmpty) (.event (.returningDropped target.dialect s.returning))

/-- The returning columns ahead of the values, for grammars that put them there; `table` is the
pseudo-table they are read from. -/
def returningAhead (target : Target) (s : Statement) (table : String) : Rendering :=
  .guarded (target.grammar.returning = .output ∧ s.returning ≠ [])
    (.concat [.text " output ",
      .text (Identifier.renderList target.grammar (table ++ ".") s.returning)])

/-- The returning columns at the end, or the note that they are left out. -/
def returningAtEnd (target : Target) (s : Statement) : Rendering :=
  .guarded (!s.returning.isEmpty)
    (match target.grammar.returning with
    | .clause =>
      .concat [.text " returning ", .text (Identifier.renderList target.grammar "" s.returning)]
    | .rowId => .concat [.text " returning ROWID into ", .slot (.returning s.returning)]
    | .output => .nothing
    | .unsupported => s.returningNote target)

end Statement

end PortableSql
