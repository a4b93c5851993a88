import PortableSql.Render.Clauses

/-!
Inserts: one table of cells, written in one of three ways.

The columns of an insert are the names that occur in its rows, in the order in which they occur
first. A cell that a row does not have is undefined. Grammars write several rows as lists of values,
as a union of selects, or as a block with a statement for each row.
-/

namespace PortableSql.Statement

/-- The names that occur in rows, each once, in the order of first occurrence. -/
def rowColumns {α : Type} (rows : List (Keyed α)) : List String :=
  (rows.flatMap Keyed.keys).eraseDups

/-- The cell of a row in a column. -/
def cell (target : Target) (row : Keyed Rendered) (column : String) : Rendering :=
  Rendered.inCell target.undefinedMarker column (Keyed.get? column row)

/-- The cells of a row between parentheses. -/
def rowTuple (target : Target) (columns : List String) (row : Keyed Rendered) : Rendering :=
  .between "(" ")" (.commaSeparated (columns.map (cell target row)))

/-- Everything up to the list of columns. -/
def insertInto (target : Target) (c : RenderedClauses) (columns : List String) : Rendering :=
  .concat [.text "insert into ", c.source, .text " (",
    .text (Identifier.renderList target.grammar "" columns), .text ")"]

/-- Rows as lists of values. -/
def rowsAsValues (target : Target) (s : Statement) (columns : List String)
    (rows : List (Keyed Rendered)) (head : Sql) : Rendering :=
  .concat [
    pure [.whole head],
    s.returningAhead target "inserted",
    .text " values ",
    .commaSeparated (rows.map (rowTuple target columns)),
    s.returningAtEnd target]

/-- A row as the select of its cells under the names of the columns. -/
def rowSelect (target : Target) (columns : List String) (row : Keyed Rendered) : Rendering :=
  .commaSeparated (columns.map fun column =>
    .concat [cell target row column, .text " as ", .text (Identifier.quote target.grammar column)])

/-- Rows as a union of selects. -/
def rowsAsUnion (target : Target) (s : Statement) (columns : List String)
    (rows : List (Keyed Rendered)) (head : Sql) : Rendering :=
  .concat [
    pure [.whole head],
    .text " select ",
    .separated " union all select " (rows.map (rowSelect target columns)),
    s.returningNote target]

/-- The values that a row of a block uses, the output slot last. -/
def usingList (returning : List String) (values : List Value) : List Piece :=
  let inputs := (values.zipIdx).flatMap fun (value, index) =>
    [.text (if index = 0 then " using " else ", "), .slot value]
  if returning.isEmpty then
    inputs
  else
    inputs ++ [.text (if values.isEmpty then " using out " else ", out "),
      .slot (.returning returning)]

/-- A row of a block: a statement for it alone, as the text of a literal, and the values it uses. -/
def blockRow (s : Statement) (head : String) (values : Sql) : List Piece :=
  let (numbered, count) := Sql.numbered values.text
  let text := head ++ " values " ++ numbered ++
    (if s.returning.isEmpty then "" else " returning ROWID into :" ++ toString (count + 1))
  [.text "execute immediate '", .text (String.ofList (Value.doubleQuotes text.toList)), .text "'"]
    ++ usingList s.returning values.bindings ++ [.text "; "]

/-- Rows as a block with a statement for each. -/
def rowsAsBlock (target : Target) (s : Statement) (columns : List String)
    (rows : List (Keyed Rendered)) (head : Sql) : Rendering :=
  .concat [
    .text "begin ",
    .concat (rows.map fun row => do
      let values ← rowTuple target columns row
      return s.blockRow head.text (Sql.ofPieces values)),
    .text "end;"]

/-- Rows with at least one column. -/
def renderRows (target : Target) (s : Statement) (c : RenderedClauses) (columns : List String)
    (rows : List (Keyed Rendered)) : Rendering := do
  let head := Sql.ofPieces (← insertInto target c columns)
  if rows.length ≤ 1 then
    s.rowsAsValues target columns rows head
  else
    match target.grammar.multiRow with
    | .values => s.rowsAsValues target columns rows head
    | .unionAll => s.rowsAsUnion target columns rows head
    | .block => s.rowsAsBlock target columns rows head

/-- Rows without any column. -/
def renderEmptyRows (target : Target) (s : Statement) (c : RenderedClauses) (count : Nat) :
    Rendering :=
  let grammar := target.grammar
  if 1 < count ∧ grammar.emptyRow ≠ .emptyValues then
    throw (.severalEmptyRows grammar.name)
  else
    .concat [
      .text "insert into ",
      c.source,
      match grammar.emptyRow with
      | .defaultValues =>
        .concat [s.returningAhead target "inserted", .text " default values",
          s.returningAtEnd target]
      | .emptyValues =>
        .concat [.text " () values ", .text (", ".intercalate (List.replicate count "()"))]
      | .returningColumn =>
        match s.returning with
        | column :: _ =>
          .concat [.text " (", .text (Identifier.render grammar column),
            .text ") values (default)", s.returningAtEnd target]
        | [] => throw (.emptyRowColumn grammar.name)]

/-- An insert; one without rows is nothing. -/
def renderInsert (target : Target) (s : Statement) (c : RenderedClauses) : Rendering :=
  match c.insert with
  | none => .nothing
  | some (.query query) => .concat [.text "insert into ", c.source, .text " ", query.bare]
  | some (.rows rows) =>
    if rows.isEmpty then
      .nothing
    else
      let columns := rowColumns rows
      if columns.isEmpty then s.renderEmptyRows target c rows.length
      else s.renderRows target c columns rows

end PortableSql.Statement
