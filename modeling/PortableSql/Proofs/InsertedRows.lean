import PortableSql.Proofs.BoundValues
import PortableSql.Proofs.ReadAgreement

/-!
What an insert of rows binds.

The cells of an insert are a table: the columns are the names that occur in the rows, and each row
has an operand, or none, in each column. Whether the rows are written as lists of values, as a union
of selects or as a block, they bind the values of their cells row by row and column by column
(`Statement.bound_renderRows`).
-/

namespace PortableSql

namespace Sql

/-- What is written later stays behind what was written before. -/
theorem ofPieces_append (front back : List Piece) :
    ∃ rest, ofPieces (front ++ back) = (ofPieces front).append rest := by
  have one (sql : Sql) (piece : Piece) : ∃ rest, sql.write piece = sql.append rest := by
    cases piece with
    | text s =>
      by_cases marks : '?' ∈ s.toList
      · exact ⟨⟨_, []⟩, by simp [write, addText, appendEscaped, append, marks]; rfl⟩
      · exact ⟨⟨s, []⟩, by simp [write, addText, appendEscaped, append, marks]⟩
    | slot value => exact ⟨⟨"?", [value]⟩, rfl⟩
    | whole other => exact ⟨other, rfl⟩
  have all (sql : Sql) : ∃ rest, back.foldl write sql = sql.append rest := by
    induction back generalizing sql with
    | nil => exact ⟨empty, by simp [append, empty]⟩
    | cons piece back ih =>
      obtain ⟨first, written⟩ := one sql piece
      obtain ⟨rest, behind⟩ := ih (sql.write piece)
      exact ⟨first.append rest, by rw [List.foldl_cons, behind, written, append_assoc]⟩
  rw [ofPieces_eq_foldl, List.foldl_append, ← ofPieces_eq_foldl]
  exact all (ofPieces front)

end Sql

namespace Statement

/-! ### Cells -/

/-- The operand of a row in a column, if there is one and it is defined. -/
def definedCell {σ : Type} (row : Keyed (Operand σ)) (column : String) : Option (Operand σ) :=
  match Keyed.get? column row with
  | some .undefined => none
  | found => found

/-- A cell can be written: its operand renders, or the marker stands for it. -/
def CellRenders (target : Target) (row : Keyed (Operand Attached)) (column : String) : Prop :=
  match definedCell row column with
  | some operand => (operand.rendered target).inValue.Renders
  | none => target.undefinedMarker.isSome = true

instance (target : Target) (row : Keyed (Operand Attached)) (column : String) :
    Decidable (CellRenders target row column) :=
  match found : definedCell row column with
  | some operand =>
    decidable_of_iff (operand.rendered target).inValue.Renders (by rw [CellRenders, found])
  | none => decidable_of_iff (target.undefinedMarker.isSome = true) (by rw [CellRenders, found])

/-- The values that the operand of a cell binds; the marker binds none. -/
def cellValues (target : Target) (row : Keyed (Operand Attached)) (column : String) :
    List Value :=
  match definedCell row column with
  | some operand => (operand.rendered target).inValue.values
  | none => []

/-- The values of a row, column by column. -/
def rowValues (target : Target) (columns : List String) (row : Keyed (Operand Attached)) :
    List Value :=
  columns.flatMap (cellValues target row)

/-- The cells of a row one behind another. -/
def rowCells (target : Target) (columns : List String) (row : Keyed Rendered) : Rendering :=
  .concat (columns.map (cell target row))

theorem rowColumns_renderedRows (target : Target)
    (rows : List (List (String × Operand Attached))) :
    rowColumns (Operand.renderedRows target rows) = rowColumns rows := by
  have keys (row : List (String × Operand Attached)) :
      Keyed.keys (Operand.renderedPairs target row) = Keyed.keys row := by
    simp [Operand.renderedPairs_eq_map, Keyed.keys]
  rw [rowColumns, Operand.renderedRows_eq_map, List.flatMap_map]
  simp only [keys]
  rfl

/-- A cell binds what its operand binds, and the marker nothing. -/
theorem bound_cell (target : Target) (row : List (String × Operand Attached)) (column : String) :
    (cell target (Operand.renderedPairs target row) column).bound =
      match definedCell row column, target.undefinedMarker with
      | some operand, _ => (operand.rendered target).inValue.bound
      | none, some _ => .ok []
      | none, none => .error (.undefinedCell column) := by
  rw [cell, Operand.renderedPairs_eq_map, Keyed.get?_map]
  unfold definedCell
  cases Keyed.get? column row with
  | none => cases target.undefinedMarker <;> rfl
  | some operand =>
    cases operand with
    | undefined => cases target.undefinedMarker <;> rfl
    | value | query | raw => rfl

theorem renders_cell_iff {target : Target} {row : List (String × Operand Attached)}
    {column : String} :
    (cell target (Operand.renderedPairs target row) column).Renders ↔
      CellRenders target row column := by
  unfold CellRenders Rendering.Renders
  rw [bound_cell]
  cases definedCell row column with
  | some operand => rfl
  | none =>
    cases target.undefinedMarker with
    | some marker => exact iff_of_true ⟨[], rfl⟩ rfl
    | none => exact iff_of_false nofun nofun

theorem bound_cell_of_renders {target : Target} {row : List (String × Operand Attached)}
    {column : String} (renders : CellRenders target row column) :
    (cell target (Operand.renderedPairs target row) column).bound =
      .ok (cellValues target row column) := by
  unfold CellRenders at renders
  unfold cellValues
  rw [bound_cell]
  cases found : definedCell row column with
  | some operand =>
    rw [found] at renders
    exact renders.bound_eq
  | none =>
    rw [found] at renders
    obtain ⟨marker, has⟩ := Option.isSome_iff_exists.mp renders
    rw [has]

theorem bound_rowCells {target : Target} {row : List (String × Operand Attached)}
    {columns : List String} (renders : ∀ column ∈ columns, CellRenders target row column) :
    (rowCells target columns (Operand.renderedPairs target row)).bound =
      .ok (rowValues target columns row) :=
  Rendering.bound_concat_map fun column member => bound_cell_of_renders (renders column member)

theorem cellRenders_of_rowCells {target : Target} {row : List (String × Operand Attached)}
    {columns : List String}
    (renders : (rowCells target columns (Operand.renderedPairs target row)).Renders) :
    ∀ column ∈ columns, CellRenders target row column := by
  intro column member
  rw [← renders_cell_iff]
  exact Rendering.renders_of_concat renders _ (List.mem_map_of_mem member)

/-! ### Rows -/

variable (target : Target) (columns : List String)

theorem bound_rowTuple (row : Keyed Rendered) :
    (rowTuple target columns row).bound = (rowCells target columns row).bound := by
  rw [rowTuple, Rendering.bound_between, Rendering.commaSeparated, Rendering.bound_separated]
  rfl

theorem bound_rowSelect (row : Keyed Rendered) :
    (rowSelect target columns row).bound = (rowCells target columns row).bound := by
  rw [rowSelect, Rendering.commaSeparated, Rendering.bound_separated]
  refine Rendering.bound_concat_map_congr fun column _ => ?_
  rw [Rendering.bound_concat_cons, Rendering.bound_concat_text, Rendering.bound_concat_singleton,
    Rendering.bound_text]
  cases (cell target row column).bound with
  | error fault => rfl
  | ok values => exact congrArg Except.ok (List.append_nil values)

/-- The output slots at the end of an insert. -/
def outputSlots (s : Statement) : List Value :=
  if target.grammar.returning = .rowId ∧ s.returning ≠ [] then [.returning s.returning] else []

variable (s : Statement)

theorem bound_returningAhead (table : String) : (s.returningAhead target table).bound = .ok [] := by
  unfold returningAhead Rendering.guarded
  split <;> rfl

theorem bound_returningNote : (s.returningNote target).bound = .ok [] := by
  unfold returningNote Rendering.guarded
  split <;> rfl

theorem bound_returningAtEnd : (s.returningAtEnd target).bound = .ok (s.outputSlots target) := by
  unfold returningAtEnd Rendering.guarded outputSlots
  cases returning : s.returning with
  | nil => simp
  | cons column rest =>
    cases target.grammar.returning with
    | unsupported => exact bound_returningNote target s
    | clause | output | rowId => rfl

/-! ### Strategies

A grammar that writes a union returns nothing from inserts, and one that writes a block returns row
identifiers, so the output slots of the three strategies are the same list. -/

theorem returning_of_unionAll (union : target.grammar.multiRow = .unionAll) :
    target.grammar.returning = .unsupported := by
  unfold Target.grammar at union ⊢
  cases found : target.dialect <;> rw [found] at union <;> first | rfl | cases union

theorem returning_of_block (block : target.grammar.multiRow = .block) :
    target.grammar.returning = .rowId := by
  unfold Target.grammar at block ⊢
  cases found : target.dialect <;> rw [found] at block <;> first | rfl | cases block

theorem bound_rowsAsValues (rows : List (Keyed Rendered)) (head : Sql) :
    (s.rowsAsValues target columns rows head).bound =
      (Rendering.concat (rows.map (rowCells target columns))).bound.map
        (head.bindings ++ · ++ s.outputSlots target) := by
  have tuples : (Rendering.concat (rows.map (rowTuple target columns))).bound =
      (Rendering.concat (rows.map (rowCells target columns))).bound :=
    Rendering.bound_concat_map_congr fun row _ => bound_rowTuple target columns row
  rw [rowsAsValues, Rendering.bound_concat_cons,
    Rendering.bound_concat_cons_of_nil (bound_returningAhead target s "inserted"),
    Rendering.bound_concat_text, Rendering.bound_concat_cons, Rendering.commaSeparated,
    Rendering.bound_separated, tuples, Rendering.bound_concat_singleton,
    bound_returningAtEnd target s, Rendering.bound_pure]
  cases (Rendering.concat (rows.map (rowCells target columns))).bound with
  | error fault => rfl
  | ok values => simp [Except.bind, Except.map, Piece.bindings]

theorem bound_rowsAsUnion (union : target.grammar.multiRow = .unionAll)
    (rows : List (Keyed Rendered)) (head : Sql) :
    (s.rowsAsUnion target columns rows head).bound =
      (Rendering.concat (rows.map (rowCells target columns))).bound.map
        (head.bindings ++ · ++ s.outputSlots target) := by
  have selects : (Rendering.concat (rows.map (rowSelect target columns))).bound =
      (Rendering.concat (rows.map (rowCells target columns))).bound :=
    Rendering.bound_concat_map_congr fun row _ => bound_rowSelect target columns row
  have noSlots : s.outputSlots target = [] := by
    simp [outputSlots, returning_of_unionAll target union]
  rw [rowsAsUnion, Rendering.bound_concat_cons, Rendering.bound_concat_text,
    Rendering.bound_concat_pair_of_nil _ (bound_returningNote target s), Rendering.bound_separated,
    selects, Rendering.bound_pure, noSlots]
  cases (Rendering.concat (rows.map (rowCells target columns))).bound with
  | error fault => rfl
  | ok values => simp [Except.bind, Except.map, Piece.bindings]

theorem bindings_usingList (returning : List String) (values : List Value) :
    (usingList returning values).flatMap Piece.bindings =
      values ++ if returning = [] then [] else [.returning returning] := by
  have inputs (start : Nat) :
      ((values.zipIdx start).flatMap fun input =>
        [Piece.text (if input.2 = 0 then " using " else ", "), .slot input.1]).flatMap
          Piece.bindings = values := by
    induction values generalizing start with
    | nil => rfl
    | cons value rest ih => simpa [Piece.bindings] using ih (start + 1)
  unfold usingList
  cases returning with
  | nil => exact (inputs 0).trans (List.append_nil values).symm
  | cons column rest =>
    refine List.flatMap_append.trans ?_
    exact congrArg (· ++ [Value.returning (column :: rest)]) (inputs 0)

/-- A row of a block binds its values and its output slots. -/
theorem bindings_blockRow (block : target.grammar.multiRow = .block) (head : String)
    (values : Sql) :
    (s.blockRow head values).flatMap Piece.bindings = values.bindings ++ s.outputSlots target := by
  have slots : s.outputSlots target =
      if s.returning = [] then [] else [.returning s.returning] := by
    unfold outputSlots
    rw [returning_of_block target block]
    by_cases returning : s.returning = [] <;> simp [returning]
  simp [blockRow, Piece.bindings, bindings_usingList, slots]

theorem bound_rowsAsBlock (rows : List (Keyed Rendered)) (head : Sql) :
    (s.rowsAsBlock target columns rows head).bound =
      (Rendering.concat (rows.map fun row => do
        let values ← rowTuple target columns row
        return s.blockRow head.text (Sql.ofPieces values))).bound := by
  rw [rowsAsBlock, Rendering.bound_concat_text,
    Rendering.bound_concat_pair_of_nil _ (Rendering.bound_text "end;")]

theorem bound_blockRow (block : target.grammar.multiRow = .block) (head : String)
    (row : Keyed Rendered) :
    Rendering.bound (do
        let values ← rowTuple target columns row
        return s.blockRow head (Sql.ofPieces values)) =
      (rowCells target columns row).bound.map (· ++ s.outputSlots target) := by
  rw [Rendering.bound_bind, ← bound_rowTuple, Rendering.bound]
  cases (rowTuple target columns row).outcome with
  | error fault => rfl
  | ok pieces =>
    exact congrArg Except.ok (bindings_blockRow target s block head (Sql.ofPieces pieces))

/-! ### Whole inserts -/

/-- A block is written, a statement for each row. -/
def WritesBlock {α : Type} (rows : List α) : Prop :=
  target.grammar.multiRow = .block ∧ 1 < rows.length

/-- A union of selects is written, a select for each row. -/
def WritesUnion {α : Type} (rows : List α) : Prop :=
  target.grammar.multiRow = .unionAll ∧ 1 < rows.length

instance {α : Type} (rows : List α) : Decidable (WritesBlock target rows) :=
  inferInstanceAs (Decidable (_ ∧ _))

instance {α : Type} (rows : List α) : Decidable (WritesUnion target rows) :=
  inferInstanceAs (Decidable (_ ∧ _))

@[simp] theorem writesBlock_map {α β : Type} (f : α → β) (rows : List α) :
    WritesBlock target (rows.map f) ↔ WritesBlock target rows := by
  rw [WritesBlock, List.length_map]
  rfl

@[simp] theorem writesUnion_map {α β : Type} (f : α → β) (rows : List α) :
    WritesUnion target (rows.map f) ↔ WritesUnion target rows := by
  rw [WritesUnion, List.length_map]
  rfl

/-- What an insert of rows with at least one column binds, if its table binds `table`. In a block
the values of the table are lost. -/
def insertValues (table : List Value) (rows : List (Keyed (Operand Attached))) : List Value :=
  if WritesBlock target rows then
    rows.flatMap fun row => rowValues target columns row ++ s.outputSlots target
  else
    table ++ rows.flatMap (rowValues target columns) ++ s.outputSlots target

variable {target columns s}

theorem outcome_insertInto {c : RenderedClauses} {table : List Value}
    (source : c.source.bound = .ok table) :
    ∃ pieces, (insertInto target c columns).outcome = .ok pieces ∧
      (Sql.ofPieces pieces).bindings = table := by
  have head : (insertInto target c columns).bound = .ok table := by
    rw [insertInto, Rendering.bound_concat_text, Rendering.bound_concat_cons, source]
    exact congrArg Except.ok (List.append_nil table)
  exact Rendering.outcome_of_bound head

theorem source_of_insertInto {c : RenderedClauses}
    (renders : (insertInto target c columns).Renders) : c.source.Renders :=
  Rendering.renders_of_concat renders _ (by simp)

/-- Several rows are written in the way of the grammar, a single one as a list of values. -/
theorem renderRows_eq {c : RenderedClauses} {pieces : List Piece}
    (head : (insertInto target c columns).outcome = .ok pieces) (rows : List (Keyed Rendered)) :
    (s.renderRows target c columns rows).outcome =
      if WritesBlock target rows then
        (s.rowsAsBlock target columns rows (Sql.ofPieces pieces)).outcome
      else if WritesUnion target rows then
        (s.rowsAsUnion target columns rows (Sql.ofPieces pieces)).outcome
      else
        (s.rowsAsValues target columns rows (Sql.ofPieces pieces)).outcome := by
  rw [renderRows, Render.outcome_bind, head]
  change Render.outcome (if rows.length ≤ 1 then _ else _) = _
  by_cases few : rows.length ≤ 1
  · have single : ¬1 < rows.length := Nat.not_lt.mpr few
    rw [if_pos few, if_neg fun block => single block.2, if_neg fun union => single union.2]
  · have several : 1 < rows.length := Nat.lt_of_not_le few
    rw [if_neg few]
    split <;> rename_i strategy <;> simp [WritesBlock, WritesUnion, strategy, several]

theorem ofPieces_of_whole {head : Sql} {rs : List Rendering} {pieces : List Piece}
    (rendered : (Rendering.concat (pure [.whole head] :: rs)).outcome = .ok pieces) :
    ∃ rest, Sql.ofPieces pieces = head.append rest := by
  obtain ⟨front, back, first, -, rfl⟩ := Rendering.exists_outcome_of_concat rendered
  obtain rfl : [.whole head] = front := Except.ok.inj first
  have alone : Sql.ofPieces [.whole head] = head := by
    simp [Sql.ofPieces, Piece.writeText, Piece.bindings]
  obtain ⟨rest, behind⟩ := Sql.ofPieces_append [.whole head] back
  exact ⟨rest, by rw [behind, alone]⟩

/-- Outside blocks, an insert begins with the text of its table, and its first values are those of
the table. -/
theorem ofPieces_renderRows {c : RenderedClauses} {rows : List (Keyed Rendered)}
    {pieces : List Piece} (rendered : (s.renderRows target c columns rows).outcome = .ok pieces)
    (single : ¬WritesBlock target rows) :
    ∃ table rest, c.source.outcome = .ok table ∧
      Sql.ofPieces pieces = (Sql.ofPieces (.text "insert into " :: table)).append rest := by
  cases head : (insertInto target c columns).outcome with
  | error fault =>
    rw [renderRows, Render.outcome_bind, head] at rendered
    cases rendered
  | ok front =>
    have whole : ∃ rest, Sql.ofPieces pieces = (Sql.ofPieces front).append rest := by
      rw [renderRows_eq head, if_neg single] at rendered
      split at rendered
      · exact ofPieces_of_whole rendered
      · exact ofPieces_of_whole rendered
    obtain ⟨words, others, first, later, rfl⟩ := Rendering.exists_outcome_of_concat head
    obtain rfl : [.text "insert into "] = words := Except.ok.inj first
    obtain ⟨table, more, source, -, rfl⟩ := Rendering.exists_outcome_of_concat later
    obtain ⟨last, ends⟩ := whole
    obtain ⟨columns, begins⟩ := Sql.ofPieces_append (.text "insert into " :: table) more
    refine ⟨table, columns.append last, source, ?_⟩
    rw [ends, ← Sql.append_assoc, ← begins]
    rfl

theorem bound_renderRows_of_not_block {c : RenderedClauses} {rows : List (Keyed Rendered)}
    {table : List Value} (source : c.source.bound = .ok table)
    (single : ¬WritesBlock target rows) :
    (s.renderRows target c columns rows).bound =
      (Rendering.concat (rows.map (rowCells target columns))).bound.map
        (table ++ · ++ s.outputSlots target) := by
  obtain ⟨pieces, head, rfl⟩ := outcome_insertInto source
  rw [Rendering.bound, renderRows_eq head, if_neg single]
  split
  · rename_i union
    exact bound_rowsAsUnion target columns s union.1 rows (Sql.ofPieces pieces)
  · exact bound_rowsAsValues target columns s rows (Sql.ofPieces pieces)

theorem bound_renderRows_of_block {c : RenderedClauses} {rows : List (Keyed Rendered)}
    {table : List Value} (source : c.source.bound = .ok table) (block : WritesBlock target rows) :
    ∃ head, (s.renderRows target c columns rows).bound =
      (Rendering.concat (rows.map fun row => do
        let values ← rowTuple target columns row
        return s.blockRow head (Sql.ofPieces values))).bound := by
  obtain ⟨pieces, head, rfl⟩ := outcome_insertInto source
  refine ⟨(Sql.ofPieces pieces).text, ?_⟩
  rw [← bound_rowsAsBlock, Rendering.bound, Rendering.bound, renderRows_eq head, if_pos block]

/-- An insert whose table and whose cells render binds the values of its cells, row by row and
column by column. -/
theorem bound_renderRows {c : RenderedClauses} {rows : List (Keyed (Operand Attached))}
    {table : List Value} (source : c.source.bound = .ok table)
    (filled : ∀ row ∈ rows, ∀ column ∈ columns, CellRenders target row column) :
    (s.renderRows target c columns (Operand.renderedRows target rows)).bound =
      .ok (insertValues target columns s table rows) := by
  have each (row) (member : row ∈ rows) :
      (rowCells target columns (Operand.renderedPairs target row)).bound =
        .ok (rowValues target columns row) := bound_rowCells (filled row member)
  rw [Operand.renderedRows_eq_map, insertValues]
  by_cases block : WritesBlock target rows
  · obtain ⟨head, same⟩ := bound_renderRows_of_block source
      ((writesBlock_map target (Operand.renderedPairs target) rows).mpr block)
    rw [same, if_pos block, List.map_map]
    refine Rendering.bound_concat_map fun row member => ?_
    refine (bound_blockRow target columns s block.1 head _).trans ?_
    rw [each row member]
    rfl
  · have cells : (Rendering.concat
        (rows.map (rowCells target columns ∘ Operand.renderedPairs target))).bound =
          .ok (rows.flatMap (rowValues target columns)) := Rendering.bound_concat_map each
    have single : ¬WritesBlock target (rows.map (Operand.renderedPairs target)) := by
      rwa [writesBlock_map]
    rw [bound_renderRows_of_not_block source single, if_neg block, List.map_map, cells]
    rfl

/-- An insert that is not stopped is stopped neither in its table nor in any cell. -/
theorem renders_of_renderRows {c : RenderedClauses} {rows : List (Keyed (Operand Attached))}
    (renders : (s.renderRows target c columns (Operand.renderedRows target rows)).Renders) :
    c.source.Renders ∧ ∀ row ∈ rows, ∀ column ∈ columns, CellRenders target row column := by
  have source : c.source.Renders := by
    rw [renderRows, Rendering.Renders, Rendering.bound_bind] at renders
    obtain ⟨values, given⟩ := renders
    cases head : (insertInto target c columns).outcome with
    | error fault =>
      rw [head] at given
      cases given
    | ok pieces => exact source_of_insertInto ⟨_, Rendering.bound_of_outcome head⟩
  refine ⟨source, fun row member => cellRenders_of_rowCells ?_⟩
  rw [Operand.renderedRows_eq_map] at renders
  have inRows : Operand.renderedPairs target row ∈ rows.map (Operand.renderedPairs target) :=
    List.mem_map_of_mem member
  by_cases block : WritesBlock target (rows.map (Operand.renderedPairs target))
  · obtain ⟨head, same⟩ := bound_renderRows_of_block source.bound_eq block
    rw [Rendering.Renders, same] at renders
    obtain ⟨values, given⟩ := Rendering.renders_of_concat renders _ (List.mem_map_of_mem inRows)
    rw [bound_blockRow target columns s block.1] at given
    exact Rendering.renders_of_map given
  · obtain ⟨values, given⟩ := renders
    rw [bound_renderRows_of_not_block source.bound_eq block] at given
    exact Rendering.renders_of_concat (Rendering.renders_of_map given) _
      (List.mem_map_of_mem inRows)

end Statement

end PortableSql
