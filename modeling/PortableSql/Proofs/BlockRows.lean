import PortableSql.Proofs.EscapedTrees
import PortableSql.Proofs.InsertAgreement

/-!
A block inserts its rows one by one.

Where an insert of several rows is written as a block, each row has an execution of its own in it.
Read from the text and the values of the block, it is the insert of that row alone over all columns,
with numbers in the place of its placeholders and its values listed behind it
(`Statement.readBlock_compile`). Names and raw texts may hold question marks and quotes; backslashes
they must not hold, for these are taken for escapes that were written before.
-/

namespace PortableSql

/-! ### The columns of one row -/

private theorem eraseDups_of_nodup {names : List String} (distinct : names.Nodup) :
    names.eraseDups = names := by
  induction names with
  | nil => rfl
  | cons name rest ih =>
    obtain ⟨fresh, others⟩ := List.nodup_cons.mp distinct
    have kept : rest.filter (fun other => !other == name) = rest := by
      refine List.filter_eq_self.mpr fun other member => ?_
      simpa using fun same : other = name => fresh (same ▸ member)
    rw [List.eraseDups_cons, kept, ih others]

namespace Keyed

variable {α : Type}

theorem get?_map_names {names : List String} {name : String} (f : String → α)
    (member : name ∈ names) :
    get? name (names.map fun other => (other, f other)) = some (f name) := by
  induction names with
  | nil => cases member
  | cons other rest ih =>
    rw [List.map_cons, get?]
    split
    · rename_i same
      rw [same]
    · rename_i different
      exact ih ((List.mem_cons.mp member).resolve_left (Ne.symm different))

end Keyed

namespace Statement

/-- A row with a cell in each column; what it does not have is undefined. -/
def fullRow (columns : List String) (row : List (String × Operand Attached)) :
    List (String × Operand Attached) :=
  columns.map fun column => (column, (Keyed.get? column row).getD .undefined)

/-- The insert of one row over given columns. -/
def insertRow (s : Statement) (columns : List String) (row : List (String × Operand Attached)) :
    Statement :=
  { s with insert := some (.rows [fullRow columns row]) }

/-- A statement alone as an execution: numbers are in the place of its placeholders, and the values
are taken in but for those that it gives out, which are last. -/
def executed (s : Statement) (sql : Sql) : Execution :=
  let inputs := sql.bindings.length - s.outputs.length
  ⟨Sql.numberPlaceholders sql.text,
    (sql.bindings.take inputs).map .input ++ (sql.bindings.drop inputs).map .output⟩

section Rows

variable {target : Target} {s : Statement} {columns : List String}
  {rows : List (List (String × Operand Attached))} (row : List (String × Operand Attached))

theorem rowColumns_fullRow (distinct : columns.Nodup) :
    rowColumns [fullRow columns row] = columns := by
  have keys : Keyed.keys (fullRow columns row) = columns := by
    simp [Keyed.keys, fullRow, Function.comp_def]
  rw [rowColumns, List.flatMap_singleton, keys, eraseDups_of_nodup distinct]

theorem nodup_rowColumns : (rowColumns rows).Nodup :=
  (columnsOf_rowColumns rows).nodup

/-- The cells of a full row are those of the row. -/
theorem rowTuple_fullRow :
    rowTuple target columns (Operand.renderedPairs target (fullRow columns row)) =
      rowTuple target columns (Operand.renderedPairs target row) := by
  have each : ∀ column ∈ columns,
      cell target (Operand.renderedPairs target (fullRow columns row)) column =
        cell target (Operand.renderedPairs target row) column := by
    intro column member
    rw [cell, cell, Operand.renderedPairs_eq_map, Operand.renderedPairs_eq_map, Keyed.get?_map,
      Keyed.get?_map, fullRow, Keyed.get?_map_names _ member]
    cases Keyed.get? column row <;> rfl
  rw [rowTuple, rowTuple, List.map_congr_left each]

theorem insertsRows_insertRow (inserts : s.InsertsRows rows) :
    (s.insertRow (rowColumns rows) row).InsertsRows [fullRow (rowColumns rows) row] where
  kind := inserts.kind
  payload := rfl
  columns := by
    rw [rowColumns_fullRow row nodup_rowColumns]
    exact inserts.columns

end Rows

/-! ### One row alone -/

variable {target : Target} {s : Statement}

/-- The insert of one row: the head, the tuple of its cells and the output slot. -/
def rowSql (s : Statement) (head values : Sql) : Sql :=
  (head.append ⟨" values ", []⟩).append (values.append
    (if s.returning.isEmpty then .empty else ⟨" returning ROWID into ?", s.outputs⟩))

section Alone

variable (block : target.grammar.multiRow = .block)

include block

theorem outcome_returningAhead_of_block (table : String) :
    (s.returningAhead target table).outcome = .ok [] := by
  have form := returning_of_block target block
  rw [returningAhead, Rendering.guarded, if_neg (by simp [form])]
  rfl

theorem outcome_returningAtEnd_of_block :
    ∃ pieces, (s.returningAtEnd target).outcome = .ok pieces ∧ Piece.Fresh pieces ∧
      Sql.ofPieces pieces =
        if s.returning.isEmpty then .empty else ⟨" returning ROWID into ?", s.outputs⟩ := by
  have form := returning_of_block target block
  unfold returningAtEnd Rendering.guarded outputs
  rw [form]
  cases s.returning with
  | nil => exact ⟨[], rfl, .nil, rfl⟩
  | cons column rest =>
    exact ⟨[.text " returning ROWID into ", .slot (.returning (column :: rest))], rfl,
      .text (by decide), rfl⟩

theorem outcome_rowsAsValues_singleton (columns : List String) (row : Keyed Rendered) (head : Sql) :
    (s.rowsAsValues target columns [row] head).outcome.map Sql.ofPieces =
      ((rowTuple target columns row).outcome.map Sql.ofPieces).map (s.rowSql head) := by
  obtain ⟨last, atEnd, fresh, slot⟩ := outcome_returningAtEnd_of_block (s := s) block
  have alone : (Rendering.commaSeparated [rowTuple target columns row]).outcome =
      (rowTuple target columns row).outcome := by
    rw [Rendering.commaSeparated, Rendering.separated, List.map_nil, Rendering.outcome_concat_cons]
    cases (rowTuple target columns row).outcome with
    | error fault => rfl
    | ok tuple => exact congrArg Except.ok (List.append_nil tuple)
  have front : Sql.ofPieces [.whole head, .text " values "] = head.append ⟨" values ", []⟩ := by
    have fresh : Piece.Fresh [.text " values "] := .text (by decide)
    have words : Sql.ofPieces [.text " values "] = ⟨" values ", []⟩ := rfl
    rw [← List.singleton_append, Sql.ofPieces_append_of_fresh fresh, Sql.ofPieces_whole, words]
  have clear : Piece.endsBehindAll false [.whole head, .text " values "] = false := by
    simp [Piece.endsBehindAll, Piece.chars, Sql.endsBehind_escapeMarks]
  rw [rowsAsValues, List.map_singleton, Rendering.outcome_concat_of_ok (Rendering.outcome_pure _),
    Rendering.outcome_concat_of_ok (outcome_returningAhead_of_block block _),
    Rendering.outcome_concat_of_ok (Rendering.outcome_text _), Rendering.outcome_concat_cons, alone,
    Rendering.outcome_concat_of_ok atEnd]
  cases (rowTuple target columns row).outcome with
  | error fault => rfl
  | ok tuple =>
    refine congrArg Except.ok ?_
    change Sql.ofPieces ([.whole head, .text " values "] ++ (tuple ++ (last ++ []))) = _
    rw [List.append_nil, Sql.ofPieces_append_of_clear clear, front,
      Sql.ofPieces_append_of_fresh fresh, slot]
    rfl

end Alone

theorem bindings_rowSql (s : Statement) (head values : Sql) :
    (s.rowSql head values).bindings = head.bindings ++ (values.bindings ++ s.outputs) := by
  unfold rowSql outputs
  split <;> simp [Sql.append, Sql.empty]

theorem toList_text_rowSql (s : Statement) (head values : Sql) :
    (s.rowSql head values).text.toList =
      head.text.toList ++ " values ".toList ++ (values.text.toList ++
        if s.returning.isEmpty then [] else " returning ROWID into ".toList ++ ['?']) := by
  have slot : " returning ROWID into ?".toList = " returning ROWID into ".toList ++ ['?'] := by
    rw [String.toList_ofList, String.toList_ofList]
    rfl
  unfold rowSql
  simp only [Sql.append, String.toList_append]
  split
  · rfl
  · rw [slot]

/-- An output slot is numbered behind the values. -/
theorem numberMarks_slot (count : Nat) :
    Sql.numberMarks false count (" returning ROWID into ".toList ++ ['?']) =
      " returning ROWID into :".toList ++ Nat.toDigits 10 (count + 1) := by
  have word : Sql.marks false " returning ROWID into ".toList = 0 := by
    rw [String.toList_ofList]
    rfl
  have clear : Sql.endsBehind false " returning ROWID into ".toList = false := by
    rw [String.toList_ofList]
    rfl
  have named : " returning ROWID into :".toList = " returning ROWID into ".toList ++ [':'] := by
    rw [String.toList_ofList, String.toList_ofList]
    rfl
  rw [Sql.numberMarks_append, Sql.numberMarks_eq_self word, clear, word, named, List.append_assoc,
    Sql.numberMarks_mark, Nat.add_zero, Sql.numberMarks, List.append_nil, List.singleton_append]

section Executed

variable {head values : Sql} (named : head.bindings = []) (first : head.Escaped)
  (second : values.Escaped)

include named first

omit named in
theorem endsBehind_head : Sql.endsBehind false (head.text.toList ++ " values ".toList) = false := by
  rw [Sql.endsBehind_append, first.text.endsBehind_eq, String.toList_ofList]
  rfl

theorem marks_head : Sql.marks false (head.text.toList ++ " values ".toList) = 0 := by
  have word : Sql.marks false " values ".toList = 0 := by
    rw [String.toList_ofList]
    rfl
  have front : Sql.marks false head.text.toList = head.bindings.length := first.placeholders
  rw [Sql.marks_append, first.text.endsBehind_eq, word, front, named]
  rfl

include second

theorem escaped_rowSql : (s.rowSql head values).Escaped := by
  constructor
  · have middle : PlainText " values " := .ofList (by decide)
    have slot : '\\' ∉ " returning ROWID into ".toList ++ ['?'] := by
      rw [String.toList_ofList]
      decide
    rw [toList_text_rowSql]
    refine (first.text.append (.of_not_mem middle)).append (second.text.append ?_)
    split
    · trivial
    · exact .of_not_mem slot
  · have slot : Sql.marks false (if s.returning.isEmpty then []
        else " returning ROWID into ".toList ++ ['?']) = s.outputs.length := by
      unfold outputs
      split
      · rfl
      · rw [String.toList_ofList]
        rfl
    have inputs : Sql.marks false values.text.toList = values.bindings.length := second.placeholders
    rw [Sql.placeholders, toList_text_rowSql, bindings_rowSql, Sql.marks_append,
      marks_head named first, endsBehind_head first, Sql.marks_append, second.text.endsBehind_eq,
      inputs, slot, named, List.nil_append, List.length_append, Nat.zero_add]

/-- The numbered text of a row alone is what the row hands to its block. -/
theorem numberPlaceholders_rowSql :
    Sql.numberPlaceholders (s.rowSql head values).text =
      (s.blockText head.text values).toList := by
  have front := marks_head named first
  rw [Sql.numberPlaceholders_eq, toList_text_rowSql, toList_blockText, Sql.numberMarks_append,
    Sql.numberMarks_eq_self front, endsBehind_head first, front, Sql.numberMarks_append,
    second.text.endsBehind_eq, ← Sql.numberPlaceholders_eq,
    List.append_assoc _ (Sql.numberPlaceholders values.text)]
  congr 2
  split
  · rfl
  · rw [numberMarks_slot, Nat.zero_add, Sql.placeholders]

/-- A row alone is the execution of that row in a block. -/
theorem executed_rowSql :
    s.executed (s.rowSql head values) = s.blockExecution head.text values := by
  have statement : Sql.numberPlaceholders (s.rowSql head values).text =
      Sql.escapeMarks false (s.blockText head.text values).toList := by
    rw [← numberPlaceholders_rowSql named first second, Sql.numberPlaceholders_eq,
      @Sql.escapeMarks_numberMarks false _ (escaped_rowSql named first second).text nofun 0]
  have inputs : (s.rowSql head values).bindings.length - s.outputs.length =
      values.bindings.length := by
    simp [bindings_rowSql, named]
  rw [executed, blockExecution, statement, inputs, bindings_rowSql, named, List.nil_append,
    List.take_left, List.drop_left]

end Executed

/-! ### All rows -/

variable {rows : List (List (String × Operand Attached))} {name : String}

/-- The pieces in front of the rows of an insert into a named table. -/
def headPieces (target : Target) (s : Statement) (name : String) (columns : List String) :
    List Piece :=
  [.text "insert into ", .text (Identifier.renderTable target.grammar s.schema name), .text " (",
    .text (Identifier.renderList target.grammar "" columns), .text ")"]

theorem outcome_insertInto_of_named (named : s.table = some (.name name)) {c : RenderedClauses}
    (source : c.source = Column.renderTable target s.schema s.table) (columns : List String) :
    (insertInto target c columns).outcome = .ok (headPieces target s name columns) := by
  rw [insertInto, source, named]
  rfl

theorem escapes_headPieces (schema : ∀ text ∈ s.schema, PlainText text) (plain : PlainText name)
    {columns : List String} (names : ∀ column ∈ columns, PlainText column) :
    ∀ piece ∈ headPieces target s name columns, piece.EscapesOnly := by
  have text {word : String} (plain : PlainText word) : (Piece.text word).EscapesOnly :=
    Sql.EscapesOnly.of_not_mem plain
  have table := Identifier.plain_renderTable target.dialect schema plain
  have list := @Identifier.plain_renderList target.dialect "" _ (by decide) names
  simp only [headPieces, List.forall_mem_cons]
  exact ⟨text (.ofList (by decide)), text table, text (.ofList (by decide)), text list,
    text (.ofList (by decide)), List.forall_mem_nil _⟩

/-- The tuple of a row as SQL text with its values. -/
def tupleSql (target : Target) (columns : List String) (row : List (String × Operand Attached)) :
    Except Fault Sql :=
  (rowTuple target columns (Operand.renderedPairs target row)).outcome.map Sql.ofPieces

section Rows

variable (inserts : s.InsertsRows rows) (accepted : s.fault = none)
  (named : s.table = some (.name name))

include inserts accepted named

/-- An insert of one row is its head, its cells and its output slot. -/
theorem compile_insertRow (block : target.grammar.multiRow = .block)
    (row : List (String × Operand Attached)) :
    ((s.insertRow (rowColumns rows) row).compile target).outcome =
      (tupleSql target (rowColumns rows) row).map
        (s.rowSql (Sql.ofPieces (headPieces target s name (rowColumns rows)))) := by
  obtain ⟨c, source, rendered⟩ := (insertsRows_insertRow row inserts).exists_clauses target
  have none : (s.insertRow (rowColumns rows) row).fault = none := accepted
  have head := outcome_insertInto_of_named named source (rowColumns rows)
  rw [none, rowColumns_fullRow row nodup_rowColumns] at rendered
  have alone : ((s.insertRow (rowColumns rows) row).renderRows target c (rowColumns rows)
      (Operand.renderedRows target [fullRow (rowColumns rows) row])).outcome =
        (rowsAsValues target (s.insertRow (rowColumns rows) row) (rowColumns rows)
          [Operand.renderedPairs target (fullRow (rowColumns rows) row)]
          (Sql.ofPieces (headPieces target s name (rowColumns rows)))).outcome := by
    rw [renderRows, Render.outcome_bind, head]
    rfl
  rw [outcome_compile, rendered]
  refine (congrArg (Except.map Sql.ofPieces) alone).trans ?_
  rw [outcome_rowsAsValues_singleton block, rowTuple_fullRow]
  rfl

/-- A block is the executions of its rows. -/
theorem compile_of_block (block : WritesBlock target rows) :
    (s.compile target).outcome =
      (rows.mapM (tupleSql target (rowColumns rows))).map fun values =>
        Execution.block (values.map (s.blockExecution
          (Sql.ofPieces (headPieces target s name (rowColumns rows))).text)) := by
  obtain ⟨c, source, rendered⟩ := inserts.exists_clauses target
  have head := outcome_insertInto_of_named named source (rowColumns rows)
  rw [accepted] at rendered
  have written := (writesBlock_map target (Operand.renderedPairs target) rows).mpr block
  rw [outcome_compile, rendered, Operand.renderedRows_eq_map]
  have executed := (renderRows_eq (s := s) head _).trans (if_pos written)
  refine (congrArg (Except.map Sql.ofPieces) executed).trans ?_
  rw [outcome_rowsAsBlock, List.mapM_map]
  rfl

end Rows

/-- The cells of a row write backslashes only to escape. -/
theorem escaped_of_tupleSql (inserts : s.InsertsRows rows) (plain : s.PlainTexts)
    {row : List (String × Operand Attached)} (member : row ∈ rows) {values : Sql}
    (tuple : tupleSql target (rowColumns rows) row = .ok values) :
    values.Escaped := by
  have entries : Keyed.Escapes (Operand.renderedPairs target row) := by
    refine Operand.escapes_renderedPairs row (fun text inside => plain.here text ?_)
      fun part inside => (escapes_render plain).1 part ?_
    · have inPayload : text ∈ s.insert.toList.flatMap InsertPayload.texts := by
        rw [inserts.payload]
        simpa [InsertPayload.texts] using ⟨row, member, inside⟩
      simp [texts, inPayload]
    · have inPayload : part ∈ s.insert.toList.flatMap InsertPayload.operands := by
        rw [inserts.payload]
        simpa [InsertPayload.operands] using ⟨row, member, inside⟩
      simp [operands, inPayload]
  obtain ⟨pieces, given, rfl⟩ := map_ok.mp tuple
  exact Sql.escaped_ofPieces ((escapes_rowTuple (rowColumns rows) entries).ok given)

/-- The text in front of the rows of a table that is given by name has no placeholders. -/
theorem escapes_head (inserts : s.InsertsRows rows) (named : s.table = some (.name name))
    (plain : s.PlainTexts) :
    ∀ piece ∈ headPieces target s name (rowColumns rows), piece.EscapesOnly := by
  refine escapes_headPieces (plain_settings plain.here).1 (plain_table plain.here name named)
    fun column member => plain.here column ?_
  have inPayload : column ∈ s.insert.toList.flatMap InsertPayload.texts := by
    rw [inserts.payload]
    simpa [InsertPayload.texts] using List.mem_eraseDups.mp member
  simp [texts, inPayload]

/-- A block executes, for each row in order, the insert of that row alone, with numbers in the place
of its placeholders, its values taken in and its output slot given out last; it is stopped by what
stops the first of these inserts. Each of them has a placeholder for each of its values. -/
theorem readBlock_compile (inserts : s.InsertsRows rows) (block : WritesBlock target rows)
    (named : s.table = some (.name name)) (plain : s.PlainTexts) :
    let alone := fun row => ((s.insertRow (rowColumns rows) row).compile target).outcome
    (s.compile target).outcome.map Execution.readBlock =
        (rows.mapM alone).map (fun singles => some (singles.map s.executed)) ∧
      ∀ row ∈ rows, ∀ single, alone row = .ok single →
        Sql.placeholders single.text = single.bindings.length ∧ s.outputs <:+ single.bindings := by
  intro alone
  cases recorded : s.fault with
  | some fault =>
    have stopped (row : List (String × Operand Attached)) : alone row = .error fault :=
      compile_of_fault (s := s.insertRow (rowColumns rows) row) recorded target
    refine ⟨?_, fun row _ single given => nomatch (stopped row).symm.trans given⟩
    rw [compile_of_fault recorded target]
    cases rows with
    | nil => exact absurd rfl inserts.rows_ne_nil
    | cons row rest =>
      rw [List.mapM_cons, stopped]
      rfl
  | none =>
    have first : (Sql.ofPieces (headPieces target s name (rowColumns rows))).Escaped :=
      Sql.escaped_ofPieces (escapes_head inserts named plain)
    have noValues : (Sql.ofPieces (headPieces target s name (rowColumns rows))).bindings = [] := rfl
    have single : alone = fun row => (tupleSql target (rowColumns rows) row).map
        (s.rowSql (Sql.ofPieces (headPieces target s name (rowColumns rows)))) :=
      funext (compile_insertRow inserts recorded named block.1)
    have whole := compile_of_block inserts recorded named block
    generalize Sql.ofPieces (headPieces target s name (rowColumns rows)) = head
      at first noValues single whole
    constructor
    · rw [whole, single, mapM_except_map]
      cases given : rows.mapM (tupleSql target (rowColumns rows)) with
      | error fault => rfl
      | ok values =>
        have same : values.map (s.blockExecution head.text) =
            (values.map (s.rowSql head)).map s.executed := by
          rw [List.map_map]
          refine List.map_congr_left fun tuple member => ?_
          obtain ⟨row, inRows, found⟩ := exists_of_mapM_ok given tuple member
          have second := escaped_of_tupleSql inserts plain inRows found
          exact (executed_rowSql noValues first second).symm
        exact congrArg Except.ok ((Execution.readBlock_block _).trans (congrArg some same))
    · intro row member sql found
      rw [single] at found
      obtain ⟨values, tuple, rfl⟩ := map_ok.mp found
      have second := escaped_of_tupleSql inserts plain member tuple
      refine ⟨(escaped_rowSql noValues first second).placeholders, ?_⟩
      rw [bindings_rowSql, ← List.append_assoc]
      exact List.suffix_append _ _

/-- Rows of a table with a quote and a question mark in its name, one of them with a fragment that
has both as text, the other without a cell for it. -/
theorem readBlock_compile_quoted :
    let rows : List (List (String × Operand Attached)) :=
      [[("a", .value (.int 1)),
          ("b", .raw ⟨"?", .positional [.value (.text "it's")], some ("f('?', ", ")")⟩)],
        [("a", .value (.text "?"))]]
    let s : Statement := { Statement.empty with
      kind := .insert
      table := some (.name "who's?")
      returning := ["id"]
      insert := some (.rows rows) }
    ∃ executions, (s.compile { dialect := .oracle }).outcome.map Execution.readBlock =
        .ok (some executions) ∧
      executions.map (fun execution => String.ofList execution.statement) = [
        "insert into \"who's\\?\" (\"a\", \"b\") values (:1, f('\\?', :2)) returning ROWID into :3",
        "insert into \"who's\\?\" (\"a\", \"b\") values (:1, DEFAULT) returning ROWID into :2"] ∧
      executions.map Execution.uses = [
        [.input (.int 1), .input (.text "it's"), .output (.returning ["id"])],
        [.input (.text "?"), .output (.returning ["id"])]] := by
  intro rows s
  have inserts : s.InsertsRows rows := ⟨rfl, rfl, by decide⟩
  have plain : s.PlainTexts := by
    refine .intro (by decide) fun t member => ?_
    change Operand.query t ∈ [.value (.int 1),
      .raw ⟨"?", .positional [.value (.text "it's")], some ("f('?', ", ")")⟩,
      .value (.text "it's"), .value (.text "?")] at member
    simp at member
  have alone : (rows.mapM fun row =>
      ((s.insertRow (rowColumns rows) row).compile { dialect := .oracle }).outcome) = .ok _ := rfl
  refine ⟨_, (readBlock_compile inserts (by decide) rfl plain).1.trans
    (congrArg (Except.map _) alone), ?_, ?_⟩
  · decide +kernel
  · rfl

end Statement

end PortableSql
