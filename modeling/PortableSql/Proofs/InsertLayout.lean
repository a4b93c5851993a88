import Mathlib.Data.List.Basic
import PortableSql.Proofs.InsertBlock

/-!
How an insert of rows is laid out.

The columns of an insert are written once, in the order in which they first occur in the rows
(`Statement.columnsOf_rowColumns`), and a cell for each of them, in the same order, for every row:
in a list of values, in a select that names each column, or in an execution of a block.
`Statement.writtenInsert` is this table as SQL text with its values, put together from the texts of
the names and of the cells alone, and it is what the rows are rendered as
(`Statement.writes_renderRows`). Between two names or cells there is a word, so no text changes how
the next one is escaped.
-/

namespace PortableSql

namespace Sql

/-! ### Words between texts -/

/-- A text that is written as it is. -/
def word (s : String) : Sql := ⟨s, []⟩

/-- Texts one behind another. -/
def concat : List Sql → Sql
  | [] => empty
  | first :: rest => first.append (concat rest)

/-- Texts with a word between each two. -/
def joined (separator : String) : List Sql → Sql
  | [] => empty
  | [last] => last
  | first :: second :: rest =>
    concat [first, word separator, joined separator (second :: rest)]

/-- A text that neither escapes nor is escaped, and that keeps apart what is around it. -/
structure IsWord (s : String) : Prop where
  nonempty : s.toList ≠ []
  plain : '?' ∉ s.toList ∧ '\\' ∉ s.toList

instance (s : String) : Decidable (IsWord s) :=
  decidable_of_iff (s.toList ≠ [] ∧ '?' ∉ s.toList ∧ '\\' ∉ s.toList)
    ⟨fun ⟨nonempty, plain⟩ => ⟨nonempty, plain⟩, fun ⟨nonempty, plain⟩ => ⟨nonempty, plain⟩⟩

namespace IsWord

variable {w : String}

theorem chars_eq (isWord : IsWord w) (behind : Bool) : (Piece.text w).chars behind = w.toList :=
  escapeMarks_eq_self isWord.plain.1 behind

theorem endsBehind_eq (isWord : IsWord w) (behind : Bool) : endsBehind behind w.toList = false := by
  have last := List.getLast?_eq_some_getLast isWord.nonempty
  rw [endsBehind, last]
  simpa using ne_of_mem_of_not_mem (List.mem_of_getLast? last) isWord.plain.2

/-- The texts on the two sides of a word are escaped apart from each other. -/
theorem escapeMarks_append (isWord : IsWord w) (escaped : Bool) (xs ys : List Char) :
    escapeMarks escaped (xs ++ (w.toList ++ ys)) =
      escapeMarks escaped xs ++ (w.toList ++ escapeMarks false ys) := by
  induction xs generalizing escaped with
  | nil =>
    obtain ⟨c, cs, found⟩ := List.exists_cons_of_ne_nil isWord.nonempty
    have plain := isWord.plain
    rw [found] at plain ⊢
    simp only [List.mem_cons, not_or] at plain
    have backslash : (c == '\\') = false := beq_false_of_ne (Ne.symm plain.2.1)
    simp [escapeMarks, Ne.symm plain.1.1, backslash, escapeMarks_append_left ⟨plain.1.2, plain.2.2⟩]
  | cons c rest ih =>
    rw [List.cons_append, escapeMarks, escapeMarks]
    split <;> simp [ih]

theorem ofPieces_eq (isWord : IsWord w) : ofPieces [.text w] = word w := by
  apply ext
  · apply String.toList_injective
    rw [toList_text_ofPieces, Piece.charsAll, isWord.chars_eq]
    exact List.append_nil _
  · rfl

/-- A word stands by itself between any two lists of pieces. -/
theorem ofPieces_append (isWord : IsWord w) (front back : List Piece) :
    ofPieces (front ++ .text w :: back) =
      concat [ofPieces front, word w, ofPieces back] := by
  have clear : Piece.endsBehindAll false [.text w] = false := by
    rw [Piece.endsBehindAll, isWord.chars_eq, isWord.endsBehind_eq]
    rfl
  have fresh : Piece.Fresh (.text w :: back) := by
    unfold Piece.Fresh
    simp only [Piece.charsAll, isWord.chars_eq, isWord.endsBehind_eq]
  rw [ofPieces_append_of_fresh fresh, ← List.singleton_append (l := back),
    ofPieces_append_of_clear clear, isWord.ofPieces_eq]
  simp [concat]

/-- One text that holds a word is the texts on its two sides with the word between them. -/
theorem ofPieces_text (isWord : IsWord w) (front back : String) :
    ofPieces [.text (front ++ w ++ back)] =
      concat [ofPieces [.text front], word w, ofPieces [.text back]] := by
  rw [← isWord.ofPieces_append]
  apply ext
  · apply String.toList_injective
    simp only [toList_text_ofPieces, Piece.charsAll, Piece.chars, isWord.endsBehind_eq,
      escapeMarks_eq_self isWord.plain.1, String.toList_append, List.append_assoc,
      isWord.escapeMarks_append, List.append_nil, List.singleton_append]
  · rfl

/-- A text that is put together with words is its parts with the words between them. -/
theorem ofPieces_intercalate (isWord : IsWord w) (texts : List String) :
    ofPieces [.text (w.intercalate texts)] =
      joined w (texts.map fun text => ofPieces [.text text]) := by
  induction texts with
  | nil => rfl
  | cons first rest ih =>
    cases rest with
    | nil => rfl
    | cons second rest =>
      rw [String.intercalate_cons_cons, isWord.ofPieces_text, ih]
      rfl

end IsWord

end Sql

open Sql (IsWord)

/-- What a rendering writes, if nothing stops it. -/
def Rendering.written (r : Rendering) : Sql :=
  match r.outcome with
  | .ok pieces => Sql.ofPieces pieces
  | .error _ => .empty

/-- A rendering goes through and writes a text with its values. -/
def Rendering.Writes (r : Rendering) (sql : Sql) : Prop :=
  r.outcome.map Sql.ofPieces = .ok sql

namespace Rendering

variable {w : String} {r : Rendering} {rs : List Rendering} {sql : Sql} {sqls : List Sql}

theorem Renders.writes (renders : r.Renders) : r.Writes r.written := by
  obtain ⟨pieces, given, -⟩ := outcome_of_bound renders.bound_eq
  rw [Writes, written, given]
  rfl

theorem writes_whole (sql : Sql) : Writes (pure [.whole sql]) sql :=
  congrArg Except.ok (Sql.ofPieces_whole sql)

namespace Writes

theorem exists_pieces (writes : r.Writes sql) :
    ∃ pieces, r.outcome = .ok pieces ∧ Sql.ofPieces pieces = sql := map_ok.mp writes

theorem congr {q : Rendering} (same : r.outcome = q.outcome) (writes : q.Writes sql) :
    r.Writes sql := by
  rw [Writes, same]
  exact writes

theorem last (writes : r.Writes sql) : (concat [r]).Writes (.concat [sql]) := by
  have whole : Sql.concat [sql] = sql := Sql.append_empty sql
  rw [whole]
  exact writes.congr (outcome_concat_singleton r)

/-- A word in front of a sequence. -/
theorem word (isWord : IsWord w) (writes : (concat rs).Writes (.concat sqls)) :
    (concat (text w :: rs)).Writes (.concat (.word w :: sqls)) := by
  obtain ⟨back, given, same⟩ := writes.exists_pieces
  rw [Writes, outcome_concat_of_ok (outcome_text w), given]
  refine congrArg Except.ok ((isWord.ofPieces_append [] back).trans ?_)
  rw [same]
  simp [Sql.concat]

/-- A rendering and a word in front of a sequence. -/
theorem before_word (isWord : IsWord w) (first : r.Writes sql)
    (writes : (concat rs).Writes (.concat sqls)) :
    (concat (r :: text w :: rs)).Writes (.concat (sql :: .word w :: sqls)) := by
  obtain ⟨front, own, rfl⟩ := first.exists_pieces
  obtain ⟨back, given, same⟩ := writes.exists_pieces
  rw [Writes, outcome_concat_of_ok own, outcome_concat_of_ok (outcome_text w), given]
  refine congrArg Except.ok ((isWord.ofPieces_append front back).trans ?_)
  rw [same]
  simp [Sql.concat]

theorem between {opening closing : String} (opens : IsWord opening) (closes : IsWord closing)
    (writes : r.Writes sql) :
    (Rendering.between opening closing r).Writes
      (.concat [.word opening, sql, .word closing]) :=
  .word opens (.before_word closes writes rfl)

/-- Renderings with a word between each two write their texts with the word between each two. -/
theorem separated {α : Type} (isWord : IsWord w) {f : α → Rendering} {g : α → Sql}
    {items : List α} (each : ∀ item ∈ items, (f item).Writes (g item)) :
    (Rendering.separated w (items.map f)).Writes (.joined w (items.map g)) := by
  induction items with
  | nil => rfl
  | cons first rest ih =>
    obtain ⟨own, others⟩ := List.forall_mem_cons.mp each
    cases rest with
    | nil => exact own.congr (outcome_concat_singleton _)
    | cons second rest =>
      -- The word in front of the second item is taken out of the part that it begins.
      have unfolded : (Rendering.separated w ((first :: second :: rest).map f)).outcome =
          (concat [f first, text w, Rendering.separated w ((second :: rest).map f)]).outcome := by
        simp only [List.map_cons, Rendering.separated]
        refine outcome_concat_cons_congr _ ((outcome_concat_concat _ _).trans ?_)
        exact outcome_concat_cons_congr _ (outcome_concat_singleton _).symm
      exact (before_word isWord own (ih others).last).congr unfolded

end Writes

end Rendering

namespace Statement

/-! ### Columns -/

/-- The columns of rows: the names that occur in them, each once, in the order in which they occur
first. -/
structure ColumnsOf {α : Type} (rows : List (Keyed α)) (columns : List String) : Prop where
  names : ∀ column, column ∈ columns ↔ ∃ row ∈ rows, column ∈ Keyed.keys row
  order : columns.Pairwise fun a b =>
    (rows.flatMap Keyed.keys).idxOf a < (rows.flatMap Keyed.keys).idxOf b

theorem ColumnsOf.nodup {α : Type} {rows : List (Keyed α)} {columns : List String}
    (columnsOf : ColumnsOf rows columns) : columns.Nodup :=
  columnsOf.order.imp fun {a b} before => by
    rintro rfl
    exact Nat.lt_irrefl _ before

private theorem idxOf_lt_of_filter {keep : String → Bool} {names : List String} {a b : String}
    (second : keep b = true)
    (before : (names.filter keep).idxOf a < (names.filter keep).idxOf b) :
    names.idxOf a < names.idxOf b := by
  induction names with
  | nil => exact before
  | cons name rest ih =>
    by_cases isA : name = a
    · have other : name ≠ b := by
        rintro rfl
        exact Nat.lt_irrefl _ (isA ▸ before)
      rw [isA, List.idxOf_cons_self, List.idxOf_cons_ne _ (isA ▸ other)]
      exact Nat.succ_pos _
    · by_cases kept : keep name = true
      · rw [List.filter_cons_of_pos kept, List.idxOf_cons_ne _ isA] at before
        by_cases isB : name = b
        · rw [isB, List.idxOf_cons_self] at before
          exact absurd before (Nat.not_lt_zero _)
        · rw [List.idxOf_cons_ne _ isB] at before
          rw [List.idxOf_cons_ne _ isA, List.idxOf_cons_ne _ isB]
          exact Nat.succ_lt_succ (ih (Nat.lt_of_succ_lt_succ before))
      · have isB : name ≠ b := fun same => kept (same ▸ second)
        rw [List.filter_cons_of_neg kept] at before
        rw [List.idxOf_cons_ne _ isA, List.idxOf_cons_ne _ isB]
        exact Nat.succ_lt_succ (ih before)

/-- Without its duplicates, a list is in the order of the first occurrences. -/
private theorem pairwise_eraseDups : (names : List String) →
    names.eraseDups.Pairwise fun a b => names.idxOf a < names.idxOf b
  | [] => .nil
  | name :: rest => by
    have kept {other : String} (member : other ∈ (rest.filter fun x => !x == name).eraseDups) :
        (!other == name) = true := (List.mem_filter.mp (List.mem_eraseDups.mp member)).2
    have later {other : String} (member : other ∈ (rest.filter fun x => !x == name).eraseDups) :
        name ≠ other := by
      rintro rfl
      simpa using kept member
    rw [List.eraseDups_cons, List.pairwise_cons]
    constructor
    · intro other member
      rw [List.idxOf_cons_self, List.idxOf_cons_ne _ (later member)]
      exact Nat.succ_pos _
    · refine (pairwise_eraseDups _).imp_of_mem fun {a b} first second before => ?_
      rw [List.idxOf_cons_ne _ (later first), List.idxOf_cons_ne _ (later second)]
      exact Nat.succ_lt_succ (idxOf_lt_of_filter (kept second) before)
termination_by names => names.length
decreasing_by exact Nat.lt_succ_of_le (List.length_filter_le _ _)

theorem columnsOf_rowColumns {α : Type} (rows : List (Keyed α)) :
    ColumnsOf rows (rowColumns rows) where
  names column := by simp [rowColumns, List.mem_eraseDups]
  order := pairwise_eraseDups _

/-! ### The layout -/

section

variable (target : Target) (columns : List String)

/-- The name of a column. -/
def writtenName (column : String) : Sql :=
  .ofPieces [.text (Identifier.render target.grammar column)]

/-- The cell of a row in a column: its operand, or the marker. -/
def writtenCell (row : Keyed (Operand Attached)) (column : String) : Sql :=
  match definedCell row column with
  | some operand => (operand.rendered target).inValue.written
  | none => .ofPieces [.text (target.undefinedMarker.getD "")]

/-- The name of the table, behind its schema. -/
def writtenTable (schema : Option String) (name : String) : Sql :=
  .ofPieces [.text (Identifier.renderTable target.grammar schema name)]

/-- The head of an insert names its columns. -/
def writtenHead (table : Sql) : Sql :=
  .concat [.word "insert into ", table, .word " (",
    .joined ", " (columns.map (writtenName target)), .word ")"]

/-- A row has a cell for each column, in their order. -/
def writtenTuple (row : Keyed (Operand Attached)) : Sql :=
  .concat [.word "(", .joined ", " (columns.map (writtenCell target row)), .word ")"]

/-- A row as a select of a cell for each column, under the name of the column. -/
def writtenSelect (row : Keyed (Operand Attached)) : Sql :=
  .joined ", " (columns.map fun column =>
    .concat [writtenCell target row column, .word " as ",
      .ofPieces [.text (Identifier.quote target.grammar column)]])

/-- An insert that returns nothing: its head and its rows as a union of selects or a list of
tuples, or a block that executes the head with each tuple. -/
def writtenInsert (s : Statement) (table : Sql) (rows : List (Keyed (Operand Attached))) : Sql :=
  let head := writtenHead target columns table
  if WritesBlock target rows then
    Execution.block (rows.map fun row =>
      s.blockExecution head.text (writtenTuple target columns row))
  else if WritesUnion target rows then
    .concat [head, .word " select ",
      .joined " union all select " (rows.map (writtenSelect target columns))]
  else
    .concat [head, .word " values ", .joined ", " (rows.map (writtenTuple target columns))]

end

variable {target : Target} {columns : List String} {row : List (String × Operand Attached)}

theorem writes_cell {column : String} (renders : CellRenders target row column) :
    (cell target (Operand.renderedPairs target row) column).Writes
      (writtenCell target row column) := by
  rw [cell, Operand.renderedPairs_eq_map, Keyed.get?_map]
  unfold CellRenders at renders
  unfold writtenCell
  unfold definedCell at renders ⊢
  have marked (renders : target.undefinedMarker.isSome = true) :
      (Rendered.inCell target.undefinedMarker column none).Writes
        (.ofPieces [.text (target.undefinedMarker.getD "")]) := by
    obtain ⟨marker, has⟩ := Option.isSome_iff_exists.mp renders
    rw [has]
    rfl
  cases found : Keyed.get? column row with
  | none =>
    rw [found] at renders
    exact marked renders
  | some operand =>
    rw [found] at renders
    cases operand with
    | undefined => exact marked renders
    | value | query | raw => exact Rendering.Renders.writes renders

/-- A cell binds the values of its operand. -/
theorem bindings_writtenCell {column : String} (renders : CellRenders target row column) :
    (writtenCell target row column).bindings = cellValues target row column := by
  obtain ⟨pieces, given, same⟩ := (writes_cell renders).exists_pieces
  have bound := bound_cell_of_renders renders
  rw [Rendering.bound_of_outcome given] at bound
  rw [← same]
  exact Except.ok.inj bound

theorem writes_names : (Rendering.text (Identifier.renderList target.grammar "" columns)).Writes
    (.joined ", " (columns.map (writtenName target))) := by
  have isWord : IsWord ", " := by decide
  have names := isWord.ofPieces_intercalate (columns.map (Identifier.render target.grammar))
  rw [List.map_map] at names
  refine congrArg Except.ok (Eq.trans ?_ names)
  simp [Identifier.renderList]

theorem writes_insertInto {c : RenderedClauses} {table : Sql} (source : c.source.Writes table) :
    (insertInto target c columns).Writes (writtenHead target columns table) :=
  .word (by decide) (.before_word (by decide) source
    (.before_word (by decide) writes_names rfl))

theorem writes_rowTuple (renders : ∀ column ∈ columns, CellRenders target row column) :
    (rowTuple target columns (Operand.renderedPairs target row)).Writes
      (writtenTuple target columns row) :=
  .between (by decide) (by decide)
    (.separated (by decide) fun column member => writes_cell (renders column member))

theorem writes_rowSelect (renders : ∀ column ∈ columns, CellRenders target row column) :
    (rowSelect target columns (Operand.renderedPairs target row)).Writes
      (writtenSelect target columns row) :=
  .separated (by decide) fun column member =>
    .before_word (by decide) (writes_cell (renders column member)) (.last rfl)

variable {s : Statement}

/-- The parts of an insert that serve the returned columns are nothing without them. -/
theorem outcome_returning_of_plain (plain : s.returning = []) (target : Target) (table : String) :
    (s.returningAhead target table).outcome = .ok [] ∧
      (s.returningNote target).outcome = .ok [] ∧
        (s.returningAtEnd target).outcome = .ok [] := by
  simp [returningAhead, returningNote, returningAtEnd, plain, Rendering.guarded]

section Rows

variable {rows : List (List (String × Operand Attached))} (head : Sql)
  (filled : ∀ row ∈ rows, ∀ column ∈ columns, CellRenders target row column)

include filled

theorem writes_rowsAsBlock :
    (s.rowsAsBlock target columns (rows.map (Operand.renderedPairs target)) head).Writes
      (Execution.block (rows.map fun row =>
        s.blockExecution head.text (writtenTuple target columns row))) := by
  have tuples : rows.mapM ((fun row => (rowTuple target columns row).outcome.map Sql.ofPieces) ∘
      Operand.renderedPairs target) = .ok (rows.map (writtenTuple target columns)) :=
    mapM_eq_ok_map fun row member => writes_rowTuple (filled row member)
  rw [Rendering.Writes, outcome_rowsAsBlock, List.mapM_map, tuples]
  refine congrArg (Except.ok ∘ Execution.block) ?_
  rw [List.map_map]
  rfl

theorem writes_rowsAsUnion (plain : s.returning = []) :
    (s.rowsAsUnion target columns (rows.map (Operand.renderedPairs target)) head).Writes
      (.concat [head, .word " select ",
        .joined " union all select " (rows.map (writtenSelect target columns))]) := by
  have selects := Rendering.Writes.separated (w := " union all select ") (by decide)
    fun row member => writes_rowSelect (filled row member)
  obtain ⟨-, note, -⟩ := outcome_returning_of_plain plain target ""
  rw [rowsAsUnion, List.map_map]
  refine .before_word (by decide) (Rendering.writes_whole head) ?_
  exact selects.last.congr (Rendering.outcome_concat_cons_congr _
    (Rendering.outcome_concat_of_nil note []))

theorem writes_rowsAsValues (plain : s.returning = []) :
    (s.rowsAsValues target columns (rows.map (Operand.renderedPairs target)) head).Writes
      (.concat [head, .word " values ",
        .joined ", " (rows.map (writtenTuple target columns))]) := by
  have tuples := Rendering.Writes.separated (w := ", ") (by decide)
    fun row member => writes_rowTuple (filled row member)
  obtain ⟨ahead, -, behind⟩ := outcome_returning_of_plain plain target "inserted"
  rw [rowsAsValues, List.map_map]
  refine Rendering.Writes.congr (Rendering.outcome_concat_cons_congr _
    (Rendering.outcome_concat_of_nil ahead _)) ?_
  refine .before_word (by decide) (Rendering.writes_whole head) ?_
  exact tuples.last.congr (Rendering.outcome_concat_cons_congr _
    (Rendering.outcome_concat_of_nil behind []))

/-- Rows that can be written are written in their layout. -/
theorem writes_renderRows (plain : s.returning = []) {c : RenderedClauses} {table : Sql}
    (source : c.source.Writes table) :
    (s.renderRows target c columns (Operand.renderedRows target rows)).Writes
      (s.writtenInsert target columns table rows) := by
  have first : (insertInto target c columns).Writes (writtenHead target columns table) :=
    writes_insertInto source
  obtain ⟨pieces, head, same⟩ := first.exists_pieces
  rw [Operand.renderedRows_eq_map, Rendering.Writes, renderRows_eq head, same]
  simp only [writesBlock_map, writesUnion_map]
  unfold writtenInsert
  split
  · exact writes_rowsAsBlock _ filled
  · split
    · exact writes_rowsAsUnion _ filled plain
    · exact writes_rowsAsValues _ filled plain

end Rows

end Statement

end PortableSql
