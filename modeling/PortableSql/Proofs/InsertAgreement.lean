import PortableSql.Proofs.InsertLayout
import PortableSql.Proofs.ReadAgreement

/-!
Inserts of rows under every dialect.

However a dialect writes several rows, an insert into a named table has a cell for every row and
column, each in the place of its column, and binds the values of its cells, row by row and column by
column, so dialects agree on what it binds (`Statement.compile_of_insertsRows`). A table that binds
values of its own comes in front of the rows with them, except in a block, which takes the text of
the table alone.
-/

namespace PortableSql

open Rendering (Agree)
open Congruence (SameRead)

/-- Renderings that agree on values are stopped by the same fault or bind the same. -/
theorem Rendering.bound_eq_of_agree {t u : Target} {r q : Rendering}
    (agree : Agree (Congruence.bindings t u) r q) : r.bound = q.bound := by
  unfold bound
  cases agree with
  | stopped first second => rw [first, second]
  | given first second related =>
    rw [first, second]
    exact congrArg Except.ok related

namespace Statement

/-! ### Inserts of rows -/

/-- A statement inserts rows that have at least one column between them. -/
structure InsertsRows (s : Statement) (rows : List (List (String × Operand Attached))) : Prop where
  kind : s.kind = .insert
  payload : s.insert = some (.rows rows)
  columns : rowColumns rows ≠ []

/-- Every cell of rows can be written: its operand renders, or the marker stands for it. -/
def Filled (target : Target) (rows : List (List (String × Operand Attached))) : Prop :=
  ∀ row ∈ rows, ∀ column ∈ rowColumns rows, CellRenders target row column

instance (target : Target) (rows : List (List (String × Operand Attached))) :
    Decidable (Filled target rows) :=
  inferInstanceAs (Decidable (∀ row ∈ rows, ∀ column ∈ _, CellRenders target row column))

/-- The rows of each statement that an insert is written as: a block has a statement for each. -/
def writtenRows {α : Type} (target : Target) (rows : List α) : List (List α) :=
  if WritesBlock target rows then rows.map ([·]) else [rows]

/-- The values that a statement binds in the place of its table. -/
def tableValues (target : Target) (s : Statement) : List Value :=
  (Column.renderTable target s.schema s.table).values

variable {s : Statement} {rows : List (List (String × Operand Attached))} {target : Target}

namespace InsertsRows

theorem rows_ne_nil (inserts : s.InsertsRows rows) : rows ≠ [] := by
  intro empty
  exact inserts.columns (by rw [empty]; rfl)

/-- An insert of rows is its rows under the rendered table, unless a fault was recorded. -/
theorem exists_clauses (inserts : s.InsertsRows rows) (target : Target) :
    ∃ c : RenderedClauses, c.source = Column.renderTable target s.schema s.table ∧
      s.render target = match s.fault with
        | some fault => throw fault
        | none =>
          s.renderRows target c (rowColumns rows) (Operand.renderedRows target rows) := by
  have insert : (s.clauses target).insert = some (.rows (Operand.renderedRows target rows)) := by
    rw [clauses, inserts.payload]
    rfl
  have given : (Operand.renderedRows target rows).isEmpty = false := by
    rw [Operand.renderedRows_eq_map]
    simpa using inserts.rows_ne_nil
  have named : (rowColumns rows).isEmpty = false := by
    simpa using inserts.columns
  refine ⟨s.clauses target, rfl, ?_⟩
  rw [render_eq, assemble, inserts.kind, renderInsert, insert]
  simp only [given, named, rowColumns_renderedRows]
  rfl

theorem bound_of_fault (inserts : s.InsertsRows rows) {fault : Fault}
    (recorded : s.fault = some fault) : (s.render target).bound = .error fault := by
  obtain ⟨c, -, rendered⟩ := inserts.exists_clauses target
  rw [rendered, recorded]
  rfl

theorem bound_render (inserts : s.InsertsRows rows) (accepted : s.fault = none)
    {table : List Value}
    (source : (Column.renderTable target s.schema s.table).bound = .ok table)
    (filled : Filled target rows) :
    (s.render target).bound = .ok (s.insertValues target (rowColumns rows) table rows) := by
  obtain ⟨c, same, rendered⟩ := inserts.exists_clauses target
  rw [rendered, accepted]
  exact bound_renderRows (same ▸ source) filled

theorem writes_render (inserts : s.InsertsRows rows) (accepted : s.fault = none)
    (plain : s.returning = []) {table : Sql}
    (source : (Column.renderTable target s.schema s.table).Writes table)
    (filled : Filled target rows) :
    (s.render target).Writes (s.writtenInsert target (rowColumns rows) table rows) := by
  obtain ⟨c, same, rendered⟩ := inserts.exists_clauses target
  rw [rendered, accepted]
  exact writes_renderRows filled plain (same ▸ source)

/-- An insert that is not stopped is stopped nowhere. -/
theorem parts_render (inserts : s.InsertsRows rows) (renders : (s.render target).Renders) :
    s.fault = none ∧ (Column.renderTable target s.schema s.table).Renders ∧
      Filled target rows := by
  obtain ⟨c, same, rendered⟩ := inserts.exists_clauses target
  cases recorded : s.fault with
  | some fault =>
    rw [Rendering.Renders, inserts.bound_of_fault recorded] at renders
    obtain ⟨values, given⟩ := renders
    cases given
  | none =>
    rw [rendered, recorded] at renders
    obtain ⟨source, filled⟩ := renders_of_renderRows renders
    exact ⟨rfl, same ▸ source, filled⟩

/-- An insert of rows that compiles binds its table and its cells. -/
theorem bindings_eq (inserts : s.InsertsRows rows) {sql : Sql}
    (compiled : (s.compile target).outcome = .ok sql) :
    sql.bindings = s.insertValues target (rowColumns rows) (s.tableValues target) rows := by
  have bound := bound_of_compile compiled
  obtain ⟨accepted, source, filled⟩ := inserts.parts_render ⟨_, bound⟩
  rw [inserts.bound_render accepted source.bound_eq filled] at bound
  exact (Except.ok.inj bound).symm

end InsertsRows

/-! ### Dialects agree -/

/-- An operand of reads binds the same values under every two targets. -/
theorem cellValues_eq_of_reads {row : Keyed (Operand Attached)}
    (reads : ∀ a, .query a ∈ Operand.operandsPairs row → ∃ t, a = .prepared t ∧
      t.All fun nested => nested.Resolved ∧ nested.IsRead)
    (t u : Target) (column : String) : cellValues t row column = cellValues u row column := by
  have similar : PairedEntries (Operand.Similar Eq (Attached.Congruent Eq SameRead)) row row := by
    refine Operand.similar_pairs_refl (fun _ => rfl) row fun a member => ?_
    obtain ⟨nested, rfl, all⟩ := reads a member
    exact .prepared (.refl (fun _ => rfl) (all.mono fun _ here => ⟨here.1, rfl, here.2⟩))
  unfold cellValues definedCell
  rcases similar.get? column with ⟨absent, -⟩ | ⟨operand, same, found, again, alike⟩
  · rw [absent]
  · obtain rfl : operand = same := Option.some.inj (found.symm.trans again)
    rw [found]
    have bound := Rendering.bound_eq_of_agree (alike.agreeing (assembles_reads t u)).inValue
    cases operand with
    | undefined => rfl
    | value | query | raw =>
      simp only [Rendering.values]
      rw [bound]

theorem rowValues_eq_of_reads
    (reads : ∀ row ∈ rows, ∀ a, .query a ∈ Operand.operandsPairs row → ∃ t, a = .prepared t ∧
      t.All fun nested => nested.Resolved ∧ nested.IsRead) (t u : Target) (columns : List String) :
    rows.flatMap (rowValues t columns) = rows.flatMap (rowValues u columns) := by
  have each : ∀ row ∈ rows, rowValues t columns row = rowValues u columns row := by
    intro row member
    have cells : columns.map (cellValues t row) = columns.map (cellValues u row) :=
      List.map_congr_left fun column _ => cellValues_eq_of_reads (reads row member) t u column
    rw [rowValues, rowValues, List.flatMap_def, List.flatMap_def, cells]
  rw [List.flatMap_def, List.flatMap_def, List.map_congr_left each]

/-- Without output slots and values of the table, the three strategies bind the same. -/
theorem insertValues_of_plain (plain : s.returning = []) (columns : List String) :
    s.insertValues target columns [] rows = rows.flatMap (rowValues target columns) := by
  have noSlots : s.outputSlots target = [] := by
    simp [outputSlots, plain]
  unfold insertValues
  split <;> simp [noSlots]

/-- An insert of rows into a named table that returns nothing has the columns of its rows, each once
and in the order in which they occur first. Under every target that can write its cells it is the
text of `writtenInsert`, with every cell in the place of its column, and it binds the values of the
cells, row by row and column by column, unless a fault was recorded while it was built. A cell that
is undefined stops it where the dialect has no marker. No callback may be left in the tree, as none
is in what calls build (`Call.settled_runAll`). -/
theorem compile_of_insertsRows (inserts : s.InsertsRows rows) {name : String}
    (named : s.table = some (.name name)) (plain : s.returning = [])
    (resolved : s.All Statement.Resolved)
    (reads : ∀ a, .query a ∈ s.operands →
      ∀ client, (a.statement client).All fun nested => nested.IsRead) (target : Target) :
    ColumnsOf rows (rowColumns rows) ∧
    (Filled target rows →
      (∀ row ∈ rows, ∀ column ∈ rowColumns rows,
        (writtenCell target row column).bindings = cellValues target row column) ∧
      match s.fault with
      | some fault => (s.compile target).outcome = .error fault
      | none => ∃ sql, (s.compile target).outcome = .ok sql ∧
          sql = s.writtenInsert target (rowColumns rows) (writtenTable target s.schema name) rows ∧
          sql.bindings = rows.flatMap (rowValues target (rowColumns rows)) ∧
          ∀ other, Filled other rows →
            ∃ sql', (s.compile other).outcome = .ok sql' ∧ sql'.bindings = sql.bindings) ∧
    (target.undefinedMarker = none →
      (∃ row ∈ rows, ∃ column ∈ rowColumns rows, definedCell row column = none) →
        ∃ fault, (s.compile target).outcome = .error fault) := by
  have inRows : ∀ row ∈ rows, ∀ a, .query a ∈ Operand.operandsPairs row → ∃ t, a = .prepared t ∧
      t.All fun nested => nested.Resolved ∧ nested.IsRead := by
    intro row member a query
    have payload : Operand.query a ∈ s.insert.toList.flatMap InsertPayload.operands := by
      rw [inserts.payload]
      simpa [InsertPayload.operands] using ⟨row, member, query⟩
    have inStatement : Operand.query a ∈ s.operands :=
      List.mem_append_left _ (List.mem_append_right _ payload)
    obtain ⟨t, rfl⟩ := resolved.here a inStatement
    exact ⟨t, rfl, (resolved.nested inStatement default).and (reads _ inStatement default)⟩
  have compiles (accepted : s.fault = none) (other : Target) (filled : Filled other rows) :
      ∃ sql, (s.compile other).outcome = .ok sql ∧
        sql = s.writtenInsert other (rowColumns rows) (writtenTable other s.schema name) rows ∧
        sql.bindings = rows.flatMap (rowValues other (rowColumns rows)) := by
    have source : (Column.renderTable other s.schema s.table).Writes
        (writtenTable other s.schema name) := by
      rw [named]
      rfl
    have noValues : s.tableValues other = [] := by
      rw [tableValues, named]
      rfl
    have compiled := (s.outcome_compile other).trans
      (inserts.writes_render accepted plain source filled)
    refine ⟨_, compiled, rfl, ?_⟩
    rw [inserts.bindings_eq compiled, noValues, insertValues_of_plain plain]
  refine ⟨columnsOf_rowColumns rows, fun filled => ⟨fun row member column inColumns =>
    bindings_writtenCell (filled row member column inColumns), ?_⟩, ?_⟩
  · cases recorded : s.fault with
    | some fault => exact compile_of_bound_error (inserts.bound_of_fault recorded)
    | none =>
      obtain ⟨sql, compiled, written, bindings⟩ := compiles recorded target filled
      refine ⟨sql, compiled, written, bindings, fun other also => ?_⟩
      obtain ⟨sql', compiled', -, bindings'⟩ := compiles recorded other also
      refine ⟨sql', compiled', ?_⟩
      rw [bindings, bindings', rowValues_eq_of_reads inRows]
  · rintro noMarker ⟨row, member, column, inColumns, undefined⟩
    have stopped : ¬(s.render target).Renders := by
      intro renders
      have cell := (inserts.parts_render renders).2.2 row member column inColumns
      rw [CellRenders, undefined] at cell
      simp [noMarker] at cell
    obtain ⟨fault, found⟩ := Rendering.exists_fault_of_not_renders stopped
    exact ⟨fault, compile_of_bound_error found⟩

/-- Rows with different names, one of them with a nested select, as a block, as lists of values and
for a dialect that has no marker for the cells that are undefined. -/
theorem compile_of_insertsRows_ragged :
    let nested : Statement := { Statement.empty with
      table := some (.name "u")
      wheres := [⟨.and, false, .between (.name "n") (.value (.int 3)) (.value (.int 4))⟩] }
    let rows : List (List (String × Operand Attached)) :=
      [[("a", .value (.int 1)), ("b", .value (.int 2))],
        [("c", .query (.prepared nested)), ("b", .undefined), ("a", .value (.int 5))]]
    let s : Statement := { Statement.empty with
      kind := .insert
      table := some (.name "t")
      insert := some (.rows rows) }
    WritesBlock { dialect := .oracle } rows ∧ Filled { dialect := .oracle } rows ∧
      ¬WritesBlock { dialect := .mysql } rows ∧
      (∃ q r, (s.compile { dialect := .oracle }).outcome = .ok q ∧
        (s.compile { dialect := .mysql }).outcome = .ok r ∧
        r.text = "insert into `t` (`a`, `b`, `c`) values (?, ?, DEFAULT), " ++
          "(?, DEFAULT, (select * from `u` where `n` between ? and ?))" ∧
        q.bindings = [.int 1, .int 2, .int 5, .int 3, .int 4] ∧ r.bindings = q.bindings) ∧
      ∃ fault, (s.compile { dialect := .sqlite }).outcome = .error fault := by
  intro nested rows s
  have inserts : s.InsertsRows rows := ⟨rfl, rfl, by decide⟩
  have inner (a : Attached) (member : Operand.query a ∈ s.operands) : a = .prepared nested := by
    change Operand.query a ∈ [.value (.int 1), .value (.int 2), .query (.prepared nested),
      .undefined, .value (.int 5)] at member
    simpa using member
  have leaf (P : Statement → Prop) (here : P nested) : nested.All P := by
    refine .intro here fun a member => ?_
    change Operand.query a ∈ [.value (.int 3), .value (.int 4)] at member
    simp at member
  have resolved : s.All Statement.Resolved := by
    refine .intro (fun a member => ⟨nested, inner a member⟩) fun a member client => ?_
    rw [inner a member]
    refine leaf _ fun b inside => ?_
    change Operand.query b ∈ [.value (.int 3), .value (.int 4)] at inside
    simp at inside
  have reads : ∀ a, .query a ∈ s.operands →
      ∀ client, (a.statement client).All fun nested => nested.IsRead := by
    intro a member client
    rw [inner a member]
    exact leaf _ ⟨rfl, rfl, rfl⟩
  have filled : Filled { dialect := .oracle } rows := by
    decide +kernel
  obtain ⟨-, marked, -⟩ :=
    compile_of_insertsRows inserts rfl rfl resolved reads { dialect := .oracle }
  obtain ⟨-, -, unmarked⟩ :=
    compile_of_insertsRows inserts rfl rfl resolved reads { dialect := .sqlite }
  refine ⟨by decide, filled, by decide, ?_,
    unmarked rfl ⟨_, List.mem_cons_self, "c", by decide, rfl⟩⟩
  obtain ⟨-, q, first, -, bindings, others⟩ := marked filled
  obtain ⟨r, second, same⟩ := others { dialect := .mysql } (by decide +kernel)
  have text : r.text = _ := congrArg Sql.text (Except.ok.inj second.symm)
  exact ⟨q, r, first, second, text.trans (by decide +kernel), bindings.trans rfl, same⟩

/-- A fault that was recorded while an insert was built stops it, though all its cells can be
written. -/
theorem not_compile_of_fault :
    ¬ ∀ (calls : List Call) (start target : Target)
        (rows : List (List (String × Operand Attached))) (name : String),
      let s := (Call.runAll calls (.start start)).value.statement
      s.InsertsRows rows → s.table = some (.name name) → s.returning = [] →
      (∀ a, .query a ∈ s.operands → ∀ client,
        (a.statement client).All fun nested => nested.IsRead) → Filled target rows →
      ∃ sql, (s.compile target).outcome = .ok sql := by
  intro compiles
  have reads : ∀ a : Attached, Operand.query a ∈ [Operand.value (.int 1)] →
      ∀ client, (a.statement client).All fun nested => nested.IsRead := by
    intro a member
    simp at member
  obtain ⟨sql, compiled⟩ := compiles
    [.filter .wheres {} (.exists (.value (.int 1))), .source (.name "t"),
      .insert (.rows [[("a", .value (.int 1))]]) []] {} {} [[("a", .value (.int 1))]] "t"
    ⟨rfl, rfl, by decide⟩ rfl rfl reads (by decide +kernel)
  cases compiled

/-! ### Values of the table -/

/-- A list in front of each part changes the whole unless it is empty. -/
theorem flatMap_append_left_eq_iff {α β : Type} {items : List α} (nonempty : items ≠ [])
    (front : List β) (f : α → List β) :
    items.flatMap f = items.flatMap (fun item => front ++ f item) ↔ front = [] := by
  have counted (items : List α) : (items.flatMap fun item => front ++ f item).length =
      items.length * front.length + (items.flatMap f).length := by
    induction items with
    | nil => simp
    | cons item rest ih =>
      simp only [List.flatMap_cons, List.length_append, ih, List.length_cons, Nat.succ_mul]
      omega
  constructor
  · intro same
    have lengths := congrArg List.length same
    have product : items.length * front.length = 0 := by
      rw [counted] at lengths
      omega
    rcases Nat.mul_eq_zero.mp product with noItems | noFront
    · exact absurd (List.length_eq_zero_iff.mp noItems) nonempty
    · exact List.length_eq_zero_iff.mp noFront
  · rintro rfl
    rfl

/-- What an insert binds if each statement that it is written as binds the values of its table, of
its rows and its output slots. -/
def valuesWithTable (target : Target) (s : Statement)
    (rows : List (List (String × Operand Attached))) : List Value :=
  (writtenRows target rows).flatMap fun group =>
    s.tableValues target ++
      (group.flatMap (rowValues target (rowColumns rows)) ++ s.outputSlots target)

theorem insertValues_eq_withTable_iff (given : rows ≠ []) :
    s.insertValues target (rowColumns rows) (s.tableValues target) rows =
        s.valuesWithTable target rows ↔
      (WritesBlock target rows → s.tableValues target = []) := by
  unfold insertValues valuesWithTable writtenRows
  by_cases block : WritesBlock target rows
  · rw [if_pos block, if_pos block, List.flatMap_map]
    simp only [List.flatMap_singleton, block, true_imp_iff]
    exact flatMap_append_left_eq_iff given _ _
  · rw [if_neg block, if_neg block, List.flatMap_singleton, List.append_assoc]
    exact iff_of_true rfl fun writes => absurd writes block

/-- A block is the one strategy that loses values: its statements repeat the text of the table, and
the values in it are bound exactly if there are none. Otherwise an insert begins with the text of
its table, whose values come first. -/
theorem bindings_of_insertsRows_iff (inserts : s.InsertsRows rows) {sql : Sql}
    (compiled : (s.compile target).outcome = .ok sql) :
    (sql.bindings = s.valuesWithTable target rows ↔
      (WritesBlock target rows → s.tableValues target = [])) ∧
    (¬WritesBlock target rows → ∃ table rest,
      (Column.renderTable target s.schema s.table).outcome = .ok table ∧
        sql = (Sql.ofPieces (.text "insert into " :: table)).append rest) := by
  constructor
  · rw [inserts.bindings_eq compiled]
    exact insertValues_eq_withTable_iff inserts.rows_ne_nil
  · intro single
    cases rendered : (s.render target).outcome with
    | error fault =>
      rw [compile_of_error rendered] at compiled
      cases compiled
    | ok pieces =>
      rw [compile_of_ok rendered] at compiled
      cases compiled
      have accepted := (inserts.parts_render ⟨_, Rendering.bound_of_outcome rendered⟩).1
      obtain ⟨c, same, assembled⟩ := inserts.exists_clauses target
      rw [assembled, accepted] at rendered
      rw [← same]
      refine ofPieces_renderRows rendered fun block => single ?_
      rwa [Operand.renderedRows_eq_map, writesBlock_map] at block

/-- A table with a value of its own in front of several rows, for a dialect that writes a union. -/
theorem bindings_of_insertsRows_iff_union :
    let rows : List (List (String × Operand Attached)) :=
      [[("a", .value (.int 1))], [("a", .value (.int 2))]]
    let s : Statement := { Statement.empty with
      kind := .insert
      table := some (.raw ⟨"part(?)", .positional [.value (.int 7)], none⟩)
      insert := some (.rows rows) }
    ∃ sql, (s.compile { dialect := .sqlite }).outcome = .ok sql ∧
      sql.bindings = s.valuesWithTable { dialect := .sqlite } rows ∧
      sql.bindings = [.int 7, .int 1, .int 2] ∧
      ∃ table rest, (Column.renderTable { dialect := .sqlite } s.schema s.table).outcome =
          .ok table ∧ sql = (Sql.ofPieces (.text "insert into " :: table)).append rest := by
  intro rows s
  have inserts : s.InsertsRows rows := ⟨rfl, rfl, by decide⟩
  have single : ¬WritesBlock { dialect := .sqlite } rows := by
    decide
  have compiled : (s.compile { dialect := .sqlite }).outcome = .ok _ := rfl
  obtain ⟨bindings, begins⟩ := bindings_of_insertsRows_iff inserts compiled
  exact ⟨_, compiled, bindings.mpr fun block => absurd block single, rfl, begins single⟩

/-- The statements of a block repeat the text of their table, and its value is not bound. -/
theorem not_mem_bindings_of_block :
    ¬ ∀ (calls : List Call) (start target : Target)
        (rows : List (List (String × Operand Attached))) (sql : Sql),
      let s := (Call.runAll calls (.start start)).value.statement
      s.InsertsRows rows → (s.compile target).outcome = .ok sql →
      ∀ value ∈ s.tableValues target, value ∈ sql.bindings := by
  intro kept
  have lost := kept
    [.source (.raw ⟨"part(?)", .positional [.value (.int 7)], none⟩),
      .insert (.rows [[("a", .value (.int 1))], [("a", .value (.int 2))]]) []]
    { dialect := .oracle } { dialect := .oracle }
    [[("a", .value (.int 1))], [("a", .value (.int 2))]] _ ⟨rfl, rfl, by decide⟩ rfl (.int 7)
    List.mem_cons_self
  change Value.int 7 ∈ [.int 1, .int 2] at lost
  simp at lost

end Statement

end PortableSql
