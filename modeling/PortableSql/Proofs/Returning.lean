import PortableSql.Call
import PortableSql.Proofs.InsertBlock
import PortableSql.Proofs.Numbering

/-!
Returning columns of inserts, updates and deletes.

A grammar writes the columns that a statement is to return at its end, ahead of its values, or as an
output slot, and where it can write none of these it says in an event that they are left out
(`Statement.honours_returning`). Two forms of an insert are overlooked: an insert from a query, and
an insert of rows without columns where the grammar writes these as empty lists. They compile as if
nothing was to be returned, and no event says so.
-/

namespace PortableSql

/-! ### Events of renderings -/

namespace Render

variable {α β : Type}

/-- The events on the way to the result of a rendering, or to the fault that stops it. -/
def events (r : Render α) : List Event :=
  r.run.events

theorem mem_events_bind_of_first {r : Render α} {e : Event} (emits : e ∈ r.events)
    (f : α → Render β) : e ∈ (r >>= f).events :=
  List.mem_append_left _ emits

theorem mem_events_bind_of_next {r : Render α} {f : α → Render β} {x : α} {e : Event}
    (given : r.outcome = .ok x) (emits : e ∈ (f x).events) : e ∈ (r >>= f).events := by
  refine List.mem_append_right _ ?_
  change r.run.value = .ok x at given
  change e ∈ (ExceptT.bindCont f r.run.value).events
  rw [given]
  exact emits

end Render

/-- What a part of a sequence logs is logged, if no part before it is stopped. -/
theorem Rendering.mem_events_concat {rs : List Rendering} {pieces : List Piece}
    (given : (concat rs).outcome = .ok pieces) {r : Rendering} (member : r ∈ rs) {e : Event}
    (emits : e ∈ r.events) : e ∈ (concat rs).events := by
  induction rs generalizing pieces with
  | nil => cases member
  | cons first rest ih =>
    obtain ⟨front, back, own, others, -⟩ := exists_outcome_of_concat given
    rcases List.mem_cons.mp member with rfl | later
    · exact Render.mem_events_bind_of_first emits _
    · exact Render.mem_events_bind_of_next own
        (Render.mem_events_bind_of_first (ih others later) _)

theorem Rendering.exists_outcome_of_concat_append {rs qs : List Rendering} {pieces : List Piece}
    (given : (concat (rs ++ qs)).outcome = .ok pieces) :
    ∃ front back, (concat rs).outcome = .ok front ∧ (concat qs).outcome = .ok back ∧
      pieces = front ++ back := by
  rw [outcome_concat_append] at given
  obtain ⟨front, first, given⟩ := bind_ok.mp given
  obtain ⟨back, second, same⟩ := map_ok.mp given
  exact ⟨front, back, first, second, same.symm⟩

/-- A sequence at the end of a sequence. -/
theorem Rendering.concat_flatten (rs qs : List Rendering) :
    concat (rs ++ [concat qs]) = concat (rs ++ qs) := by
  induction rs with
  | nil => simp [concat, nothing]
  | cons r rs ih =>
    rw [List.cons_append, List.cons_append, concat, concat, ih]

/-! ### Texts apart -/

/-- Nothing, or pieces that begin with a space. -/
def Piece.Apart (pieces : List Piece) : Prop :=
  pieces = [] ∨ ∃ s rest, pieces = .text s :: rest ∧ s.toList.head? = some ' '

namespace Piece.Apart

variable {xs ys : List Piece}

theorem append (first : Apart xs) (second : Apart ys) : Apart (xs ++ ys) := by
  rcases first with rfl | ⟨s, rest, rfl, blank⟩
  · exact second
  · exact .inr ⟨s, rest ++ ys, rfl, blank⟩

theorem fresh (apart : Apart xs) : Fresh xs := by
  rcases apart with rfl | ⟨s, rest, rfl, blank⟩
  · exact .nil
  · refine .text ?_
    rw [blank]
    rfl

theorem head_eq (apart : Apart xs) : ∀ c ∈ (Sql.ofPieces xs).text.toList.head?, c = ' ' := by
  rcases apart with rfl | ⟨s, rest, rfl, blank⟩
  · exact nofun
  · obtain ⟨cs, same⟩ := List.head?_eq_some_iff.mp blank
    rw [Sql.toList_text_ofPieces, charsAll, chars, same]
    intro c first
    simpa [Sql.escapeMarks, eq_comm] using first

end Piece.Apart

/-- A rendering that gives nothing or begins with a space. -/
def Rendering.Apart (r : Rendering) : Prop :=
  ∀ pieces, r.outcome = .ok pieces → Piece.Apart pieces

namespace Rendering.Apart

theorem nothing : Apart nothing := by
  rintro pieces ⟨⟩
  exact .inl rfl

theorem event (e : Event) : Apart (event e) := by
  rintro pieces ⟨⟩
  exact .inl rfl

/-- What begins with a word behind a space is apart. -/
theorem word {s : String} (blank : s.toList.head? = some ' ') (rs : List Rendering) :
    Apart (concat (text s :: rs)) := by
  intro pieces given
  obtain ⟨front, back, own, -, rfl⟩ := exists_outcome_of_concat given
  cases own
  exact .inr ⟨s, back, rfl, blank⟩

theorem guarded {condition : Bool} {r : Rendering} (apart : Apart r) :
    Apart (guarded condition r) := by
  cases condition with
  | true => exact apart
  | false => exact nothing

theorem concat {rs : List Rendering} (each : ∀ r ∈ rs, Apart r) : Apart (concat rs) := by
  induction rs with
  | nil => exact nothing
  | cons r rs ih =>
    intro pieces given
    obtain ⟨front, back, own, others, rfl⟩ := exists_outcome_of_concat given
    exact (each r List.mem_cons_self front own).append
      (ih (fun other member => each other (List.mem_cons_of_mem _ member)) back others)

theorem clause {lead : String} (blank : lead.toList.head? = some ' ') (items : List Rendering) :
    Apart (clause lead items) := by
  unfold Rendering.clause
  split
  · exact nothing
  · exact word blank _

end Rendering.Apart

/-! ### Forms of returning columns -/

/-- The execution of a row that reports where the row went: its statement ends with the form, and
its last use is the output slot. -/
def Execution.ReturnsRowId (columns : List String) (e : Execution) : Prop :=
  ∃ (front : List Char) (n : Nat) (values : List Value),
    e.statement = front ++ " returning ROWID into :".toList ++ Nat.toDigits 10 n ∧
      e.uses = values.map .input ++ [.output (.returning columns)]

namespace Statement

/-- The pseudo-table that the output of a statement is read from. -/
def outputTable (s : Statement) : String :=
  if s.kind = .delete then "deleted" else "inserted"

/-- The SQL of a statement has the returning form of the grammar, for just the columns that the
statement is to return. -/
inductive CarriesReturning (target : Target) (s : Statement) : Sql → Prop where
  /-- The columns at the end. -/
  | clause (form : target.grammar.returning = .clause) (front : Sql) :
      CarriesReturning target s (front.append (Sql.ofPieces [.text " returning ",
        .text (Identifier.renderList target.grammar "" s.returning)]))
  /-- The columns in the middle; what is behind them does not go on with the list. -/
  | output (form : target.grammar.returning = .output) (front : Sql) {back : Sql}
      (apart : ∀ c ∈ back.text.toList.head?, c = ' ') :
      CarriesReturning target s (front.append ((Sql.ofPieces [.text " output ",
        .text (Identifier.renderList target.grammar (s.outputTable ++ ".") s.returning)]).append
          back))
  /-- An output slot at the end. -/
  | rowId (form : target.grammar.returning = .rowId) (front : Sql) :
      CarriesReturning target s
        (front.append ⟨" returning ROWID into ?", [.returning s.returning]⟩)
  /-- An output slot for each row. -/
  | block (form : target.grammar.returning = .rowId) {executions : List Execution}
      {rows : List (List (String × Operand Attached))} (payload : s.insert = some (.rows rows))
      (several : executions.length = rows.length)
      (each : ∀ e ∈ executions, e.ReturnsRowId s.returning) :
      CarriesReturning target s (Execution.block executions)

/-- The grammar has no returning form for a statement of this kind. -/
def DropsReturning (target : Target) (s : Statement) : Prop :=
  target.grammar.returning = .unsupported ∨
    (target.grammar.returning = .rowId ∧ s.kind = .delete)

/-- The form of an insert that is overlooked: from a query, or of rows without columns that the
grammar writes as empty lists. -/
def ForgetsReturning (target : Target) (s : Statement) : Prop :=
  s.kind = .insert ∧
    match s.insert with
    | none => False
    | some (.query _) => True
    | some (.rows rows) => rowColumns rows = [] ∧ target.grammar.emptyRow = .emptyValues

/-- A statement that returns nothing. -/
def withoutReturning (s : Statement) : Statement :=
  { s with returning := [] }

/-- A rendering of a statement has the returning form of the grammar if there is one for the
statement, and says that the columns are left out otherwise. -/
def Honours (target : Target) (s : Statement) (r : Rendering) : Prop :=
  ∀ pieces, r.outcome = .ok pieces →
    (s.DropsReturning target → .returningDropped target.dialect s.returning ∈ r.events) ∧
      (¬s.DropsReturning target → s.CarriesReturning target (Sql.ofPieces pieces))

variable {target : Target} {s : Statement}

/-- What goes on from pieces honours the returning columns if all that it may go on with does. -/
theorem honours_bind {r : Rendering} {f : List Piece → Rendering}
    (next : ∀ front, r.outcome = .ok front → s.Honours target (f front)) :
    s.Honours target (r >>= f) := by
  intro pieces given
  rw [Render.outcome_bind] at given
  obtain ⟨front, first, given⟩ := bind_ok.mp given
  have honours := next front first pieces given
  exact ⟨fun dropped => Render.mem_events_bind_of_next first (honours.1 dropped), honours.2⟩

/-- A grammar that names a column for an empty row returns the identifier of the row. -/
theorem returning_of_returningColumn (strategy : target.grammar.emptyRow = .returningColumn) :
    target.grammar.returning = .rowId := by
  unfold Target.grammar at strategy ⊢
  cases found : target.dialect <;> rw [found] at strategy <;> first | rfl | cases strategy

section Forms

variable (asked : s.returning ≠ [])

include asked

theorem mem_events_returningNote :
    .returningDropped target.dialect s.returning ∈ (s.returningNote target).events := by
  rw [returningNote, Rendering.guarded, if_pos (by simpa using asked)]
  exact List.mem_cons_self

theorem returningAtEnd_of_asked : s.returningAtEnd target = match target.grammar.returning with
    | .clause => .concat [.text " returning ",
        .text (Identifier.renderList target.grammar "" s.returning)]
    | .rowId => .concat [.text " returning ROWID into ", .slot (.returning s.returning)]
    | .output => .nothing
    | .unsupported => s.returningNote target := by
  unfold returningAtEnd Rendering.guarded
  exact if_pos (by simpa using asked)

theorem outcome_returningAhead (form : target.grammar.returning = .output) (table : String) :
    (s.returningAhead target table).outcome = .ok [.text " output ",
      .text (Identifier.renderList target.grammar (table ++ ".") s.returning)] := by
  rw [returningAhead, Rendering.guarded, if_pos (by simpa using ⟨form, asked⟩)]
  rfl

/-- What ends with the returning columns has the form of the grammar, where this is one at the
end. -/
theorem carries_of_end (rs : List Rendering) {qs : List Rendering} {pieces : List Piece}
    (silent : (Rendering.concat qs).outcome = .ok [])
    (given : (Rendering.concat (rs ++ s.returningAtEnd target :: qs)).outcome = .ok pieces)
    (form : target.grammar.returning = .clause ∨ target.grammar.returning = .rowId) :
    s.CarriesReturning target (Sql.ofPieces pieces) := by
  obtain ⟨front, back, -, last, rfl⟩ := Rendering.exists_outcome_of_concat_append given
  obtain ⟨columns, nothing, own, empty, rfl⟩ := Rendering.exists_outcome_of_concat last
  obtain rfl : [] = nothing := Except.ok.inj (silent.symm.trans empty)
  rw [returningAtEnd_of_asked asked] at own
  rw [List.append_nil]
  rcases form with form | form
  · rw [form] at own
    obtain rfl : [.text " returning ",
      .text (Identifier.renderList target.grammar "" s.returning)] = columns := Except.ok.inj own
    rw [Sql.ofPieces_append_of_fresh (.text (by decide))]
    exact .clause form _
  · rw [form] at own
    obtain rfl : [.text " returning ROWID into ", .slot (.returning s.returning)] = columns :=
      Except.ok.inj own
    rw [Sql.ofPieces_append_of_fresh (.text (by decide))]
    exact .rowId form _

/-- What has the returning columns in the middle has the form of the grammar, where this is one
there. -/
theorem carries_of_ahead {rs qs : List Rendering} {pieces : List Piece}
    (apart : (Rendering.concat qs).Apart)
    (given : (Rendering.concat (rs ++ s.returningAhead target s.outputTable :: qs)).outcome =
      .ok pieces)
    (form : target.grammar.returning = .output) :
    s.CarriesReturning target (Sql.ofPieces pieces) := by
  obtain ⟨front, behind, -, later, rfl⟩ := Rendering.exists_outcome_of_concat_append given
  obtain ⟨columns, back, own, others, rfl⟩ := Rendering.exists_outcome_of_concat later
  obtain rfl := Except.ok.inj ((outcome_returningAhead asked form _).symm.trans own)
  have last := apart back others
  have words : Piece.Fresh ([.text " output ", .text (Identifier.renderList target.grammar
      (s.outputTable ++ ".") s.returning)] ++ back) := .text (by decide)
  rw [Sql.ofPieces_append_of_fresh words, Sql.ofPieces_append_of_fresh last.fresh]
  exact .output form _ last.head_eq

/-- A statement with a place for the returning columns ahead and one at the end honours them. -/
theorem honours_concat (kind : s.kind ≠ .delete ∨ target.grammar.returning ≠ .rowId)
    (rs ms : List Rendering) {qs : List Rendering} (middle : (Rendering.concat ms).Apart)
    (silent : (Rendering.concat qs).outcome = .ok []) :
    s.Honours target (.concat (rs ++ s.returningAhead target s.outputTable ::
      (ms ++ s.returningAtEnd target :: qs))) := by
  intro pieces given
  by_cases unsupported : target.grammar.returning = .unsupported
  · refine ⟨fun _ => Rendering.mem_events_concat given (r := s.returningAtEnd target) ?_ ?_,
      fun kept => absurd (.inl unsupported) kept⟩
    · simp
    · rw [returningAtEnd_of_asked asked, unsupported]
      exact mem_events_returningNote asked
  · refine ⟨?_, fun _ => ?_⟩
    · rintro (none | ⟨slot, deletes⟩)
      · exact absurd none unsupported
      · rcases kind with other | other
        · exact absurd deletes other
        · exact absurd slot other
    · cases form : target.grammar.returning with
      | unsupported => exact absurd form unsupported
      | output =>
        refine carries_of_ahead asked ?_ given form
        intro pieces given
        obtain ⟨front, back, first, last, rfl⟩ := Rendering.exists_outcome_of_concat_append given
        obtain ⟨columns, nothing, own, empty, rfl⟩ := Rendering.exists_outcome_of_concat last
        obtain rfl : [] = nothing := Except.ok.inj (silent.symm.trans empty)
        rw [returningAtEnd_of_asked asked, form] at own
        obtain rfl : [] = columns := Except.ok.inj own
        simpa using middle front first
      | clause =>
        rw [← List.cons_append, ← List.append_assoc] at given
        exact carries_of_end asked _ silent given (.inl form)
      | rowId =>
        rw [← List.cons_append, ← List.append_assoc] at given
        exact carries_of_end asked _ silent given (.inr form)

/-! ### Inserts -/

/-- The execution of a row reports where the row went. -/
theorem returnsRowId_blockExecution (head : String) (values : Sql) :
    (s.blockExecution head values).ReturnsRowId s.returning := by
  have given : s.returning.isEmpty = false := by
    simpa using asked
  have number (n : Nat) : '?' ∉ " returning ROWID into :".toList ++ Nat.toDigits 10 n := by
    intro member
    rcases List.mem_append.mp member with word | digit
    · exact absurd word (by decide)
    · exact Sql.plain_toDigits (by decide) n digit
  refine ⟨Sql.escapeMarks false (head ++ " values " ++ (Sql.numbered values.text).1).toList,
    (Sql.numbered values.text).2 + 1, values.bindings, ?_, ?_⟩
  · have digits : (toString ((Sql.numbered values.text).2 + 1)).toList =
        Nat.toDigits 10 ((Sql.numbered values.text).2 + 1) := Nat.toList_repr
    have split : (s.blockText head values).toList =
        (head ++ " values " ++ (Sql.numbered values.text).1).toList ++
          (" returning ROWID into :".toList ++
            Nat.toDigits 10 ((Sql.numbered values.text).2 + 1)) := by
      simp only [blockText, given, Bool.false_eq_true, if_false, String.toList_append, digits]
    rw [blockExecution, split, Sql.escapeMarks_append (number _), List.append_assoc]
  · simp [blockExecution, outputs, given]

end Forms

section Inserts

variable (inserts : s.kind = .insert) {columns : List String}

include inserts

theorem outputTable_eq : s.outputTable = "inserted" := by
  rw [outputTable, inserts]
  rfl

variable (asked : s.returning ≠ [])

include asked

theorem honours_rowsAsValues (rows : List (Keyed Rendered)) (head : Sql) :
    s.Honours target (s.rowsAsValues target columns rows head) := by
  rw [rowsAsValues, ← outputTable_eq inserts]
  exact honours_concat asked (.inl (by simp [inserts])) [_] [_, _] (.word (by decide) _) rfl

omit inserts in
theorem honours_rowsAsUnion (union : target.grammar.multiRow = .unionAll)
    (rows : List (Keyed Rendered)) (head : Sql) :
    s.Honours target (s.rowsAsUnion target columns rows head) := by
  intro pieces given
  refine ⟨fun _ => Rendering.mem_events_concat given (r := s.returningNote target) (by simp)
    (mem_events_returningNote asked), fun kept => absurd (.inl ?_) kept⟩
  exact returning_of_unionAll target union

theorem honours_rowsAsBlock (block : target.grammar.multiRow = .block)
    {rows : List (List (String × Operand Attached))} (payload : s.insert = some (.rows rows))
    (head : Sql) :
    s.Honours target (s.rowsAsBlock target columns (Operand.renderedRows target rows) head) := by
  intro pieces given
  have form := returning_of_block target block
  have executions := s.outcome_rowsAsBlock target columns (Operand.renderedRows target rows) head
  rw [given] at executions
  cases tuples : (Operand.renderedRows target rows).mapM fun row =>
      (rowTuple target columns row).outcome.map Sql.ofPieces with
  | error fault =>
    rw [tuples] at executions
    cases executions
  | ok values =>
    rw [tuples] at executions
    have whole : Sql.ofPieces pieces = _ := Except.ok.inj executions
    refine ⟨?_, fun _ => ?_⟩
    · rintro (none | ⟨-, deletes⟩)
      · cases form.symm.trans none
      · cases inserts.symm.trans deletes
    · rw [whole]
      refine .block form payload ?_ ?_
      · rw [List.length_map, length_eq_of_mapM tuples, Operand.renderedRows_eq_map,
          List.length_map]
      · intro e member
        obtain ⟨value, -, rfl⟩ := List.mem_map.mp member
        exact returnsRowId_blockExecution asked head.text value

theorem honours_renderRows {c : RenderedClauses}
    {rows : List (List (String × Operand Attached))} (payload : s.insert = some (.rows rows)) :
    s.Honours target (s.renderRows target c columns (Operand.renderedRows target rows)) := by
  refine honours_bind fun head _ => ?_
  dsimp only
  split
  · exact honours_rowsAsValues inserts asked _ _
  · cases strategy : target.grammar.multiRow with
    | values => exact honours_rowsAsValues inserts asked _ _
    | unionAll => exact honours_rowsAsUnion asked strategy _ _
    | block => exact honours_rowsAsBlock inserts asked strategy payload _

/-- Rows without columns honour the returning columns, unless they are written as empty lists. -/
theorem honours_renderEmptyRows {c : RenderedClauses} {count : Nat}
    (kept : target.grammar.emptyRow ≠ .emptyValues) :
    s.Honours target (s.renderEmptyRows target c count) := by
  unfold renderEmptyRows
  dsimp only
  split
  · exact nofun
  · cases strategy : target.grammar.emptyRow with
    | emptyValues => exact absurd strategy kept
    | defaultValues =>
      change s.Honours target (Rendering.concat ([_, _] ++ [Rendering.concat _]))
      rw [Rendering.concat_flatten, ← outputTable_eq inserts]
      exact honours_concat asked (.inl (by simp [inserts])) [_, _] [_] (.word (by decide) _) rfl
    | returningColumn =>
      have form := returning_of_returningColumn strategy
      cases columns : s.returning with
      | nil => exact absurd columns asked
      | cons column rest =>
        change s.Honours target (Rendering.concat ([_, _] ++ [Rendering.concat _]))
        rw [Rendering.concat_flatten]
        intro pieces given
        refine ⟨?_, fun _ => carries_of_end asked [_, _, _, _, _] rfl given (.inr form)⟩
        rintro (none | ⟨-, deletes⟩)
        · cases form.symm.trans none
        · cases inserts.symm.trans deletes

end Inserts

/-! ### Updates and deletes -/

theorem apart_conditionClause {lead : String} (blank : lead.toList.head? = some ' ')
    (conditions : List (Connector × Rendering)) :
    (Rendering.conditionClause lead conditions).Apart :=
  .guarded (.word blank _)

theorem apart_mutationOrderAndLimit {c : RenderedClauses} (orders : c.orders.Apart) :
    (s.mutationOrderAndLimit target c).Apart := by
  unfold mutationOrderAndLimit
  split
  · refine .concat fun r member => ?_
    rcases List.mem_cons.mp member with rfl | member
    · exact orders
    · obtain rfl := List.mem_singleton.mp member
      cases s.limit with
      | none => exact .nothing
      | some limit => exact .word (by decide) _
  · exact orders
  · exact .guarded (.event _)

section Mutations

variable (asked : s.returning ≠ [])

include asked

theorem outcome_mutationEnd : (Rendering.concat [s.mutationEnd target]).outcome = .ok [] := by
  have none : s.mutationEnd target = .nothing := by
    rw [mutationEnd, Rendering.guarded, if_neg (by simpa using asked)]
  rw [none]
  rfl

variable {c : RenderedClauses} (wheres : c.wheres.Apart) (orders : c.orders.Apart)

include wheres orders

theorem honours_renderUpdate (updates : s.kind = .update) :
    s.Honours target (s.renderUpdate target c) := by
  have middle : (Rendering.concat [c.wheres, s.mutationOrderAndLimit target c]).Apart :=
    .concat (by simpa using ⟨wheres, apart_mutationOrderAndLimit orders⟩)
  have table : s.outputTable = "inserted" := by
    rw [outputTable, updates]
    rfl
  unfold renderUpdate
  split
  · exact nofun
  · rw [← table]
    exact honours_concat asked (.inl (by simp [updates])) [_, _, _, _, _, _] [_, _] middle
      (outcome_mutationEnd asked)

theorem honours_renderDelete (deletes : s.kind = .delete) :
    s.Honours target (s.renderDelete target c) := by
  have middle : (Rendering.concat [c.wheres, s.mutationOrderAndLimit target c]).Apart :=
    .concat (by simpa using ⟨wheres, apart_mutationOrderAndLimit orders⟩)
  have table : s.outputTable = "deleted" := by
    rw [outputTable, deletes]
    rfl
  unfold renderDelete
  dsimp only
  split
  · rename_i form
    intro pieces given
    exact ⟨fun _ => Rendering.mem_events_concat given (r := s.returningNote target) (by simp)
      (mem_events_returningNote asked), fun kept => absurd (.inr ⟨form, deletes⟩) kept⟩
  · rename_i form
    rw [← table]
    exact honours_concat asked (.inr form) [_, _, _, _, _, _] [_, _] middle
      (outcome_mutationEnd asked)

end Mutations

/-! ### Whole statements -/

/-- The overlooked forms of an insert compile as if nothing was to be returned, with the same
events. -/
theorem compile_of_forgets (forgets : s.ForgetsReturning target) :
    s.compile target = s.withoutReturning.compile target := by
  obtain ⟨inserts, form⟩ := forgets
  have clauses : s.withoutReturning.clauses target = s.clauses target := rfl
  have same : s.renderInsert target (s.clauses target) =
      s.withoutReturning.renderInsert target (s.clauses target) := by
    unfold renderInsert
    rw [Statement.clauses]
    cases payload : s.insert with
    | none => rfl
    | some payload' =>
      rw [payload] at form
      cases payload' with
      | query query => rfl
      | rows rows =>
        obtain ⟨columns, strategy⟩ := form
        have none : (rowColumns (Operand.renderedRows target rows)).isEmpty = true := by
          rw [rowColumns_renderedRows, columns]
          rfl
        simp only [InsertPayload.rendered, none, if_true, renderEmptyRows, strategy]
  have settings : s.withoutReturning.fault = s.fault ∧ s.withoutReturning.kind = s.kind :=
    ⟨rfl, rfl⟩
  have whole : s.render target = s.withoutReturning.render target := by
    rw [render_eq, render_eq, clauses, assemble, assemble, settings.1, settings.2, inserts]
    dsimp only
    rw [same]
  rw [compile, whole]
  rfl

theorem honours_of_renderInsert (inserts : s.kind = .insert) (asked : s.returning ≠ [])
    (kept : ¬s.ForgetsReturning target) {pieces : List Piece}
    (given : (s.renderInsert target (s.clauses target)).outcome = .ok pieces)
    (written : (Sql.ofPieces pieces).isEmpty = false) :
    (s.DropsReturning target → .returningDropped target.dialect s.returning ∈
        (s.renderInsert target (s.clauses target)).events) ∧
      (¬s.DropsReturning target → s.CarriesReturning target (Sql.ofPieces pieces)) := by
  have payload : (s.clauses target).insert = InsertPayload.rendered target s.insert := rfl
  unfold renderInsert at given ⊢
  rw [payload] at given ⊢
  cases insert : s.insert with
  | none =>
    rw [insert] at given
    obtain rfl : [] = pieces := Except.ok.inj given
    cases written
  | some payload =>
    cases payload with
    | query query => exact absurd ⟨inserts, by rw [insert]; trivial⟩ kept
    | rows rows =>
      rw [insert] at given
      simp only [InsertPayload.rendered, rowColumns_renderedRows] at given ⊢
      split at given
      · obtain rfl : [] = pieces := Except.ok.inj given
        cases written
      · rename_i some
        rw [if_neg some]
        split at given
        · rename_i none
          rw [if_pos none]
          have strategy : target.grammar.emptyRow ≠ .emptyValues := fun empty =>
            kept ⟨inserts, by rw [insert]; exact ⟨by simpa using none, empty⟩⟩
          exact honours_renderEmptyRows inserts asked strategy pieces given
        · rename_i columns
          rw [if_neg columns]
          exact honours_renderRows inserts asked insert pieces given

/-- A statement that writes something honours its returning columns, unless these are
overlooked. -/
theorem honours_of_render (mutates : s.kind = .insert ∨ s.kind = .update ∨ s.kind = .delete)
    (asked : s.returning ≠ []) (kept : ¬s.ForgetsReturning target) {pieces : List Piece}
    (given : (s.render target).outcome = .ok pieces)
    (written : (Sql.ofPieces pieces).isEmpty = false) :
    (s.DropsReturning target →
        .returningDropped target.dialect s.returning ∈ (s.render target).events) ∧
      (¬s.DropsReturning target → s.CarriesReturning target (Sql.ofPieces pieces)) := by
  have wheres : (s.clauses target).wheres.Apart := apart_conditionClause (by decide) _
  have orders : (s.clauses target).orders.Apart := .clause (by decide) _
  rw [render_eq, assemble] at given ⊢
  cases recorded : s.fault with
  | some fault =>
    rw [recorded] at given
    cases given
  | none =>
    rw [recorded] at given
    rcases mutates with inserts | updates | deletes
    · rw [inserts] at given ⊢
      exact honours_of_renderInsert inserts asked kept given written
    · rw [updates] at given ⊢
      exact honours_renderUpdate asked wheres orders updates pieces given
    · rw [deletes] at given ⊢
      exact honours_renderDelete asked wheres orders deletes pieces given

/-- An insert, update or delete that is to return columns has the returning form of the grammar for
them, or says that they are left out where the grammar has none; only the overlooked forms of an
insert do neither. -/
theorem honours_returning (mutates : s.kind = .insert ∨ s.kind = .update ∨ s.kind = .delete)
    (asked : s.returning ≠ []) {sql : Sql} (compiled : (s.compile target).outcome = .ok sql)
    (written : sql.isEmpty = false) :
    (¬s.ForgetsReturning target →
      (s.DropsReturning target →
          .returningDropped target.dialect s.returning ∈ (s.compile target).events) ∧
        (¬s.DropsReturning target → s.CarriesReturning target sql)) ∧
    (s.ForgetsReturning target → s.compile target = s.withoutReturning.compile target) := by
  refine ⟨fun kept => ?_, compile_of_forgets⟩
  cases rendered : (s.render target).outcome with
  | error fault =>
    rw [compile_of_error rendered] at compiled
    cases compiled
  | ok pieces =>
    rw [compile_of_ok rendered] at compiled
    cases compiled
    have honours := honours_of_render mutates asked kept rendered written
    exact ⟨fun dropped => Render.mem_events_bind_of_first (honours.1 dropped) _, honours.2⟩

/-- Two rows in a block, each with an output slot of its own. -/
theorem honours_returning_block :
    let s := (Call.runAll [.source (.name "t"),
      .insert (.rows [[("a", .value (.int 1))], [("a", .value (.int 2))]]) ["id"]]
      (.start {})).value.statement
    ∃ sql, (s.compile { dialect := .oracle }).outcome = .ok sql ∧
      s.CarriesReturning { dialect := .oracle } sql ∧
      sql.bindings = [.int 1, .returning ["id"], .int 2, .returning ["id"]] := by
  intro s
  have compiled : (s.compile { dialect := .oracle }).outcome = .ok _ := rfl
  have kept : ¬s.ForgetsReturning { dialect := .oracle } := by
    rintro ⟨-, -, strategy⟩
    cases strategy
  have written : ¬s.DropsReturning { dialect := .oracle } := by
    rintro (none | ⟨-, deletes⟩)
    · cases none
    · cases deletes
  have asked : s.returning ≠ [] := List.cons_ne_nil _ _
  refine ⟨_, compiled, ((honours_returning (.inl rfl) asked compiled ?_).1 kept).2 written, rfl⟩
  decide +kernel

/-- Where the columns are to be at the end, they are at the end. -/
theorem suffix_of_carries {sql : Sql} (form : target.grammar.returning = .clause)
    (carries : s.CarriesReturning target sql) :
    (Sql.ofPieces [.text " returning ",
      .text (Identifier.renderList target.grammar "" s.returning)]).text.toList <:+
        sql.text.toList := by
  cases carries with
  | clause _ front => exact ⟨front.text.toList, by simp [Sql.append]⟩
  | output other | rowId other | block other => cases form.symm.trans other

/-- An insert from a query has neither the columns nor an event. -/
theorem not_honours_returning_of_query :
    ¬ ∀ (calls : List Call) (start target : Target) (sql : Sql),
      let s := (Call.runAll calls (.start start)).value.statement
      s.kind = .insert → s.returning ≠ [] → (s.compile target).outcome = .ok sql →
      sql.isEmpty = false → s.CarriesReturning target sql ∨
        .returningDropped target.dialect s.returning ∈ (s.compile target).events := by
  intro honours
  rcases honours
    [.source (.name "t"), .insert (.query (.query (.callback [.source (.name "s")]))) ["id"]]
    { dialect := .postgres } { dialect := .postgres } _ rfl (List.cons_ne_nil _ _) rfl rfl with
    carries | reports
  · exact absurd (suffix_of_carries rfl carries) (by decide)
  · change Event.returningDropped .postgres ["id"] ∈ [.compiled _ _ _] at reports
    cases List.mem_singleton.mp reports

end Statement

end PortableSql
