import PortableSql.Proofs.SafeRendering

/-!
Whole statements keep the promise of their parts.

The clauses keep a promise in the places where they stand, so every kind of statement does. By
induction on the nesting, a statement keeps a promise that expects the faults recorded in it and, if
the promise is about hidden values, has guarded fragments only.
-/

namespace PortableSql

variable {p : Promise} {before after : Bool}

open Rendering (Safe)

/-- A rendered payload keeps a promise. -/
def RenderedPayload.Keeps (p : Promise) : RenderedPayload → Prop
  | .rows table => ∀ row ∈ table, ∀ pair ∈ row, pair.2.Keeps p
  | .query source => source.Keeps p

/-- Rendered clauses keep a promise where they stand. -/
structure RenderedClauses.Keeps (p : Promise) (c : RenderedClauses) : Prop where
  source : Safe p false true c.source
  columns : ∀ column ∈ c.columns, Safe p false true column
  joins : Safe p true true c.joins
  wheres : Safe p true true c.wheres
  groups : Safe p true true c.groups
  havings : Safe p true true c.havings
  orders : Safe p true true c.orders
  unions : Safe p true true c.unions
  insert : ∀ payload ∈ c.insert, payload.Keeps p
  assignments : ∀ pair ∈ c.assignments, pair.2.Keeps p

namespace Statement

variable (target : Target) (s : Statement) {c : RenderedClauses}

/-! ### Returning columns -/

theorem safe_returningNote : Safe p before before (s.returningNote target) :=
  .guarded (.event _)

theorem safe_returningAhead (table : String) :
    Safe p true true (s.returningAhead target table) :=
  .guarded (.leads (.text _) (.last (.text _)))

theorem safe_returningAtEnd : Safe p true true (s.returningAtEnd target) := by
  refine .guarded ?_
  split
  · exact .leads (.text _) (.last (.text _))
  · exact .clear (by decide) (.last (.slot _))
  · exact .nothing
  · exact s.safe_returningNote target

/-! ### Selects -/

theorem safe_lockClause : Safe p true true (s.lockClause target) := by
  unfold lockClause
  split
  · exact .nothing
  · split
    · dsimp only
      split
      · exact .leads (.text _) (.last (.text _))
      · exact .event _
    · exact .event _

theorem safe_selectLimitAhead : Safe p before before (s.selectLimitAhead target) := by
  unfold selectLimitAhead
  split
  · exact .top _
  · exact .nothing

theorem safe_selectUpToOrder (keeps : c.Keeps p) :
    Safe p before true (s.selectUpToOrder target c) := by
  have columns : Safe p false true
      (if c.columns.isEmpty then .text "*" else .commaSeparated c.columns) := by
    split
    · exact .text _
    · exact .commaSeparated keeps.columns
  have source : Safe p true true (.concat [.text " from ", c.source]) :=
    .clear (by decide) (.last keeps.source)
  refine .clear (by decide) ?_
  refine .settles (.guarded (.clean_of_true (by decide))) ?_
  refine .settles (s.safe_selectLimitAhead target) ?_
  refine .leads columns ?_
  refine .leads (.guarded source) ?_
  refine .leads keeps.joins ?_
  refine .leads (.guarded (s.safe_lockClause target)) ?_
  exact .leads keeps.wheres (.leads keeps.groups (.leads keeps.havings (.last keeps.orders)))

theorem safe_limitAndOffset : Safe p true true (s.limitAndOffset target) := by
  unfold limitAndOffset
  split
  · exact .settles (.count _ (by decide)) (.last ((Safe.count? _ (by decide)).weaken nofun id))
  · rename_i loneOffset _ _ _ _
    refine .leads ?_ (.last (.count _ (by decide)))
    rcases loneOffset with _ | text | n
    · exact .nothing
    · exact .leads (.text _) (.last (.text _))
    · exact .clear (by decide) (.last (.slot _))
  · refine .settles (.count _ (by decide)) (.clear (by decide) (.last ?_))
    split
    · exact .settles (.count _ (by decide)) (.last (.text _))
    · exact .anywhere .nothing
  · exact .nothing

theorem safe_rowNumberWrap (unboundedLimit : UInt64) {pieces : List Piece} {middle : Bool}
    (inner : Piece.Safe p.guarded false middle pieces) :
    Safe p before true (s.rowNumberWrap unboundedLimit (Sql.ofPieces pieces)) := by
  unfold rowNumberWrap
  dsimp only
  split
  · exact .clear (by decide) (.leads (.whole inner) (.last (.count _ (by decide))))
  · exact .clear (by decide) (.leads (.whole inner) (.settles (.count _ (by decide))
      (.last (.count _ (by decide)))))

theorem safe_selectBody (keeps : c.Keeps p) : Safe p false true (s.selectBody target c) := by
  unfold selectBody
  split
  · have inner : Safe p false true (.concat [s.selectUpToOrder target c, c.unions]) :=
      .leads (s.safe_selectUpToOrder target keeps) (.last keeps.unions)
    refine inner.bind fun pieces written => ?_
    exact Render.Ensures.bind (P := fun _ => True) trivial fun _ _ =>
      s.safe_rowNumberWrap _ written
  · exact .leads (s.safe_selectUpToOrder target keeps) (.leads (s.safe_limitAndOffset target)
      (.last keeps.unions))

theorem safe_renderSelect (keeps : c.Keeps p) : Safe p false true (s.renderSelect target c) :=
  .leads (s.safe_selectBody target keeps) (.last (.guarded (s.safe_lockClause target)))

/-! ### Inserts -/

theorem safe_cell {row : Keyed Rendered} (keeps : ∀ pair ∈ row, pair.2.Keeps p)
    (column : String) : Safe p false true (cell target row column) := by
  refine Rendered.safe_inCell _ _ fun rendered found => ?_
  obtain ⟨key, member⟩ := Keyed.exists_mem_of_get? found
  exact keeps _ member

theorem safe_rowTuple (columns : List String) {row : Keyed Rendered}
    (keeps : ∀ pair ∈ row, pair.2.Keeps p) :
    Safe p before true (rowTuple target columns row) := by
  refine .between (by decide) (.commaSeparated fun r member => ?_)
  obtain ⟨column, _, rfl⟩ := List.mem_map.mp member
  exact safe_cell target keeps column

theorem safe_insertInto (keeps : c.Keeps p) (columns : List String) :
    Safe p false true (insertInto target c columns) :=
  .clear (by decide) (.leads keeps.source (.leads (.text _) (.leads (.text _) (.last (.text _)))))

theorem safe_usingList (guarded : Prop) (returning : List String) (values : List Value) :
    Piece.Safe guarded true true (usingList returning values) := by
  have slotAfter (word : String) (value : Value) (clean : Sql.endsBehind true word.toList = false) :
      Piece.Safe guarded true true [.text word, .slot value] :=
    .cons (.clean fun _ => clean) (.slot value)
  have inputs : Piece.Safe guarded true true
      (values.zipIdx.flatMap fun item =>
        [.text (if item.2 = 0 then " using " else ", "), .slot item.1]) :=
    .flatMap fun item _ => slotAfter _ _ (by split <;> decide)
  unfold usingList
  dsimp only
  split
  · exact inputs
  · exact inputs.append (slotAfter _ _ (by split <;> decide))

theorem safe_blockRow (guarded : Prop) (head : String) (values : Sql) :
    Piece.Safe guarded false false (s.blockRow head values) := by
  have uses : Piece.Safe guarded false true (usingList s.returning values.bindings) :=
    (safe_usingList guarded _ _).weaken nofun fun last => last
  have literal (text : String) : Piece.Safe guarded false false
      [.text "execute immediate '", .text text, .text "'"] :=
    .cons (.text _) (.cons (.text _) (.clean fun _ => by decide))
  exact ((literal _).append uses).append (.clean fun _ => by decide)

section Rows

variable {head : List Piece} {rows : List (Keyed Rendered)}
  (written : Piece.Safe p.guarded false true head) (columns : List String)
  (keeps : ∀ row ∈ rows, ∀ pair ∈ row, pair.2.Keeps p)

include keeps

theorem safe_rowsAsBlock (sql : Sql) :
    Safe p false true (s.rowsAsBlock target columns rows sql) := by
  refine .clear (by decide) (.settles (.concatAll fun r member => ?_) (.last (.text _)))
  obtain ⟨row, inRows, rfl⟩ := List.mem_map.mp member
  have tuple : Safe p false true (rowTuple target columns row) :=
    safe_rowTuple target columns (keeps row inRows)
  exact tuple.bind fun pieces _ => .pure (s.safe_blockRow _ _ _)

include written

theorem safe_rowsAsValues :
    Safe p false true (s.rowsAsValues target columns rows (Sql.ofPieces head)) := by
  refine .leads (.whole written) (.leads (s.safe_returningAhead target _) (.clear (by decide) ?_))
  refine .leads (.commaSeparated fun r member => ?_) (.last (s.safe_returningAtEnd target))
  obtain ⟨row, inRows, rfl⟩ := List.mem_map.mp member
  exact safe_rowTuple target columns (keeps row inRows)

theorem safe_rowsAsUnion :
    Safe p false true (s.rowsAsUnion target columns rows (Sql.ofPieces head)) := by
  refine .leads (.whole written) (.clear (by decide) (.leads ?_
    (.last (s.safe_returningNote target))))
  refine .separated (by decide) fun r member => ?_
  obtain ⟨row, inRows, rfl⟩ := List.mem_map.mp member
  refine .commaSeparated fun r member => ?_
  obtain ⟨column, _, rfl⟩ := List.mem_map.mp member
  exact .leads (safe_cell target (keeps row inRows) column) (.leads (.text _) (.last (.text _)))

end Rows

theorem safe_renderRows (kept : c.Keeps p) (columns : List String) {rows : List (Keyed Rendered)}
    (keeps : ∀ row ∈ rows, ∀ pair ∈ row, pair.2.Keeps p) :
    Safe p false true (s.renderRows target c columns rows) := by
  refine (safe_insertInto target kept columns).bind fun head written => ?_
  split
  · exact s.safe_rowsAsValues target written columns keeps
  · split
    · exact s.safe_rowsAsValues target written columns keeps
    · exact s.safe_rowsAsUnion target written columns keeps
    · exact s.safe_rowsAsBlock target columns keeps _

theorem safe_renderEmptyRows (kept : c.Keeps p) (count : Nat) :
    Safe p false true (s.renderEmptyRows target c count) := by
  unfold renderEmptyRows
  dsimp only
  split
  · exact .refuse rfl
  · refine .clear (by decide) (.leads kept.source (.last ?_))
    split
    · exact .leads (s.safe_returningAhead target _) (.leads (.text _)
        (.last (s.safe_returningAtEnd target)))
    · exact .leads (.text _) (.last (.text _))
    · split
      · exact .leads (.text _) (.leads (.text _) (.leads (.text _)
          (.last (s.safe_returningAtEnd target))))
      · exact .refuse rfl

theorem safe_renderInsert (kept : c.Keeps p) : Safe p false true (s.renderInsert target c) := by
  unfold renderInsert
  split
  · exact .anywhere .nothing
  · rename_i query found
    have keeps : query.Keeps p := kept.insert (.query query) found
    exact .clear (by decide) (.leads kept.source (.clear (by decide)
      (.last (Rendered.safe_bare keeps))))
  · rename_i rows found
    have keeps : ∀ row ∈ rows, ∀ pair ∈ row, pair.2.Keeps p :=
      kept.insert (.rows rows) found
    split
    · exact .anywhere .nothing
    · dsimp only
      split
      · exact s.safe_renderEmptyRows target kept _
      · exact s.safe_renderRows target kept _ keeps

/-! ### Updates, deletes and truncates -/

theorem safe_mutationLimitAhead : Safe p before before (s.mutationLimitAhead target) := by
  unfold mutationLimitAhead
  split
  · exact .top _
  · exact .nothing

theorem safe_mutationOrderAndLimit (keeps : c.Keeps p) :
    Safe p true true (s.mutationOrderAndLimit target c) := by
  unfold mutationOrderAndLimit
  split
  · exact .leads keeps.orders (.last (.count? _ (by decide)))
  · exact keeps.orders
  · exact .guarded (.event _)

theorem safe_mutationEnd : Safe p true true (s.mutationEnd target) :=
  .guarded (.text _)

theorem safe_keptJoins (keeps : c.Keeps p) (kept : Bool) (verb : String) :
    Safe p true true (s.keptJoins target c kept verb) := by
  unfold keptJoins
  split
  · exact keeps.joins
  · exact .guarded (.event _)

theorem safe_assignment (column : String) {value : Rendered} (keeps : value.Keeps p) :
    Safe p before true (assignment target column value) :=
  .leads (.text _) (.clear (by decide) (.last (Rendered.safe_inValue keeps)))

theorem safe_renderUpdate (keeps : c.Keeps p) : Safe p false true (s.renderUpdate target c) := by
  unfold renderUpdate
  split
  · exact .refuse rfl
  · refine .clear (by decide) (.settles (s.safe_mutationLimitAhead target) ?_)
    refine .leads keeps.source (.leads (s.safe_keptJoins target keeps _ _) ?_)
    refine .clear (by decide) (.leads (.commaSeparated fun r member => ?_) ?_)
    · obtain ⟨pair, inPairs, rfl⟩ := List.mem_map.mp member
      exact safe_assignment target _ (keeps.assignments pair inPairs)
    · refine .leads (s.safe_returningAhead target _) (.leads keeps.wheres ?_)
      exact .leads (s.safe_mutationOrderAndLimit target keeps)
        (.leads (s.safe_returningAtEnd target) (.last (s.safe_mutationEnd target)))

theorem safe_deleteReference : Safe p before before (s.deleteReference target) := by
  unfold deleteReference
  split
  · exact .leads (.text _) (.last (.clean_of_true (by decide)))
  · exact .nothing

theorem safe_renderDelete (keeps : c.Keeps p) : Safe p false true (s.renderDelete target c) := by
  refine .clear (by decide) (.settles (s.safe_mutationLimitAhead target) ?_)
  refine .settles (.guarded (s.safe_deleteReference target)) (.clear (by decide) ?_)
  refine .leads keeps.source (.leads (s.safe_keptJoins target keeps _ _) ?_)
  refine .leads (s.safe_returningAhead target _) (.leads keeps.wheres ?_)
  refine .leads (s.safe_mutationOrderAndLimit target keeps)
    (.leads ?_ (.last (s.safe_mutationEnd target)))
  split
  · exact s.safe_returningNote target
  · exact s.safe_returningAtEnd target

theorem safe_renderTruncate (keeps : c.Keeps p) :
    Safe p false true (renderTruncate target c) := by
  refine .between ?_ keeps.source
  unfold Target.grammar
  cases target.dialect <;> decide

/-! ### Whole statements -/

theorem safe_assemble (keeps : c.Keeps p) (expected : ∀ fault ∈ s.fault, p.faults fault) :
    Safe p false true (s.assemble target c) := by
  unfold assemble
  split
  · rename_i fault found
    exact .throw (expected fault found)
  · split
    · exact s.safe_renderSelect target keeps
    · exact s.safe_renderInsert target keeps
    · exact s.safe_renderUpdate target keeps
    · exact s.safe_renderDelete target keeps
    · exact safe_renderTruncate target keeps

end Statement

end PortableSql
