import PortableSql.Proofs.AgreeingTrees

/-!
Under one target, similar statements have one text.

The pieces of two similar statements are alike: they have the same texts, and values in the same
places. Everything that assembles clauses looks at the settings of a statement, at whether parts are
there and at names, and these are the same, so the statements are written in the same way.
-/

namespace PortableSql

/-- Pieces of the same text whose values may stand for each other. -/
inductive Piece.Alike (V : Value → Value → Prop) : Piece → Piece → Prop where
  | text (s : String) : Piece.Alike V (.text s) (.text s)
  | slot {v w : Value} (related : V v w) : Piece.Alike V (.slot v) (.slot w)
  | whole {q r : Sql} (text : q.text = r.text) (bindings : Paired V q.bindings r.bindings) :
      Piece.Alike V (.whole q) (.whole r)

namespace Piece.Alike

variable {V : Value → Value → Prop} {x y : Piece} {xs ys : List Piece}

theorem refl (reflexive : ∀ v, V v v) (piece : Piece) : Piece.Alike V piece piece := by
  cases piece with
  | text s => exact .text s
  | slot v => exact .slot (reflexive v)
  | whole sql => exact .whole rfl (.refl fun v _ => reflexive v)

theorem writeText_eq (alike : Piece.Alike V x y) (text : String) :
    x.writeText text = y.writeText text := by
  cases alike with
  | text s => rfl
  | slot related => rfl
  | whole same bindings => simp [writeText, same]

theorem bindings (alike : Piece.Alike V x y) : Paired V x.bindings y.bindings := by
  cases alike with
  | text s => exact .nil
  | slot related => exact .cons related .nil
  | whole text bindings => exact bindings

/-- Alike pieces are written as the same text. -/
theorem text_ofPieces (alike : Paired (Piece.Alike V) xs ys) :
    (Sql.ofPieces xs).text = (Sql.ofPieces ys).text := by
  have fold (text : String) : xs.foldl Piece.writeText text = ys.foldl Piece.writeText text := by
    induction alike generalizing text with
    | nil => rfl
    | cons first _ ih => rw [List.foldl_cons, List.foldl_cons, first.writeText_eq text, ih]
  exact fold ""

theorem bindings_ofPieces (alike : Paired (Piece.Alike V) xs ys) :
    Paired V (Sql.ofPieces xs).bindings (Sql.ofPieces ys).bindings := by
  simp only [Sql.ofPieces]
  induction alike with
  | nil => exact .nil
  | cons first _ ih =>
    rw [List.flatMap_cons, List.flatMap_cons]
    exact first.bindings.append ih

end Piece.Alike

/-- Under one target, pieces are related when they are alike one by one. -/
def Congruence.alike (t : Target) {V : Value → Value → Prop} (reflexive : ∀ v, V v v) :
    Congruence t t V where
  related := Paired (Piece.Alike V)
  append := Paired.append
  texts := fun _ => .refl fun piece _ => .refl reflexive piece
  slot := fun related => .cons (.slot related) .nil
  refl := reflexive

variable {t : Target} {V : Value → Value → Prop} {reflexive : ∀ v, V v v}

open Rendering (Agree)

theorem Rendering.Agree.same (r : Rendering) : Agree (Congruence.alike t reflexive) r r := by
  cases found : r.outcome with
  | error fault => exact .stopped found found
  | ok pieces =>
    exact .given found found (Paired.refl fun piece _ => Piece.Alike.refl reflexive piece)

namespace Statement

variable {s s' : Statement} {a b : RenderedClauses}

section Same

variable (same : s.toSettings = s'.toSettings)

include same

/-! ### Selects -/

theorem agree_selectBody (table : s.table.isSome = s'.table.isSome)
    (clauses : a.Agreeing (.alike t reflexive) b) :
    Agree (.alike t reflexive) (s.selectBody t a) (s'.selectBody t b) := by
  have ahead : Agree (.alike t reflexive) (s.selectLimitAhead t) (s'.selectLimitAhead t) := by
    simp only [selectLimitAhead, same]
    exact .same _
  have front := agree_selectUpToOrder same table clauses ahead
  have paginated : s.isPaginated = s'.isPaginated := by
    simp only [isPaginated, same]
  have bounds : s.limitAndOffset t = s'.limitAndOffset t := by
    simp only [limitAndOffset, same]
  unfold selectBody
  rw [paginated, bounds]
  split
  · rename_i unboundedLimit _ _
    have body := Agree.cons front (.cons clauses.unions .nil)
    refine body.bind fun xs ys alike => ?_
    refine (Render.Agree.refl _).bind fun _ _ _ => ?_
    have whole : Agree (.alike t reflexive) (pure [.whole (Sql.ofPieces xs)])
        (pure [.whole (Sql.ofPieces ys)]) :=
      .pure (.cons (.whole (Piece.Alike.text_ofPieces alike) (Piece.Alike.bindings_ofPieces alike))
        .nil)
    simp only [rowNumberWrap, same]
    split
    · exact Agree.cons (.same _) (.cons whole (.cons (.same _) .nil))
    · exact Agree.cons (.same _) (.cons whole (.cons (.same _) (.cons (.same _) .nil)))
  · exact .cons front (.cons (.same _) (.cons clauses.unions .nil))

theorem agree_renderSelect_same (table : s.table.isSome = s'.table.isSome)
    (clauses : a.Agreeing (.alike t reflexive) b) :
    Agree (.alike t reflexive) (s.renderSelect t a) (s'.renderSelect t b) :=
  .cons (agree_selectBody same table clauses)
    (.cons (agree_lockClause same (!·.lockInFrom)) .nil)

/-! ### Returning columns -/

theorem returningNote_eq : s.returningNote t = s'.returningNote t := by
  simp only [returningNote, same]

theorem returningAhead_eq (table : String) :
    s.returningAhead t table = s'.returningAhead t table := by
  simp only [returningAhead, same]

theorem returningAtEnd_eq : s.returningAtEnd t = s'.returningAtEnd t := by
  simp only [returningAtEnd, returningNote, same]

/-! ### Inserts -/

omit same in
theorem agree_cell {row other : Keyed Rendered}
    (entries : PairedEntries (Rendered.Agreeing (.alike t reflexive)) row other)
    (column : String) : Agree (.alike t reflexive) (cell t row column) (cell t other column) := by
  unfold cell
  rcases entries.get? column with ⟨first, second⟩ | ⟨x, y, first, second, related⟩
  · rw [first, second]
    exact .same _
  · rw [first, second]
    cases related with
    | value related => exact .slot related
    | undefined => exact .same _
    | query agree => exact .between agree
    | raw agree => exact agree

omit same in
theorem agree_rowTuple (columns : List String) {row other : Keyed Rendered}
    (entries : PairedEntries (Rendered.Agreeing (.alike t reflexive)) row other) :
    Agree (.alike t reflexive) (rowTuple t columns row) (rowTuple t columns other) :=
  .between (.separated (.map_same fun column _ => agree_cell entries column))

omit same in
theorem alike_usingList (reflexive : ∀ v, V v v) (returning : List String)
    {values others : List Value} (paired : Paired V values others) :
    Paired (Piece.Alike V) (usingList returning values) (usingList returning others) := by
  have inputs : Paired (Piece.Alike V)
      (values.zipIdx.flatMap fun item =>
        [.text (if item.2 = 0 then " using " else ", "), .slot item.1])
      (others.zipIdx.flatMap fun item =>
        [.text (if item.2 = 0 then " using " else ", "), .slot item.1]) := by
    refine (paired.zipIdx 0).flatMap fun x y related => ?_
    obtain ⟨value, index⟩ := x
    obtain ⟨other, _⟩ := y
    obtain ⟨related, rfl⟩ := related
    exact .cons (.text _) (.cons (.slot related) .nil)
  simp only [usingList, paired.isEmpty_eq]
  split
  · exact inputs
  · exact inputs.append (.cons (.text _) (.cons (.refl reflexive _) .nil))

section Rows

variable {xs ys : List (Keyed Rendered)} {q r : Sql} (head : q.text = r.text)
  (bindings : Paired V q.bindings r.bindings)
  (rows : Paired (PairedEntries (Rendered.Agreeing (.alike t reflexive))) xs ys)
  (columns : List String)

include head bindings rows

theorem agree_rowsAsValues :
    Agree (.alike t reflexive) (s.rowsAsValues t columns xs q)
      (s'.rowsAsValues t columns ys r) := by
  have whole : Agree (.alike t reflexive) (pure [.whole q]) (pure [.whole r]) :=
    .pure (.cons (.whole head bindings) .nil)
  unfold rowsAsValues
  rw [returningAhead_eq same, returningAtEnd_eq same]
  refine .cons whole (.cons (.same _) (.cons (.same _) (.cons ?_ (.cons (.same _) .nil))))
  exact .separated (rows.map fun _ _ entries => agree_rowTuple columns entries)

theorem agree_rowsAsUnion :
    Agree (.alike t reflexive) (s.rowsAsUnion t columns xs q) (s'.rowsAsUnion t columns ys r) := by
  have whole : Agree (.alike t reflexive) (pure [.whole q]) (pure [.whole r]) :=
    .pure (.cons (.whole head bindings) .nil)
  unfold rowsAsUnion
  rw [returningNote_eq same]
  refine .cons whole (.cons (.same _) (.cons ?_ (.cons (.same _) .nil)))
  refine .separated (rows.map fun _ _ entries => .separated (.map_same fun column _ => ?_))
  exact .cons (agree_cell entries column) (.cons (.same _) (.cons (.same _) .nil))

omit bindings in
theorem agree_rowsAsBlock :
    Agree (.alike t reflexive) (s.rowsAsBlock t columns xs q) (s'.rowsAsBlock t columns ys r) := by
  refine .cons (.same _) (.cons (.concat (rows.map fun row other entries => ?_))
    (.cons (.same _) .nil))
  refine (agree_rowTuple columns entries).bind fun pieces others alike => .pure ?_
  have text := Piece.Alike.text_ofPieces alike
  have values := Piece.Alike.bindings_ofPieces alike
  simp only [blockRow, text, head, same]
  refine (Paired.append ?_ (alike_usingList reflexive _ values)).append
    (.cons (.text _) .nil)
  exact .cons (.text _) (.cons (.text _) (.cons (.text _) .nil))

end Rows

theorem agree_renderRows {xs ys : List (Keyed Rendered)}
    (clauses : a.Agreeing (.alike t reflexive) b)
    (rows : Paired (PairedEntries (Rendered.Agreeing (.alike t reflexive))) xs ys)
    (columns : List String) :
    Agree (.alike t reflexive) (s.renderRows t a columns xs) (s'.renderRows t b columns ys) := by
  have into : Agree (.alike t reflexive) (insertInto t a columns) (insertInto t b columns) :=
    .cons (.same _) (.cons clauses.source (.same _))
  refine into.bind fun pieces others alike => ?_
  have head := Piece.Alike.text_ofPieces alike
  have bindings := Piece.Alike.bindings_ofPieces alike
  rw [rows.length_eq]
  split
  · exact agree_rowsAsValues same head bindings rows columns
  · split
    · exact agree_rowsAsValues same head bindings rows columns
    · exact agree_rowsAsUnion same head bindings rows columns
    · exact agree_rowsAsBlock same head rows columns

theorem agree_renderEmptyRows (clauses : a.Agreeing (.alike t reflexive) b) (count : Nat) :
    Agree (.alike t reflexive) (s.renderEmptyRows t a count) (s'.renderEmptyRows t b count) := by
  have returning : s.returning = s'.returning := congrArg Settings.returning same
  unfold renderEmptyRows
  dsimp only
  rw [returningAhead_eq same, returningAtEnd_eq same, returning]
  split
  · exact .same _
  · exact .cons (.same _) (.cons clauses.source (.same _))

theorem agree_renderInsert (clauses : a.Agreeing (.alike t reflexive) b) :
    Agree (.alike t reflexive) (s.renderInsert t a) (s'.renderInsert t b) := by
  have insert := clauses.insert
  unfold renderInsert
  cases first : a.insert <;> cases second : b.insert <;> rw [first, second] at insert <;>
    cases insert
  · exact .same _
  · rename_i payload _
    cases payload with
    | query source =>
      exact .cons (.same _) (.cons clauses.source (.cons (.same _) (.cons source.bare .nil)))
    | @rows xs ys table =>
      have columns : rowColumns xs = rowColumns ys := by
        have keys : xs.flatMap Keyed.keys = ys.flatMap Keyed.keys := by
          rw [List.flatMap_def, List.flatMap_def]
          rw [table.map_eq fun _ _ entries => entries.keys_eq]
        rw [rowColumns, keys, rowColumns]
      dsimp only
      rw [table.isEmpty_eq, columns, table.length_eq]
      split
      · exact .same _
      · split
        · exact agree_renderEmptyRows same clauses _
        · exact agree_renderRows same clauses table _

/-! ### Updates, deletes and truncates -/

theorem mutationLimitAhead_eq : s.mutationLimitAhead t = s'.mutationLimitAhead t := by
  simp only [mutationLimitAhead, same]

theorem mutationEnd_eq : s.mutationEnd t = s'.mutationEnd t := by
  simp only [mutationEnd, same]

theorem agree_mutationOrderAndLimit (orders : s.orders.isEmpty = s'.orders.isEmpty)
    (clauses : a.Agreeing (.alike t reflexive) b) :
    Agree (.alike t reflexive) (s.mutationOrderAndLimit t a) (s'.mutationOrderAndLimit t b) := by
  unfold mutationOrderAndLimit
  rw [orders, congrArg Settings.limit same]
  split
  · exact .cons clauses.orders (.cons (.same _) .nil)
  · exact clauses.orders
  · exact .same _

omit same in
theorem agree_keptJoins (joins : s.joins.isEmpty = s'.joins.isEmpty)
    (clauses : a.Agreeing (.alike t reflexive) b) (kept : Bool) (verb : String) :
    Agree (.alike t reflexive) (s.keptJoins t a kept verb) (s'.keptJoins t b kept verb) := by
  unfold keptJoins
  rw [joins]
  split
  · exact clauses.joins
  · exact .same _

omit same in
theorem agree_assignments {xs ys : Keyed Rendered}
    (entries : PairedEntries (Rendered.Agreeing (.alike t reflexive)) xs ys) :
    Paired (Agree (.alike t reflexive))
      (xs.map fun (column, value) => assignment t column value)
      (ys.map fun (column, value) => assignment t column value) := by
  induction entries with
  | nil => exact .nil
  | cons first _ ih =>
    exact .cons (.cons (.same _) (.cons (.same _) (.cons first.inValue .nil))) ih

theorem agree_renderUpdate (joins : s.joins.isEmpty = s'.joins.isEmpty)
    (orders : s.orders.isEmpty = s'.orders.isEmpty)
    (clauses : a.Agreeing (.alike t reflexive) b) :
    Agree (.alike t reflexive) (s.renderUpdate t a) (s'.renderUpdate t b) := by
  unfold renderUpdate
  rw [clauses.assignments.isEmpty_eq, mutationLimitAhead_eq same, returningAhead_eq same,
    returningAtEnd_eq same, mutationEnd_eq same]
  split
  · exact .same _
  · refine .cons (.same _) (.cons (.same _) (.cons clauses.source ?_))
    refine .cons (agree_keptJoins joins clauses _ _) (.cons (.same _) ?_)
    refine .cons (.separated (agree_assignments clauses.assignments)) (.cons (.same _) ?_)
    exact .cons clauses.wheres (.cons (agree_mutationOrderAndLimit same orders clauses) (.same _))

theorem deleteReference_eq {N : Settings → Settings → Prop}
    (table : Paired (Column.Similar V (Attached.Congruent V N)) s.table.toList s'.table.toList) :
    s.deleteReference t = s'.deleteReference t := by
  unfold deleteReference
  rw [congrArg Settings.schema same]
  cases first : s.table <;> cases second : s'.table <;> rw [first, second] at table <;> cases table
  rename_i similar _
  cases similar <;> rfl

theorem agree_renderDelete {N : Settings → Settings → Prop}
    (table : Paired (Column.Similar V (Attached.Congruent V N)) s.table.toList s'.table.toList)
    (joins : s.joins.isEmpty = s'.joins.isEmpty) (orders : s.orders.isEmpty = s'.orders.isEmpty)
    (clauses : a.Agreeing (.alike t reflexive) b) :
    Agree (.alike t reflexive) (s.renderDelete t a) (s'.renderDelete t b) := by
  unfold renderDelete
  dsimp only
  rw [mutationLimitAhead_eq same, deleteReference_eq same table, returningAhead_eq same,
    returningAtEnd_eq same, returningNote_eq same, mutationEnd_eq same, joins]
  refine .cons (.same _) (.cons (.same _) (.cons (.same _) (.cons (.same _) ?_)))
  refine .cons clauses.source (.cons (agree_keptJoins joins clauses _ _) (.cons (.same _) ?_))
  exact .cons clauses.wheres (.cons (agree_mutationOrderAndLimit same orders clauses) (.same _))

end Same

/-- Similar statements with the same settings are assembled to alike pieces. -/
theorem assembles_alike (t : Target) (reflexive : ∀ v, V v v) :
    (Congruence.alike t reflexive).Assembles (· = ·) where
  schema := fun same => by rw [same]
  aliasName := fun same => by rw [same]
  assemble := by
    intro s s' a b similar clauses
    cases similar with
    | intro same table _ joins _ _ _ orders _ _ _ =>
      unfold assemble
      rw [← same]
      cases s.fault with
      | some fault => exact .throw fault
      | none =>
        cases s.kind with
        | select => exact agree_renderSelect_same same table.isSome_eq clauses
        | insert => exact agree_renderInsert same clauses
        | update => exact agree_renderUpdate same joins.isEmpty_eq orders.isEmpty_eq clauses
        | delete => exact agree_renderDelete same table joins.isEmpty_eq orders.isEmpty_eq clauses
        | truncate => exact .between clauses.source

end Statement

end PortableSql
