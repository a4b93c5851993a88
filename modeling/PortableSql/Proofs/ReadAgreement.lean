import PortableSql.Proofs.AgreeingTrees
import PortableSql.Proofs.SettledTrees

/-!
Dialects agree on what a read binds.

Two targets write a select without limit and offset in different words, but they put the same values
in the same order, and the same fault stops both. Texts count for nothing here, so pieces are
related when their values are the same, and a row lock may stand in the middle or at the end.
-/

namespace PortableSql

/-- A select without limit and offset. -/
def Settings.IsRead (s : Settings) : Prop :=
  s.kind = .select ∧ s.limit = none ∧ s.offset = none

namespace Congruence

/-- Pieces are related when they bind the same values, whatever their texts. -/
def bindings (t u : Target) : Congruence t u Eq where
  related := fun xs ys => xs.flatMap Piece.bindings = ys.flatMap Piece.bindings
  append := fun front back => by simp [front, back]
  texts := fun f => by
    have empty (texts : List String) : (texts.map Piece.text).flatMap Piece.bindings = [] := by
      induction texts with
      | nil => rfl
      | cons text rest ih => simp [Piece.bindings]
    rw [empty, empty]
  slot := fun same => by rw [same]
  refl := fun _ => rfl

/-- The settings of reads that are the same. -/
def SameRead (a b : Settings) : Prop :=
  a = b ∧ a.IsRead

end Congruence

open Congruence (SameRead)
open Rendering (Agree)

namespace Statement

variable {t u : Target} {s s' : Statement} {a b : RenderedClauses}

theorem selectLimitAhead_of_read (target : Target) (read : s.IsRead) :
    s.selectLimitAhead target = .nothing := by
  unfold selectLimitAhead
  split
  · rename_i found _
    rw [read.2.1] at found
    cases found
  · rfl

theorem limitAndOffset_of_read (target : Target) (read : s.IsRead) :
    s.limitAndOffset target = .nothing := by
  unfold limitAndOffset
  rw [read.2.1, read.2.2]
  cases target.grammar.pagination <;> rfl

/-- A read is not wrapped, so its clauses and its unions are all there is. -/
theorem selectBody_of_read (target : Target) (read : s.IsRead) :
    s.selectBody target a = .concat [s.selectUpToOrder target a, .nothing, a.unions] := by
  have plain : s.isPaginated = false := by
    simp [isPaginated, read.2.1, read.2.2]
  unfold selectBody
  rw [limitAndOffset_of_read target read, plain]
  split
  · rename_i wrapped
    cases wrapped
  · rfl

theorem agree_renderSelect (similar : Statement.Similar Eq SameRead s s')
    (clauses : a.Agreeing (Congruence.bindings t u) b) :
    Agree (Congruence.bindings t u) (s.renderSelect t a) (s'.renderSelect u b) := by
  obtain ⟨same, read⟩ := similar.settings
  have other : s'.IsRead := same ▸ read
  have table : s.table.isSome = s'.table.isSome := by
    cases similar with
    | intro _ table => exact table.isSome_eq
  have ahead : Agree (Congruence.bindings t u) (s.selectLimitAhead t) (s'.selectLimitAhead u) := by
    rw [selectLimitAhead_of_read t read, selectLimitAhead_of_read u other]
    exact .nothing
  have body : Agree (Congruence.bindings t u) (s.selectBody t a) (s'.selectBody u b) := by
    rw [selectBody_of_read t read, selectBody_of_read u other]
    exact .cons (agree_selectUpToOrder same table clauses ahead)
      (.cons .nothing (.cons clauses.unions .nil))
  exact .cons body (.cons (agree_lockClause same (!·.lockInFrom)) .nil)

/-- Reads are assembled to the same values under every two targets. -/
theorem assembles_reads (t u : Target) : (Congruence.bindings t u).Assembles SameRead where
  schema := fun same => by rw [same.1]
  aliasName := fun same => by rw [same.1]
  assemble := by
    intro s s' a b similar clauses
    obtain ⟨same, kind, _⟩ := similar.settings
    unfold assemble
    rw [← same, kind]
    cases s.fault with
    | some fault => exact .throw fault
    | none => exact agree_renderSelect similar clauses

/-- Under every two targets, a statement made of selects without limit and offset is stopped by the
same fault or binds the same values in the same order. No callback may be left in the tree, as none
is in what calls build (`Call.settled_runAll`): run for two targets it could build two
statements. -/
theorem compile_bindings_of_reads (t u : Target) {s : Statement}
    (resolved : s.All Statement.Resolved) (reads : s.All fun nested => nested.IsRead) :
    (∃ fault, (s.compile t).outcome = .error fault ∧ (s.compile u).outcome = .error fault) ∨
      ∃ q r, (s.compile t).outcome = .ok q ∧ (s.compile u).outcome = .ok r ∧
        q.bindings = r.bindings := by
  have similar : Statement.Similar Eq SameRead s s :=
    .refl (fun _ => rfl) ((resolved.and reads).mono fun _ here => ⟨here.1, rfl, here.2⟩)
  cases similar.agree (assembles_reads t u) with
  | @stopped fault first second =>
    exact .inl ⟨fault, compile_of_error first, compile_of_error second⟩
  | given first second related =>
    exact .inr ⟨_, _, compile_of_ok first, compile_of_ok second, related⟩

/-- A locked select with a callback in it, for a dialect that puts locks in the middle and for one
that puts them at the end. -/
theorem compile_bindings_of_reads_locked :
    let s := (Call.runAll [.source (.name "t"), .lock .forUpdate, .transacting,
      .filter .wheres {} (.isIn (.name "id") (.query (.callback [.source (.name "u"),
        .filter .wheres {} (.between (.name "n") (.value (.int 1)) (.value (.int 5)))])))]
      (.start {})).value.statement
    s.All Statement.Resolved ∧ (s.All fun nested => nested.IsRead) ∧
      ∃ q r, (s.compile { dialect := .mssql }).outcome = .ok q ∧
        (s.compile { dialect := .postgres }).outcome = .ok r ∧ q.text ≠ r.text ∧
        q.bindings = r.bindings := by
  intro s
  have resolved : s.All Statement.Resolved :=
    (Call.settled_runAll _ (Builder.invariant_settled.start {})).mono fun _ => (·.resolved)
  have inner : (Call.runAll [.source (.name "u"),
      .filter .wheres {} (.between (.name "n") (.value (.int 1)) (.value (.int 5)))]
      (.start {})).value.statement.All fun nested => nested.IsRead := by
    refine .intro ⟨rfl, rfl, rfl⟩ fun t member => ?_
    change Operand.query t ∈ [.value (.int 1), .value (.int 5)] at member
    simp at member
  have reads : s.All fun nested => nested.IsRead := by
    refine .intro ⟨rfl, rfl, rfl⟩ fun t member => ?_
    change Operand.query t ∈ [.query _] at member
    obtain ⟨rfl⟩ : t = _ := by simpa using member
    exact fun _ => inner
  refine ⟨resolved, reads, ?_⟩
  rcases compile_bindings_of_reads { dialect := .mssql } { dialect := .postgres } resolved reads
    with ⟨fault, first, -⟩ | ⟨q, r, first, second, same⟩
  · cases first
  · refine ⟨q, r, first, second, ?_, same⟩
    obtain ⟨rfl⟩ : q = _ := Except.ok.inj first.symm
    obtain ⟨rfl⟩ : r = _ := Except.ok.inj second.symm
    decide

end Statement

end PortableSql
