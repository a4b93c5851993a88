import PortableSql.Proofs.RowWindow

/-!
Row locks.

A select inside a transaction is written with the clause that the grammar has for its lock; without
such a clause it is the same select without a lock. The clause stands at the end, except that a
grammar may put it into the select: there it stands behind the joins, so it is directly behind the
table only if there are none (`Statement.compile_locked`).
-/

namespace PortableSql

/-! ### Renderings that begin anew -/

namespace Rendering

/-- What a rendering gives is written the same behind a backslash as anywhere else. -/
def Fresh (r : Rendering) : Prop :=
  ∀ pieces, r.outcome = .ok pieces → Piece.Fresh pieces

theorem fresh_nothing : nothing.Fresh := by
  intro pieces given
  cases given
  exact .nil

theorem fresh_concat {rs : List Rendering} (each : ∀ r ∈ rs, r.Fresh) : (concat rs).Fresh := by
  induction rs with
  | nil => exact fresh_nothing
  | cons r rs ih =>
    intro pieces given
    obtain ⟨front, back, first, later, rfl⟩ := exists_outcome_of_concat given
    obtain ⟨own, others⟩ := List.forall_mem_cons.mp each
    exact (own front first).append (ih others back later)

section Lead

variable {lead : String} (plain : lead.toList.head?.any (fun c => c ≠ '?' ∧ c ≠ '\\') = true)

include plain

theorem fresh_concat_text (rs : List Rendering) : (concat (text lead :: rs)).Fresh := by
  intro pieces given
  obtain ⟨front, back, first, -, rfl⟩ := exists_outcome_of_concat given
  cases first
  exact .text plain

theorem fresh_clause (items : List Rendering) : (clause lead items).Fresh := by
  unfold clause
  split
  · exact fresh_nothing
  · exact fresh_concat_text plain _

theorem fresh_conditionClause (conditions : List (Connector × Rendering)) :
    (conditionClause lead conditions).Fresh := by
  unfold conditionClause guarded
  split
  · exact fresh_concat_text plain _
  · exact fresh_nothing

end Lead

end Rendering

namespace Statement

/-! ### The clause of a lock -/

/-- A statement without a lock. -/
def withoutLock (s : Statement) : Statement :=
  { s with lock := none }

variable (target : Target) (s : Statement)

theorem lockPieces_withoutLock : s.withoutLock.lockPieces target = [] := by
  have free : s.withoutLock.lockText? target = none := by
    unfold lockText?
    split <;> rfl
  rw [lockPieces, free]

theorem mark_notMem_lock (dialect : Dialect) {clause : String}
    (own : dialect.grammar.lockUpdate = some clause ∨ dialect.grammar.lockShare = some clause) :
    '?' ∉ clause.toList := by
  cases dialect <;> rcases own with own | own <;> cases own <;> decide

/-- No grammar with a lock inside of a select wraps selects. -/
theorem not_wraps_of_lockInFrom (dialect : Dialect) (inside : dialect.grammar.lockInFrom = true) :
    ¬dialect.grammar.pagination.Wraps := by
  cases dialect with
  | mssql => decide
  | _ => cases inside

variable {target} in
theorem ofPieces_lockPieces {clause : String} (locks : s.lockText? target = some clause) :
    Sql.ofPieces (s.lockPieces target) = ⟨" " ++ clause, []⟩ := by
  have plain : '?' ∉ clause.toList := by
    refine mark_notMem_lock target.dialect ?_
    unfold lockText? at locks
    split at locks
    · split at locks
      · exact .inl locks
      · exact .inr locks
      · cases locks
    · cases locks
  unfold lockPieces
  rw [locks]
  apply Sql.ext
  · simp [Sql.ofPieces, Piece.writeText, Sql.appendEscaped, plain]
  · rfl

/-! ### Where the lock stands -/

/-- A select up to its table. -/
def upToSource : List Rendering :=
  let c := s.clauses target
  [.text "select ",
    .guarded s.distinct (.text "distinct "),
    s.selectLimitAhead target,
    if c.columns.isEmpty then .text "*" else .commaSeparated c.columns,
    .guarded s.table.isSome (.concat [.text " from ", c.source])]

/-- A select behind its joins. -/
def behindJoins : List Rendering :=
  let c := s.clauses target
  [c.wheres, c.groups, c.havings, c.orders, s.limitAndOffset target, c.unions]

/-- Joins begin with a space, if there are any. -/
theorem fresh_of_joins {joins : List (Join Attached)} {schema : Option String}
    {pieces : List Piece}
    (given : (Rendering.concat (Join.renderList target schema joins)).outcome = .ok pieces) :
    Piece.Fresh pieces ∧ ((Sql.ofPieces pieces).text = "" ↔ joins = []) := by
  cases joins with
  | nil =>
    cases given
    exact ⟨.nil, iff_of_true rfl rfl⟩
  | cons join others =>
    rw [Join.renderList, Rendering.outcome_concat_concat] at given
    refine ⟨Rendering.fresh_concat_text (by decide) _ pieces given,
      iff_of_false (fun empty => ?_) (List.cons_ne_nil join others)⟩
    obtain ⟨front, back, first, -, rfl⟩ := Rendering.exists_outcome_of_concat given
    cases first
    have chars := congrArg String.toList empty
    rw [Sql.toList_text_ofPieces] at chars
    cases chars

theorem fresh_behindJoins (flat : ¬target.grammar.pagination.Wraps) :
    (Rendering.concat (s.behindJoins target)).Fresh := by
  have bounds : (s.limitAndOffset target).Fresh := by
    intro pieces given
    obtain ⟨behind, own, fresh, -⟩ := s.outcome_limitAndOffset target flat
    cases given.symm.trans own
    exact fresh
  refine Rendering.fresh_concat ?_
  unfold behindJoins
  simp only [List.forall_mem_cons]
  exact ⟨Rendering.fresh_conditionClause (by decide) _, Rendering.fresh_clause (by decide) _,
    Rendering.fresh_conditionClause (by decide) _, Rendering.fresh_clause (by decide) _, bounds,
    fun _ => fresh_of_unions target, nofun⟩

section Select

variable {target s} (select : s.kind = .select)

include select

/-- A lock that is not at the end is between the joins and the conditions. -/
theorem outcome_compile_of_lockInFrom (inside : target.grammar.lockInFrom = true)
    (accepted : s.fault = none) :
    (s.compile target).outcome =
      (Rendering.concat (s.upToSource target)).outcome.bind fun source =>
        (Rendering.concat (Join.renderList target s.schema s.joins)).outcome.bind fun joins =>
          (Rendering.concat (s.behindJoins target)).outcome.map fun rest =>
            Sql.ofPieces (source ++ (joins ++ (s.lockPieces target ++ rest))) := by
  have flat := not_wraps_of_lockInFrom target.dialect inside
  have parts : (Rendering.concat [s.selectUpToOrder target (s.clauses target),
      s.limitAndOffset target, (s.clauses target).unions]).outcome =
      (Rendering.concat (s.upToSource target ++ .concat (Join.renderList target s.schema s.joins) ::
        s.lockClause target :: s.behindJoins target)).outcome := by
    rw [selectUpToOrder, inside, Rendering.outcome_concat_concat]
    rfl
  rw [compile_eq_body target select accepted, inside,
    Rendering.outcome_concat_pair_of_nil _ rfl, selectBody_eq target s _ fun wraps => flat wraps.1,
    parts, Rendering.outcome_concat_append, Rendering.outcome_concat_cons,
    Rendering.outcome_concat_of_ok (outcome_lockClause target s)]
  cases (Rendering.concat (s.upToSource target)).outcome with
  | error fault => rfl
  | ok source =>
    cases (Rendering.concat (Join.renderList target s.schema s.joins)).outcome with
    | error fault => rfl
    | ok joins => cases (Rendering.concat (s.behindJoins target)).outcome <;> rfl

/-- Any other lock is at the end. -/
theorem outcome_compile_of_not_lockInFrom (outside : target.grammar.lockInFrom = false)
    (accepted : s.fault = none) :
    (s.compile target).outcome =
      (s.withoutLock.compile target).outcome.map
        (·.append (Sql.ofPieces (s.lockPieces target))) := by
  have same : s.selectBody target (s.clauses target) =
      s.withoutLock.selectBody target (s.withoutLock.clauses target) := by
    unfold selectBody selectUpToOrder
    rw [outside]
    rfl
  obtain ⟨lock, given, whole⟩ := compile_eq_append_lock target select accepted
  rw [lockBehind, outside] at given
  obtain ⟨rfl⟩ := Except.ok.inj ((outcome_lockClause target s).symm.trans given)
  rw [whole, compile_select target (s := s.withoutLock) select rfl accepted, ← same]
  cases (s.selectBody target (s.clauses target)).outcome <;> rfl

/-- A select without a clause for its lock is the same select without a lock. -/
theorem compile_eq_withoutLock (free : s.lockText? target = none) :
    (s.compile target).outcome = (s.withoutLock.compile target).outcome := by
  have none : s.lockPieces target = [] := by rw [lockPieces, free]
  have bare := lockPieces_withoutLock target s
  cases recorded : s.fault with
  | some fault =>
    rw [compile_of_fault recorded, compile_of_fault (s := s.withoutLock) recorded]
  | none =>
    cases place : target.grammar.lockInFrom with
    | true =>
      rw [outcome_compile_of_lockInFrom select place recorded, none,
        outcome_compile_of_lockInFrom (s := s.withoutLock) select place recorded, bare]
      rfl
    | false =>
      rw [outcome_compile_of_not_lockInFrom select place recorded, none]
      cases (s.withoutLock.compile target).outcome with
      | error fault => rfl
      | ok sql => exact congrArg Except.ok sql.append_empty

/-- A lock inside of a select is put between its joins and what is behind these. -/
theorem compile_of_lockInFrom (inside : target.grammar.lockInFrom = true) {clause : String}
    {sql : Sql} (locks : s.lockText? target = some clause)
    (compiled : (s.compile target).outcome = .ok sql) :
    ∃ source joins rest,
      (Rendering.concat (s.upToSource target)).outcome = .ok source ∧
      (Rendering.concat (Join.renderList target s.schema s.joins)).outcome = .ok joins ∧
      (Rendering.concat (s.behindJoins target)).outcome = .ok rest ∧
      (s.withoutLock.compile target).outcome = .ok
        ((Sql.ofPieces source).append ((Sql.ofPieces joins).append (Sql.ofPieces rest))) ∧
      sql = (Sql.ofPieces source).append ((Sql.ofPieces joins).append
        (.append ⟨" " ++ clause, []⟩ (Sql.ofPieces rest))) := by
  have accepted := fault_eq_none_of_compile compiled
  have whole := outcome_compile_of_lockInFrom select inside accepted
  have alone := outcome_compile_of_lockInFrom (s := s.withoutLock) select inside accepted
  rw [compiled] at whole
  obtain ⟨source, first, whole⟩ := bind_ok.mp whole.symm
  obtain ⟨joins, second, whole⟩ := bind_ok.mp whole
  obtain ⟨rest, third, rfl⟩ := map_ok.mp whole
  have base := alone.trans (bind_ok.mpr ⟨source, first, bind_ok.mpr ⟨joins, second,
    map_ok.mpr ⟨rest, third, rfl⟩⟩⟩)
  have joined := (fresh_of_joins target second).1
  have lock := fresh_lockPieces target s
  have flat := not_wraps_of_lockInFrom target.dialect inside
  have ended := fresh_behindJoins target s flat rest third
  refine ⟨source, joins, rest, first, second, third, ?_, ?_⟩
  · rw [base, lockPieces_withoutLock, List.nil_append,
      Sql.ofPieces_append_of_fresh (joined.append ended), Sql.ofPieces_append_of_fresh ended]
  · rw [Sql.ofPieces_append_of_fresh (joined.append (lock.append ended)),
      Sql.ofPieces_append_of_fresh (lock.append ended), Sql.ofPieces_append_of_fresh ended,
      ofPieces_lockPieces s locks]

/-- Where no clause is there for its lock, a select is the same select without a lock. Otherwise it
is that select with the clause put in once: at the end, or between the joins and the conditions on a
grammar that puts it into the select. There the clause is directly behind the table exactly if there
are no joins. -/
theorem compile_locked :
    (s.lockText? target = none →
      (s.compile target).outcome = (s.withoutLock.compile target).outcome) ∧
    ∀ clause sql, s.lockText? target = some clause → (s.compile target).outcome = .ok sql →
      ∃ base, (s.withoutLock.compile target).outcome = .ok base ∧
        (target.grammar.lockInFrom = false → sql = base.append ⟨" " ++ clause, []⟩) ∧
        (target.grammar.lockInFrom = true → ∃ source joins rest,
          (Rendering.concat (s.upToSource target)).outcome = .ok source ∧
          (Rendering.concat (Join.renderList target s.schema s.joins)).outcome = .ok joins ∧
          (Rendering.concat (s.behindJoins target)).outcome = .ok rest ∧
          base = (Sql.ofPieces source).append ((Sql.ofPieces joins).append (Sql.ofPieces rest)) ∧
          sql = (Sql.ofPieces source).append ((Sql.ofPieces joins).append
            (.append ⟨" " ++ clause, []⟩ (Sql.ofPieces rest))) ∧
          ((Sql.ofPieces joins).text = "" ↔ s.joins = [])) := by
  refine ⟨compile_eq_withoutLock select, fun clause sql locks compiled => ?_⟩
  cases place : target.grammar.lockInFrom with
  | false =>
    have whole := outcome_compile_of_not_lockInFrom select place (fault_eq_none_of_compile compiled)
    rw [compiled, ofPieces_lockPieces s locks] at whole
    obtain ⟨base, alone, same⟩ := map_ok.mp whole.symm
    exact ⟨base, alone, fun _ => same.symm, nofun⟩
  | true =>
    obtain ⟨source, joins, rest, first, second, third, base, own⟩ :=
      compile_of_lockInFrom select place locks compiled
    exact ⟨_, base, nofun, fun _ => ⟨source, joins, rest, first, second, third, rfl, own,
      (fresh_of_joins target second).2⟩⟩

end Select

/-- A lock inside of a select that has conditions and no joins. -/
theorem compile_locked_hint :
    let s := (Call.runAll [.source (.name "a"),
      .filter .wheres {} (.between (.name "n") (.value (.int 1)) (.value (.int 5))),
      .lock .forUpdate, .transacting] (.start {})).value.statement
    let target : Target := { dialect := .mssql }
    s.kind = .select ∧ s.lockText? target = some "with (READCOMMITTEDLOCK)" ∧
      ∃ sql source rest : Sql, (s.compile target).outcome = .ok sql ∧
        source.text = "select * from [a]" ∧ rest.text = " where [n] between ? and ?" ∧
        sql = source.append (.append ⟨" with (READCOMMITTEDLOCK)", []⟩ rest) := by
  intro s target
  have locks : s.lockText? target = some "with (READCOMMITTEDLOCK)" := rfl
  have compiled : (s.compile target).outcome = .ok _ := rfl
  obtain ⟨-, inserted⟩ := @compile_locked target s rfl
  obtain ⟨base, -, -, inside⟩ := inserted _ _ locks compiled
  obtain ⟨source, joins, rest, first, second, third, -, same, -⟩ := inside rfl
  obtain ⟨rfl⟩ : source = _ := Except.ok.inj first.symm
  obtain ⟨rfl⟩ : joins = _ := Except.ok.inj second.symm
  obtain ⟨rfl⟩ : rest = _ := Except.ok.inj third.symm
  exact ⟨rfl, locks, _, _, _, compiled, by decide, by decide, same⟩

/-- With a join the lock is not directly behind the table. -/
theorem compile_ne_locked_source :
    ¬ ∀ (calls : List Call) (start target : Target) (clause : String) (sql : Sql)
        (source joins rest : List Piece),
      let s := (Call.runAll calls (.start start)).value.statement
      s.kind = .select → s.table.isSome = true → s.lockText? target = some clause →
      target.grammar.lockInFrom = true → (s.compile target).outcome = .ok sql →
      (Rendering.concat (s.upToSource target)).outcome = .ok source →
      (Rendering.concat (Join.renderList target s.schema s.joins)).outcome = .ok joins →
      (Rendering.concat (s.behindJoins target)).outcome = .ok rest →
      sql = (Sql.ofPieces source).append
        (.append ⟨" " ++ clause, []⟩ ((Sql.ofPieces joins).append (Sql.ofPieces rest))) := by
  intro behind
  have same := behind
    [.source (.name "a"), .join .cross (.name "b") [], .lock .forUpdate, .transacting]
    { dialect := .mssql } { dialect := .mssql } "with (READCOMMITTEDLOCK)" _ _ _ _
    rfl rfl rfl rfl rfl rfl rfl rfl
  have texts := congrArg Sql.text same
  revert texts
  decide

end Statement

end PortableSql
