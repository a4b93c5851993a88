import PortableSql.Proofs.Pagination

/-!
Limit and offset of a select with unions.

The unions of a select are written behind limit and offset, so these bound the rows of the select
alone. A grammar that puts limit and offset around a select is the exception: the unions are inside
with the select, and the bounds count their rows too (`Statement.compile_unions_iff`).
-/

namespace PortableSql

/-- What is around a select depends on limit and offset alone, and a bracket closes behind it. -/
theorem Pagination.exists_around (unboundedLimit : UInt64) (verb : String)
    {limit offset : Option UInt64} (paginated : (limit.isSome || offset.isSome) = true) :
    ∃ (front : Sql) (back : String) (bounds : List Value), back.toList.head? = some ')' ∧
      ∀ base sql, (Pagination.rowNumber unboundedLimit).Inserts verb limit offset base sql ↔
        sql = front.append (base.append ⟨back, bounds⟩) := by
  cases offset with
  | none =>
    cases limit with
    | none => cases paginated
    | some limit => exact ⟨_, ") where rownum <= ?", _, by decide, fun _ _ => Iff.rfl⟩
  | some offset =>
    cases limit with
    | none =>
      exact ⟨_, ") row_ where rownum <= ?) where rownum_ > ?", _, by decide, fun _ _ => Iff.rfl⟩
    | some limit =>
      exact ⟨_, ") row_ where rownum <= ?) where rownum_ > ?", _, by decide, fun _ _ => Iff.rfl⟩

/-- What may be inside of an end or behind it has the same text in both orders. -/
theorem Sql.text_append_comm_of_around {front middle last back : Sql}
    (same : front.append ((middle.append last).append back) =
      (front.append (middle.append back)).append last) :
    last.text ++ back.text = back.text ++ last.text := by
  have texts := congrArg (fun sql => sql.text.toList) same
  simp only [Sql.append, String.toList_append, List.append_assoc,
    List.append_cancel_left_eq] at texts
  apply String.toList_injective
  simpa using texts

namespace Statement

/-- A statement without its unions. -/
def withoutUnions (s : Statement) : Statement :=
  { s with unions := [] }

variable {target : Target} {s : Statement}

/-- Unions begin with a space. -/
theorem begins_of_unions {unions : List (UnionPart Attached)} {pieces : List Piece}
    (given : (Rendering.concat (UnionPart.renderList target unions)).outcome = .ok pieces) :
    unions = [] ∧ pieces = [] ∨
      Piece.Fresh pieces ∧ (Sql.ofPieces pieces).text.toList.head? = some ' ' := by
  cases unions with
  | nil => exact .inl ⟨rfl, (Except.ok.inj given).symm⟩
  | cons union others =>
    obtain ⟨all, wrap, query⟩ := union
    obtain ⟨front, back, first, -, rfl⟩ := Rendering.exists_outcome_of_concat given
    obtain ⟨word, rest, own, -, rfl⟩ := Rendering.exists_outcome_of_concat first
    cases own
    have space : (Sql.escapeMarks false
        (if all then " union all " else " union ").toList).head? = some ' ' := by
      cases all <;> decide
    refine .inr ⟨.text (by cases all <;> decide), ?_⟩
    rw [Sql.toList_text_ofPieces]
    simp only [List.cons_append, List.nil_append, Piece.charsAll, Piece.chars,
      List.head?_append, space, Option.some_or]

/-- Texts that begin differently cannot change places. -/
theorem append_comm_of_heads {a b : String} {c d : Char} (first : a.toList.head? = some c)
    (second : b.toList.head? = some d) (same : a ++ b = b ++ a) : c = d := by
  have heads := congrArg (fun text => text.toList.head?) same
  simpa [List.head?_append, first, second] using heads

section Unions

variable (select : s.kind = .select) (unlocked : s.lock = none) (accepted : s.fault = none)

include select unlocked accepted

/-- Where limit and offset are not around a select, its unions are behind them. -/
theorem compile_eq_append_of_flat {sql : Sql} (flat : ¬target.grammar.pagination.Wraps)
    (compiled : (s.compile target).outcome = .ok sql) :
    ∃ base unions, (s.withoutUnions.compile target).outcome = .ok base ∧
      (s.clauses target).unions.outcome = .ok unions ∧ sql = base.append (Sql.ofPieces unions) := by
  obtain ⟨ahead, limit⟩ : ∃ ahead, (s.selectLimitAhead target).outcome = .ok ahead := by
    unfold selectLimitAhead
    split <;> exact ⟨_, rfl⟩
  obtain ⟨behind, bounds, -, -⟩ := s.outcome_limitAndOffset target flat
  have own := compile_select target select unlocked accepted
  have base := compile_select target (s := s.withoutUnions) select unlocked accepted
  rw [outcome_selectBody target s _ limit bounds fun wraps => flat wraps.1, compiled] at own
  rw [outcome_selectBody target s.withoutUnions _ limit bounds fun wraps => flat wraps.1] at base
  change (s.withoutUnions.compile target).outcome = Except.map _ (Except.bind
    (Rendering.concat (s.selectClauses target (s.clauses target))).outcome _) at base
  cases clauses : (Rendering.concat (s.selectClauses target (s.clauses target))).outcome with
  | error fault =>
    rw [clauses] at own
    cases own
  | ok pieces =>
    cases unions : (s.clauses target).unions.outcome with
    | error fault =>
      rw [clauses, unions] at own
      cases own
    | ok more =>
      rw [clauses] at base
      rw [clauses, unions] at own
      refine ⟨_, more, base, rfl, ?_⟩
      have fresh : Piece.Fresh more := by
        rcases begins_of_unions unions with ⟨-, rfl⟩ | ⟨fresh, -⟩
        · exact .nil
        · exact fresh
      rw [Except.ok.inj own, Sql.ofPieces_append_of_fresh fresh]
      simp only [List.append_nil]
      rfl

/-- Where limit and offset are around a select, they are around its unions, and these are not
behind them. -/
theorem compile_eq_append_iff_of_wraps {unboundedLimit : UInt64} {sql : Sql}
    (wraps : target.grammar.pagination = .rowNumber unboundedLimit)
    (paginated : s.isPaginated = true) (compiled : (s.compile target).outcome = .ok sql) :
    ∃ base unions inner, (s.withoutUnions.compile target).outcome = .ok base ∧
      (s.clauses target).unions.outcome = .ok unions ∧
      (s.unpaginated.compile target).outcome = .ok inner ∧
      target.grammar.pagination.Inserts s.verb s.limit s.offset inner sql ∧
      (sql = base.append (Sql.ofPieces unions) ↔ s.unions = []) := by
  have whole := compile_unpaginated_eq target select unlocked accepted
  have alone := compile_unpaginated_eq target (s := s.withoutUnions) select unlocked
    accepted
  change (s.withoutUnions.unpaginated.compile target).outcome = Except.bind
    (Rendering.concat (s.selectClauses target (s.clauses target))).outcome _ at alone
  obtain ⟨front, back, bounds, bracket, around⟩ :=
    Pagination.exists_around unboundedLimit s.verb paginated
  cases agree_of_wraps target select unlocked wraps accepted with
  | stopped _ stopped =>
    rw [compiled] at stopped
    cases stopped
  | @given inner _ inside own inserts =>
    cases compiled.symm.trans own
    rw [inside] at whole
    cases clauses : (Rendering.concat (s.selectClauses target (s.clauses target))).outcome with
    | error fault =>
      rw [clauses] at whole
      cases whole
    | ok pieces =>
      cases unions : (s.clauses target).unions.outcome with
      | error fault =>
        rw [clauses, unions] at whole
        cases whole
      | ok more =>
        rw [clauses, unions] at whole
        rw [clauses] at alone
        cases agree_of_wraps target (s := s.withoutUnions) select unlocked wraps accepted with
        | stopped stopped =>
          rw [alone] at stopped
          cases stopped
        | @given first base given compiles within =>
          refine ⟨base, more, inner, compiles, rfl, inside, inserts, ?_⟩
          rw [wraps] at inserts within
          cases Except.ok.inj (alone.symm.trans given)
          cases Except.ok.inj whole
          rw [(around _ _).mp inserts, (around _ _).mp within]
          rcases begins_of_unions unions with ⟨none, rfl⟩ | ⟨fresh, space⟩
          · simp only [Sql.ofPieces_nil, Sql.append_empty, none]
            exact iff_of_true rfl trivial
          · refine iff_of_false (fun same => ?_) ?_
            · dsimp only at same
              rw [Sql.ofPieces_append_of_fresh fresh, List.append_nil] at same
              cases append_comm_of_heads space bracket (Sql.text_append_comm_of_around same)
            · intro none
              rw [Statement.clauses, none] at unions
              cases unions
              cases space

end Unions

/-- A select with limit or offset that compiles is the same select without its unions, and the
unions behind it, exactly if limit and offset are not put around it or there are no unions. Around a
select, limit and offset are around its unions too. -/
theorem compile_unions_iff (select : s.kind = .select) (unlocked : s.lock = none)
    (paginated : s.isPaginated = true) {sql : Sql}
    (compiled : (s.compile target).outcome = .ok sql) :
    ∃ base unions, (s.withoutUnions.compile target).outcome = .ok base ∧
      (Rendering.concat (UnionPart.renderList target s.unions)).outcome = .ok unions ∧
      (sql = base.append (Sql.ofPieces unions) ↔
        (target.grammar.pagination.Wraps → s.unions = [])) ∧
      (target.grammar.pagination.Wraps → ∃ inner,
        (s.unpaginated.compile target).outcome = .ok inner ∧
          target.grammar.pagination.Inserts s.verb s.limit s.offset inner sql) := by
  have accepted : s.fault = none := by
    cases recorded : s.fault with
    | none => rfl
    | some fault =>
      rw [compile_of_fault recorded] at compiled
      cases compiled
  cases pagination : target.grammar.pagination with
  | rowNumber unboundedLimit =>
    obtain ⟨base, unions, inner, alone, given, inside, inserts, same⟩ :=
      compile_eq_append_iff_of_wraps select unlocked accepted pagination paginated compiled
    rw [pagination] at inserts
    exact ⟨base, unions, alone, given, same.trans ⟨fun none _ => none, fun none => none trivial⟩,
      fun _ => ⟨inner, inside, inserts⟩⟩
  | limitOffset | top =>
    have flat : ¬target.grammar.pagination.Wraps := by
      rw [pagination]
      exact id
    obtain ⟨base, unions, alone, given, same⟩ :=
      compile_eq_append_of_flat select unlocked accepted flat compiled
    exact ⟨base, unions, alone, given, iff_of_true same nofun, nofun⟩

/-- A union behind a limit, for a dialect that puts the limit ahead of the columns. -/
theorem compile_unions_iff_top :
    let s := (Call.runAll [.source (.name "a"), .limit (some 1),
      .union [.query (.callback [.source (.name "b"),
        .filter .wheres {} (.between (.name "n") (.value (.int 1)) (.value (.int 5)))])] true false]
      (.start {})).value.statement
    ∃ sql base unions, (s.compile { dialect := .mssql }).outcome = .ok sql ∧
      (s.withoutUnions.compile { dialect := .mssql }).outcome = .ok base ∧
      sql = base.append (Sql.ofPieces unions) ∧
      base.text = "select top (?) * from [a]" ∧ base.bindings = [.int 1] ∧
      (Sql.ofPieces unions).text = 
        " union all select * from [b] where [n] between ? and ?" := by
  intro s
  have compiled : (s.compile { dialect := .mssql }).outcome = .ok _ := rfl
  obtain ⟨base, unions, alone, given, same, -⟩ := compile_unions_iff rfl rfl rfl compiled
  obtain ⟨rfl⟩ : base = _ := Except.ok.inj alone.symm
  obtain ⟨rfl⟩ : unions = _ := Except.ok.inj given.symm
  exact ⟨_, _, _, rfl, rfl, same.mpr nofun, by decide, rfl, by decide⟩

/-- A limit around a select is around its unions. -/
theorem compile_ne_append_of_wraps :
    ¬ ∀ (calls : List Call) (start target : Target) (sql base : Sql) (unions : List Piece),
      let s := (Call.runAll calls (.start start)).value.statement
      s.kind = .select → s.lock = none → s.isPaginated = true →
      (s.compile target).outcome = .ok sql →
      (s.withoutUnions.compile target).outcome = .ok base →
      (Rendering.concat (UnionPart.renderList target s.unions)).outcome = .ok unions →
      sql = base.append (Sql.ofPieces unions) := by
  intro behind
  have same := behind
    [.source (.name "a"), .limit (some 1),
      .union [.query (.callback [.source (.name "b")])] true false]
    { dialect := .oracle } { dialect := .oracle } _ _ _ rfl rfl rfl rfl rfl rfl
  have texts := congrArg Sql.text same
  revert texts
  decide

end Statement

end PortableSql
