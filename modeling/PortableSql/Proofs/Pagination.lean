import PortableSql.Call
import PortableSql.Proofs.Agreement
import PortableSql.Proofs.BoundValues
import PortableSql.Proofs.Compiled

/-!
Limit and offset in a select.

A grammar puts limit and offset behind a select, in front of its columns, or around it. Each of
these leaves the select itself as it is without them: its text and its values stay together and in
order (`Statement.compile_unpaginated`).
-/

namespace PortableSql

namespace Pagination

/-- What limit and offset are behind a select. -/
def trailing : Pagination → Option UInt64 → Option UInt64 → Sql
  | .limitOffset _, some limit, none => ⟨" limit ?", [.ofCount limit]⟩
  | .limitOffset _, some limit, some offset =>
    ⟨" limit ? offset ?", [.ofCount limit, .ofCount offset]⟩
  | .limitOffset .omit, none, some offset => ⟨" offset ?", [.ofCount offset]⟩
  | .limitOffset (.literal text), none, some offset =>
    ⟨" limit " ++ text ++ " offset ?", [.ofCount offset]⟩
  | .limitOffset (.bound n), none, some offset =>
    ⟨" limit ? offset ?", [.int n, .ofCount offset]⟩
  | .top, none, some offset => ⟨" offset ? rows", [.ofCount offset]⟩
  | .top, some limit, some offset =>
    ⟨" offset ? rows fetch next ? rows only", [.ofCount offset, .ofCount limit]⟩
  | _, _, _ => .empty

/-- A select with limit and offset, as it comes from the same select without them: `verb` is what
the select begins with. -/
def Inserts (pagination : Pagination) (verb : String) (limit offset : Option UInt64)
    (base sql : Sql) : Prop :=
  match pagination, limit, offset with
  | _, none, none => sql = base
  | .rowNumber _, some limit, none =>
    sql = .append ⟨"select * from (", []⟩
      (base.append ⟨") where rownum <= ?", [.ofCount limit]⟩)
  | .rowNumber unboundedLimit, limit, some offset =>
    sql = .append ⟨"select * from (select row_.*, ROWNUM rownum_ from (", []⟩
      (base.append ⟨") row_ where rownum <= ?) where rownum_ > ?",
        [.ofCount (Statement.addCounts (limit.getD unboundedLimit) offset), .ofCount offset]⟩)
  | .top, some limit, none =>
    ∃ rest, base.text = verb ++ rest ∧
      sql = ⟨verb ++ "top (?) " ++ rest, .ofCount limit :: base.bindings⟩
  | pagination, limit, offset => sql = base.append (pagination.trailing limit offset)

/-- Limit and offset are put around the select. -/
def Wraps : Pagination → Prop
  | .rowNumber _ => True
  | _ => False

instance (pagination : Pagination) : Decidable pagination.Wraps :=
  match pagination with
  | .rowNumber _ => isTrue trivial
  | .limitOffset _ | .top => isFalse id

/-- Where limit and offset are behind the select, they are all that is added. -/
theorem inserts_trailing {pagination : Pagination} {limit offset : Option UInt64}
    (flat : ¬pagination.Wraps) (behind : pagination = .top → offset = none → limit = none)
    (verb : String) (base : Sql) :
    pagination.Inserts verb limit offset base
      (base.append (pagination.trailing limit offset)) := by
  cases limit with
  | none =>
    cases offset with
    | none =>
      have nothing : pagination.trailing none none = .empty := by
        rcases pagination with loneOffset | _ | _
        · cases loneOffset <;> rfl
        · rfl
        · rfl
      rw [nothing]
      exact Sql.append_empty base
    | some offset =>
      cases pagination with
      | limitOffset | top => exact rfl
      | rowNumber => exact absurd trivial flat
  | some limit =>
    cases pagination with
    | limitOffset => cases offset <;> exact rfl
    | rowNumber => exact absurd trivial flat
    | top =>
      cases offset with
      | none => cases behind rfl rfl
      | some offset => exact rfl

end Pagination

namespace Statement

/-- A statement without limit and offset. -/
def unpaginated (s : Statement) : Statement :=
  { s with limit := none, offset := none }

/-- What a select begins with. -/
def verb (s : Statement) : String :=
  if s.distinct then "select distinct " else "select "

variable (target : Target) (s : Statement) (c : RenderedClauses)

/-! ### The parts of a select -/

/-- The pieces that a select begins with. -/
def verbPieces : List Piece :=
  .text "select " :: if s.distinct then [.text "distinct "] else []

/-- The clauses of a select behind its verb. -/
def selectClauses : List Rendering := [
  if c.columns.isEmpty then .text "*" else .commaSeparated c.columns,
  .guarded s.table.isSome (.concat [.text " from ", c.source]),
  c.joins,
  .guarded target.grammar.lockInFrom (s.lockClause target),
  c.wheres,
  c.groups,
  c.havings,
  c.orders]

/-- A select without its unions: verb, limit ahead and clauses. -/
theorem outcome_selectUpToOrder {ahead : List Piece}
    (limit : (s.selectLimitAhead target).outcome = .ok ahead) :
    (s.selectUpToOrder target c).outcome =
      (Rendering.concat (s.selectClauses target c)).outcome.map
        (s.verbPieces ++ ahead ++ ·) := by
  have word : (Rendering.guarded s.distinct (.text "distinct ")).outcome =
      .ok (if s.distinct then [.text "distinct "] else []) := by
    unfold Rendering.guarded
    split <;> rfl
  have whole : s.selectUpToOrder target c = .concat (.text "select " ::
      .guarded s.distinct (.text "distinct ") :: s.selectLimitAhead target ::
      s.selectClauses target c) := rfl
  rw [whole, Rendering.outcome_concat_of_ok (Rendering.outcome_text _),
    Rendering.outcome_concat_of_ok word, Rendering.outcome_concat_of_ok limit, verbPieces]
  cases (Rendering.concat (s.selectClauses target c)).outcome with
  | error fault => rfl
  | ok clauses => simp [Except.map]

theorem selectBody_eq (flat : ¬(target.grammar.pagination.Wraps ∧ s.isPaginated = true)) :
    s.selectBody target c =
      .concat [s.selectUpToOrder target c, s.limitAndOffset target, c.unions] := by
  unfold selectBody
  split
  · rename_i wraps paginated
    exact absurd ⟨by rw [wraps]; trivial, paginated⟩ flat
  · rfl

/-- A select that is not wrapped has limit and offset in front of its unions. -/
theorem outcome_selectBody {ahead behind : List Piece}
    (limit : (s.selectLimitAhead target).outcome = .ok ahead)
    (bounds : (s.limitAndOffset target).outcome = .ok behind)
    (flat : ¬(target.grammar.pagination.Wraps ∧ s.isPaginated = true)) :
    (s.selectBody target c).outcome =
      (Rendering.concat (s.selectClauses target c)).outcome.bind fun clauses =>
        c.unions.outcome.map fun unions =>
          s.verbPieces ++ ahead ++ clauses ++ behind ++ unions := by
  rw [selectBody_eq target s c flat, Rendering.outcome_concat_cons,
    outcome_selectUpToOrder target s c limit, Rendering.outcome_concat_of_ok bounds,
    Rendering.outcome_concat_cons]
  cases (Rendering.concat (s.selectClauses target c)).outcome with
  | error fault => rfl
  | ok clauses =>
    cases c.unions.outcome with
    | error fault => rfl
    | ok unions => simp [Except.map, Except.bind]

/-- A wrapped select has its unions inside. -/
theorem outcome_selectBody_of_wraps {unboundedLimit : UInt64}
    (wraps : target.grammar.pagination = .rowNumber unboundedLimit)
    (paginated : s.isPaginated = true) :
    (s.selectBody target c).outcome =
      (Rendering.concat (s.selectClauses target c)).outcome.bind fun clauses =>
        c.unions.outcome.bind fun unions =>
          (s.rowNumberWrap unboundedLimit
            (Sql.ofPieces (s.verbPieces ++ clauses ++ unions))).outcome := by
  have noLimit : (s.selectLimitAhead target).outcome = .ok [] := by
    unfold selectLimitAhead
    rw [wraps]
    rfl
  unfold selectBody
  rw [wraps, paginated]
  dsimp only
  rw [Render.outcome_bind, Rendering.outcome_concat_cons,
    outcome_selectUpToOrder target s c noLimit, Rendering.outcome_concat_cons]
  cases (Rendering.concat (s.selectClauses target c)).outcome with
  | error fault => rfl
  | ok clauses =>
    cases c.unions.outcome with
    | error fault => rfl
    | ok unions =>
      simp only [Except.map, Except.bind, Rendering.outcome_concat_nil, List.append_nil,
        Render.outcome_bind]
      rfl

/-! ### Limit and offset -/

/-- Limit and offset behind a select are the text that the grammar has for them. -/
theorem outcome_limitAndOffset (flat : ¬target.grammar.pagination.Wraps) :
    ∃ pieces, (s.limitAndOffset target).outcome = .ok pieces ∧ Piece.Fresh pieces ∧
      Sql.ofPieces pieces = target.grammar.pagination.trailing s.limit s.offset := by
  unfold limitAndOffset
  cases pagination : target.grammar.pagination with
  | rowNumber unboundedLimit => exact absurd (by rw [pagination]; trivial) flat
  | top =>
    cases s.offset with
    | none => exact ⟨_, rfl, .nil, by cases s.limit <;> rfl⟩
    | some offset =>
      cases s.limit with
      | none => exact ⟨_, rfl, .text (by decide), rfl⟩
      | some limit => exact ⟨_, rfl, .text (by decide), rfl⟩
  | limitOffset loneOffset =>
    cases s.limit with
    | some limit =>
      cases s.offset with
      | none => exact ⟨_, rfl, .text (by decide), rfl⟩
      | some offset => exact ⟨_, rfl, .text (by decide), rfl⟩
    | none =>
      cases s.offset with
      | none => exact ⟨_, rfl, .nil, by cases loneOffset <;> rfl⟩
      | some offset =>
        rcases loneOffset with _ | text | n
        · exact ⟨_, rfl, .text (by decide), rfl⟩
        · -- The only such text is a number.
          have number : '?' ∉ text.toList := by
            unfold Target.grammar at pagination
            cases found : target.dialect <;> rw [found] at pagination <;> cases pagination
            decide
          refine ⟨[.text " limit ", .text text, .text " offset ", .slot (.ofCount offset)], rfl,
            .text (by decide), ?_⟩
          apply Sql.ext
          · simp only [Sql.ofPieces, Piece.writeText, Sql.appendEscaped, number, List.foldl_cons,
              List.foldl_nil, Pagination.trailing]
            exact String.append_assoc
          · rfl
        · exact ⟨_, rfl, .text (by decide), rfl⟩

/-- The pieces of a limit in front of what it limits. -/
def topPieces (limit : UInt64) : List Piece :=
  [.text "top (", .slot (.ofCount limit), .text ") "]

theorem ofPieces_topPieces (limit : UInt64) (pieces : List Piece) :
    Sql.ofPieces (topPieces limit ++ pieces) =
      .append ⟨"top (?) ", [.ofCount limit]⟩ (Sql.ofPieces pieces) :=
  Sql.ofPieces_append_of_clear rfl

/-- Only a limit without an offset is put ahead, and only by grammars that write it so. -/
theorem outcome_selectLimitAhead
    (behind : target.grammar.pagination = .top → s.offset = none → s.limit = none) :
    (s.selectLimitAhead target).outcome = .ok [] := by
  unfold selectLimitAhead
  split
  · rename_i pagination limit offset
    rw [behind pagination offset] at limit
    cases limit
  · rfl

/-- The text that a select begins with. -/
theorem ofPieces_verb (pieces : List Piece) :
    Sql.ofPieces (s.verbPieces ++ pieces) = .append ⟨s.verb, []⟩ (Sql.ofPieces pieces) := by
  have clear : Piece.endsBehindAll false s.verbPieces = false := by
    unfold verbPieces
    split <;> decide
  have own : Sql.ofPieces s.verbPieces = ⟨s.verb, []⟩ := by
    unfold verbPieces verb
    split <;> rfl
  rw [Sql.ofPieces_append_of_clear clear, own]

/-- What is put around a select leaves it as it is. -/
theorem outcome_rowNumberWrap (unboundedLimit : UInt64) (verb : String) (inner : Sql)
    (paginated : s.isPaginated = true) :
    ∃ pieces, (s.rowNumberWrap unboundedLimit inner).outcome = .ok pieces ∧
      (Pagination.rowNumber unboundedLimit).Inserts verb s.limit s.offset inner
        (Sql.ofPieces pieces) := by
  have around {front : String} {back : List Piece} (fresh : Piece.Fresh back)
      (clear : Piece.endsBehindAll false [.text front] = false) :
      Sql.ofPieces (.text front :: .whole inner :: back) =
        (Sql.ofPieces [.text front]).append (inner.append (Sql.ofPieces back)) := by
    have later : Sql.ofPieces (.whole inner :: back) = inner.append (Sql.ofPieces back) := by
      rw [← Sql.ofPieces_whole inner, ← Sql.ofPieces_append_of_fresh fresh]
      simp
    rw [← later, ← Sql.ofPieces_append_of_clear clear]
    rfl
  unfold rowNumberWrap
  cases offset : s.offset with
  | none =>
    cases limit : s.limit with
    | none => simp [isPaginated, limit, offset] at paginated
    | some limit => exact ⟨_, rfl, around (.text (by decide)) (by decide)⟩
  | some offset =>
    cases s.limit with
    | none => exact ⟨_, rfl, around (.text (by decide)) (by decide)⟩
    | some limit => exact ⟨_, rfl, around (.text (by decide)) (by decide)⟩

/-- What is not put around a select is put into its pieces, ahead of the clauses or behind them. -/
theorem exists_inserted (flat : ¬target.grammar.pagination.Wraps) :
    ∃ ahead behind, (s.selectLimitAhead target).outcome = .ok ahead ∧
      (s.limitAndOffset target).outcome = .ok behind ∧ Piece.Fresh behind ∧
      ∀ clauses, target.grammar.pagination.Inserts s.verb s.limit s.offset
        (Sql.ofPieces (s.verbPieces ++ clauses))
        (Sql.ofPieces (s.verbPieces ++ ahead ++ clauses ++ behind)) := by
  obtain ⟨behind, bounds, fresh, text⟩ := s.outcome_limitAndOffset target flat
  by_cases bare : target.grammar.pagination = .top → s.offset = none → s.limit = none
  · refine ⟨[], behind, s.outcome_selectLimitAhead target bare, bounds, fresh, fun clauses => ?_⟩
    rw [List.append_nil, Sql.ofPieces_append_of_fresh fresh, text]
    exact Pagination.inserts_trailing flat bare _ _
  · simp only [Classical.not_imp] at bare
    obtain ⟨top, noOffset, bounded⟩ := bare
    obtain ⟨limit, found⟩ := Option.ne_none_iff_exists'.mp bounded
    have ahead : (s.selectLimitAhead target).outcome = .ok (topPieces limit) := by
      unfold selectLimitAhead
      rw [top, found, noOffset]
      rfl
    have none : Sql.ofPieces behind = .empty := by
      rw [text, top, found, noOffset]
      rfl
    refine ⟨_, behind, ahead, bounds, fresh, fun clauses => ?_⟩
    rw [Sql.ofPieces_append_of_fresh fresh, none, Sql.append_empty, List.append_assoc,
      ofPieces_verb, ofPieces_verb, ofPieces_topPieces, top, found, noOffset]
    refine ⟨(Sql.ofPieces clauses).text, rfl, Sql.ext ?_ rfl⟩
    simp [Sql.append, String.append_assoc]

/-! ### Two selects -/

section Selects

variable {s} (select : s.kind = .select) (unlocked : s.lock = none)

include select

/-- A select is its body, and its lock where that is at the end. -/
theorem compile_eq_body (accepted : s.fault = none) :
    (s.compile target).outcome =
      (Rendering.concat [s.selectBody target (s.clauses target),
        .guarded (!target.grammar.lockInFrom) (s.lockClause target)]).outcome.map
          Sql.ofPieces := by
  rw [outcome_compile, render_eq, assemble, accepted, select]
  rfl

include unlocked

/-- A select without a lock is its body. -/
theorem compile_select (accepted : s.fault = none) :
    (s.compile target).outcome =
      (s.selectBody target (s.clauses target)).outcome.map Sql.ofPieces := by
  have noLock : (Rendering.guarded (!target.grammar.lockInFrom) (s.lockClause target)).outcome =
      .ok [] := by
    unfold Rendering.guarded lockClause
    rw [unlocked]
    split <;> rfl
  rw [compile_eq_body target select accepted, Rendering.outcome_concat_pair_of_nil _ noLock]

/-- Without limit and offset a select is its clauses and its unions. -/
theorem compile_of_not_paginated (accepted : s.fault = none) (plain : s.isPaginated = false) :
    (s.compile target).outcome =
      (Rendering.concat (s.selectClauses target (s.clauses target))).outcome.bind fun clauses =>
        (s.clauses target).unions.outcome.map fun unions =>
          Sql.ofPieces (s.verbPieces ++ clauses ++ unions) := by
  have neither : s.limit = none ∧ s.offset = none := by
    simpa [isPaginated] using plain
  have ahead : (s.selectLimitAhead target).outcome = .ok [] := by
    unfold selectLimitAhead
    rw [neither.1]
    cases target.grammar.pagination <;> rfl
  have behind : (s.limitAndOffset target).outcome = .ok [] := by
    unfold limitAndOffset
    rw [neither.1, neither.2]
    cases target.grammar.pagination <;> rfl
  rw [compile_select target select unlocked accepted,
    outcome_selectBody target s _ ahead behind (by simp [plain])]
  cases (Rendering.concat (s.selectClauses target (s.clauses target))).outcome with
  | error fault => rfl
  | ok clauses => cases (s.clauses target).unions.outcome <;> simp [Except.bind, Except.map]

/-- The same select without limit and offset has the same clauses and unions. -/
theorem compile_unpaginated_eq (accepted : s.fault = none) :
    (s.unpaginated.compile target).outcome =
      (Rendering.concat (s.selectClauses target (s.clauses target))).outcome.bind fun clauses =>
        (s.clauses target).unions.outcome.map fun unions =>
          Sql.ofPieces (s.verbPieces ++ clauses ++ unions) :=
  compile_of_not_paginated target (s := s.unpaginated) select unlocked accepted rfl

/-- A grammar that puts limit and offset around a select puts them around its unions too. -/
theorem agree_of_wraps {unboundedLimit : UInt64}
    (wraps : target.grammar.pagination = .rowNumber unboundedLimit) (accepted : s.fault = none) :
    Render.Agree (target.grammar.pagination.Inserts s.verb s.limit s.offset)
      (s.unpaginated.compile target) (s.compile target) := by
  have base := compile_unpaginated_eq target select unlocked accepted
  by_cases paginated : s.isPaginated = true
  · have own := compile_select target select unlocked accepted
    rw [outcome_selectBody_of_wraps target s _ wraps paginated] at own
    cases clauses : (Rendering.concat (s.selectClauses target (s.clauses target))).outcome with
    | error fault =>
      rw [clauses] at base own
      exact .stopped base own
    | ok pieces =>
      cases unions : (s.clauses target).unions.outcome with
      | error fault =>
        rw [clauses, unions] at base own
        exact .stopped base own
      | ok more =>
        obtain ⟨wrapped, given, inserts⟩ := s.outcome_rowNumberWrap unboundedLimit s.verb
          (Sql.ofPieces (s.verbPieces ++ pieces ++ more)) paginated
        rw [clauses, unions] at base own
        refine .given base (own.trans (congrArg (Except.map Sql.ofPieces) given)) ?_
        rw [wraps]
        exact inserts
  · have own := compile_of_not_paginated target select unlocked accepted
      (by simpa using paginated)
    have neither : s.limit = none ∧ s.offset = none := by
      simpa [isPaginated] using paginated
    rw [← base] at own
    rw [neither.1, neither.2]
    cases compiled : (s.unpaginated.compile target).outcome with
    | error fault => exact .stopped compiled (own.trans compiled)
    | ok sql => exact .given compiled (own.trans compiled) rfl

/-- A grammar that does not wrap puts limit and offset into a select or behind it. -/
theorem agree_of_flat (flat : ¬target.grammar.pagination.Wraps) (plain : s.unions = [])
    (accepted : s.fault = none) :
    Render.Agree (target.grammar.pagination.Inserts s.verb s.limit s.offset)
      (s.unpaginated.compile target) (s.compile target) := by
  have base := compile_unpaginated_eq target select unlocked accepted
  have own := compile_select target select unlocked accepted
  have noUnions : (s.clauses target).unions.outcome = .ok [] := by
    rw [clauses, plain]
    rfl
  obtain ⟨ahead, behind, limit, bounds, -, inserts⟩ := s.exists_inserted target flat
  rw [outcome_selectBody target s _ limit bounds fun wraps => flat wraps.1] at own
  cases clauses : (Rendering.concat (s.selectClauses target (s.clauses target))).outcome with
  | error fault =>
    rw [clauses] at base own
    exact .stopped base own
  | ok pieces =>
    rw [clauses, noUnions] at base own
    refine .given base own ?_
    simp only [List.append_nil]
    exact inserts pieces

/-- Under every target, a select without unions and without a lock is the same select without limit
and offset, into which the bounds are put, or behind or around which they are; the same fault stops
both. -/
theorem compile_unpaginated (plain : s.unions = []) :
    Render.Agree (target.grammar.pagination.Inserts s.verb s.limit s.offset)
      (s.unpaginated.compile target) (s.compile target) := by
  cases recorded : s.fault with
  | some fault =>
    exact .stopped (compile_of_fault (s := s.unpaginated) recorded target)
      (compile_of_fault recorded target)
  | none =>
    cases pagination : target.grammar.pagination with
    | rowNumber unboundedLimit =>
      rw [← pagination]
      exact agree_of_wraps target select unlocked pagination recorded
    | limitOffset | top =>
      rw [← pagination]
      have flat : ¬target.grammar.pagination.Wraps := by
        simp [pagination, Pagination.Wraps]
      exact agree_of_flat target select unlocked flat plain recorded

end Selects

/-- Limit and offset around a select from a select with a limit of its own. -/
theorem compile_unpaginated_nested :
    let s := (Call.runAll [
      .source (.query (.callback [.source (.name "t"), .limit (some 2)])),
      .filter .wheres {} (.between (.name "n") (.value (.int 1)) (.value (.int 5))),
      .limit (some 10), .offset (some 20)] (.start {})).value.statement
    ∃ base, (s.unpaginated.compile { dialect := .oracle }).outcome = .ok base ∧
      base.text = "select * from (select * from (select * from \"t\") where rownum <= ?)" ++
        " where \"n\" between ? and ?" ∧
      base.bindings = [.int 2, .int 1, .int 5] ∧
      (s.compile { dialect := .oracle }).outcome = .ok
        (.append ⟨"select * from (select row_.*, ROWNUM rownum_ from (", []⟩
          (base.append ⟨") row_ where rownum <= ?) where rownum_ > ?", [.int 30, .int 20]⟩)) := by
  intro s
  cases compile_unpaginated { dialect := .oracle } (s := s) rfl rfl rfl with
  | stopped first => cases first
  | @given base sql first second inserts =>
    refine ⟨base, first, ?_, ?_, second.trans (congrArg Except.ok inserts)⟩
    · obtain ⟨rfl⟩ : base = _ := Except.ok.inj first.symm
      decide
    · obtain ⟨rfl⟩ : base = _ := Except.ok.inj first.symm
      rfl

end Statement

end PortableSql
