import PortableSql.Proofs.PaginatedUnions

/-!
The rows that limit and offset let through.

A grammar counts rows behind the select, in front of its columns or around it, and binds other
values for each. Counts are bound as signed integers, the greatest one at most, and a row number is
compared with a sum of counts that has a greatest value of its own. Read off the compiled select,
the bounds of every grammar let the same rows through, the window that limit and offset ask for
(`Statement.passes_iff_window`).
-/

namespace PortableSql

namespace Pagination

/-- Whether a row, counted from one, passes the bounds that a select binds: a limit and then the
rows to skip, a limit alone or the rows to skip and then a limit, a highest row number and then the
number that it has to exceed. -/
def Passes (row : Nat) : Pagination → List Value → Prop
  | .limitOffset _, [.int limit] | .top, [.int limit] | .rowNumber _, [.int limit] =>
    row ≤ limit.toInt
  | .limitOffset _, [.int limit, .int offset] | .top, [.int offset, .int limit] =>
    offset.toInt < row ∧ row ≤ offset.toInt + limit.toInt
  | .rowNumber _, [.int upper, .int lower] => row ≤ upper.toInt ∧ lower.toInt < row
  | _, _ => False

/-- A select with a limit shows its bounds: `core` is the select up to its ordering, `verb` what it
begins with, and `lock` a row lock at its end. -/
def Shows (verb : String) (core unions lock sql : Sql) : Pagination → List Value → Prop
  | .limitOffset _, [limit] =>
    sql = core.append (.append ⟨" limit ?", [limit]⟩ (unions.append lock))
  | .limitOffset _, [limit, offset] =>
    sql = core.append (.append ⟨" limit ? offset ?", [limit, offset]⟩ (unions.append lock))
  | .top, [limit] =>
    sql.bindings = limit :: (core.bindings ++ (unions.append lock).bindings) ∧
      ∃ rest, core.text = verb ++ rest ∧
        sql.text = verb ++ "top (?) " ++ rest ++ (unions.append lock).text
  | .top, [offset, limit] =>
    sql = core.append
      (.append ⟨" offset ? rows fetch next ? rows only", [offset, limit]⟩ (unions.append lock))
  | .rowNumber _, [upper] =>
    sql = .append ⟨"select * from (", []⟩
      ((core.append unions).append (.append ⟨") where rownum <= ?", [upper]⟩ lock))
  | .rowNumber _, [upper, lower] =>
    sql = .append ⟨"select * from (select row_.*, ROWNUM rownum_ from (", []⟩
      ((core.append unions).append
        (.append ⟨") row_ where rownum <= ?) where rownum_ > ?", [upper, lower]⟩ lock))
  | _, _ => False

/-- What a grammar binds for a limit and an offset. -/
def bounds (limit : UInt64) : Pagination → Option UInt64 → List Value
  | _, none => [.ofCount limit]
  | .limitOffset _, some offset => [.ofCount limit, .ofCount offset]
  | .top, some offset => [.ofCount offset, .ofCount limit]
  | .rowNumber _, some offset => [.ofCount (Statement.addCounts limit offset), .ofCount offset]

/-! ### Reading the bounds -/

section

variable {verb : String} {core unions lock sql inner : Sql} {limit : UInt64}
  {offset : Option UInt64}

/-- The bounds are bound beside the values of the select, its unions and its lock. -/
theorem Shows.length_bindings {pagination : Pagination} {own : List Value}
    (shows : pagination.Shows verb core unions lock sql own) :
    sql.bindings.length = core.bindings.length + unions.bindings.length + lock.bindings.length +
      own.length := by
  unfold Shows at shows
  split at shows
  case h_3 =>
    rw [shows.1]
    simp only [Sql.append, List.length_append, List.length_cons, List.length_nil]
    omega
  case h_7 => exact shows.elim
  all_goals
    subst shows
    simp only [Sql.append, List.length_append, List.length_cons, List.length_nil]
    omega

/-- The bounds can be read in one way only. -/
theorem Shows.unique {pagination : Pagination} {own other : List Value}
    (first : pagination.Shows verb core unions lock sql own)
    (second : pagination.Shows verb core unions lock sql other) : own = other := by
  have length : own.length = other.length := by
    have := first.length_bindings
    have := second.length_bindings
    omega
  unfold Shows at first second
  split at first <;> split at second
  all_goals simp_all [Sql.append]

/-! ### The window -/

/-- A count is bound as itself unless it is too great for a signed integer. -/
theorem exists_ofCount (n : UInt64) :
    ∃ bound : Int64, Value.ofCount n = .int bound ∧
      bound.toInt = min (n.toNat : Int) 0x7fffffffffffffff := by
  have greatest : Int64.maxValue.toInt = 0x7fffffffffffffff := by decide
  refine ⟨_, rfl, ?_⟩
  rw [Int64.toInt_ofInt_of_le] <;> rw [greatest] <;> omega

theorem toNat_addCounts (a b : UInt64) :
    (Statement.addCounts a b).toNat = min (a.toNat + b.toNat) 0xffffffffffffffff := by
  unfold Statement.addCounts
  split
  · rw [UInt64.toNat_add]
    have : UInt64.size = 0x10000000000000000 := rfl
    omega
  · rw [UInt64.toNat_ofNat']
    have : UInt64.size = 0x10000000000000000 := rfl
    omega

/-- The bounds of every grammar let the window through. A count that is too great for a signed
integer is as great as any row number, and so is a sum that is. -/
theorem passes_bounds_iff (pagination : Pagination) {row : Nat} (positive : 1 ≤ row)
    (small : row ≤ 0x7fffffffffffffff) :
    pagination.Passes row (pagination.bounds limit offset) ↔
      (offset.map UInt64.toNat).getD 0 < row ∧
        row ≤ (offset.map UInt64.toNat).getD 0 + limit.toNat := by
  obtain ⟨taken, isTaken, atMost⟩ := exists_ofCount limit
  cases offset with
  | none =>
    cases pagination <;>
      simp only [bounds, isTaken, Passes, Option.map_none, Option.getD_none] <;> omega
  | some offset =>
    obtain ⟨skipped, isSkipped, skips⟩ := exists_ofCount offset
    obtain ⟨upper, isUpper, ends⟩ := exists_ofCount (Statement.addCounts limit offset)
    rw [toNat_addCounts] at ends
    cases pagination <;>
      simp only [bounds, isTaken, isSkipped, isUpper, Passes, Option.map_some, Option.getD_some] <;>
      omega

/-- What limit and offset add shows the bounds, whatever is behind it. -/
theorem Inserts.shows_of_flat {pagination : Pagination} (flat : ¬pagination.Wraps)
    (inserts : pagination.Inserts verb (some limit) offset core inner) :
    pagination.Shows verb core unions lock (inner.append (unions.append lock))
      (pagination.bounds limit offset) := by
  cases pagination with
  | rowNumber => exact absurd trivial flat
  | limitOffset =>
    cases offset <;> obtain rfl := inserts <;> exact Sql.append_assoc _ _ _
  | top =>
    cases offset with
    | none =>
      obtain ⟨rest, begins, rfl⟩ := inserts
      exact ⟨rfl, rest, begins, rfl⟩
    | some offset =>
      obtain rfl := inserts
      exact Sql.append_assoc _ _ _

/-- What is put around a select and its unions shows the bounds, whatever is behind it. -/
theorem Inserts.shows_of_wraps {unboundedLimit : UInt64}
    (inserts : (rowNumber unboundedLimit).Inserts verb (some limit) offset (core.append unions)
      inner) :
    (rowNumber unboundedLimit).Shows verb core unions lock (inner.append lock)
      ((rowNumber unboundedLimit).bounds limit offset) := by
  cases offset <;> obtain rfl := inserts
  all_goals
    simp only [Shows, bounds, Sql.append_assoc, Option.getD_some]

end

end Pagination

namespace Statement

variable (target : Target) (s : Statement)

/-! ### The parts of a compiled select -/

/-- The clause that a statement is locked by: inside a transaction, what the grammar has for its
lock. -/
def lockText? : Option String :=
  if s.transacting then
    match s.lock with
    | some .forUpdate => target.grammar.lockUpdate
    | some .forShare => target.grammar.lockShare
    | none => none
  else
    none

/-- The pieces of a row lock. -/
def lockPieces : List Piece :=
  match s.lockText? target with
  | some clause => [.text " ", .text clause]
  | none => []

/-- A row lock is written by its clause, or not at all. -/
theorem outcome_lockClause : (s.lockClause target).outcome = .ok (s.lockPieces target) := by
  unfold lockClause lockPieces lockText?
  cases s.lock with
  | none => cases s.transacting <;> rfl
  | some lock =>
    cases s.transacting with
    | false => rfl
    | true =>
      cases lock with
      | forUpdate => cases target.grammar.lockUpdate <;> rfl
      | forShare => cases target.grammar.lockShare <;> rfl

theorem fresh_lockPieces : Piece.Fresh (s.lockPieces target) := by
  unfold lockPieces
  split
  · exact .text (by decide)
  · exact .nil

/-- The row lock of a grammar that puts it at the end. -/
def lockBehind : Rendering :=
  .guarded (!target.grammar.lockInFrom) (s.lockClause target)

variable {s}

/-- A compiled select is its body and the lock behind it. -/
theorem compile_eq_append_lock (select : s.kind = .select) (accepted : s.fault = none) :
    ∃ lock, (s.lockBehind target).outcome = .ok lock ∧
      (s.compile target).outcome = (s.selectBody target (s.clauses target)).outcome.map
        fun body => (Sql.ofPieces body).append (Sql.ofPieces lock) := by
  obtain ⟨lock, given, fresh⟩ : ∃ lock, (s.lockBehind target).outcome = .ok lock ∧
      Piece.Fresh lock := by
    unfold lockBehind Rendering.guarded
    split
    · exact ⟨_, s.outcome_lockClause target, s.fresh_lockPieces target⟩
    · exact ⟨[], rfl, .nil⟩
  refine ⟨lock, given, ?_⟩
  have sequence : (s.compile target).outcome =
      (Rendering.concat [s.selectBody target (s.clauses target), s.lockBehind target]).outcome.map
        Sql.ofPieces := compile_eq_body target select accepted
  rw [sequence, Rendering.outcome_concat_cons, Rendering.outcome_concat_of_ok given]
  cases (s.selectBody target (s.clauses target)).outcome with
  | error fault => rfl
  | ok body =>
    simp [Except.map, Except.bind, Sql.ofPieces_append_of_fresh fresh]

/-- The pieces of a select up to its ordering, without its limit. -/
theorem outcome_core :
    (s.unpaginated.selectUpToOrder target (s.clauses target)).outcome =
      (Rendering.concat (s.selectClauses target (s.clauses target))).outcome.map
        (s.verbPieces ++ ·) := by
  have nothing : (s.unpaginated.selectLimitAhead target).outcome = .ok [] := by
    unfold selectLimitAhead
    split
    · rename_i none _
      cases none
    · rfl
  rw [outcome_selectUpToOrder target s.unpaginated _ nothing, List.append_nil]
  rfl

/-- Unions begin with a space, if there are any. -/
theorem fresh_of_unions {unions : List Piece}
    (given : (s.clauses target).unions.outcome = .ok unions) : Piece.Fresh unions := by
  rcases begins_of_unions given with ⟨-, rfl⟩ | ⟨fresh, -⟩
  · exact .nil
  · exact fresh

/-- The body of a select that is not wrapped shows its bounds in front of its unions. -/
theorem selectBody_shows_of_flat (flat : ¬target.grammar.pagination.Wraps) {limit : UInt64}
    (limited : s.limit = some limit) {body : List Piece}
    (given : (s.selectBody target (s.clauses target)).outcome = .ok body) (lock : Sql) :
    ∃ clauses unions,
      (Rendering.concat (s.selectClauses target (s.clauses target))).outcome = .ok clauses ∧
      (s.clauses target).unions.outcome = .ok unions ∧
      target.grammar.pagination.Shows s.verb (Sql.ofPieces (s.verbPieces ++ clauses))
        (Sql.ofPieces unions) lock ((Sql.ofPieces body).append lock)
        (target.grammar.pagination.bounds limit s.offset) := by
  obtain ⟨ahead, behind, top, bounds, -, inserts⟩ := s.exists_inserted target flat
  rw [outcome_selectBody target s _ top bounds fun wraps => flat wraps.1] at given
  obtain ⟨clauses, own, given⟩ := bind_ok.mp given
  obtain ⟨unions, united, rfl⟩ := map_ok.mp given
  refine ⟨clauses, unions, own, united, ?_⟩
  have inserted := inserts clauses
  rw [limited] at inserted
  rw [Sql.ofPieces_append_of_fresh (fresh_of_unions target united), Sql.append_assoc]
  exact inserted.shows_of_flat flat

/-- The body of a wrapped select shows its bounds around its unions too. -/
theorem selectBody_shows_of_wraps {unboundedLimit : UInt64}
    (wraps : target.grammar.pagination = .rowNumber unboundedLimit) {limit : UInt64}
    (limited : s.limit = some limit) {body : List Piece}
    (given : (s.selectBody target (s.clauses target)).outcome = .ok body) (lock : Sql) :
    ∃ clauses unions,
      (Rendering.concat (s.selectClauses target (s.clauses target))).outcome = .ok clauses ∧
      (s.clauses target).unions.outcome = .ok unions ∧
      (Pagination.rowNumber unboundedLimit).Shows s.verb
        (Sql.ofPieces (s.verbPieces ++ clauses)) (Sql.ofPieces unions) lock
        ((Sql.ofPieces body).append lock)
        ((Pagination.rowNumber unboundedLimit).bounds limit s.offset) := by
  have paginated : s.isPaginated = true := by
    simp [isPaginated, limited]
  rw [outcome_selectBody_of_wraps target s _ wraps paginated] at given
  obtain ⟨clauses, own, given⟩ := bind_ok.mp given
  obtain ⟨unions, united, given⟩ := bind_ok.mp given
  obtain ⟨pieces, wrapped, inserts⟩ := s.outcome_rowNumberWrap unboundedLimit s.verb
    (Sql.ofPieces (s.verbPieces ++ clauses ++ unions)) paginated
  cases given.symm.trans wrapped
  rw [limited, Sql.ofPieces_append_of_fresh (fresh_of_unions target united)] at inserts
  exact ⟨clauses, unions, own, united, inserts.shows_of_wraps⟩

/-- A compiled select with a limit shows the bounds that its grammar has for limit and offset. -/
theorem compile_shows (select : s.kind = .select) {limit : UInt64} (limited : s.limit = some limit)
    {sql : Sql} (compiled : (s.compile target).outcome = .ok sql) :
    ∃ core unions lock,
      (s.unpaginated.selectUpToOrder target (s.clauses target)).outcome = .ok core ∧
      (s.clauses target).unions.outcome = .ok unions ∧
      (s.lockBehind target).outcome = .ok lock ∧
      target.grammar.pagination.Shows s.verb (Sql.ofPieces core) (Sql.ofPieces unions)
        (Sql.ofPieces lock) sql (target.grammar.pagination.bounds limit s.offset) := by
  obtain ⟨lock, locked, whole⟩ :=
    compile_eq_append_lock target select (fault_eq_none_of_compile compiled)
  obtain ⟨body, given, rfl⟩ := map_ok.mp (whole.symm.trans compiled)
  rw [outcome_core]
  cases pagination : target.grammar.pagination with
  | rowNumber unboundedLimit =>
    obtain ⟨clauses, unions, own, united, shows⟩ :=
      selectBody_shows_of_wraps target pagination limited given (Sql.ofPieces lock)
    exact ⟨_, unions, lock, by rw [own]; rfl, united, locked, shows⟩
  | limitOffset | top =>
    have flat : ¬target.grammar.pagination.Wraps := by
      rw [pagination]
      exact id
    obtain ⟨clauses, unions, own, united, shows⟩ :=
      selectBody_shows_of_flat target flat limited given (Sql.ofPieces lock)
    rw [pagination] at shows
    exact ⟨_, unions, lock, by rw [own]; rfl, united, locked, shows⟩

/-- The rows that a compiled select lets through, its bounds read off the values that it binds, are
those behind the offset and up to offset and limit together, whichever way its grammar counts
them. -/
theorem passes_iff_window (select : s.kind = .select) {limit : UInt64}
    (limited : s.limit = some limit) {sql : Sql}
    (compiled : (s.compile target).outcome = .ok sql) :
    ∃ core unions lock bounds,
      (s.unpaginated.selectUpToOrder target (s.clauses target)).outcome = .ok core ∧
      (s.clauses target).unions.outcome = .ok unions ∧
      (s.lockBehind target).outcome = .ok lock ∧
      (∀ other, target.grammar.pagination.Shows s.verb (Sql.ofPieces core) (Sql.ofPieces unions)
        (Sql.ofPieces lock) sql other ↔ other = bounds) ∧
      ∀ row : Nat, 1 ≤ row → row ≤ 0x7fffffffffffffff →
        (target.grammar.pagination.Passes row bounds ↔
          (s.offset.map UInt64.toNat).getD 0 < row ∧
            row ≤ (s.offset.map UInt64.toNat).getD 0 + limit.toNat) := by
  obtain ⟨core, unions, lock, ordered, united, locked, shows⟩ :=
    compile_shows target select limited compiled
  refine ⟨core, unions, lock, target.grammar.pagination.bounds limit s.offset, ordered, united,
    locked, fun other => ⟨?_, ?_⟩, ?_⟩
  · intro found
    exact found.unique shows
  · rintro rfl
    exact shows
  · intro row positive small
    exact Pagination.passes_bounds_iff _ positive small

/-- A limit beyond all signed integers around a select with a union: the sum with the offset is
bound as the greatest of them, and the greatest row number passes. -/
theorem passes_iff_window_oracle :
    let s := (Call.runAll [.source (.name "a"), .limit (some 18446744073709551615),
      .offset (some 5), .union [.query (.callback [.source (.name "b"),
        .filter .wheres {} (.between (.name "n") (.value (.int 1)) (.value (.int 2)))])] true false]
      (.start {})).value.statement
    s.kind = .select ∧ s.limit = some 18446744073709551615 ∧
      ∃ sql bounds, (s.compile { dialect := .oracle }).outcome = .ok sql ∧
        sql.bindings = [.int 1, .int 2] ++ bounds ∧
        bounds = [.int Int64.maxValue, .int 5] ∧
        Dialect.oracle.grammar.pagination.Passes 0x7fffffffffffffff bounds ∧
        ¬Dialect.oracle.grammar.pagination.Passes 5 bounds := by
  intro s
  obtain ⟨core, unions, lock, bounds, ordered, united, locked, shown, passes⟩ :=
    passes_iff_window { dialect := .oracle } (s := s) rfl rfl rfl
  obtain ⟨rfl⟩ : core = _ := Except.ok.inj ordered.symm
  obtain ⟨rfl⟩ : unions = _ := Except.ok.inj united.symm
  obtain ⟨rfl⟩ : lock = _ := Except.ok.inj locked.symm
  have read : [Value.int Int64.maxValue, .int 5] = bounds :=
    (shown [.int Int64.maxValue, .int 5]).mp (Sql.ext (by decide +kernel) rfl)
  subst read
  have window : (s.offset.map UInt64.toNat).getD 0 = 5 ∧
      (18446744073709551615 : UInt64).toNat = 0xffffffffffffffff := ⟨rfl, rfl⟩
  rw [window.1, window.2] at passes
  refine ⟨rfl, rfl, _, _, rfl, rfl, rfl, ?_, ?_⟩
  · exact (passes _ (by omega) (by omega)).mpr (by omega)
  · intro five
    have inside := (passes 5 (by omega) (by omega)).mp five
    omega

end Statement

end PortableSql
