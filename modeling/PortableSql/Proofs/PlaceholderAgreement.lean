import PortableSql.Call
import PortableSql.Proofs.SafeTree

/-!
Placeholders and values of a compiled statement agree.

No text of a statement adds a placeholder, so there are at most as many placeholders as values. They
are as many unless a value is hidden behind a backslash. Only a raw fragment can put one there: with
guarded fragments no value is hidden.
-/

namespace PortableSql

/-- The promise that guarded statements hide no value, whatever fault stops the rendering. -/
def Promise.ofGuarded (s : Statement) : Promise where
  faults := fun _ => True
  ofRendering := fun _ _ => trivial
  guarded := s.All fun t => ∀ fragment, .raw fragment ∈ t.operands → fragment.guarded = true

namespace Statement

/-- The buffer of a statement that compiles is written from the pieces of its rendering. -/
theorem pieces_of_compile {s : Statement} {target : Target} {sql : Sql}
    (compiled : (s.compile target).outcome = .ok sql) :
    ∃ pieces, (s.render target).outcome = .ok pieces ∧ sql = Sql.ofPieces pieces := by
  cases rendered : (s.render target).outcome with
  | error fault => simp [compile_of_error rendered] at compiled
  | ok pieces => exact ⟨pieces, rfl, by simpa [compile_of_ok rendered] using compiled.symm⟩

/-- What a statement renders to is written as it should be and hides no value if every fragment in
it is guarded. -/
theorem safe_of_render {s : Statement} {target : Target} {pieces : List Piece}
    (rendered : (s.render target).outcome = .ok pieces) :
    Piece.Safe (Promise.ofGuarded s).guarded false true pieces := by
  have expected : s.All fun t => ∀ fault ∈ t.faults, (Promise.ofGuarded s).faults fault :=
    .of_forall (fun _ _ _ => trivial) s
  have safe := safe_render target expected fun guarded =>
    guarded.mono fun _ each fragment member => .inl (each fragment member)
  exact safe.ok rendered

end Statement

namespace Call

/-- A statement that compiles has at most as many placeholders as values, and it has as many exactly
if its rendering writes no value directly behind a backslash. That is so where every raw fragment in
the statement and in what is nested in it is guarded. -/
theorem placeholders_of_compile_runAll (calls : List Call) (start target : Target) {sql : Sql}
    (compiled :
      ((runAll calls (.start start)).value.statement.compile target).outcome = .ok sql) :
    ∃ pieces,
      ((runAll calls (.start start)).value.statement.render target).outcome = .ok pieces ∧
      sql = Sql.ofPieces pieces ∧
      Sql.placeholders sql.text ≤ sql.bindings.length ∧
      (Sql.placeholders sql.text = sql.bindings.length ↔ Piece.hiddenAll false pieces = 0) ∧
      (((runAll calls (.start start)).value.statement.All fun t =>
          ∀ fragment, .raw fragment ∈ t.operands → fragment.guarded = true) →
        Sql.placeholders sql.text = sql.bindings.length) := by
  obtain ⟨pieces, rendered, rfl⟩ := Statement.pieces_of_compile compiled
  have safe := Statement.safe_of_render rendered
  have count := Sql.placeholders_add_hidden safe.written
  have exact_count : Sql.placeholders (Sql.ofPieces pieces).text =
      (Sql.ofPieces pieces).bindings.length ↔ Piece.hiddenAll false pieces = 0 := by
    omega
  refine ⟨pieces, rendered, rfl, by omega, exact_count, fun guarded => ?_⟩
  have shown := safe.shown guarded false (by simp)
  exact exact_count.mpr shown.1

/-- A guarded fragment with a value, in a select that counts rows by wrapping it. -/
theorem placeholders_of_compile_runAll_wrapped : ∃ sql,
    ((runAll [.select [.raw ⟨"coalesce(a, ?)", .positional [.value (.int 1)], none⟩],
        .source (.name "t"), .limit (some 5)] (.start {})).value.statement.compile
      { dialect := .oracle }).outcome = .ok sql ∧
    sql.bindings.length = 2 ∧ Sql.placeholders sql.text = sql.bindings.length := by
  obtain ⟨pieces, -, -, -, -, agree⟩ := placeholders_of_compile_runAll
    [.select [.raw ⟨"coalesce(a, ?)", .positional [.value (.int 1)], none⟩],
      .source (.name "t"), .limit (some 5)] {} { dialect := .oracle } rfl
  refine ⟨_, rfl, rfl, agree (.intro (fun fragment member => ?_) fun t member => ?_)⟩
  · change Operand.raw fragment ∈
      [.raw ⟨"coalesce(a, ?)", .positional [.value (.int 1)], none⟩, .value (.int 1)] at member
    obtain ⟨rfl⟩ : fragment = _ := by simpa using member
    decide
  · change Operand.query t ∈
      [.raw ⟨"coalesce(a, ?)", .positional [.value (.int 1)], none⟩, .value (.int 1)] at member
    simp at member

/-- Text around a fragment can end with a backslash, and the value behind it gets no placeholder. -/
theorem placeholders_ne_of_backslash :
    ¬ ∀ (calls : List Call) (start target : Target) (sql : Sql),
      ((runAll calls (.start start)).value.statement.compile target).outcome = .ok sql →
      Sql.placeholders sql.text = sql.bindings.length := by
  intro agree
  have hidden := agree
    [.select [.raw ⟨"?", .positional [.value (.int 1)], some ("\\", "")⟩]] {} {}
    ⟨"select \\?", [.int 1]⟩ rfl
  revert hidden
  decide

end Call

end PortableSql
