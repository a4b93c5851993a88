import PortableSql.Proofs.Placeholders
import PortableSql.Render.Statement

/-!
What renderings give.

The outcome of a rendering is its pieces or the fault that stops it, without the events.
`Render.Ensures` says what holds of either. `Rendering.Safe` is the property that statements keep:
their pieces are written as they should be, the faults are among those that are expected, and no
value is hidden behind a backslash. The last part depends on what stands in front, so it is a triple
of the pieces and of what may be in front of and behind them, and triples compose.
-/

namespace PortableSql

namespace Render

variable {α β : Type}

/-- The result or the fault of a rendering. -/
def outcome (r : Render α) : Except Fault α :=
  r.run.value

theorem outcome_bind (r : Render α) (f : α → Render β) :
    (r >>= f).outcome = r.outcome.bind fun x => (f x).outcome := by
  simp only [outcome, ExceptT.run, bind, ExceptT.bind, ExceptT.mk, ExceptT.bindCont, Except.bind]
  cases (r : Logged (Except Fault α)).value with
  | ok x => rfl
  | error fault => rfl

/-- What holds of the result of a rendering, or of the fault that stops it. -/
def Ensures (r : Render α) (P : α → Prop) (E : Fault → Prop) : Prop :=
  match r.outcome with
  | .ok x => P x
  | .error fault => E fault

namespace Ensures

variable {r : Render α} {P : α → Prop} {E : Fault → Prop}

theorem ok (ensures : r.Ensures P E) {x : α} (rendered : r.outcome = .ok x) : P x := by
  simpa only [Ensures, rendered] using ensures

theorem error (ensures : r.Ensures P E) {fault : Fault} (refused : r.outcome = .error fault) :
    E fault := by
  simpa only [Ensures, refused] using ensures

theorem pure {x : α} (holds : P x) : (Pure.pure x : Render α).Ensures P E := holds

theorem throw {fault : Fault} (expected : E fault) :
    (MonadExcept.throw fault : Render α).Ensures P E := expected

theorem bind {f : α → Render β} {Q : β → Prop} (first : r.Ensures P E)
    (next : ∀ x, P x → (f x).Ensures Q E) : (r >>= f).Ensures Q E := by
  unfold Ensures at first ⊢
  rw [outcome_bind]
  cases found : r.outcome with
  | ok x => exact next x (by simpa only [found] using first)
  | error fault =>
    rw [found] at first
    exact first

theorem mono {Q : α → Prop} (ensures : r.Ensures P E) (implied : ∀ x, P x → Q x) :
    r.Ensures Q E := by
  unfold Ensures at ensures ⊢
  cases found : r.outcome with
  | ok x => exact implied x (by simpa only [found] using ensures)
  | error fault => simpa only [found] using ensures

end Ensures

end Render

/-! ### Pieces that hide no value -/

namespace Piece

/-- Pieces as statements write them that hide no value if `guarded` holds. `before` says whether a
backslash may be in front of them, and `after` whether one may be last. -/
structure Safe (guarded : Prop) (before after : Bool) (pieces : List Piece) : Prop where
  written : ∀ piece ∈ pieces, piece.Written
  shown : guarded → ∀ behind, (behind = true → before = true) →
    hiddenAll behind pieces = 0 ∧ (endsBehindAll behind pieces = true → after = true)

namespace Safe

variable {guarded : Prop} {before middle after : Bool} {xs ys : List Piece}

theorem nil : Safe guarded before before [] :=
  ⟨by simp, fun _ _ front => ⟨rfl, front⟩⟩

theorem text (s : String) : Safe guarded before true [.text s] :=
  ⟨by simp [Written.text], fun _ _ _ => ⟨rfl, fun _ => rfl⟩⟩

theorem slot (value : Value) : Safe guarded false after [.slot value] := by
  refine ⟨by simp [Written.slot], fun _ behind front => ?_⟩
  cases behind with
  | false => exact ⟨rfl, by simp [endsBehindAll, chars]⟩
  | true => simp at front

/-- After a text that does not end with a backslash, all is clear. -/
theorem clean {s : String} (clean : guarded → Sql.endsBehind before s.toList = false) :
    Safe guarded before after [.text s] := by
  refine ⟨by simp [Written.text], fun holds behind front => ⟨rfl, ?_⟩⟩
  have last := clean holds
  have same : Sql.endsBehind behind s.toList = false := by
    cases found : s.toList with
    | nil => cases behind <;> simp_all
    | cons c rest => simpa [found] using last
  simp [endsBehindAll, chars, Sql.endsBehind_escapeMarks, same]

theorem append (first : Safe guarded before middle xs) (second : Safe guarded middle after ys) :
    Safe guarded before after (xs ++ ys) := by
  refine ⟨?_, fun holds behind front => ?_⟩
  · intro piece member
    rcases List.mem_append.mp member with member | member
    · exact first.written piece member
    · exact second.written piece member
  · have start := first.shown holds behind front
    have finish := second.shown holds _ start.2
    rw [hiddenAll_append, endsBehindAll_append]
    exact ⟨by rw [start.1, finish.1], finish.2⟩

theorem cons {piece : Piece} (first : Safe guarded before middle [piece])
    (rest : Safe guarded middle after ys) : Safe guarded before after (piece :: ys) :=
  first.append rest

/-- Text written before hides nothing if its pieces do not. -/
theorem whole (inner : Safe guarded false middle xs) :
    Safe guarded false true [.whole (Sql.ofPieces xs)] := by
  refine ⟨by simpa using Written.whole inner.written, fun holds behind front => ⟨?_, by simp⟩⟩
  have clear : behind = false := by simpa using front
  have none := (inner.shown holds false (by simp)).1
  have count := Sql.placeholders_add_hidden inner.written
  simp only [Sql.placeholders] at count
  simp only [hiddenAll, hidden, clear]
  omega

theorem flatMap {α : Type} {items : List α} {f : α → List Piece}
    (each : ∀ item ∈ items, Safe guarded before before (f item)) :
    Safe guarded before before (items.flatMap f) := by
  induction items with
  | nil => exact nil
  | cons item rest ih =>
    exact (each item (by simp)).append (ih fun item member => each item (by simp [member]))

theorem weaken {start finish : Bool} (safe : Safe guarded before after xs)
    (front : start = true → before = true) (last : after = true → finish = true) :
    Safe guarded start finish xs :=
  ⟨safe.written, fun holds behind opened =>
    ⟨(safe.shown holds behind fun h => front (opened h)).1,
      fun h => last ((safe.shown holds behind fun h => front (opened h)).2 h)⟩⟩

end Safe

end Piece

/-! ### Renderings that hide no value -/

/-- Whether a fault is one that rendering finds by itself. -/
def Fault.ofRendering : Fault → Bool
  | .missingBindings _ _ | .unusedBindings _ _ _ | .missingName _ _ | .identifierNotText _
  | .undefinedOperand | .undefinedCell _ | .noTable | .noAssignments | .severalEmptyRows _
  | .emptyRowColumn _ => true
  | _ => false

/-- What is expected of a rendering. -/
structure Promise where
  /-- The faults that may stop it. -/
  faults : Fault → Prop
  /-- Those of rendering are among them. -/
  ofRendering : ∀ fault, fault.ofRendering = true → faults fault
  /-- The condition under which it hides no value. -/
  guarded : Prop

namespace Rendering

/-- A rendering keeps a promise where a backslash may be in front of it if `before`, and may be last
if `after`. -/
def Safe (p : Promise) (before after : Bool) (r : Rendering) : Prop :=
  r.Ensures (Piece.Safe p.guarded before after) p.faults

variable {p : Promise} {before middle after : Bool}

theorem Safe.weaken {start finish : Bool} {r : Rendering} (safe : Safe p before after r)
    (front : start = true → before = true) (last : after = true → finish = true) :
    Safe p start finish r :=
  safe.mono fun _ pieces => pieces.weaken front last

namespace Safe

theorem nothing : Safe p before before nothing :=
  .pure .nil

theorem event (e : Event) : Safe p before before (event e) :=
  Render.Ensures.bind (P := fun _ => True) trivial fun _ _ => .pure .nil

theorem throw {fault : Fault} (expected : p.faults fault) :
    Safe p before after (MonadExcept.throw fault) :=
  Render.Ensures.throw expected

theorem refuse {fault : Fault} (own : fault.ofRendering = true) :
    Safe p before after (MonadExcept.throw fault) :=
  throw (p.ofRendering fault own)

theorem text (s : String) : Safe p before true (text s) :=
  .pure (.text s)

theorem clean {s : String} (clean : p.guarded → Sql.endsBehind before s.toList = false) :
    Safe p before after (.text s) :=
  .pure (.clean clean)

theorem clean_of_true {s : String} (clean : Sql.endsBehind true s.toList = false) :
    Safe p before after (.text s) :=
  (Safe.clean fun _ => clean : Safe p true after (.text s)).weaken (fun _ => rfl) fun h => h

/-- What does not mind what is in front may stand anywhere. -/
theorem anywhere {r : Rendering} (safe : Safe p true true r) : Safe p before true r :=
  safe.weaken (fun _ => rfl) fun h => h

/-- What is in front counts only where values must not be hidden. -/
theorem behind {r : Rendering} (safe : Safe p false after r)
    (clear : p.guarded → before = false) : Safe p before after r :=
  safe.mono fun _ pieces => ⟨pieces.written, fun holds => by
    rw [clear holds]
    exact pieces.shown holds⟩

theorem slot (value : Value) : Safe p false after (slot value) :=
  .pure (.slot value)

theorem whole {pieces : List Piece} (inner : Piece.Safe p.guarded false middle pieces) :
    Safe p false true (pure [.whole (Sql.ofPieces pieces)]) :=
  .pure (.whole inner)

/-! The parts of a sequence: those after which all is clear, those that may follow anything, and
those that are last. -/

theorem nil : Safe p before before (concat []) :=
  nothing

theorem cons {r : Rendering} {rs : List Rendering} (first : Safe p before middle r)
    (rest : Safe p middle after (concat rs)) : Safe p before after (concat (r :: rs)) :=
  first.bind fun _ pieces => rest.bind fun _ more => .pure (pieces.append more)

theorem clear {s : String} {rs : List Rendering} (clean : Sql.endsBehind true s.toList = false)
    (rest : Safe p false after (concat rs)) : Safe p before after (concat (.text s :: rs)) :=
  cons (.clean_of_true clean) rest

theorem settles {r : Rendering} {rs : List Rendering} (first : Safe p before false r)
    (rest : Safe p false after (concat rs)) : Safe p before after (concat (r :: rs)) :=
  cons first rest

theorem leads {r : Rendering} {rs : List Rendering} (first : Safe p before true r)
    (rest : Safe p true after (concat rs)) : Safe p before after (concat (r :: rs)) :=
  cons first rest

theorem last {r : Rendering} (only : Safe p before after r) : Safe p before after (concat [r]) :=
  cons only nil

/-! Renderings that are put together the same way everywhere. -/

theorem between {front back : String} {body : Rendering}
    (clean : Sql.endsBehind true front.toList = false) (inside : Safe p false true body) :
    Safe p before true (between front back body) :=
  clear clean (leads inside (last (.text back)))

theorem guarded {condition : Bool} {body : Rendering} (safe : Safe p before before body) :
    Safe p before before (guarded condition body) := by
  unfold Rendering.guarded
  split
  · exact safe
  · exact nothing

theorem count {lead : String} (n : UInt64) (clean : Sql.endsBehind true lead.toList = false) :
    Safe p before after (count lead n) :=
  clear clean (last (.slot _))

theorem count? {lead : String} (n : Option UInt64)
    (clean : Sql.endsBehind true lead.toList = false) : Safe p before before (count? lead n) := by
  cases n with
  | none => exact nothing
  | some n => exact .count n clean

theorem top (n : UInt64) : Safe p before after (top n) :=
  settles (.count n (by decide)) (last (.clean_of_true (by decide)))

theorem separated {separator : String} {rs : List Rendering}
    (clean : Sql.endsBehind true separator.toList = false)
    (each : ∀ r ∈ rs, Safe p false true r) : Safe p false true (separated separator rs) := by
  cases rs with
  | nil => exact anywhere nothing
  | cons first rest =>
    refine leads (each first (by simp)) ?_
    have others : ∀ r ∈ rest, Safe p false true r := fun r member => each r (by simp [member])
    clear each
    induction rest with
    | nil => exact nil
    | cons r rest ih =>
      refine leads (clear clean (last (others r (by simp)))) (ih ?_)
      exact fun r member => others r (by simp [member])

theorem commaSeparated {rs : List Rendering} (each : ∀ r ∈ rs, Safe p false true r) :
    Safe p false true (commaSeparated rs) :=
  .separated (by decide) each

theorem clause {lead : String} {rs : List Rendering}
    (clean : Sql.endsBehind true lead.toList = false)
    (each : ∀ r ∈ rs, Safe p false true r) : Safe p true true (clause lead rs) := by
  unfold Rendering.clause
  split
  · exact nothing
  · exact clear clean (last (.commaSeparated each))

theorem concatAll {rs : List Rendering} (each : ∀ r ∈ rs, Safe p before before r) :
    Safe p before before (concat rs) := by
  induction rs with
  | nil => exact nil
  | cons r rest ih =>
    exact cons (each r (by simp)) (ih fun r member => each r (by simp [member]))

end Safe

end Rendering

/-! ### Nested statements -/

/-- Running a callback logs events; what is rendered is the statement that it builds. -/
theorem Attached.outcome_render (target : Target) (a : Attached) :
    (a.render target).outcome = ((a.statement target).render target).outcome := by
  cases a with
  | prepared s => rfl
  | callback build =>
    rw [Attached.render, Statement.renderBuilt, Render.outcome_bind]
    rfl

/-! ### Compiling -/

namespace Statement

variable {s : Statement} {target : Target}

theorem compile_of_error {fault : Fault} (refused : (s.render target).outcome = .error fault) :
    (s.compile target).outcome = .error fault := by
  unfold compile
  rw [Render.outcome_bind, refused]
  rfl

theorem compile_of_ok {pieces : List Piece} (rendered : (s.render target).outcome = .ok pieces) :
    (s.compile target).outcome = .ok (Sql.ofPieces pieces) := by
  unfold compile
  rw [Render.outcome_bind, rendered]
  rfl

end Statement

/-! ### Lists of parts are rendered part by part -/

section Lists

variable (target : Target)

theorem Operand.renderedList_eq_map (values : List (Operand Attached)) :
    Operand.renderedList target values = values.map (·.rendered target) := by
  induction values with
  | nil => rfl
  | cons operand rest ih => simp [Operand.renderedList, ih]

theorem Operand.renderedPairs_eq_map (pairs : List (String × Operand Attached)) :
    Operand.renderedPairs target pairs =
      pairs.map fun (name, operand) => (name, operand.rendered target) := by
  induction pairs with
  | nil => rfl
  | cons pair rest ih => simp [Operand.renderedPairs, ih]

theorem Operand.renderedRows_eq_map (table : List (List (String × Operand Attached))) :
    Operand.renderedRows target table = table.map (Operand.renderedPairs target) := by
  induction table with
  | nil => rfl
  | cons row rest ih => simp [Operand.renderedRows, ih]

theorem Column.renderList_eq_map (columns : List (Column Attached)) :
    Column.renderList target columns = columns.map (·.render target none) := by
  induction columns with
  | nil => rfl
  | cons column rest ih => simp [Column.renderList, ih]

theorem Join.renderList_eq_map (schema : Option String) (joins : List (Join Attached)) :
    Join.renderList target schema joins =
      joins.map fun join => .concat [.text " ", join.render target schema] := by
  induction joins with
  | nil => rfl
  | cons join rest ih => simp [Join.renderList, ih]

theorem Order.renderList_eq_map (orders : List (Order Attached)) :
    Order.renderList target orders = orders.map (·.render target) := by
  induction orders with
  | nil => rfl
  | cons order rest ih => simp [Order.renderList, ih]

theorem UnionPart.renderList_eq_map (unions : List (UnionPart Attached)) :
    UnionPart.renderList target unions =
      unions.map fun union => (union.query.rendered target).union union.all union.wrap := by
  induction unions with
  | nil => rfl
  | cons union rest ih =>
    obtain ⟨all, wrap, query⟩ := union
    simp [UnionPart.renderList, ih]

end Lists

end PortableSql
