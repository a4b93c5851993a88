import PortableSql.Proofs.Rendering
import PortableSql.Proofs.Traversal

/-!
What renderings bind.

`Rendering.bound` forgets the text of a rendering and keeps the values of its placeholders, in
order, or the fault that stops it. Texts count for nothing then, so a rendering that is put together
from parts with separators and brackets binds what its parts bind, one after another, and it is
stopped where one of them is.
-/

namespace PortableSql

namespace Rendering

/-- The values that a rendering binds, in order, or the fault that stops it. -/
def bound (r : Rendering) : Except Fault (List Value) :=
  r.outcome.map (·.flatMap Piece.bindings)

/-- A rendering is not stopped. -/
def Renders (r : Rendering) : Prop :=
  ∃ values, r.bound = .ok values

instance (r : Rendering) : Decidable r.Renders :=
  match found : r.bound with
  | .ok values => isTrue ⟨values, found⟩
  | .error _ => isFalse fun ⟨_, given⟩ => nomatch found.symm.trans given

/-- The values that a rendering binds, and none where it is stopped. -/
def values (r : Rendering) : List Value :=
  match r.bound with
  | .ok values => values
  | .error _ => []

theorem Renders.bound_eq {r : Rendering} (renders : r.Renders) : r.bound = .ok r.values := by
  obtain ⟨values, given⟩ := renders
  rw [Rendering.values, given]

theorem bound_ok_iff {r : Rendering} {values : List Value} :
    r.bound = .ok values ↔ r.Renders ∧ values = r.values := by
  constructor
  · intro given
    have renders : r.Renders := ⟨values, given⟩
    exact ⟨renders, Except.ok.inj (given.symm.trans renders.bound_eq)⟩
  · rintro ⟨renders, rfl⟩
    exact renders.bound_eq

theorem exists_fault_of_not_renders {r : Rendering} (stopped : ¬r.Renders) :
    ∃ fault, r.bound = .error fault := by
  cases found : r.bound with
  | ok values => exact absurd ⟨values, found⟩ stopped
  | error fault => exact ⟨fault, rfl⟩

theorem bound_of_outcome {r : Rendering} {pieces : List Piece} (given : r.outcome = .ok pieces) :
    r.bound = .ok (pieces.flatMap Piece.bindings) := by
  rw [bound, given]
  rfl

/-- What binds values gives the pieces that hold them. -/
theorem outcome_of_bound {r : Rendering} {values : List Value} (given : r.bound = .ok values) :
    ∃ pieces, r.outcome = .ok pieces ∧ pieces.flatMap Piece.bindings = values := by
  unfold bound at given
  cases found : r.outcome with
  | error fault =>
    rw [found] at given
    cases given
  | ok pieces =>
    rw [found] at given
    exact ⟨pieces, rfl, Except.ok.inj given⟩

/-- A rendering is not stopped where what its values become is there. -/
theorem renders_of_map {r : Rendering} {f : List Value → List Value} {values : List Value}
    (given : r.bound.map f = .ok values) : r.Renders := by
  cases found : r.bound with
  | error fault =>
    rw [found] at given
    cases given
  | ok own => exact ⟨own, found⟩

@[simp] theorem bound_text (s : String) : (text s).bound = .ok [] := rfl

@[simp] theorem bound_nothing : nothing.bound = .ok [] := rfl

theorem bound_pure (pieces : List Piece) :
    bound (pure pieces) = .ok (pieces.flatMap Piece.bindings) := rfl

/-- A rendering that goes on from the pieces of another one is stopped where that one is. -/
theorem bound_bind (r : Rendering) (f : List Piece → Rendering) :
    bound (r >>= f) = r.outcome.bind fun pieces => (f pieces).bound := by
  unfold bound
  rw [Render.outcome_bind]
  cases r.outcome <;> rfl

@[simp] theorem bound_concat_nil : (concat []).bound = .ok [] := rfl

theorem bound_concat_cons (r : Rendering) (rs : List Rendering) :
    (concat (r :: rs)).bound =
      r.bound.bind fun values => (concat rs).bound.map (values ++ ·) := by
  have first : concat (r :: rs) = r >>= fun pieces => concat rs >>= fun more =>
    (pure (pieces ++ more) : Rendering) := rfl
  rw [first, bound_bind]
  unfold bound
  cases r.outcome with
  | error fault => rfl
  | ok pieces =>
    change Except.map _ (Render.outcome _) = _
    rw [Render.outcome_bind]
    cases (concat rs).outcome with
    | error fault => rfl
    | ok more =>
      change Except.ok ((pieces ++ more).flatMap Piece.bindings) = _
      rw [List.flatMap_append]
      rfl

/-- What binds nothing counts for nothing. -/
theorem bound_concat_cons_of_nil {r : Rendering} (silent : r.bound = .ok [])
    (rs : List Rendering) : (concat (r :: rs)).bound = (concat rs).bound := by
  rw [bound_concat_cons, silent]
  cases (concat rs).bound <;> rfl

@[simp] theorem bound_concat_text (s : String) (rs : List Rendering) :
    (concat (text s :: rs)).bound = (concat rs).bound :=
  bound_concat_cons_of_nil rfl rs

@[simp] theorem bound_concat_singleton (r : Rendering) : (concat [r]).bound = r.bound := by
  rw [bound_concat_cons, bound_concat_nil]
  cases r.bound with
  | error fault => rfl
  | ok values => exact congrArg Except.ok (List.append_nil values)

/-- What follows a part that binds nothing at the end of a sequence. -/
theorem bound_concat_pair_of_nil (r : Rendering) {last : Rendering} (silent : last.bound = .ok []) :
    (concat [r, last]).bound = r.bound := by
  rw [bound_concat_cons, bound_concat_singleton, silent]
  cases r.bound with
  | error fault => rfl
  | ok values => exact congrArg Except.ok (List.append_nil values)

@[simp] theorem bound_between (front back : String) (body : Rendering) :
    (between front back body).bound = body.bound := by
  rw [between, bound_concat_text, bound_concat_pair_of_nil body (bound_text back)]

/-- Renderings that bind the same one by one bind the same together. -/
theorem bound_concat_map_congr {α : Type} {f g : α → Rendering} {items : List α}
    (each : ∀ item ∈ items, (f item).bound = (g item).bound) :
    (concat (items.map f)).bound = (concat (items.map g)).bound := by
  induction items with
  | nil => rfl
  | cons item rest ih =>
    have others := ih fun other member => each other (List.mem_cons_of_mem _ member)
    rw [List.map_cons, List.map_cons, bound_concat_cons, bound_concat_cons, others,
      each item List.mem_cons_self]

@[simp] theorem bound_separated (separator : String) (rs : List Rendering) :
    (separated separator rs).bound = (concat rs).bound := by
  cases rs with
  | nil => rfl
  | cons r rs =>
    have others : (concat (rs.map fun item => concat [text separator, item])).bound =
        (concat (rs.map id)).bound := by
      refine bound_concat_map_congr fun item _ => ?_
      rw [bound_concat_text, bound_concat_singleton]
      rfl
    rw [separated, bound_concat_cons, others, List.map_id, ← bound_concat_cons]

/-- A sequence binds what its parts bind. -/
theorem bound_concat_map {α : Type} {f : α → Rendering} {g : α → List Value} {items : List α}
    (each : ∀ item ∈ items, (f item).bound = .ok (g item)) :
    (concat (items.map f)).bound = .ok (items.flatMap g) := by
  induction items with
  | nil => rfl
  | cons item rest ih =>
    have others := ih fun other member => each other (List.mem_cons_of_mem _ member)
    rw [List.map_cons, bound_concat_cons, others, each item List.mem_cons_self]
    rfl

/-- The pieces of a sequence are those of its first part and those of the rest. -/
theorem exists_outcome_of_concat {r : Rendering} {rs : List Rendering} {pieces : List Piece}
    (given : (concat (r :: rs)).outcome = .ok pieces) :
    ∃ front back, r.outcome = .ok front ∧ (concat rs).outcome = .ok back ∧
      pieces = front ++ back := by
  have first : concat (r :: rs) = r >>= fun front => concat rs >>= fun back =>
    (pure (front ++ back) : Rendering) := rfl
  rw [first, Render.outcome_bind] at given
  obtain ⟨front, own, given⟩ := bind_ok.mp given
  rw [Render.outcome_bind] at given
  obtain ⟨back, others, given⟩ := bind_ok.mp given
  exact ⟨front, back, own, others, (Except.ok.inj given).symm⟩

/-- A sequence that is not stopped is not stopped in any part. -/
theorem renders_of_concat {rs : List Rendering} (renders : (concat rs).Renders) :
    ∀ r ∈ rs, r.Renders := by
  induction rs with
  | nil => exact nofun
  | cons r rs ih =>
    obtain ⟨values, given⟩ := renders
    rw [bound_concat_cons] at given
    obtain ⟨own, first, given⟩ := bind_ok.mp given
    obtain ⟨more, others, -⟩ := map_ok.mp given
    exact List.forall_mem_cons.mpr ⟨⟨own, first⟩, ih ⟨more, others⟩⟩

end Rendering

namespace Statement

variable {s : Statement} {target : Target}

/-- What a statement compiles to binds what its rendering binds. -/
theorem bindings_compile :
    (s.compile target).outcome.map Sql.bindings = (s.render target).bound := by
  unfold Rendering.bound
  cases rendered : (s.render target).outcome with
  | error fault =>
    rw [compile_of_error rendered]
    rfl
  | ok pieces =>
    rw [compile_of_ok rendered]
    rfl

theorem compile_of_bound_error {fault : Fault} (stopped : (s.render target).bound = .error fault) :
    (s.compile target).outcome = .error fault := by
  rw [← bindings_compile] at stopped
  cases compiled : (s.compile target).outcome with
  | error other =>
    rw [compiled] at stopped
    cases stopped
    rfl
  | ok sql =>
    rw [compiled] at stopped
    cases stopped

theorem bound_of_compile {sql : Sql} (compiled : (s.compile target).outcome = .ok sql) :
    (s.render target).bound = .ok sql.bindings := by
  rw [← bindings_compile, compiled]
  rfl

end Statement

end PortableSql
