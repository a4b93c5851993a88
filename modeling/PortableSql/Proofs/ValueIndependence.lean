import PortableSql.Proofs.SimilarCalls
import PortableSql.Proofs.ValueAgreement

/-!
Values never reach the text of a statement.

Run the same calls twice with other values in the places of values. As long as each value keeps its
shape, that is whether it is null and how many items it has as a list, the same fault stops both
statements or both have one text. `R` says which values are exchanged for which: since the theorem
holds for every `R`, what is bound in one place of the two statements is the same, or it is what was
exchanged, as a whole or item by item.
-/

namespace PortableSql

namespace Value

/-- The items of a list. -/
def items? : Value → Option (List Value)
  | .array items => some items
  | _ => none

/-- Values that are null together and are lists of one length together. -/
structure SameShape (v w : Value) : Prop where
  null : v.isNull = w.isNull
  items : v.items?.map List.length = w.items?.map List.length

/-- Values given in one place: the same, or exchanged for one of the same shape. -/
def Given (R : Value → Value → Prop) (v w : Value) : Prop :=
  v = w ∨ (R v w ∧ SameShape v w)

/-- Values bound in one place: the same, exchanged for each other, or items in the same place of
lists that are exchanged for each other. -/
inductive Bound (R : Value → Value → Prop) : Value → Value → Prop where
  | same (v : Value) : Bound R v v
  | exchanged {v w : Value} (related : R v w) : Bound R v w
  | item {xs ys : List Value} (related : R (.array xs) (.array ys)) (i : Nat) {v w : Value}
      (first : xs[i]? = some v) (second : ys[i]? = some w) : Bound R v w

variable {R : Value → Value → Prop}

theorem SameShape.symm {v w : Value} (shape : SameShape v w) : SameShape w v :=
  ⟨shape.null.symm, shape.items.symm⟩

/-- What has the shape of a list is a list of its length. -/
theorem SameShape.of_array {xs : List Value} {w : Value} (shape : SameShape (.array xs) w) :
    ∃ ys, w = .array ys ∧ xs.length = ys.length := by
  have lengths := shape.items
  cases w with
  | array ys => exact ⟨ys, rfl, Option.some.inj lengths⟩
  | null | bool | int | float | text | blob | date | timestamp | json | returning => cases lengths

/-- Lists of one length are paired by what stands in the same place. -/
theorem paired_of_getElem? {xs ys : List Value} {Q : Value → Value → Prop}
    (length : xs.length = ys.length)
    (each : ∀ (i : Nat) v w, xs[i]? = some v → ys[i]? = some w → Q v w) : Paired Q xs ys := by
  induction xs generalizing ys with
  | nil =>
    cases ys with
    | nil => exact .nil
    | cons => cases length
  | cons x xs ih =>
    cases ys with
    | nil => cases length
    | cons y ys =>
      refine .cons (each 0 x y rfl rfl) (ih (Nat.succ.inj length) fun i v w first second => ?_)
      exact each (i + 1) v w first second

/-- Exchanging values of the same shape is all that a builder may tell apart. -/
theorem widens_given (R : Value → Value → Prop) : Widens (Given R) (Bound R) where
  refl := fun _ => .inl rfl
  wider := by
    rintro v w (rfl | ⟨related, -⟩)
    · exact .same v
    · exact .exchanged related
  null := by
    rintro v w (rfl | ⟨-, shape⟩)
    · rfl
    · exact shape.null
  items := by
    rintro xs w (rfl | ⟨related, shape⟩)
    · exact ⟨xs, rfl, .refl fun v _ => .same v⟩
    · obtain ⟨ys, rfl, length⟩ := shape.of_array
      refine ⟨ys, rfl, paired_of_getElem? length fun i v w first second => ?_⟩
      exact .item related i first second
  itemsBack := by
    rintro v ys (rfl | ⟨-, shape⟩)
    · exact ⟨ys, rfl⟩
    · obtain ⟨xs, rfl, -⟩ := shape.symm.of_array
      exact ⟨xs, rfl⟩

end Value

/-- Calls that differ in values of one shape make statements that the same fault stops, or that have
the same text and bind the same values but for those exchanged. -/
theorem Call.compile_of_exchanged (R : Value → Value → Prop) {cs ds : List Call}
    (similar : Paired (Call.Similar (Value.Given R)) cs ds) (start target : Target) :
    let s := (runAll cs (.start start)).value.statement
    let s' := (runAll ds (.start start)).value.statement
    (∃ fault, (s.compile target).outcome = .error fault ∧
        (s'.compile target).outcome = .error fault) ∨
      ∃ q r, (s.compile target).outcome = .ok q ∧ (s'.compile target).outcome = .ok r ∧
        q.text = r.text ∧ Paired (Value.Bound R) q.bindings r.bindings := by
  intro s s'
  have alike : Statement.Alike (Value.Bound R) s s' :=
    (similar_runAll (Value.widens_given R) similar (.start start)).statement
  cases alike.agree (Statement.assembles_alike target .same) with
  | @stopped fault first second =>
    exact .inl ⟨fault, Statement.compile_of_error first, Statement.compile_of_error second⟩
  | given first second related =>
    refine .inr ⟨_, _, Statement.compile_of_ok first, Statement.compile_of_ok second, ?_, ?_⟩
    · exact Piece.Alike.text_ofPieces related
    · exact Piece.Alike.bindings_ofPieces related

/-- A list and an assigned value exchanged for others of their shapes. -/
theorem Call.compile_of_exchanged_update :
    let R : Value → Value → Prop := fun v w =>
      (v = .int 1 ∧ w = .text "'; drop table t") ∨
        (v = .array [.int 2, .int 3] ∧ w = .array [.null, .text "?"])
    let calls (v w : Value) : List Call :=
      [.source (.name "t"), .update [("n", .value v)] [],
        .filter .wheres {} (.isIn (.name "id") (.value w))]
    let cs := calls (.int 1) (.array [.int 2, .int 3])
    let ds := calls (.text "'; drop table t") (.array [.null, .text "?"])
    Paired (Call.Similar (Value.Given R)) cs ds ∧
      ∃ q r, ((runAll cs (.start {})).value.statement.compile {}).outcome = .ok q ∧
        ((runAll ds (.start {})).value.statement.compile {}).outcome = .ok r ∧
        q.text = r.text ∧ q.bindings = [.int 1, .int 2, .int 3] ∧
        r.bindings = [.text "'; drop table t", .null, .text "?"] ∧
        Paired (Value.Bound R) q.bindings r.bindings := by
  intro R calls cs ds
  have first : Value.Given R (.int 1) (.text "'; drop table t") :=
    .inr ⟨.inl ⟨rfl, rfl⟩, rfl, rfl⟩
  have second : Value.Given R (.array [.int 2, .int 3]) (.array [.null, .text "?"]) :=
    .inr ⟨.inr ⟨rfl, rfl⟩, rfl, rfl⟩
  have similar : Paired (Call.Similar (Value.Given R)) cs ds :=
    .cons (.source (.name "t")) (.cons (.update [] (.cons (.value first) .nil))
      (.cons (.filter _ _ (.isIn (.name "id") (.value second))) .nil))
  refine ⟨similar, ?_⟩
  rcases compile_of_exchanged R similar {} {} with
    ⟨fault, stopped, -⟩ | ⟨q, r, compiled, also, text, bound⟩
  · cases stopped
  · refine ⟨q, r, compiled, also, text, ?_, ?_, bound⟩
    · obtain ⟨rfl⟩ : q = _ := Except.ok.inj compiled.symm
      rfl
    · obtain ⟨rfl⟩ : r = _ := Except.ok.inj also.symm
      rfl

end PortableSql
