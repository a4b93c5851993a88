import PortableSql.Proofs.NearestDouble
import PortableSql.Value.Document

/-!
Documents as values and back.

A document that is bound as a value keeps its arrays, place by place, and an object is kept as it is
written. An integer of the signed range stays that integer. Only an integer beyond it, outside of
all objects, becomes a double, the nearest one, so a document is given back exactly if it has no
such integer (`Value.toJson_ofJson`).
-/

namespace PortableSql

/-! ### Places in arrays -/

/-- What is at a place in a document: a position in an array, a position in the array there, and so
on. -/
def Json.at? : List Nat → Json → Option Json
  | [], document => some document
  | i :: path, .array items => items[i]?.bind (at? path)
  | _ :: _, _ => none

/-- What is at a place in a value. -/
def Value.at? : List Nat → Value → Option Value
  | [], value => some value
  | i :: path, .array items => items[i]?.bind (at? path)
  | _ :: _, _ => none

namespace Value

theorem ofJsons_eq_map (items : List Json) : ofJsons items = items.map ofJson := by
  induction items with
  | nil => rfl
  | cons item items ih => rw [ofJsons, ih, List.map_cons]

/-- A number is at no place but its own. -/
theorem at?_ofNumber (i : Nat) (path : List Nat) (n : JsonNumber) :
    (ofNumber n).at? (i :: path) = none := by
  cases n with
  | integer n _ =>
    rw [ofNumber]
    split <;> rfl
  | double => rfl

/-- At each place of a document its value has the value of what is there. -/
theorem at?_ofJson (path : List Nat) (d : Json) :
    (ofJson d).at? path = (d.at? path).map ofJson := by
  induction path generalizing d with
  | nil => rfl
  | cons i path ih =>
    cases d with
    | array items =>
      rw [ofJson, at?, Json.at?, ofJsons_eq_map, List.getElem?_map]
      cases items[i]? with
      | none => rfl
      | some item => exact ih item
    | number n => exact at?_ofNumber i path n
    | null | bool | string | object => rfl

end Value

/-! ### Integers beyond the signed range -/

/-- A number with an integer beyond the signed range replaced by the nearest double. -/
def JsonNumber.rounded : JsonNumber → JsonNumber
  | .integer n bounded =>
    if small : n < 0x8000000000000000 then .integer n bounded
    else .double (.ofRatio false n.toNat 1)
      (Double.roundsNearest_ofRatio (by omega) (by omega)).finite
  | other => other

mutual

/-- A document with the numbers outside of its objects rounded. -/
def Json.rounded : Json → Json
  | .number value => .number value.rounded
  | .array items => .array (Json.roundeds items)
  | other => other

/-- Documents with the numbers outside of their objects rounded. -/
def Json.roundeds : List Json → List Json
  | [] => []
  | item :: items => item.rounded :: Json.roundeds items

end

/-- Each integer of a document, outside of its objects, is of the signed range. -/
def Json.Narrow (d : Json) : Prop :=
  ∀ path n bounded, d.at? path = some (.number (.integer n bounded)) → n < 0x8000000000000000

namespace Json

theorem narrow_array {items : List Json} :
    (array items).Narrow ↔ ∀ item ∈ items, item.Narrow := by
  constructor
  · intro narrow item member path n bounded found
    obtain ⟨i, here⟩ := List.mem_iff_getElem?.mp member
    refine narrow (i :: path) n bounded ?_
    rw [at?, here]
    exact found
  · intro each path n bounded found
    cases path with
    | nil => cases found
    | cons i path =>
      rw [at?] at found
      obtain ⟨item, here, found⟩ := Option.bind_eq_some_iff.mp found
      exact each item (List.mem_of_getElem? here) path n bounded found

theorem rounded_number_iff {value : JsonNumber} :
    value.rounded = value ↔ (number value).Narrow := by
  cases value with
  | integer n bounded =>
    rw [JsonNumber.rounded]
    split
    · rename_i small
      refine iff_of_true rfl fun path m _ found => ?_
      cases path with
      | nil =>
        cases found
        exact small
      | cons => cases found
    · rename_i wide
      exact iff_of_false nofun fun narrow => wide (narrow [] n bounded rfl)
  | double =>
    refine iff_of_true rfl fun path n bounded found => ?_
    cases path <;> cases found

mutual

/-- Rounding leaves a document alone exactly if its integers are of the signed range. -/
theorem rounded_eq_self_iff : ∀ d : Json, d.rounded = d ↔ d.Narrow
  | .number value => by
    rw [rounded, ← rounded_number_iff]
    exact ⟨number.inj, congrArg number⟩
  | .array items => by
    rw [rounded, narrow_array, ← roundeds_eq_self_iff items]
    exact ⟨array.inj, congrArg array⟩
  | .null | .bool _ | .string _ | .object _ => by
    refine iff_of_true rfl fun path n bounded found => ?_
    cases path <;> cases found

theorem roundeds_eq_self_iff : ∀ items : List Json,
    roundeds items = items ↔ ∀ item ∈ items, item.Narrow
  | [] => iff_of_true rfl nofun
  | item :: items => by
    rw [roundeds, List.forall_mem_cons, ← rounded_eq_self_iff item, ← roundeds_eq_self_iff items]
    exact List.cons_eq_cons

end

end Json

/-! ### There and back -/

namespace Value

theorem toJson_ofNumber (n : JsonNumber) : (ofNumber n).toJson = .number n.rounded := by
  cases n with
  | integer n bounded =>
    rw [ofNumber, JsonNumber.rounded]
    split
    · rename_i small
      have same : (Int64.ofInt n).toInt = n := Int64.toInt_ofInt_of_le (by omega) (by omega)
      simp only [toJson, JsonNumber.ofInt64, same]
    · rename_i wide
      exact dif_pos (Double.roundsNearest_ofRatio (by omega) (by omega)).finite
  | double x finite => exact dif_pos finite

mutual

theorem toJson_ofJson_eq : ∀ d : Json, (ofJson d).toJson = d.rounded
  | .number n => toJson_ofNumber n
  | .array items => congrArg Json.array (toJsons_ofJsons_eq items)
  | .null | .bool _ | .string _ | .object _ => rfl

theorem toJsons_ofJsons_eq : ∀ items : List Json, toJsons (ofJsons items) = Json.roundeds items
  | [] => rfl
  | item :: items => by
    rw [ofJsons, toJsons, toJson_ofJson_eq item, toJsons_ofJsons_eq items]
    rfl

end

/-- A document is given back with its integers beyond the signed range rounded, so exactly as it was
if there is none of them outside of its objects. There, an integer of the signed range is bound as
an integer, any other as the double nearest to it, and an object as it is. -/
theorem toJson_ofJson (d : Json) :
    (ofJson d).toJson = d.rounded ∧ (d.rounded = d ↔ d.Narrow) ∧
    (∀ path n bounded, d.at? path = some (.number (.integer n bounded)) →
      (n < 0x8000000000000000 →
        ∃ i : Int64, (ofJson d).at? path = some (.int i) ∧ i.toInt = n) ∧
      (0x8000000000000000 ≤ n →
        ∃ x : Double, (ofJson d).at? path = some (.float x) ∧ x.RoundsNearest n)) ∧
    ∀ path members, d.at? path = some (.object members) →
      (ofJson d).at? path = some (.json (.object members)) := by
  refine ⟨toJson_ofJson_eq d, d.rounded_eq_self_iff, fun path n bounded found => ?_,
    fun path members found => by rw [at?_ofJson, found]; rfl⟩
  rw [at?_ofJson, found]
  refine ⟨fun small => ⟨Int64.ofInt n, ?_, Int64.toInt_ofInt_of_le (by omega) (by omega)⟩,
    fun wide => ⟨.ofRatio false n.toNat 1, ?_, ?_⟩⟩
  · exact congrArg some (if_pos small)
  · exact congrArg some (if_neg (Int.not_lt.mpr wide))
  · have nearest := Double.roundsNearest_ofRatio (n := n.toNat) (by omega) (by omega)
    rwa [Int.toNat_of_nonneg (by omega)] at nearest

/-- The greatest integer of the signed range, and the greatest integer of 64 bits: in an array it is
rounded to `2 ^ 64`, and in an object it is kept. -/
theorem toJson_ofJson_nested :
    let least := Json.number (.integer 0x7FFFFFFFFFFFFFFF (by decide))
    let greatest := Json.number (.integer 0xFFFFFFFFFFFFFFFF (by decide))
    let d := Json.array [least, .array [greatest, .object [("b", greatest), ("a", .null)]]]
    (∃ i : Int64, (ofJson d).at? [0] = some (.int i) ∧ i.toInt = 0x7FFFFFFFFFFFFFFF) ∧
      (∃ x : Double, (ofJson d).at? [1, 0] = some (.float x) ∧
        x.RoundsNearest 0xFFFFFFFFFFFFFFFF ∧ x.bits = 0x43F0000000000000) ∧
      (ofJson d).at? [1, 1] = some (.json (.object [("b", greatest), ("a", .null)])) ∧
      (ofJson d).toJson ≠ d := by
  intro least greatest d
  obtain ⟨whole, same, numbers, objects⟩ := toJson_ofJson d
  obtain ⟨x, bound, nearest⟩ := (numbers [1, 0] 0xFFFFFFFFFFFFFFFF (by decide) rfl).2 (by decide)
  have bits : x.bits = 0x43F0000000000000 := by
    have rounded : Double.ofRatio false 0xFFFFFFFFFFFFFFFF 1 = ⟨0x43F0000000000000⟩ := by
      decide +kernel
    have found : (ofJson d).at? [1, 0] = some (.float ⟨0x43F0000000000000⟩) :=
      congrArg (fun y => some (Value.float y)) rounded
    cases bound.symm.trans found
    rfl
  refine ⟨(numbers [0] _ (by decide) rfl).1 (by decide), ⟨x, bound, nearest, bits⟩,
    objects [1, 1] _ rfl, ?_⟩
  rw [whole, Ne, same]
  intro narrow
  exact absurd (narrow [1, 0] 0xFFFFFFFFFFFFFFFF (by decide) rfl) (by decide)

/-- The least integer beyond the signed range is bound as a double. -/
theorem toJson_ofJson_ne :
    let d := Json.number (.integer 9223372036854775808 (by decide))
    ofJson d = .float ⟨0x43E0000000000000⟩ ∧ (ofJson d).toJson ≠ d := by
  intro d
  have bound : ofJson d = .float ⟨0x43E0000000000000⟩ := by
    have bits : Double.ofRatio false 9223372036854775808 1 = ⟨0x43E0000000000000⟩ := by
      decide +kernel
    exact congrArg Value.float bits
  have written : (ofJson d).toJson = .number (.double ⟨0x43E0000000000000⟩ (by decide)) := by
    rw [bound, toJson]
    exact dif_pos (by decide)
  refine ⟨bound, fun same => ?_⟩
  have numbers := Json.number.inj (written.symm.trans same)
  cases numbers

end Value

end PortableSql
