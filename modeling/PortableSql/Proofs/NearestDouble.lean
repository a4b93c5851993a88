import PortableSql.Number.Double

/-!
Whole numbers beyond the signed range as doubles.

Between `2 ^ 63` and `2 ^ 64` the doubles are the multiples of 2048. So an integer there becomes the
multiple nearest to it, the one with the even significand where two are equally near, and no other
double is nearer (`Double.roundsNearest_ofRatio`).
-/

namespace PortableSql

namespace BinaryFormat

/-! ### The rounded quotient -/

variable (num : Nat) {den : Nat}

/-- A rounded quotient is off by half of the divisor at most, and it is even where it is off by
half. -/
theorem divEven_spec (positive : 0 < den) :
    let off := ((divEven num den * den : Nat) - (num : Int)).natAbs
    2 * off ≤ den ∧ (2 * off = den → divEven num den % 2 = 0) := by
  have whole : num / den * den + num % den = num := by
    rw [Nat.mul_comm]
    exact Nat.div_add_mod num den
  have rest := Nat.mod_lt num positive
  have next : (num / den + 1) * den = num / den * den + den := Nat.succ_mul _ _
  intro off
  unfold off divEven
  dsimp only
  split
  · omega
  · split
    · rw [next]
      omega
    · rcases Nat.mod_two_eq_zero_or_one (num / den) with even | odd
      · rw [even, Nat.add_zero]
        omega
      · rw [odd, next]
        omega

end BinaryFormat

namespace Double

/-! ### Exact values -/

/-- The numerator of a finite number over the second part of its ratio. -/
def numerator (x : Double) : Int :=
  if x.isNegative then -(x.ratio.1 : Int) else x.ratio.1

/-- How far a finite number is from a whole number, over the second part of its ratio. -/
def offBy (x : Double) (n : Int) : Nat :=
  (x.numerator - n * x.ratio.2).natAbs

/-- A finite number to which no other is nearer, with an even significand where another number is as
near. -/
structure RoundsNearest (n : Int) (x : Double) : Prop where
  finite : x.isFinite = true
  nearest : ∀ y : Double, y.isFinite = true → x.offBy n * y.ratio.2 ≤ y.offBy n * x.ratio.2
  even : ∀ y : Double, y.isFinite = true → x.offBy n * y.ratio.2 = y.offBy n * x.ratio.2 →
    x.numerator * y.ratio.2 ≠ y.numerator * x.ratio.2 → x.significand % 2 = 0

theorem significand_lt (x : Double) : x.significand < 9007199254740992 := by
  have fraction : x.fractionBits < 4503599627370496 := Nat.mod_lt _ (by decide)
  unfold significand
  simp only [Nat.pow_eq]
  split <;> omega

/-- A finite number is a multiple of 2048, or its magnitude is less than `2 ^ 63`. -/
theorem ratio_cases (x : Double) :
    (∃ k, x.ratio = (2048 * k, 1)) ∨
      x.ratio.1 < 9223372036854775808 ∧ 0 < x.ratio.2 := by
  by_cases large : 1086 ≤ x.exponentBits
  · left
    have exponent : x.exponent = ((x.exponentBits - 1086 : Nat) : Int) + 11 := by
      unfold exponent
      split <;> omega
    have power : Nat.pow 2 x.exponent.toNat = 2048 * 2 ^ (x.exponentBits - 1086) := by
      have sum : x.exponent.toNat = 11 + (x.exponentBits - 1086) := by omega
      rw [sum, Nat.pow_eq, Nat.pow_add]
    have none : (-x.exponent).toNat = 0 := by omega
    refine ⟨x.significand * 2 ^ (x.exponentBits - 1086), ?_⟩
    rw [ratio, power, none, Nat.mul_left_comm]
  · right
    have exponent : x.exponent ≤ 10 := by
      unfold exponent
      split <;> omega
    have power : Nat.pow 2 x.exponent.toNat ≤ 2 ^ 10 :=
      Nat.pow_le_pow_right (by decide) (by omega)
    refine ⟨?_, Nat.pow_pos (by decide)⟩
    calc x.significand * Nat.pow 2 x.exponent.toNat
        ≤ x.significand * 2 ^ 10 := Nat.mul_le_mul_left _ power
      _ < 9007199254740992 * 2 ^ 10 := Nat.mul_lt_mul_of_pos_right x.significand_lt (by decide)
      _ = 9223372036854775808 := by decide

/-! ### Integers of 64 bits -/

section

variable {n : Nat} (low : 9223372036854775808 ≤ n) (high : n < 18446744073709551616)

include low high

theorem divEven_bounds : 4503599627370496 ≤ BinaryFormat.divEven n 2048 ∧
    BinaryFormat.divEven n 2048 ≤ 9007199254740992 := by
  have positive : 0 < 2048 := by decide
  have off := (BinaryFormat.divEven_spec n positive).1
  omega

/-- The bits of the double, whether or not the rounding carries into the exponent. -/
theorem ofRatio_eq : ofRatio false n 1 =
    ⟨UInt64.ofNat (1085 * 4503599627370496 + BinaryFormat.divEven n 2048)⟩ := by
  have bounds := divEven_bounds low high
  have nonzero : n ≠ 0 := by omega
  have log : n.log2 = 63 := (Nat.log2_eq_iff nonzero).mpr ⟨low, high⟩
  have floor : BinaryFormat.floorLog2 n 1 = 63 := by
    have scaled : ¬ n * Nat.pow 2 0 < 1 * Nat.pow 2 63 := by
      simp only [Nat.pow_eq]
      omega
    unfold BinaryFormat.floorLog2
    rw [log]
    exact if_neg scaled
  have exponent : max BinaryFormat.double.minExponent
      (63 - ((BinaryFormat.double.precision - 1 : Nat) : Int)) = 11 := by decide
  have quotient : BinaryFormat.divEven (n * Nat.pow 2 (-11 : Int).toNat)
      (1 * Nat.pow 2 (11 : Int).toNat) = BinaryFormat.divEven n 2048 :=
    congrArg (BinaryFormat.divEven · 2048) (Nat.mul_one n)
  unfold ofRatio BinaryFormat.round
  rw [if_neg nonzero, floor]
  simp only [exponent, quotient]
  generalize BinaryFormat.divEven n 2048 = m at bounds ⊢
  by_cases carry : m = Nat.pow 2 BinaryFormat.double.precision
  · subst carry
    decide
  · rw [if_neg carry, if_neg (by decide : ¬BinaryFormat.double.maxExponent < 11)]
    exact congrArg (fun k => Double.mk (UInt64.ofNat k)) (Nat.zero_add _)

/-- The double is a multiple of 2048, and it is not negative. -/
theorem ofRatio_parts :
    let x := ofRatio false n 1
    let m := BinaryFormat.divEven n 2048
    x.isFinite = true ∧ x.isNegative = false ∧ x.ratio = (2048 * m, 1) ∧
      (x.significand = m ∨ x.significand % 2 = 0) := by
  have bounds := divEven_bounds low high
  intro x m
  have bits : x.bits.toNat = 1085 * 4503599627370496 + m := by
    have whole : x = ⟨UInt64.ofNat (1085 * 4503599627370496 + m)⟩ := ofRatio_eq low high
    rw [whole]
    refine UInt64.toNat_ofNat_of_lt' ?_
    unfold UInt64.size
    omega
  have sign : x.isNegative = false := by
    rw [isNegative, bits, Nat.pow_eq, beq_eq_false_iff_ne]
    omega
  by_cases carry : m = 9007199254740992
  · have exponentBits : x.exponentBits = 1087 := by
      rw [exponentBits, bits, Nat.pow_eq, Nat.pow_eq]
      omega
    have fraction : x.fractionBits = 0 := by
      rw [fractionBits, bits, Nat.pow_eq]
      omega
    have significand : x.significand = 4503599627370496 := by
      rw [Double.significand, exponentBits, fraction]
      rfl
    have exponent : x.exponent = 12 := by
      rw [Double.exponent, exponentBits]
      rfl
    refine ⟨by rw [isFinite, exponentBits]; rfl, sign, ?_, .inr (by rw [significand])⟩
    rw [ratio, significand, exponent, carry]
    rfl
  · have exponentBits : x.exponentBits = 1086 := by
      rw [exponentBits, bits, Nat.pow_eq, Nat.pow_eq]
      omega
    have fraction : x.fractionBits = m - 4503599627370496 := by
      rw [fractionBits, bits, Nat.pow_eq]
      omega
    have significand : x.significand = m := by
      rw [Double.significand, exponentBits, fraction, if_neg (by decide), Nat.pow_eq]
      omega
    have exponent : x.exponent = 11 := by
      rw [Double.exponent, exponentBits]
      rfl
    refine ⟨by rw [isFinite, exponentBits]; rfl, sign, ?_, .inl significand⟩
    rw [ratio, significand, exponent, Nat.mul_comm m]
    rfl

omit high in
/-- A finite number is a multiple of 2048, or farther away than `2 ^ 63`. -/
theorem offBy_cases (y : Double) :
    (∃ k : Int, y.numerator = 2048 * k ∧ y.ratio.2 = 1) ∨
      (n - 9223372036854775808) * y.ratio.2 < y.offBy n := by
  rcases y.ratio_cases with ⟨k, ratio⟩ | ⟨small, positive⟩
  · left
    rw [numerator, ratio]
    split
    · exact ⟨-k, by omega, rfl⟩
    · exact ⟨k, by omega, rfl⟩
  · right
    have scaled : (n - 9223372036854775808) * y.ratio.2 + 9223372036854775808 * y.ratio.2 =
        n * y.ratio.2 := by
      rw [← Nat.add_mul, Nat.sub_add_cancel low]
    have product : (n : Int) * (y.ratio.2 : Int) = (n * y.ratio.2 : Nat) :=
      (Int.natCast_mul ..).symm
    rw [offBy, product]
    unfold numerator
    split <;> omega

/-- An integer beyond the signed range is rounded to the nearest double. -/
theorem roundsNearest_ofRatio : RoundsNearest n (ofRatio false n 1) := by
  obtain ⟨finite, sign, ratio, parity⟩ := ofRatio_parts low high
  have positive : 0 < 2048 := by decide
  obtain ⟨near, tie⟩ := BinaryFormat.divEven_spec n positive
  have bounds := divEven_bounds low high
  generalize ofRatio false n 1 = x at finite sign ratio parity ⊢
  generalize BinaryFormat.divEven n 2048 = m at near tie ratio parity bounds
  have numerator : x.numerator = 2048 * m := by
    rw [Double.numerator, sign, ratio]
    rfl
  have own : x.offBy n = ((2048 * m : Nat) - (n : Int)).natAbs := by
    rw [offBy, numerator, ratio]
    omega
  have denominator : x.ratio.2 = 1 := by
    rw [ratio]
  -- `2 ^ 63` is a multiple of 2048, so no more than that distance is possible.
  have reach : x.offBy n ≤ n - 9223372036854775808 := by
    omega
  have scaled (y : Double) : x.offBy n * y.ratio.2 ≤ (n - 9223372036854775808) * y.ratio.2 :=
    Nat.mul_le_mul_right _ reach
  refine ⟨finite, fun y _ => ?_, fun y _ same other => ?_⟩
  · rw [denominator, Nat.mul_one]
    rcases offBy_cases low y with ⟨k, multiple, one⟩ | farther
    · rw [one, Nat.mul_one, own, offBy, multiple, one]
      omega
    · exact Nat.le_of_lt (Nat.lt_of_le_of_lt (scaled y) farther)
  · rw [denominator, Nat.mul_one] at same
    rcases offBy_cases low y with ⟨k, multiple, one⟩ | farther
    · rw [one, Nat.mul_one, own, offBy, multiple, one] at same
      rw [numerator, multiple, denominator, one] at other
      have half : 2 * ((m * 2048 : Nat) - (n : Int)).natAbs = 2048 := by
        omega
      have even := tie half
      omega
    · exact absurd same (Nat.ne_of_lt (Nat.lt_of_le_of_lt (scaled y) farther))

end

end Double

end PortableSql
