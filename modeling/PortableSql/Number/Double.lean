/-!
Binary floating-point numbers, held as their bits.

A finite number is `m * 2 ^ q` for its significand `m` and exponent `q`. Every operation here goes
through an exact ratio of natural numbers and is rounded once, to the nearest number and to the
even significand when two are equally near, so that nothing depends on the floating-point unit.
-/

namespace PortableSql

/-- A 64-bit binary floating-point number. -/
structure Double where
  bits : UInt64
deriving DecidableEq

/-- The finite numbers `m * 2 ^ q` with `m < 2 ^ precision` and `minExponent ≤ q ≤ maxExponent`. -/
structure BinaryFormat where
  precision : Nat
  minExponent : Int
  maxExponent : Int
deriving DecidableEq

namespace BinaryFormat

/-- The format of a 64-bit number. -/
def double : BinaryFormat := ⟨53, -1074, 971⟩

/-- The quotient rounded to the nearest integer, a half to the even one. -/
def divEven (num den : Nat) : Nat :=
  let quotient := num / den
  let twice := 2 * (num % den)
  if twice < den then quotient
  else if den < twice then quotient + 1
  else quotient + quotient % 2

/-- The greatest `e` with `2 ^ e ≤ num / den`, for positive `num` and `den`. -/
def floorLog2 (num den : Nat) : Int :=
  let e : Int := (num.log2 : Int) - (den.log2 : Int)
  if num * Nat.pow 2 (-e).toNat < den * Nat.pow 2 e.toNat then e - 1 else e

/-- The significand and exponent nearest to `num / den`, or nothing when that is too great. -/
def round (format : BinaryFormat) (num den : Nat) : Option (Nat × Int) :=
  if num = 0 then
    some (0, format.minExponent)
  else
    let q := max format.minExponent (floorLog2 num den - (format.precision - 1 : Nat))
    let m := divEven (num * Nat.pow 2 (-q).toNat) (den * Nat.pow 2 q.toNat)
    let (m, q) := if m = Nat.pow 2 format.precision then (m / 2, q + 1) else (m, q)
    if format.maxExponent < q then none else some (m, q)

end BinaryFormat

namespace Double

/-- Whether the sign bit is set. -/
def isNegative (x : Double) : Bool :=
  x.bits.toNat / Nat.pow 2 63 == 1

/-- The eleven exponent bits. -/
def exponentBits (x : Double) : Nat :=
  x.bits.toNat / Nat.pow 2 52 % Nat.pow 2 11

/-- The fifty-two bits below the exponent. -/
def fractionBits (x : Double) : Nat :=
  x.bits.toNat % Nat.pow 2 52

/-- Neither an infinity nor a NaN. -/
def isFinite (x : Double) : Bool :=
  x.exponentBits != 2047

/-- Not a number. -/
def isNaN (x : Double) : Bool :=
  x.exponentBits == 2047 && x.fractionBits != 0

/-- Zero of either sign. -/
def isZero (x : Double) : Bool :=
  x.exponentBits == 0 && x.fractionBits == 0

/-- The significand of a finite number. -/
def significand (x : Double) : Nat :=
  if x.exponentBits = 0 then x.fractionBits else Nat.pow 2 52 + x.fractionBits

/-- The exponent of a finite number. -/
def exponent (x : Double) : Int :=
  if x.exponentBits = 0 then -1074 else (x.exponentBits : Int) - 1075

/-- The number with the given sign and the magnitude whose bits are given. -/
def withSign (negative : Bool) (magnitude : Nat) : Double :=
  ⟨UInt64.ofNat ((if negative then Nat.pow 2 63 else 0) + magnitude)⟩

/-- An infinity. -/
def infinity (negative : Bool) : Double :=
  withSign negative (2047 * Nat.pow 2 52)

/-- Zero. -/
def zero (negative : Bool) : Double :=
  withSign negative 0

/-- The number `m * 2 ^ q`, for a pair that `BinaryFormat.double.round` returns. -/
def ofParts (negative : Bool) (m : Nat) (q : Int) : Double :=
  withSign negative ((q + 1074).toNat * Nat.pow 2 52 + m)

/-- The number nearest to `num / den`, an infinity beyond the greatest finite number. -/
def ofRatio (negative : Bool) (num den : Nat) : Double :=
  match BinaryFormat.double.round num den with
  | some (m, q) => ofParts negative m q
  | none => infinity negative

/-- The magnitude of a finite number as an exact fraction. -/
def ratio (x : Double) : Nat × Nat :=
  (x.significand * Nat.pow 2 x.exponent.toNat, Nat.pow 2 (-x.exponent).toNat)

/-- The product of a finite number and the fraction `num / den`, rounded. -/
def scale (x : Double) (num den : Nat) : Double :=
  ofRatio x.isNegative (x.ratio.1 * num) (x.ratio.2 * den)

/-- The number nearest to `10 ^ k`. -/
def tenTo (k : Nat) : Double :=
  ofRatio false (Nat.pow 10 k) 1

/-- The product with the number nearest to `10 ^ k`. -/
def mulTenTo (x : Double) (k : Nat) : Double :=
  x.scale (tenTo k).ratio.1 (tenTo k).ratio.2

/-- The quotient by the number nearest to `10 ^ k`. -/
def divTenTo (x : Double) (k : Nat) : Double :=
  x.scale (tenTo k).ratio.2 (tenTo k).ratio.1

example : ofRatio false 1 10 = ⟨0x3FB999999999999A⟩ := by decide +kernel
example : ofRatio true (Nat.pow 2 53 + 1) 1 = ⟨0xC340000000000000⟩ := by decide +kernel
example : ofRatio false (Nat.pow 10 309) 1 = infinity false := by decide +kernel

end Double

end PortableSql
