import PortableSql.Number.Double

/-!
The shortest decimal that reads back as a given binary number.

The reals that round to a finite number form an interval around it. `Double.shortest` takes the
coarsest decimal grid that meets the interval and, of the grid points inside, the one nearest to the
number. Two points can be equally near; the tie is then the caller's to decide.
-/

namespace PortableSql

/-- The number `digits * 10 ^ exponent`. -/
structure Decimal where
  digits : Nat
  exponent : Int
deriving DecidableEq

/-- Which of two equally near decimals is taken. -/
inductive Tie where
  | even
  | up
deriving DecidableEq

namespace Decimal

/-- Drops up to `fuel` trailing zeros. -/
def dropZeros : Nat → Decimal → Decimal
  | 0, d => d
  | fuel + 1, d =>
    if d.digits ≠ 0 ∧ d.digits % 10 = 0 then
      dropZeros fuel ⟨d.digits / 10, d.exponent + 1⟩
    else
      d

/-- The digits as text. -/
def text (d : Decimal) : List Char :=
  Nat.toDigits 10 d.digits

/-- The exponent of the leading digit. -/
def leading (d : Decimal) : Int :=
  d.exponent + (d.text.length : Int) - 1

end Decimal

namespace Double

/-- The greatest `k` with `10 ^ k ≤ num / den`, for positive `num` and `den`. -/
def floorLog10 (num den : Nat) : Int :=
  let reached (k : Int) : Bool := den * Nat.pow 10 k.toNat ≤ num * Nat.pow 10 (-k).toNat
  let k := Int.fdiv (BinaryFormat.floorLog2 num den * 30103) 100000
  if reached (k + 1) then k + 1 else if reached k then k else k - 1

/-- The lower end, the number itself and the upper end of the interval of reals that round to a
positive number, as multiples of a quarter of its last place. -/
def interval (x : Double) : Nat × Nat × Nat :=
  let m := x.significand
  let below := if x.fractionBits = 0 ∧ 1 < x.exponentBits then 1 else 2
  (4 * m - below, 4 * m, 4 * m + 2)

/-- The point of the grid of multiples of `10 ^ exponent` that stands for a positive number, if one
lies in its interval. -/
def gridPoint? (tie : Tie) (x : Double) (exponent : Int) : Option Decimal :=
  let (low, mid, high) := x.interval
  let q := x.exponent - 2
  -- Both the interval and the grid as multiples of one unit.
  let unit (n : Nat) : Nat := n * Nat.pow 2 q.toNat * Nat.pow 10 (-exponent).toNat
  let step : Nat := Nat.pow 10 exponent.toNat * Nat.pow 2 (-q).toNat
  let inside (d : Nat) : Bool :=
    if x.significand % 2 = 0 then
      unit low ≤ d * step && d * step ≤ unit high
    else
      unit low < d * step && d * step < unit high
  let down := unit mid / step
  let twice := 2 * (unit mid % step)
  let nearest :=
    if twice < step then down
    else if step < twice then down + 1
    else match tie with
      | .even => down + down % 2
      | .up => down + 1
  if inside nearest then some ⟨nearest, exponent⟩
  else if inside down then some ⟨down, exponent⟩
  else if inside (down + 1) then some ⟨down + 1, exponent⟩
  else none

/-- The shortest decimal that reads back as the magnitude of a finite number. -/
def shortest (tie : Tie) (x : Double) : Decimal :=
  if x.significand = 0 then
    ⟨0, 0⟩
  else
    let top := floorLog10 x.ratio.1 x.ratio.2
    let point? (length : Nat) : Option Decimal := x.gridPoint? tie (top - (length : Int))
    (((List.range 17).findSome? point?).getD ⟨0, 0⟩).dropZeros 17

example : shortest .up ⟨0x3FB999999999999A⟩ = ⟨1, -1⟩ := by decide +kernel
example : shortest .up ⟨1⟩ = ⟨5, -324⟩ := by decide +kernel
example : shortest .up ⟨0x3E60000000000000⟩ = ⟨29802322387695313, -24⟩ := by decide +kernel
example : shortest .even ⟨0x3E60000000000000⟩ = ⟨29802322387695312, -24⟩ := by decide +kernel
example : shortest .even ⟨0x7FEFFFFFFFFFFFFF⟩ = ⟨17976931348623157, 292⟩ := by decide +kernel

end Double

end PortableSql
