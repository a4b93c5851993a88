import PortableSql.Number.Shortest

/-!
How binary numbers are written.

Every style writes the shortest decimal that reads back. The styles differ in where positional
notation ends, in how a whole number and an exponent look, and in how a tie goes.
-/

namespace PortableSql

/-- The decisions of one way to write numbers. -/
structure NumeralStyle where
  /-- The exponents of the leading digit that are written without an exponent; all when absent. -/
  positional : Option (Int × Int)
  /-- What follows a whole number in positional notation. -/
  wholeSuffix : String
  /-- What precedes the digits of a positive exponent. -/
  positiveSign : String
  /-- Which of two equally near shortest decimals is written. -/
  tie : Tie

namespace NumeralStyle

/-- Inline SQL: never an exponent, and nothing after a whole number. -/
def inline : NumeralStyle := ⟨none, "", "", .up⟩

/-- JSON documents: an exponent from `1e+16` up and below `1e-5`. -/
def json : NumeralStyle := ⟨some (-5, 15), ".0", "+", .even⟩

/-- Messages: an exponent from `1e16` up and below `1e-4`. -/
def message : NumeralStyle := ⟨some (-4, 15), ".0", "", .up⟩

/-- Digits with a point where the exponent puts it. -/
def writePositional (style : NumeralStyle) (d : Decimal) : String :=
  let digits := d.text
  if 0 ≤ d.exponent then
    String.ofList (digits ++ List.replicate d.exponent.toNat '0') ++ style.wholeSuffix
  else
    let places := (-d.exponent).toNat
    let padded := List.replicate (places + 1 - digits.length) '0' ++ digits
    let cut := padded.length - places
    String.ofList (padded.take cut ++ '.' :: padded.drop cut)

/-- One digit, a point before any others, and the exponent. -/
def writeScientific (style : NumeralStyle) (d : Decimal) : String :=
  let mantissa := match d.text with
    | c :: [] => [c]
    | c :: rest => c :: '.' :: rest
    | [] => []
  let e := d.leading
  let sign := if e < 0 then "-" else style.positiveSign
  let exponent := sign ++ toString e.natAbs
  String.ofList mantissa ++ "e" ++ exponent

/-- A decimal in the notation that its size calls for. -/
def writeDecimal (style : NumeralStyle) (d : Decimal) : String :=
  match style.positional with
  | none => style.writePositional d
  | some (least, greatest) =>
    if d.digits = 0 ∨ (least ≤ d.leading ∧ d.leading ≤ greatest) then style.writePositional d
    else style.writeScientific d

/-- A number with its sign; a NaN has none. -/
def write (style : NumeralStyle) (x : Double) : String :=
  if x.isNaN then
    "NaN"
  else
    let magnitude := if x.isFinite then style.writeDecimal (x.shortest style.tie) else "inf"
    if x.isNegative then "-" ++ magnitude else magnitude

end NumeralStyle

end PortableSql
