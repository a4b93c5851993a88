import PortableSql.Number.Double

/-!
JSON documents.

Object members keep the order of the document, and integers of 64 bits are told apart from
floating-point numbers, so that a document can be written back as it was read. The bounds of numbers
are part of their type.
-/

namespace PortableSql

/-- A number in a document: an integer of 64 bits, with or without a sign, or a finite double. -/
inductive JsonNumber where
  | integer (value : Int) (bounded : -0x8000000000000000 ≤ value ∧ value < 0x10000000000000000)
  | double (value : Double) (finite : value.isFinite = true)
deriving DecidableEq

namespace JsonNumber

/-- An integer, if it has 64 bits. -/
def ofInt? (n : Int) : Option JsonNumber :=
  if bounded : -0x8000000000000000 ≤ n ∧ n < 0x10000000000000000 then
    some (.integer n bounded)
  else none

/-- A double, if it is finite. -/
def ofDouble? (x : Double) : Option JsonNumber :=
  if finite : x.isFinite = true then some (.double x finite) else none

/-- A signed integer. -/
def ofInt64 (n : Int64) : JsonNumber :=
  .integer n.toInt (by have := n.le_toInt; have := n.toInt_lt; omega)

/-- A byte. -/
def ofByte (byte : UInt8) : JsonNumber :=
  .integer byte.toNat (by have := byte.toNat_lt; omega)

/-- A number as a count, if it is an integer that is not negative. -/
def natural? : JsonNumber → Option UInt64
  | .integer n _ => if 0 ≤ n then some (UInt64.ofNat n.toNat) else none
  | .double _ _ => none

end JsonNumber

/-- A document. -/
inductive Json where
  | null
  | bool (value : Bool)
  | number (value : JsonNumber)
  | string (value : String)
  | array (items : List Json)
  | object (members : List (String × Json))

namespace Json

/-- A document as a count, if it is an integer that is not negative. -/
def natural? : Json → Option UInt64
  | .number n => n.natural?
  | _ => none

end Json

end PortableSql
