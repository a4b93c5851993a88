import PortableSql.Calendar
import PortableSql.Json

/-!
Values bound to a statement.

`Value.ofJson` gives the value of a document: scalars and arrays become values of their own, an
object stays a document. An integer beyond the signed 64-bit range becomes the nearest double.
-/

namespace PortableSql

/-- A value that a statement binds. -/
inductive Value where
  | null
  | bool (value : Bool)
  | int (value : Int64)
  | float (value : Double)
  | text (value : String)
  | blob (bytes : List UInt8)
  | date (value : Date)
  | timestamp (value : Timestamp)
  | json (document : Json)
  | array (items : List Value)
  /-- An output slot for the identity of the rows written. -/
  | returning (columns : List String)

namespace Value

/-- Whether a value is null. -/
def isNull : Value → Bool
  | .null => true
  | _ => false

/-- A count as a value, the greatest signed integer at most. -/
def ofCount (n : UInt64) : Value :=
  .int (Int64.ofInt (min (n.toNat : Int) Int64.maxValue.toInt))

/-- A number of a document as a value. -/
def ofNumber : JsonNumber → Value
  | .integer n _ =>
    if n < 0x8000000000000000 then .int (Int64.ofInt n) else .float (.ofRatio false n.toNat 1)
  | .double x _ => .float x

mutual

/-- A document as a value. -/
def ofJson : Json → Value
  | .null => .null
  | .bool value => .bool value
  | .number value => ofNumber value
  | .string value => .text value
  | .array items => .array (ofJsons items)
  | .object members => .json (.object members)

/-- Documents as values. -/
def ofJsons : List Json → List Value
  | [] => []
  | item :: items => ofJson item :: ofJsons items

end

end Value

end PortableSql
