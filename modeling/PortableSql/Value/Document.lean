import PortableSql.Value

/-!
Values as JSON documents.

Numbers and texts stand for themselves, bytes are a list of numbers, dates and timestamps are texts,
and a number that JSON cannot write is null.
-/

namespace PortableSql.Value

mutual

/-- A value as a document. -/
def toJson : Value → Json
  | .null => .null
  | .bool value => .bool value
  | .int value => .number (.ofInt64 value)
  | .float value => if finite : value.isFinite = true then .number (.double value finite) else .null
  | .text value => .string value
  | .blob bytes => .array (bytes.map fun byte => .number (.ofByte byte))
  | .date value => .string value.text
  | .timestamp value => .string value.text
  | .json document => document
  | .array items => .array (toJsons items)
  | .returning columns => .array (columns.map .string)

/-- Values as documents. -/
def toJsons : List Value → List Json
  | [] => []
  | item :: items => item.toJson :: toJsons items

end

end PortableSql.Value
