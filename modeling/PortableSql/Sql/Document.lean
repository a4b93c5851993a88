import PortableSql.Sql
import PortableSql.Value.Document

/-!
SQL text with its bound values as a JSON document.
-/

namespace PortableSql.Sql

/-- The text and the values, in an object of two members. -/
def toJson (sql : Sql) : Json :=
  .object [("sql", .string sql.text), ("bindings", .array (Value.toJsons sql.bindings))]

end PortableSql.Sql
