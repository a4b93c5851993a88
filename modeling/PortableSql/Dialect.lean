import PortableSql.Text.Blank

/-!
The SQL dialects.

A dialect has one name of its own and may be asked for by other names. Names are read without
regard to white space at their ends and to the case of their letters.
-/

namespace PortableSql

/-- A target dialect of SQL. -/
inductive Dialect where
  /-- Close to the standard, for when no database is named. -/
  | generic
  | mysql
  | postgres
  | sqlite
  | mssql
  | oracle
deriving DecidableEq, Inhabited

namespace Dialect

/-- Every dialect. -/
def all : List Dialect :=
  [.generic, .mysql, .postgres, .sqlite, .mssql, .oracle]

/-- The name of a dialect. -/
def name : Dialect → String
  | .generic => "generic"
  | .mysql => "mysql"
  | .postgres => "postgres"
  | .sqlite => "sqlite"
  | .mssql => "mssql"
  | .oracle => "oracle"

/-- The names by which a dialect can be asked for. -/
def names : Dialect → List String
  | .generic => ["generic", "default"]
  | .mysql => ["mysql", "mariadb"]
  | .postgres => ["postgres", "postgresql", "pg"]
  | .sqlite => ["sqlite", "sqlite3"]
  | .mssql => ["mssql", "sqlserver"]
  | .oracle => ["oracle", "oracledb"]

/-- The form in which a name is looked up. -/
def normalize (s : String) : String :=
  Text.lowerAscii (Text.trim s)

/-- The dialect of a name. -/
def ofName? (s : String) : Option Dialect :=
  all.find? fun d => d.names.contains (normalize s)

theorem mem_all (d : Dialect) : d ∈ all := by
  cases d <;> decide

theorem ofName?_name (d : Dialect) : ofName? d.name = some d := by
  cases d <;> decide +kernel

end Dialect

end PortableSql
