import PortableSql.Dialect

/-!
What a dialect decides.

A `Grammar` collects every decision in which dialects differ: quoting, pagination, inserts of
several rows, returning clauses, markers, literals and row locks. `Dialect.grammar` is the table of
decisions of each dialect; rendering consults nothing else about a dialect.
-/

namespace PortableSql

/-- What stands in front of an offset that has no limit. -/
inductive LoneOffset where
  /-- Nothing. -/
  | omit
  /-- A limit written into the text. -/
  | literal (limit : String)
  /-- A limit bound as a value. -/
  | bound (limit : Int64)
deriving DecidableEq

/-- How limit and offset are expressed. -/
inductive Pagination where
  /-- `limit ? offset ?` at the end. -/
  | limitOffset (loneOffset : LoneOffset)
  /-- `top (?)` for a limit alone, `offset ? rows fetch next ? rows only` otherwise. -/
  | top
  /-- The statement inside one that filters on a row number; an absent limit is taken to be
  `unboundedLimit`. -/
  | rowNumber (unboundedLimit : UInt64)
deriving DecidableEq

/-- How one insert writes several rows. -/
inductive MultiRow where
  /-- `values (..), (..)`. -/
  | values
  /-- `select .. union all select ..`. -/
  | unionAll
  /-- A statement for each row inside an anonymous block. -/
  | block
deriving DecidableEq

/-- How returning columns are asked for. -/
inductive ReturningForm where
  | unsupported
  /-- `returning` and the columns at the end. -/
  | clause
  /-- `output` and the columns ahead of the values. -/
  | output
  /-- `returning ROWID into ?` with an output slot. -/
  | rowId
deriving DecidableEq

/-- How a row without any column is inserted. -/
inductive EmptyRow where
  /-- `default values`. -/
  | defaultValues
  /-- `() values ()`. -/
  | emptyValues
  /-- `default` in the first returning column. -/
  | returningColumn
deriving DecidableEq

/-- Whether updates and deletes keep their order and limit. -/
inductive MutationLimit where
  | omit
  /-- `order by .. limit ?` at the end. -/
  | trailing
  /-- `top (?)` after the verb, the order at the end. -/
  | top
deriving DecidableEq

/-- How an array literal is spelled. -/
inductive ArrayLiteral where
  /-- `(1, 2)`. -/
  | parenthesized
  /-- `ARRAY[1, 2]`. -/
  | constructor
deriving DecidableEq

/-- How a blob literal is spelled. -/
inductive BlobLiteral where
  /-- `X` and quoted digits. -/
  | hexString
  /-- Quoted digits after `\x`. -/
  | escaped
  /-- Digits after `0x`. -/
  | prefixed
deriving DecidableEq

/-- The decisions of a dialect. -/
structure Grammar where
  name : String
  /-- What opens a quoted identifier. -/
  openQuote : Char
  /-- What closes a quoted identifier; it is doubled inside. -/
  closeQuote : Char
  /-- What stands between an expression and its alias. -/
  aliasSeparator : String
  /-- Whether `col[1]` is a column with a subscript. -/
  arraySubscripts : Bool
  pagination : Pagination
  multiRow : MultiRow
  returning : ReturningForm
  emptyRow : EmptyRow
  /-- What an undefined cell of an insert becomes; undefined cells are refused when absent. -/
  undefinedMarker : Option String
  /-- Whether updates keep their joins. -/
  updateJoins : Bool
  /-- Whether deletes keep their joins. -/
  deleteJoins : Bool
  mutationLimit : MutationLimit
  /-- What ends an update or delete that returns nothing. -/
  mutationSuffix : String
  /-- What stands before and after the table of a truncate. -/
  truncate : String × String
  /-- The literals for true and false. -/
  booleans : String × String
  arrayLiteral : ArrayLiteral
  blobLiteral : BlobLiteral
  /-- The clause of an exclusive row lock. -/
  lockUpdate : Option String
  /-- The clause of a shared row lock. -/
  lockShare : Option String
  /-- Whether a lock clause follows the source table, not the whole statement. -/
  lockInFrom : Bool
deriving DecidableEq

namespace Dialect

/-- The decisions of each dialect. -/
def grammar : Dialect → Grammar
  | .generic =>
    { name := "generic"
      openQuote := '"'
      closeQuote := '"'
      aliasSeparator := " as "
      arraySubscripts := false
      pagination := .limitOffset .omit
      multiRow := .values
      returning := .unsupported
      emptyRow := .defaultValues
      undefinedMarker := some "DEFAULT"
      updateJoins := false
      deleteJoins := false
      mutationLimit := .omit
      mutationSuffix := ""
      truncate := ("truncate ", "")
      booleans := ("true", "false")
      arrayLiteral := .parenthesized
      blobLiteral := .hexString
      lockUpdate := none
      lockShare := none
      lockInFrom := false }
  | .mysql =>
    { name := "mysql"
      openQuote := '\x60'
      closeQuote := '\x60'
      aliasSeparator := " as "
      arraySubscripts := false
      pagination := .limitOffset (.literal "18446744073709551615")
      multiRow := .values
      returning := .unsupported
      emptyRow := .emptyValues
      undefinedMarker := some "DEFAULT"
      updateJoins := true
      deleteJoins := true
      mutationLimit := .trailing
      mutationSuffix := ""
      truncate := ("truncate ", "")
      booleans := ("true", "false")
      arrayLiteral := .parenthesized
      blobLiteral := .hexString
      lockUpdate := some "for update"
      lockShare := some "lock in share mode"
      lockInFrom := false }
  | .postgres =>
    { name := "postgres"
      openQuote := '"'
      closeQuote := '"'
      aliasSeparator := " as "
      arraySubscripts := true
      pagination := .limitOffset .omit
      multiRow := .values
      returning := .clause
      emptyRow := .defaultValues
      undefinedMarker := some "DEFAULT"
      updateJoins := false
      deleteJoins := false
      mutationLimit := .omit
      mutationSuffix := ""
      truncate := ("truncate ", " restart identity")
      booleans := ("true", "false")
      arrayLiteral := .constructor
      blobLiteral := .escaped
      lockUpdate := some "for update"
      lockShare := some "for share"
      lockInFrom := false }
  | .sqlite =>
    { name := "sqlite"
      openQuote := '"'
      closeQuote := '"'
      aliasSeparator := " as "
      arraySubscripts := false
      pagination := .limitOffset (.bound (-1))
      multiRow := .unionAll
      returning := .unsupported
      emptyRow := .defaultValues
      undefinedMarker := none
      updateJoins := false
      deleteJoins := false
      mutationLimit := .omit
      mutationSuffix := ""
      truncate := ("delete from ", "")
      booleans := ("1", "0")
      arrayLiteral := .parenthesized
      blobLiteral := .hexString
      lockUpdate := none
      lockShare := none
      lockInFrom := false }
  | .mssql =>
    { name := "mssql"
      openQuote := '['
      closeQuote := ']'
      aliasSeparator := " as "
      arraySubscripts := false
      pagination := .top
      multiRow := .values
      returning := .output
      emptyRow := .defaultValues
      undefinedMarker := some "DEFAULT"
      updateJoins := true
      deleteJoins := false
      mutationLimit := .top
      mutationSuffix := ";select @@rowcount"
      truncate := ("truncate table ", "")
      booleans := ("1", "0")
      arrayLiteral := .parenthesized
      blobLiteral := .prefixed
      lockUpdate := some "with (READCOMMITTEDLOCK)"
      lockShare := some "with (NOLOCK)"
      lockInFrom := true }
  | .oracle =>
    { name := "oracle"
      openQuote := '"'
      closeQuote := '"'
      aliasSeparator := " "
      arraySubscripts := false
      pagination := .rowNumber 10000000000000
      multiRow := .block
      returning := .rowId
      emptyRow := .returningColumn
      undefinedMarker := some "DEFAULT"
      updateJoins := false
      deleteJoins := false
      mutationLimit := .omit
      mutationSuffix := ""
      truncate := ("truncate table ", "")
      booleans := ("1", "0")
      arrayLiteral := .parenthesized
      blobLiteral := .hexString
      lockUpdate := some "for update"
      lockShare := none
      lockInFrom := false }

theorem grammar_name (d : Dialect) : d.grammar.name = d.name := by
  cases d <;> rfl

end Dialect

end PortableSql
