import PortableSql.Grammar

/-!
Identifiers: splitting a name into its parts and quoting each.

A name is an expression and an optional alias, joined by the word `as`. The expression is a path of
segments between dots, where dots inside brackets do not count. Each segment is quoted by itself;
a star is left as it is, and on a grammar with array subscripts so is a bracketed subscript at the
end of a segment.
-/

namespace PortableSql.Identifier

/-! ### The alias -/

/-- The shortest text in front of nothing but white space, without a line feed; `read` is what was
passed on the way, in reverse. -/
def aliasText? (read : List Char) : List Char → Option (List Char)
  | [] => none
  | c :: rest =>
    if c = '\n' then none
    else if rest.all Text.isBlank then some (c :: read).reverse
    else aliasText? (c :: read) rest

/-- At least one white space character, as many as possible, then the alias. -/
def afterKeyword? : List Char → Option (List Char)
  | [] => none
  | c :: rest =>
    if Text.isBlank c then afterKeyword? rest <|> aliasText? [] rest else none

/-- Whether a character is the second letter of the keyword in any case: `s`, `S` or the long s. -/
def isKeywordS (c : Char) : Bool :=
  c == 's' || c == 'S' || c == '\u017f'

/-- The keyword in any letter case, then the alias. -/
def keyword? : List Char → Option (List Char)
  | a :: s :: rest => if (a == 'a' || a == 'A') && isKeywordS s then afterKeyword? rest else none
  | _ => none

/-- At least one white space character, as many as possible, then the keyword. -/
def beforeKeyword? : List Char → Option (List Char)
  | [] => none
  | c :: rest => if Text.isBlank c then beforeKeyword? rest <|> keyword? rest else none

/-- The shortest expression, without a line feed, in front of a keyword and an alias; `read` is what
was passed on the way, in reverse. -/
def aliased? (read : List Char) : List Char → Option (List Char × List Char)
  | [] => none
  | c :: rest =>
    if c = '\n' then
      none
    else
      match beforeKeyword? rest with
      | some name => some ((c :: read).reverse, name)
      | none => aliased? (c :: read) rest

/-- The expression and alias of a name that has one, past as much leading white space as
possible. -/
def aliasParts? : List Char → Option (List Char × List Char)
  | [] => none
  | c :: rest =>
    if Text.isBlank c then aliasParts? rest <|> aliased? [] (c :: rest)
    else aliased? [] (c :: rest)

/-- The expression and the alias of a name. Without an alias the expression is the whole name
without white space at its ends. -/
def parts (name : String) : String × Option String :=
  match aliasParts? name.toList with
  | some (expr, aliasName) => (String.ofList expr, some (String.ofList aliasName))
  | none => (Text.trim name, none)

/-! ### Segments -/

/-- Splits at the dots outside brackets, at a bracket depth; `read` is the segment under way, in
reverse. A closing bracket without an opening one leaves the depth at zero. -/
def splitDots (depth : Nat) (read : List Char) : List Char → List (List Char)
  | [] => [read.reverse]
  | c :: rest =>
    if c = '[' then splitDots (depth + 1) (c :: read) rest
    else if c = ']' then splitDots (depth - 1) (c :: read) rest
    else if c = '.' ∧ depth = 0 then read.reverse :: splitDots 0 [] rest
    else splitDots depth (c :: read) rest

/-- The segments of an expression. -/
def pathSegments (expr : String) : List (List Char) :=
  splitDots 0 [] expr.toList

/-- The column and the subscript of a segment: the subscript runs from the first opening bracket to
the closing bracket that ends the segment and holds no line feed. -/
def splitSubscript? (segment : List Char) : Option (List Char × List Char) :=
  let column := segment.takeWhile (· != '[')
  let subscript := segment.dropWhile (· != '[')
  let inner := subscript.tail.dropLast
  if column ≠ [] ∧ 2 ≤ subscript.length ∧ subscript.getLast? = some ']' ∧ '\n' ∉ inner then
    some (column, subscript)
  else
    none

/-! ### Quoting -/

/-- Characters with the closing quote doubled. -/
def doubleClosing (close : Char) : List Char → List Char
  | [] => []
  | c :: rest =>
    if c = close then close :: c :: doubleClosing close rest else c :: doubleClosing close rest

/-- One identifier between the quotes of a grammar. -/
def quoteChars (grammar : Grammar) (name : List Char) : List Char :=
  grammar.openQuote :: doubleClosing grammar.closeQuote name ++ [grammar.closeQuote]

/-- One identifier between the quotes of a grammar. -/
def quote (grammar : Grammar) (name : String) : String :=
  String.ofList (quoteChars grammar name.toList)

/-- A segment of an expression. -/
def renderSegment (grammar : Grammar) (segment : List Char) : List Char :=
  if segment = ['*'] then
    segment
  else
    match if grammar.arraySubscripts then splitSubscript? segment else none with
    | some (column, subscript) => quoteChars grammar column ++ subscript
    | none => quoteChars grammar segment

/-- The segments of an expression, quoted and joined by dots. -/
def renderPath (grammar : Grammar) (expr : String) : String :=
  String.ofList (['.'].intercalate ((pathSegments expr).map (renderSegment grammar)))

/-- What follows an expression that has an alias. -/
def renderAlias (grammar : Grammar) (aliasName : String) : String :=
  grammar.aliasSeparator ++ quote grammar aliasName

/-- A name as SQL text. -/
def render (grammar : Grammar) (name : String) : String :=
  match parts name with
  | (expr, some aliasName) => renderPath grammar expr ++ renderAlias grammar aliasName
  | (expr, none) => renderPath grammar expr

/-- Names with a qualifier in front of each, separated by commas. -/
def renderList (grammar : Grammar) (qualifier : String) (names : List String) : String :=
  ", ".intercalate (names.map fun name => qualifier ++ render grammar name)

/-- A table name with its schema in front. -/
def qualified (schema : String) (name : String) : String :=
  schema ++ "." ++ name

/-- A table name as SQL text, with the schema in front if there is one. -/
def renderTable (grammar : Grammar) (schema : Option String) (name : String) : String :=
  match schema with
  | some schema => render grammar (qualified schema (Text.trimStart name))
  | none => render grammar name

/-- What a statement calls its table: the alias if it has one, else the qualified name. -/
def tableName (grammar : Grammar) (schema : Option String) (name : String) : String :=
  match parts name with
  | (_, some aliasName) => quote grammar aliasName
  | (expr, none) =>
    match schema with
    | some schema => renderPath grammar (qualified schema expr)
    | none => renderPath grammar expr

example : render Dialect.postgres.grammar "t.tags[1] as x.y" = "\"t\".\"tags\"[1] as \"x.y\"" := by
  decide +kernel
example : render Dialect.mssql.grammar " a]b.* " = "[a]]b].*" := by decide +kernel
example : render Dialect.oracle.grammar "a aS b" = "\"a\" \"b\"" := by decide +kernel

end PortableSql.Identifier
