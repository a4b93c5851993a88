/-!
Templates of raw SQL.

A template is read into runs of text and placeholders. With bindings by position, `?` asks for the
next value, `??` for the next value as an identifier, and `\?` is text. With bindings by name,
`:name` asks for a value, `:name:` for an identifier, `\:` is a colon, and `::` is text.
-/

namespace PortableSql.Template

/-- A part of a template; `κ` says which binding a placeholder asks for. -/
inductive Token (κ : Type) where
  | text (chars : List Char)
  | value (key : κ)
  | identifier (key : κ)
deriving DecidableEq

/-- Puts text in front of tokens, as one run with a text that they begin with. -/
def consText {κ : Type} (chars : List Char) : List (Token κ) → List (Token κ)
  | .text more :: tokens => .text (chars ++ more) :: tokens
  | tokens => .text chars :: tokens

/-- The tokens of a template with bindings by position. -/
def positional : List Char → List (Token Unit)
  | [] => []
  | '\\' :: '?' :: rest => consText ['\\', '?'] (positional rest)
  | '?' :: '?' :: rest => .identifier () :: positional rest
  | '?' :: rest => .value () :: positional rest
  | c :: rest => consText [c] (positional rest)

/-- The characters of binding names. -/
def isNameChar (c : Char) : Bool :=
  c.isAlphanum || c == '_' || c == '$'

/-- The tokens of a template with bindings by name. -/
def named : List Char → List (Token String)
  | [] => []
  | '\\' :: ':' :: rest => consText [':'] (named rest)
  | ':' :: ':' :: rest => consText [':', ':'] (named rest)
  | ':' :: c :: rest =>
    if isNameChar c then
      let name := String.ofList (c :: rest.takeWhile isNameChar)
      match _h : rest.dropWhile isNameChar with
      | ':' :: after => .identifier name :: named after
      | after => .value name :: named after
    else
      consText [':'] (named (c :: rest))
  | c :: rest => consText [c] (named rest)
termination_by cs => cs.length
decreasing_by
  all_goals try
    have shorter := (List.dropWhile_sublist (l := rest) isNameChar).length_le
    rw [_h] at shorter
  all_goals
    simp only [List.length_cons] at *
    omega

example : positional "a\\??? ?".toList =
    [.text ['a', '\\', '?'], .identifier (), .text [' '], .value ()] := by decide
example : named ":id::int".toList =
    [.identifier "id", .value "int"] := by decide +kernel

end PortableSql.Template
