import PortableSql.Json

/-!
The tokens of JSON text.

The tokenizer reads the text from left to right, one character at a time: `Token.step` says how a
character changes what is being read and which tokens it completes. A token keeps what the text
says, even where no value corresponds to it: a string may name half of a surrogate pair, and a
numeral may be too great for a number.
-/

namespace PortableSql.Json

/-- A numeral as written: sign, whole digits, any digits after a point, and any exponent with
whether it is negative. -/
structure Numeral where
  negative : Bool
  whole : List Char
  fraction : Option (List Char)
  exponent : Option (Bool × List Char)
deriving DecidableEq

/-- A token of JSON text. -/
inductive Token where
  | openArray
  | closeArray
  | openObject
  | closeObject
  | comma
  | colon
  | null
  | bool (value : Bool)
  | number (numeral : Numeral)
  /-- The code points of a string, escapes of surrogates included. -/
  | string (codes : List Nat)
deriving DecidableEq

namespace Numeral

/-- Splits digits from what follows them. -/
def digits (cs : List Char) : List Char × List Char :=
  (cs.takeWhile Char.isDigit, cs.dropWhile Char.isDigit)

/-- The exponent part of a numeral, from the letter on. -/
def exponentPart? : List Char → Option (Option (Bool × List Char))
  | [] => some none
  | c :: rest =>
    if c = 'e' ∨ c = 'E' then
      let (negative, cs) := match rest with
        | '-' :: cs => (true, cs)
        | '+' :: cs => (false, cs)
        | cs => (false, cs)
      if cs ≠ [] ∧ cs.all Char.isDigit then some (some (negative, cs)) else none
    else
      none

/-- The whole text of a numeral. A zero in front stands alone, and a point has digits on both
sides. -/
def ofChars? (cs : List Char) : Option Numeral :=
  let (negative, cs) := match cs with
    | '-' :: cs => (true, cs)
    | cs => (false, cs)
  let (whole, rest) := digits cs
  if whole = [] ∨ (1 < whole.length ∧ whole.head? = some '0') then
    none
  else
    match rest with
    | '.' :: rest =>
      let (fraction, rest) := digits rest
      if fraction = [] then none
      else (exponentPart? rest).map fun exponent => ⟨negative, whole, some fraction, exponent⟩
    | rest => (exponentPart? rest).map fun exponent => ⟨negative, whole, none, exponent⟩

end Numeral

namespace Token

/-- What is being read; texts under way are held in reverse. -/
inductive Mode where
  | between
  | word (read : List Char)
  | number (read : List Char)
  | string (codes : List Nat)
  | escape (codes : List Nat)
  | unicode (codes : List Nat) (value digits : Nat)

/-- The characters that numerals are made of. -/
def isNumeralChar (c : Char) : Bool :=
  c.isDigit || c == '-' || c == '+' || c == '.' || c == 'e' || c == 'E'

/-- The value of a hexadecimal digit in either case. -/
def hexValue? (c : Char) : Option Nat :=
  if c.isDigit then some (c.toNat - '0'.toNat)
  else if 'a' ≤ c ∧ c ≤ 'f' then some (c.toNat - 'a'.toNat + 10)
  else if 'A' ≤ c ∧ c ≤ 'F' then some (c.toNat - 'A'.toNat + 10)
  else none

/-- The code point of a one-letter escape. -/
def escapeCode? (c : Char) : Option Nat :=
  match c with
  | '"' => some 0x22
  | '\\' => some 0x5C
  | '/' => some 0x2F
  | 'b' => some 0x8
  | 'f' => some 0xC
  | 'n' => some 0xA
  | 'r' => some 0xD
  | 't' => some 0x9
  | _ => none

/-- The word tokens. -/
def ofWord? (s : List Char) : Option Token :=
  if s = ['n', 'u', 'l', 'l'] then some .null
  else if s = ['t', 'r', 'u', 'e'] then some (.bool true)
  else if s = ['f', 'a', 'l', 's', 'e'] then some (.bool false)
  else none

/-- The first character of a token, or space between tokens. -/
def start? (c : Char) : Option (List Token × Mode) :=
  match c with
  | ' ' | '\t' | '\n' | '\r' => some ([], .between)
  | '[' => some ([.openArray], .between)
  | ']' => some ([.closeArray], .between)
  | '\x7b' => some ([.openObject], .between)
  | '\x7d' => some ([.closeObject], .between)
  | ',' => some ([.comma], .between)
  | ':' => some ([.colon], .between)
  | '"' => some ([], .string [])
  | _ =>
    if isNumeralChar c then some ([], .number [c])
    else if c.isLower then some ([], .word [c])
    else none

/-- The token under way when the text or the run of its characters ends. -/
def finish? : Mode → Option (List Token)
  | .between => some []
  | .word read => (ofWord? read.reverse).map ([·])
  | .number read => (Numeral.ofChars? read.reverse).map fun n => [.number n]
  | _ => none

/-- A character that ends the token under way and starts the next. -/
def restart? (mode : Mode) (c : Char) : Option (List Token × Mode) := do
  let done ← finish? mode
  let (tokens, next) ← start? c
  return (done ++ tokens, next)

/-- One more character: the tokens that it completes and what is read next. -/
def step? (mode : Mode) (c : Char) : Option (List Token × Mode) :=
  match mode with
  | .between => start? c
  | .word read => if c.isLower then some ([], .word (c :: read)) else restart? mode c
  | .number read => if isNumeralChar c then some ([], .number (c :: read)) else restart? mode c
  | .string codes =>
    if c = '"' then some ([.string codes.reverse], .between)
    else if c = '\\' then some ([], .escape codes)
    else if c.toNat < 0x20 then none
    else some ([], .string (c.toNat :: codes))
  | .escape codes =>
    if c = 'u' then some ([], .unicode codes 0 0)
    else (escapeCode? c).map fun code => ([], .string (code :: codes))
  | .unicode codes value digits =>
    (hexValue? c).map fun digit =>
      let value := 16 * value + digit
      if digits = 3 then ([], .string (value :: codes)) else ([], .unicode codes value (digits + 1))

/-- The tokens of a text, or nothing when it is not made of tokens. -/
def ofChars? (cs : List Char) : Option (List Token) := do
  let (tokens, mode) ← cs.foldlM (fun (tokens, mode) c => do
    let (done, mode) ← step? mode c
    return (done.reverse ++ tokens, mode)) ([], Mode.between)
  let last ← finish? mode
  return (last.reverse ++ tokens).reverse

end Token

example : Token.ofChars? "[1e2, \"a\\u00e9\"]".toList =
    some [.openArray, .number ⟨false, ['1'], none, some (false, ['2'])⟩, .comma,
      .string [97, 0xE9], .closeArray] := by
  decide +kernel

end PortableSql.Json
