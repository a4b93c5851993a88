import PortableSql.Json.Token
import PortableSql.Keyed

/-!
Reading JSON text.

Reading has two stages. `Tree.ofTokens?` checks that the tokens nest as the grammar asks and keeps
every member of every object. `Tree.document?` then gives the document that a tree stands for: a
repeated member keeps its first position and takes its last value, half a surrogate pair and a
numeral beyond the doubles stand for nothing, and arrays and objects nest at most 127 deep.

A numeral is accumulated in a 64-bit significand for as long as it has room, then scaled by one
power of ten, so its last bit can differ from that of the nearest double.
-/

namespace PortableSql.Json

namespace Numeral

/-- Takes digits into a 64-bit significand while it has room; returns the digits left over. -/
def absorb (significand : Nat) : List Char → Nat × List Char
  | [] => (significand, [])
  | c :: rest =>
    let next := 10 * significand + (c.toNat - '0'.toNat)
    if next < 0x10000000000000000 then absorb next rest else (significand, c :: rest)

/-- The quotient by ten to the `k`, at most 308 places at a time. -/
def divideDown (x : Double) (k : Nat) : Double :=
  if k ≤ 308 then x.divTenTo k
  else if x.isZero then x
  else divideDown (x.divTenTo 308) (k - 308)
termination_by k

/-- The product of a significand and a power of ten, if it is finite. -/
def scaled? (negative : Bool) (significand : Nat) (exponent : Int) : Option JsonNumber :=
  let x := Double.ofRatio negative significand 1
  if exponent < 0 then JsonNumber.ofDouble? (divideDown x (-exponent).toNat)
  else if exponent ≤ 308 then JsonNumber.ofDouble? (x.mulTenTo exponent.toNat)
  else if x.isZero then JsonNumber.ofDouble? x
  else none

/-- A numeral without point and exponent whose digits all fit. A negative zero is a double, and so
is an integer of more than 64 bits. -/
def integer? (negative : Bool) (significand : Nat) : Option JsonNumber :=
  let n : Int := if negative then -(significand : Int) else significand
  if negative ∧ significand = 0 then JsonNumber.ofDouble? (.zero true)
  else JsonNumber.ofInt? n <|> JsonNumber.ofDouble? (.ofRatio negative significand 1)

/-- The greatest exponent that is told apart from an endless one. -/
def exponentLimit : Nat := 0x7FFFFFFF

/-- The value of a run of decimal digits. -/
def digitsValue (digits : List Char) : Nat :=
  digits.foldl (fun n c => 10 * n + (c.toNat - '0'.toNat)) 0

/-- The number that a numeral stands for, if there is one. -/
def value? (n : Numeral) : Option JsonNumber :=
  let (wholePart, dropped) := absorb 0 n.whole
  let fraction := n.fraction.getD []
  let (significand, unread) := absorb wholePart fraction
  let shift : Int := (dropped.length : Int) - ((fraction.length - unread.length : Nat) : Int)
  match n.fraction, n.exponent, dropped with
  | none, none, [] => integer? n.negative significand
  | _, none, _ => scaled? n.negative significand shift
  | _, some (negative, digits), _ =>
    let exponent := digitsValue digits
    if exponentLimit < exponent then
      if significand ≠ 0 ∧ !negative then none else JsonNumber.ofDouble? (.zero n.negative)
    else
      scaled? n.negative significand (shift + if negative then -(exponent : Int) else exponent)

end Numeral

/-- The text of a string token; half a surrogate pair has none. -/
def textOf? : List Nat → Option (List Char)
  | [] => some []
  | code :: rest =>
    if 0xD800 ≤ code ∧ code < 0xDC00 then
      match rest with
      | low :: rest =>
        if 0xDC00 ≤ low ∧ low < 0xE000 then
          (textOf? rest).map (Char.ofNat (0x10000 + (code - 0xD800) * 0x400 + (low - 0xDC00)) :: ·)
        else
          none
      | [] => none
    else if 0xDC00 ≤ code ∧ code < 0xE000 then none
    else (textOf? rest).map (Char.ofNat code :: ·)

/-- JSON text as a tree, with its strings and numerals as written. -/
inductive Tree where
  | null
  | bool (value : Bool)
  | number (numeral : Numeral)
  | string (codes : List Nat)
  | array (items : List Tree)
  | object (members : List (List Nat × Tree))

namespace Tree

/-- An array or object under way, its finished parts in reverse. -/
inductive Frame where
  | array (items : List Tree)
  | object (members : List (List Nat × Tree)) (key : List Nat)

/-- What may come next. -/
inductive Expected where
  /-- A value. -/
  | value
  /-- A first item or the end of an array. -/
  | firstItem
  /-- A first member or the end of an object. -/
  | firstMember
  /-- The name of a member of an object whose finished members are given. -/
  | key (members : List (List Nat × Tree))
  /-- The colon after the name of a member. -/
  | colon (members : List (List Nat × Tree)) (key : List Nat)
  /-- A comma or the end of what is under way, after a finished value. -/
  | separator (done : Tree)

/-- The arrays and objects under way, the innermost first, and what may come next in it. -/
structure State where
  frames : List Frame
  expected : Expected

/-- A token where a value may start. -/
def startValue? (frames : List Frame) (token : Token) : Option State :=
  match token with
  | .null => some ⟨frames, .separator .null⟩
  | .bool value => some ⟨frames, .separator (.bool value)⟩
  | .number numeral => some ⟨frames, .separator (.number numeral)⟩
  | .string codes => some ⟨frames, .separator (.string codes)⟩
  | .openArray => some ⟨.array [] :: frames, .firstItem⟩
  | .openObject => some ⟨frames, .firstMember⟩
  | _ => none

/-- A token after a finished value. -/
def afterValue? (frames : List Frame) (done : Tree) (token : Token) : Option State :=
  match frames, token with
  | .array items :: frames, .comma => some ⟨.array (done :: items) :: frames, .value⟩
  | .array items :: frames, .closeArray =>
    some ⟨frames, .separator (.array (done :: items).reverse)⟩
  | .object members key :: frames, .comma => some ⟨frames, .key ((key, done) :: members)⟩
  | .object members key :: frames, .closeObject =>
    some ⟨frames, .separator (.object ((key, done) :: members).reverse)⟩
  | _, _ => none

/-- One more token. -/
def step? (state : State) (token : Token) : Option State :=
  match state.expected, token with
  | .value, _ => startValue? state.frames token
  | .firstItem, .closeArray => some ⟨state.frames.tail, .separator (.array [])⟩
  | .firstItem, _ => startValue? state.frames token
  | .firstMember, .closeObject => some ⟨state.frames, .separator (.object [])⟩
  | .firstMember, .string key => some ⟨state.frames, .colon [] key⟩
  | .key members, .string key => some ⟨state.frames, .colon members key⟩
  | .colon members key, .colon => some ⟨.object members key :: state.frames, .value⟩
  | .separator done, _ => afterValue? state.frames done token
  | _, _ => none

/-- The tree of a list of tokens that is one value. -/
def ofTokens? (tokens : List Token) : Option Tree := do
  match ← tokens.foldlM step? ⟨[], .value⟩ with
  | ⟨[], .separator done⟩ => some done
  | _ => none

/-- The tree of a text. -/
def parse? (text : String) : Option Tree := do
  ofTokens? (← Token.ofChars? text.toList)

mutual

/-- The document that a tree stands for, with arrays and objects at most `depth` deep. -/
def document? (depth : Nat) : Tree → Option Json
  | .null => some .null
  | .bool value => some (.bool value)
  | .number numeral => numeral.value?.map .number
  | .string codes => (textOf? codes).map fun cs => .string (String.ofList cs)
  | .array items =>
    match depth with
    | 0 => none
    | depth + 1 => (documents? depth items).map .array
  | .object members =>
    match depth with
    | 0 => none
    | depth + 1 => (memberDocuments? depth members).map fun pairs => .object (Keyed.ofPairs pairs)

/-- The documents of the items of an array. -/
def documents? (depth : Nat) : List Tree → Option (List Json)
  | [] => some []
  | item :: items => do return (← document? depth item) :: (← documents? depth items)

/-- The named documents of the members of an object. -/
def memberDocuments? (depth : Nat) : List (List Nat × Tree) → Option (List (String × Json))
  | [] => some []
  | (key, value) :: members => do
    let name ← textOf? key
    let document ← document? depth value
    return (String.ofList name, document) :: (← memberDocuments? depth members)

end

end Tree

/-- How deep the arrays and objects of a text may nest. -/
def depthLimit : Nat := 127

/-- The document of a text, if the text is one. -/
def parse? (text : String) : Option Json := do
  (← Tree.parse? text).document? depthLimit

end PortableSql.Json
