/-!
White space, and the words it separates.

White space is the Unicode property `White_Space`, so a no-break space or an ideographic space
separates words like a plain space does. `Text.trim` and `Text.words` are the two readings of a
text that ignore it.
-/

namespace PortableSql.Text

/-- Characters with the property `White_Space`. -/
def isBlank (c : Char) : Bool :=
  let n := c.toNat
  (0x9 ≤ n && n ≤ 0xD) || n == 0x20 || n == 0x85 || n == 0xA0 || n == 0x1680
    || (0x2000 ≤ n && n ≤ 0x200A) || n == 0x2028 || n == 0x2029 || n == 0x202F || n == 0x205F
    || n == 0x3000

/-- Drops leading white space. -/
def trimStartChars (cs : List Char) : List Char :=
  cs.dropWhile isBlank

/-- Drops white space at both ends. -/
def trimChars (cs : List Char) : List Char :=
  (trimStartChars (trimStartChars cs).reverse).reverse

/-- Drops leading white space. -/
def trimStart (s : String) : String :=
  String.ofList (trimStartChars s.toList)

/-- Drops white space at both ends. -/
def trim (s : String) : String :=
  String.ofList (trimChars s.toList)

/-- The maximal runs of characters that are not white space, in order. -/
def wordsOf : List Char → List (List Char)
  | [] => []
  | c :: rest =>
    if isBlank c then
      wordsOf rest
    else
      match rest, wordsOf rest with
      | d :: _, word :: more => if isBlank d then [c] :: word :: more else (c :: word) :: more
      | _, more => [c] :: more

/-- The words of a text. -/
def words (s : String) : List String :=
  (wordsOf s.toList).map String.ofList

/-- Lower case for the letters `A` to `Z`; every other character stays. -/
def lowerAscii (s : String) : String :=
  s.map Char.toLower

example : trim "\u3000a b \n" = "a b" := by decide
example : words " not\u00a0 between\t" = ["not", "between"] := by decide
example : words "" = [] := by decide

end PortableSql.Text
