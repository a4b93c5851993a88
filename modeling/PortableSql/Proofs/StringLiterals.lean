import PortableSql.Proofs.Numbering

/-!
String literals in written values.

SQL text is read with one rule for strings: a quote opens a string, a quote that no other follows
closes it, and two quotes inside stand for one. `Sql.lex` is that reading. A written value is read
as what it was written from: each text, date and document of it is the content of one string, and
what is between them is outside of strings (`Value.lex_literal`).
-/

namespace PortableSql

/-! ### Reading strings -/

/-- A part of SQL text as it is read. -/
inductive Lexeme where
  /-- A character outside of strings. -/
  | mark (c : Char)
  /-- A string, by what it stands for. -/
  | string (content : List Char)
  /-- A string that is open where the text ends. -/
  | unclosed (content : List Char)
deriving DecidableEq

/-- Characters outside of strings. -/
def Lexeme.marks (cs : List Char) : List Lexeme :=
  cs.map .mark

namespace Sql

/-- Reads SQL text; the first argument is what was read of a string that is open. -/
def lexFrom : Option (List Char) → List Char → List Lexeme
  | none, [] => []
  | none, '\'' :: rest => lexFrom (some []) rest
  | none, c :: rest => .mark c :: lexFrom none rest
  | some content, [] => [.unclosed content]
  | some content, '\'' :: '\'' :: rest => lexFrom (some (content ++ ['\''])) rest
  | some content, '\'' :: rest => .string content :: lexFrom none rest
  | some content, c :: rest => lexFrom (some (content ++ [c])) rest

/-- The parts of SQL text. -/
def lex (text : List Char) : List Lexeme :=
  lexFrom none text

variable {text : List Char} {lexemes : List Lexeme}

theorem lex_quote (rest : List Char) : lex ('\'' :: rest) = lexFrom (some []) rest := rfl

theorem lex_cons {c : Char} (other : c ≠ '\'') (rest : List Char) :
    lex (c :: rest) = .mark c :: lex rest :=
  lexFrom.eq_3 c rest other

/-- Text without quotes is outside of strings, whatever follows it. -/
theorem lex_append (plain : '\'' ∉ text) (rest : List Char) :
    lex (text ++ rest) = Lexeme.marks text ++ lex rest := by
  induction text with
  | nil => rfl
  | cons c text ih =>
    rw [List.mem_cons, not_or] at plain
    obtain ⟨other, others⟩ := plain
    rw [List.cons_append, lex_cons (Ne.symm other), ih others]
    rfl

/-- A string whose quotes are doubled ends at the first quote behind it. -/
theorem lexFrom_doubleQuotes {rest : List Char} (apart : rest.head? ≠ some '\'')
    (content cs : List Char) :
    lexFrom (some content) (Value.doubleQuotes cs ++ '\'' :: rest) =
      .string (content ++ cs) :: lex rest := by
  induction cs generalizing content with
  | nil =>
    rw [List.append_nil]
    apply lexFrom.eq_6
    rintro more rfl
    exact apart rfl
  | cons c cs ih =>
    have inside : (content ++ [c]) ++ cs = content ++ c :: cs := by
      rw [List.append_assoc, List.singleton_append]
    by_cases quote : c = '\''
    · subst quote
      rw [Value.doubleQuotes, if_pos rfl, ← inside, ← ih]
      rfl
    · rw [Value.doubleQuotes, if_neg quote, List.cons_append, ← inside, ← ih]
      apply lexFrom.eq_7
      · intro more is
        exact absurd is quote
      · exact quote

theorem doubleQuotes_of_plain {cs : List Char} (plain : '\'' ∉ cs) :
    Value.doubleQuotes cs = cs := by
  induction cs with
  | nil => rfl
  | cons c cs ih =>
    rw [List.mem_cons, not_or] at plain
    rw [Value.doubleQuotes, if_neg (Ne.symm plain.1), ih plain.2]

/-- A text is read as some parts, and reading goes on outside of strings behind it, wherever no
quote follows. -/
structure Reads (text : List Char) (lexemes : List Lexeme) : Prop where
  lex_append : ∀ rest : List Char, rest.head? ≠ some '\'' → lex (text ++ rest) = lexemes ++ lex rest
  closed : ∀ content, .unclosed content ∉ lexemes

namespace Reads

theorem of_plain (plain : '\'' ∉ text) : Reads text (Lexeme.marks text) where
  lex_append rest _ := Sql.lex_append plain rest
  closed content member := by
    obtain ⟨c, -, same⟩ := List.mem_map.mp member
    cases same

/-- A string with its quotes doubled. -/
theorem doubled (cs : List Char) :
    Reads ('\'' :: Value.doubleQuotes cs ++ ['\'']) [.string cs] where
  lex_append rest apart := by
    rw [List.cons_append, List.cons_append, lex_quote, List.append_assoc]
    exact lexFrom_doubleQuotes apart [] cs
  closed content member := by
    cases List.mem_singleton.mp member

/-- A string without quotes. -/
theorem quoted {cs : List Char} (plain : '\'' ∉ cs) :
    Reads ('\'' :: cs ++ ['\'']) [.string cs] := by
  have reads := doubled cs
  rwa [doubleQuotes_of_plain plain] at reads

theorem textLiteral (s : String) : Reads (Value.textLiteral s).toList [.string s.toList] := by
  rw [Value.textLiteral, String.toList_ofList]
  exact doubled s.toList

/-- Text without quotes in front is read by itself. -/
theorem behind {front : List Char} (plain : '\'' ∉ front) (reads : Reads text lexemes) :
    Reads (front ++ text) (Lexeme.marks front ++ lexemes) where
  lex_append rest apart := by
    rw [List.append_assoc, Sql.lex_append plain, reads.lex_append rest apart, List.append_assoc]
  closed content member := by
    rcases List.mem_append.mp member with first | second
    · exact (of_plain plain).closed content first
    · exact reads.closed content second

/-- What begins without a quote is read by itself behind any text. -/
theorem append {back : List Char} {others : List Lexeme} (reads : Reads text lexemes)
    (nonempty : back ≠ []) (apart : back.head? ≠ some '\'') (reads' : Reads back others) :
    Reads (text ++ back) (lexemes ++ others) where
  lex_append rest apart' := by
    have seam : (back ++ rest).head? ≠ some '\'' := by
      obtain ⟨c, back, rfl⟩ := List.exists_cons_of_ne_nil nonempty
      exact apart
    rw [List.append_assoc, reads.lex_append _ seam, reads'.lex_append rest apart',
      List.append_assoc]
  closed content member := by
    rcases List.mem_append.mp member with first | second
    · exact reads.closed content first
    · exact reads'.closed content second

/-- Two texts with a comma between them. -/
theorem separated {back : List Char} {others : List Lexeme} (reads : Reads text lexemes)
    (reads' : Reads back others) :
    Reads (text ++ [',', ' '] ++ back) (lexemes ++ Lexeme.marks [',', ' '] ++ others) := by
  have comma : '\'' ∉ [',', ' '] := by
    decide
  rw [List.append_assoc, List.append_assoc]
  exact reads.append (List.cons_ne_nil _ _) (by simp) (reads'.behind comma)

end Reads

end Sql

/-! ### Words and numbers without quotes -/

/-- The words for true and false hold no quote. -/
def Grammar.PlainWords (grammar : Grammar) : Prop :=
  '\'' ∉ grammar.booleans.1.toList ∧ '\'' ∉ grammar.booleans.2.toList

theorem Dialect.plainWords_grammar (d : Dialect) : d.grammar.PlainWords := by
  unfold Grammar.PlainWords
  cases d <;> decide

/-- A decimal is written in digits and a point. -/
theorem NumeralStyle.not_mem_writePositional {c : Char} (other : c.isDigit = false)
    (point : c ≠ '.') (d : Decimal) : c ∉ (inline.writePositional d).toList := by
  have digits : c ∉ d.text := Sql.plain_toDigits other d.digits
  have zeros (n : Nat) : c ∉ List.replicate n '0' := by
    intro member
    rw [List.eq_of_mem_replicate member] at other
    cases other
  unfold writePositional
  dsimp only
  split
  · rw [String.toList_append, String.toList_ofList]
    simp only [List.mem_append, not_or]
    exact ⟨⟨digits, zeros _⟩, List.not_mem_nil⟩
  · generalize (-d.exponent).toNat = places
    have padded : c ∉ List.replicate (places + 1 - d.text.length) '0' ++ d.text := by
      rw [List.mem_append, not_or]
      exact ⟨zeros _, digits⟩
    rw [String.toList_ofList, List.mem_append, List.mem_cons, not_or, not_or]
    refine ⟨?_, point, ?_⟩
    · intro member
      exact padded (List.mem_of_mem_take member)
    · intro member
      exact padded (List.mem_of_mem_drop member)

theorem NumeralStyle.not_mem_write (x : Double) : '\'' ∉ (inline.write x).toList := by
  have magnitude : '\'' ∉
      (if x.isFinite then inline.writeDecimal (x.shortest inline.tie) else "inf").toList := by
    split
    · exact not_mem_writePositional (by decide) (by decide) _
    · decide
  unfold write
  split
  · decide
  · dsimp only
    split
    · rw [String.toList_append, List.mem_append, not_or]
      exact ⟨by decide, magnitude⟩
    · exact magnitude

namespace Value

theorem not_mem_byteDigits (byte : UInt8) : '\'' ∉ byteDigits byte := by
  have digit : ∀ n < 16, (Nat.digitChar n).toUpper ≠ '\'' := by
    decide
  have high : byte.toNat / 16 < 16 := by
    have := byte.toNat_lt
    omega
  have low : byte.toNat % 16 < 16 := Nat.mod_lt _ (by decide)
  simp only [byteDigits, List.map_cons, List.map_nil, List.mem_cons, List.not_mem_nil, or_false,
    not_or]
  exact ⟨(digit _ high).symm, (digit _ low).symm⟩

/-! ### Values as they are read -/

/-- The digits of a blob. -/
def hexDigits (bytes : List UInt8) : List Char :=
  bytes.flatMap byteDigits

/-- A blob as it is read. -/
def blobLexemes (form : BlobLiteral) (bytes : List UInt8) : List Lexeme :=
  match form with
  | .hexString => [.mark 'X', .string (hexDigits bytes)]
  | .escaped => [.string ('\\' :: 'x' :: hexDigits bytes)]
  | .prefixed => Lexeme.marks ('0' :: 'x' :: hexDigits bytes)

/-- What opens and closes an array. -/
def brackets : ArrayLiteral → String × String
  | .parenthesized => ("(", ")")
  | .constructor => ("ARRAY[", "]")

mutual

/-- A value as it is read: texts, dates and documents are strings, and any value that is neither
these nor a blob or an array is outside of strings. -/
def lexemes (grammar : Grammar) : Value → List Lexeme
  | .text s => [.string s.toList]
  | .date d => [.string d.text.toList]
  | .timestamp t => [.string t.literalText.toList]
  | .json document => [.string document.compact.toList]
  | .blob bytes => blobLexemes grammar.blobLiteral bytes
  | .array items =>
    let (opening, closing) := brackets grammar.arrayLiteral
    Lexeme.marks opening.toList ++
      ((Lexeme.marks [',', ' ']).intercalate (itemLexemes grammar items) ++
        Lexeme.marks closing.toList)
  | other => Lexeme.marks (other.literal grammar).toList

/-- The items of an array as they are read. -/
def itemLexemes (grammar : Grammar) : List Value → List (List Lexeme)
  | [] => []
  | item :: items => item.lexemes grammar :: itemLexemes grammar items

end

variable {grammar : Grammar}

theorem not_mem_brackets (form : ArrayLiteral) :
    '\'' ∉ (brackets form).1.toList ∧ '\'' ∉ (brackets form).2.toList := by
  cases form <;> decide

theorem arrayLiteral_eq (form : ArrayLiteral) (items : List String) :
    (arrayLiteral form items).toList = (brackets form).1.toList ++
      ([',', ' '].intercalate (items.map String.toList) ++ (brackets form).2.toList) := by
  cases form <;> simp [arrayLiteral, brackets, String.toList_intercalate]

theorem reads_blob (form : BlobLiteral) (bytes : List UInt8) :
    Sql.Reads (blobLiteral form bytes).toList (blobLexemes form bytes) := by
  have plain : '\'' ∉ hexDigits bytes := by
    intro member
    obtain ⟨byte, -, digit⟩ := List.mem_flatMap.mp member
    exact not_mem_byteDigits byte digit
  unfold blobLiteral blobLexemes
  dsimp only
  cases form with
  | hexString =>
    have whole : ("X'" ++ String.ofList (hexDigits bytes) ++ "'").toList =
        ['X'] ++ ('\'' :: hexDigits bytes ++ ['\'']) := by
      simp
    change Sql.Reads ("X'" ++ String.ofList (hexDigits bytes) ++ "'").toList _
    rw [whole]
    exact (Sql.Reads.quoted plain).behind (by decide)
  | escaped =>
    have whole : ("'\\x" ++ String.ofList (hexDigits bytes) ++ "'").toList =
        '\'' :: ('\\' :: 'x' :: hexDigits bytes) ++ ['\''] := by
      simp
    change Sql.Reads ("'\\x" ++ String.ofList (hexDigits bytes) ++ "'").toList _
    rw [whole]
    apply Sql.Reads.quoted
    simpa using plain
  | prefixed =>
    have whole :
        ("0x" ++ String.ofList (hexDigits bytes)).toList = '0' :: 'x' :: hexDigits bytes := by
      simp
    change Sql.Reads ("0x" ++ String.ofList (hexDigits bytes)).toList _
    rw [whole]
    apply Sql.Reads.of_plain
    simpa using plain

mutual

/-- A written value is read as what it was written from. -/
theorem reads_literal (words : grammar.PlainWords) :
    ∀ v : Value, Sql.Reads (v.literal grammar).toList (v.lexemes grammar)
  | .null => .of_plain (by simp [literal])
  | .bool value => by
    cases value with
    | true => exact .of_plain words.1
    | false => exact .of_plain words.2
  | .int value => .of_plain (Sql.plain_toString (by decide) (by decide) value.toInt)
  | .float value => .of_plain (NumeralStyle.not_mem_write value)
  | .text value => .textLiteral value
  | .blob bytes => reads_blob grammar.blobLiteral bytes
  | .date value => .textLiteral value.text
  | .timestamp value => .textLiteral value.literalText
  | .json document => .textLiteral document.compact
  | .array items => by
    obtain ⟨opening, closing⟩ := not_mem_brackets grammar.arrayLiteral
    have nonempty : (brackets grammar.arrayLiteral).2.toList ≠ [] := by
      cases grammar.arrayLiteral <;> decide
    have apart : (brackets grammar.arrayLiteral).2.toList.head? ≠ some '\'' := by
      cases grammar.arrayLiteral <;> decide
    rw [literal, arrayLiteral_eq, lexemes]
    exact ((reads_literals words items).append nonempty apart (.of_plain closing)).behind opening
  | .returning columns => .of_plain (by simp [literal])

/-- The items of an array are read one by one. -/
theorem reads_literals (words : grammar.PlainWords) : ∀ items : List Value,
    Sql.Reads ([',', ' '].intercalate ((literals grammar items).map String.toList))
      ((Lexeme.marks [',', ' ']).intercalate (itemLexemes grammar items))
  | [] => .of_plain List.not_mem_nil
  | [item] => by
    simp only [literals, itemLexemes, List.map_cons, List.map_nil, List.intercalate_singleton]
    exact reads_literal words item
  | item :: next :: more => by
    have others := reads_literals words (next :: more)
    simp only [literals, itemLexemes, List.map_cons, List.intercalate_cons_cons] at others ⊢
    exact (reads_literal words item).separated others

end

/-- A value that is written into text is read as its texts, dates and documents, each of them one
whole string, and as what stands around them. No string is open behind it, and reading goes on there
outside of strings. This holds of every grammar whose words hold no quote, and no dialect has one in
them. -/
theorem lex_literal (v : Value) {rest : List Char} (apart : rest.head? ≠ some '\'') :
    (∀ grammar : Grammar, grammar.PlainWords →
      Sql.lex ((v.literal grammar).toList ++ rest) = v.lexemes grammar ++ Sql.lex rest ∧
        ∀ content, .unclosed content ∉ v.lexemes grammar) ∧
      ∀ d : Dialect, d.grammar.PlainWords := by
  refine ⟨fun grammar words => ?_, Dialect.plainWords_grammar⟩
  have reads := reads_literal words v
  exact ⟨reads.lex_append rest apart, reads.closed⟩

/-- Quotes at both ends and in the middle of a text, and in a document inside of an inner array. -/
theorem lex_literal_nested :
    let v : Value := .array [.text "'it''s'", .array [.json (.array [.string "'"]), .null]]
    let rest := ", 'x'".toList
    rest.head? ≠ some '\'' ∧
      Sql.lex ((v.literal Dialect.postgres.grammar).toList ++ rest) =
        Lexeme.marks "ARRAY[".toList ++ .string "'it''s'".toList ::
          (Lexeme.marks ", ARRAY[".toList ++ .string "[\"'\"]".toList ::
            (Lexeme.marks ", NULL]], ".toList ++ [.string ['x']])) := by
  intro v rest
  have apart : rest.head? ≠ some '\'' := by
    decide
  refine ⟨apart, ?_⟩
  obtain ⟨reads, plain⟩ := lex_literal v apart
  rw [(reads _ (plain .postgres)).1]
  decide +kernel

end Value

end PortableSql
