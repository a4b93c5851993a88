import PortableSql.Proofs.JoinedDeletes
import PortableSql.Proofs.LiteralNames

/-!
Operators as they are written.

An operator is looked up in one form and written in another: what is looked up is its words in lower
case, and what is written is the spelling of the caller. The two differ in white space and in the
case of ASCII letters only, unless the spelling has the Kelvin sign, whose lower case is the letter
`k` and which is written as it is (`Operator.parse_written`).
-/

namespace PortableSql

/-! ### Collapsed white space -/

namespace Text

/-- Characters with one space in place of each run of white space. -/
def collapseChars : List Char → List Char
  | [] => []
  | c :: rest =>
    if isBlank c then
      if rest.head?.any isBlank then collapseChars rest else ' ' :: collapseChars rest
    else
      c :: collapseChars rest

/-- A text with one space in place of each run of white space. -/
def collapse (s : String) : String :=
  String.ofList (collapseChars s.toList)

theorem collapseChars_dark {c : Char} (dark : isBlank c = false) (rest : List Char) :
    collapseChars (c :: rest) = c :: collapseChars rest := by
  rw [collapseChars, if_neg (Bool.eq_false_iff.mp dark)]

theorem collapseChars_blank {c : Char} (blank : isBlank c = true) (rest : List Char) :
    collapseChars (c :: rest) =
      if rest.head?.any isBlank then collapseChars rest else ' ' :: collapseChars rest := by
  rw [collapseChars, if_pos blank]

/-- Collapsing keeps what is not white space. -/
theorem mem_collapseChars {c : Char} (dark : isBlank c = false) (cs : List Char) :
    c ∈ collapseChars cs ↔ c ∈ cs := by
  induction cs with
  | nil => exact Iff.rfl
  | cons d rest ih =>
    by_cases blank : isBlank d = true
    · have other : c ≠ d := by
        rintro rfl
        exact absurd blank (Bool.eq_false_iff.mp dark)
      have notSpace : c ≠ ' ' := by
        rintro rfl
        exact absurd dark (by decide)
      rw [collapseChars_blank blank, List.mem_cons, ← ih]
      split <;> simp [other, notSpace]
    · rw [collapseChars_dark (Bool.eq_false_iff.mpr blank), List.mem_cons, List.mem_cons, ih]

theorem wordsOf_blank {c : Char} (blank : isBlank c = true) (cs : List Char) :
    wordsOf (c :: cs) = wordsOf cs := by
  rw [wordsOf_cons, if_pos blank]

theorem solid_singleton {c : Char} (dark : isBlank c = false) : Solid [c] :=
  ⟨List.cons_ne_nil c [], by simpa⟩

/-- A character in front of a word belongs to it. -/
theorem wordsOf_dark {c d : Char} (dark : isBlank c = false) (next : isBlank d = false)
    {cs word : List Char} {more : List (List Char)} (words : wordsOf (d :: cs) = word :: more) :
    wordsOf (c :: d :: cs) = (c :: word) :: more := by
  rw [wordsOf_cons, if_neg (Bool.eq_false_iff.mp dark), words]
  exact if_neg (Bool.eq_false_iff.mp next)

theorem blank_of_wordsOf_eq_nil {cs : List Char} (none : wordsOf cs = []) : Blank cs := by
  induction cs with
  | nil => exact nofun
  | cons c rest ih =>
    by_cases blank : isBlank c = true
    · rw [wordsOf_blank blank] at none
      exact (ih none).cons blank
    · exact absurd none (wordsOf_ne_nil (Bool.eq_false_iff.mpr blank) rest)

/-- Text that does not end with white space collapses to its words with single spaces between them,
behind one space if it begins with white space. -/
theorem collapseChars_eq {cs : List Char} (last : ∀ c ∈ cs.getLast?, isBlank c = false) :
    collapseChars cs =
      (if cs.head?.any isBlank then [' '] else []) ++ [' '].intercalate (wordsOf cs) := by
  induction cs with
  | nil => rfl
  | cons c rest ih =>
    cases rest with
    | nil =>
      have dark : isBlank c = false := last c rfl
      have alone : wordsOf [c] = [[c]] := wordsOf_append (solid_singleton dark) nofun
      rw [collapseChars_dark dark, alone, List.head?_cons, Option.any_some, dark]
      rfl
    | cons d rest =>
      have some : wordsOf (d :: rest) ≠ [] := by
        intro none
        exact Identifier.not_blank_of_getLast? (List.cons_ne_nil d rest) last
          (blank_of_wordsOf_eq_nil none)
      rw [List.head?_cons, Option.any_some] at ih ⊢
      by_cases blank : isBlank c = true
      · rw [collapseChars_blank blank, List.head?_cons, Option.any_some, ih last,
          wordsOf_blank blank, if_pos blank]
        by_cases next : isBlank d = true
        · rw [if_pos next, if_pos next]
        · rw [if_neg next, if_neg next]
          rfl
      · have dark : isBlank c = false := Bool.eq_false_iff.mpr blank
        rw [collapseChars_dark dark, ih last, if_neg blank]
        by_cases next : isBlank d = true
        · have apart : wordsOf (c :: d :: rest) = [c] :: wordsOf (d :: rest) :=
            wordsOf_append (solid_singleton dark) (by simpa)
          rw [if_pos next, apart, List.intercalate_cons_of_ne_nil some]
          rfl
        · obtain ⟨word, more, words⟩ := List.exists_cons_of_ne_nil some
          rw [if_neg next, wordsOf_dark dark (Bool.eq_false_iff.mpr next) words, words,
            List.intercalate_cons_cons_left]
          rfl

/-! ### Trimmed text -/

theorem getLast?_trimChars (cs : List Char) : ∀ c ∈ (trimChars cs).getLast?, isBlank c = false := by
  rw [trimChars, List.getLast?_reverse]
  exact head?_trimStartChars _

theorem head?_trimChars (cs : List Char) : ∀ c ∈ (trimChars cs).head?, isBlank c = false := by
  obtain ⟨back, whole, -⟩ := exists_trimStartChars (trimStartChars cs).reverse
  have front := congrArg List.reverse whole
  rw [List.reverse_reverse, List.reverse_append] at front
  have first := head?_trimStartChars cs
  rw [front] at first
  exact Identifier.forall_head?_of_append first

theorem trimChars_trimChars (cs : List Char) : trimChars (trimChars cs) = trimChars cs := by
  have ahead : trimStartChars (trimChars cs) = trimChars cs :=
    (trimStartChars_eq_self_iff _).mpr (head?_trimChars cs)
  have behind : trimStartChars (trimChars cs).reverse = (trimChars cs).reverse := by
    rw [trimStartChars_eq_self_iff, List.head?_reverse]
    exact getLast?_trimChars cs
  rw [trimChars, ahead, behind, List.reverse_reverse]

theorem trim_trim (s : String) : trim (trim s) = trim s := by
  rw [trim, trim, String.toList_ofList, trimChars_trimChars]

theorem wordsOf_trimChars (cs : List Char) : wordsOf (trimChars cs) = wordsOf cs := by
  obtain ⟨front, back, whole, ahead, behind⟩ := exists_trimChars cs
  have words : wordsOf cs = wordsOf (trimChars cs ++ back) :=
    (congrArg wordsOf whole).trans (wordsOf_append_of_blank ahead _)
  rw [words]
  cases back with
  | nil => rw [List.append_nil]
  | cons c back =>
    obtain ⟨first, others⟩ := List.forall_mem_cons.mp behind
    rw [wordsOf_append_cons first, wordsOf_of_blank others, List.append_nil]

/-- Trimming keeps what is not white space. -/
theorem mem_trimChars {c : Char} (dark : isBlank c = false) (cs : List Char) :
    c ∈ trimChars cs ↔ c ∈ cs := by
  obtain ⟨front, back, whole, ahead, behind⟩ := exists_trimChars cs
  have outside {gap : List Char} (blank : Blank gap) : c ∉ gap := by
    intro member
    rw [blank c member] at dark
    cases dark
  have parts : c ∈ cs ↔ c ∈ front ++ (trimChars cs ++ back) := by rw [← whole]
  rw [parts, List.mem_append, List.mem_append]
  simp [outside ahead, outside behind]

theorem collapseChars_trimChars (cs : List Char) :
    collapseChars (trimChars cs) = [' '].intercalate (wordsOf cs) := by
  have begun : ¬(trimChars cs).head?.any isBlank = true := by
    intro blank
    obtain ⟨c, first, white⟩ := (Option.any_eq_true _ _).mp blank
    rw [head?_trimChars cs c first] at white
    cases white
  rw [collapseChars_eq (getLast?_trimChars cs), if_neg begun, wordsOf_trimChars, List.nil_append]

theorem toList_collapse_trim (s : String) :
    (collapse (trim s)).toList = [' '].intercalate (wordsOf s.toList) := by
  rw [collapse, trim, String.toList_ofList, String.toList_ofList, collapseChars_trimChars]

/-- What is not white space is in a trimmed and collapsed text if it is in the text. -/
theorem mem_collapse_trim {c : Char} (dark : isBlank c = false) (s : String) :
    c ∈ (collapse (trim s)).toList ↔ c ∈ s.toList := by
  rw [collapse, trim, String.toList_ofList, String.toList_ofList, mem_collapseChars dark,
    mem_trimChars dark]

end Text

namespace Operator

/-! ### The form that is looked up -/

theorem normalize_eq (s : String) :
    normalize s = (Text.collapse (Text.trim s)).map lowerChar := by
  apply String.toList_injective
  rw [normalize, String.toList_map, String.toList_intercalate, Text.map_toList_words,
    String.toList_map, Text.toList_collapse_trim]
  rfl

theorem normalize_trim (s : String) : normalize (Text.trim s) = normalize s := by
  rw [normalize_eq, Text.trim_trim, ← normalize_eq]

/-- Without the Kelvin sign, lower case is the lower case of ASCII letters. -/
theorem lowerAscii_eq_normalize {s : String} (clear : '\u212a' ∉ s.toList) :
    Text.lowerAscii (Text.collapse (Text.trim s)) = normalize s := by
  apply String.toList_injective
  rw [Text.lowerAscii, String.toList_map, normalize_eq, String.toList_map]
  apply List.map_congr_left
  intro c member
  have other : c ≠ '\u212a' := by
    rintro rfl
    exact clear ((Text.mem_collapse_trim (by decide) s).mp member)
  exact (if_neg other).symm

/-- The Kelvin sign is no ASCII letter. -/
theorem kelvin_mem_lowerAscii {s : String} (kelvin : '\u212a' ∈ s.toList) :
    '\u212a' ∈ (Text.lowerAscii (Text.collapse (Text.trim s))).toList := by
  rw [Text.lowerAscii, String.toList_map]
  exact List.mem_map.mpr ⟨_, (Text.mem_collapse_trim (by decide) s).mpr kelvin, by decide⟩

variable {s : String} {op : Operator}

/-- What reads as a permitted operator has no Kelvin sign. -/
theorem clear_of_lowerAscii
    (reads : Text.lowerAscii (Text.collapse (Text.trim s)) ∈ permitted) : '\u212a' ∉ s.toList := by
  intro kelvin
  exact (canonical_of_permitted reads).noKelvin (kelvin_mem_lowerAscii kelvin)

theorem backslash_not_mem_text (parsed : parse s = .ok op) : '\\' ∉ op.text.toList := by
  obtain ⟨listed, rfl⟩ := listed_of_parse parsed
  intro member
  rw [Text.trim, String.toList_ofList, Text.mem_trimChars (by decide)] at member
  apply (canonical_of_permitted listed).noBackslash
  rw [normalize_eq, String.toList_map]
  exact List.mem_map.mpr ⟨_, (Text.mem_collapse_trim (by decide) s).mpr member, by decide⟩

/-! ### The form that is written -/

theorem head?_escapeMarks (cs : List Char) : (escapeMarks cs).head? ≠ some '?' := by
  cases cs with
  | nil => exact nofun
  | cons c rest =>
    rw [escapeMarks]
    split
    · simp
    · rename_i other
      simpa using other

/-- An operator is read back from its escapes. -/
theorem unescape_escapeMarks (cs : List Char) : Sql.unescape (escapeMarks cs) = cs := by
  induction cs with
  | nil => rfl
  | cons c rest ih =>
    rw [escapeMarks]
    split
    · rename_i mark
      rw [mark]
      exact congrArg ('?' :: ·) ih
    · rw [Sql.unescape_cons fun _ => head?_escapeMarks rest, ih]

/-- The question marks of an operator are escaped once. -/
theorem escapeMarks_escapeMarks {cs : List Char} (plain : '\\' ∉ cs) :
    Sql.escapeMarks false (escapeMarks cs) = escapeMarks cs := by
  induction cs with
  | nil => rfl
  | cons c rest ih =>
    rw [List.mem_cons, not_or] at plain
    have later := ih plain.2
    rw [escapeMarks]
    split
    · change '\\' :: '?' :: Sql.escapeMarks false (escapeMarks rest) = _
      rw [later]
    · rename_i other
      have next : (c == '\\' && !false) = false := by
        rw [beq_false_of_ne (Ne.symm plain.1), Bool.false_and]
      rw [Sql.escapeMarks, if_neg fun mark => other mark.1, next, later]

/-- What an operator reads as where it is written: its escapes are taken back, and each run of white
space is one space. -/
def reading (op : Operator) : String :=
  Text.collapse (String.ofList (Sql.unescape op.render.toList))

theorem reading_eq (op : Operator) : op.reading = Text.collapse op.text := by
  rw [reading, render, String.toList_ofList, unescape_escapeMarks, String.ofList_toList]

/-- An operator between two spaces. -/
def pieces (op : Operator) : List Piece :=
  [.text " ", .text op.render, .text " "]

/-- Behind any text, an operator is written as it is rendered. -/
theorem foldl_write_pieces (plain : '\\' ∉ op.text.toList) (sql : Sql) :
    op.pieces.foldl Sql.write sql = ⟨sql.text ++ " " ++ op.render ++ " ", sql.bindings⟩ := by
  have space (text : String) : Sql.appendEscaped text " " = text ++ " " :=
    if_neg (by decide)
  have operator (text : String) :
      Sql.appendEscaped (text ++ " ") op.render = text ++ " " ++ op.render := by
    have closed : Sql.endsBehind false (text ++ " ").toList = false := by
      rw [String.toList_append, Sql.endsBehind_append]
      rfl
    have escaped : Sql.escapeMarks false op.render.toList = op.render.toList := by
      rw [render, String.toList_ofList, escapeMarks_escapeMarks plain]
    apply String.toList_injective
    rw [Sql.appendEscaped_toList, closed, escaped, ← String.toList_append]
  simp only [pieces, List.foldl_cons, List.foldl_nil, Sql.write, Sql.addText, space, operator]

end Operator

/-! ### Conditions with an operator -/

namespace Condition

variable {σ : Type}

/-- The operator that a condition is written with. -/
def operator? : Condition σ → Option Operator
  | .compare _ operator _ | .columns _ operator _ => some operator
  | _ => none

/-- A condition with an operator is rendered as what stands on its two sides and the operator
between them. -/
theorem exists_render_of_operator {condition : Condition Attached} {op : Operator}
    (own : condition.operator? = some op) (target : Target) (negated : Bool) :
    ∃ first second : Rendering, condition.render target negated =
      .concat ([.negation negated, first] ++
        ([.text " ", .text op.render, .text " "] ++ [second])) := by
  cases condition with
  | compare column operator value =>
    obtain rfl := Option.some.inj own
    refine ⟨column.render target none, (value.rendered target).compared, ?_⟩
    rw [render]
    rfl
  | columns left operator right =>
    obtain rfl := Option.some.inj own
    refine ⟨left.render target none, right.render target none, ?_⟩
    rw [render]
    rfl
  | _ => cases own

theorem exists_pieces_of_operator {condition : Condition Attached} {op : Operator}
    (own : condition.operator? = some op) {target : Target} {negated : Bool} {pieces : List Piece}
    (given : (condition.render target negated).outcome = .ok pieces) :
    ∃ ahead behind, pieces = ahead ++ op.pieces ++ behind := by
  obtain ⟨first, second, parts⟩ := exists_render_of_operator own target negated
  rw [parts] at given
  obtain ⟨ahead, back, -, later, rfl⟩ := Rendering.exists_outcome_of_concat_append given
  obtain ⟨middle, behind, own, -, rfl⟩ := Rendering.exists_outcome_of_concat_append later
  obtain rfl : op.pieces = middle := Except.ok.inj own
  exact ⟨ahead, behind, (List.append_assoc ahead op.pieces behind).symm⟩

end Condition

namespace Operator

/-- An operator that is accepted is written as the caller spelled it, between two spaces. In lower
case it reads as the permitted form that it was looked up in, where the lower case is that of ASCII
letters exactly if the spelling has no Kelvin sign. Both forms are accepted again, and every text is
accepted that reads as a permitted form. -/
theorem parse_written (s : String) :
    (∀ op, parse s = .ok op →
      (∀ (condition : Condition Attached) target negated pieces,
        condition.operator? = some op →
        (condition.render target negated).outcome = .ok pieces →
        ∃ ahead behind, pieces = ahead ++ op.pieces ++ behind) ∧
      (∀ sql : Sql, op.pieces.foldl Sql.write sql =
        ⟨sql.text ++ " " ++ op.render ++ " ", sql.bindings⟩) ∧
      op.reading.map lowerChar = op.normalized ∧
      (Text.lowerAscii op.reading = op.normalized ↔ '\u212a' ∉ s.toList) ∧
      (Text.lowerAscii op.reading ∈ permitted ↔ '\u212a' ∉ s.toList) ∧
      op.normalized ∈ permitted ∧
      parse op.text = .ok op ∧
      parse op.normalized = .ok ⟨op.normalized, op.normalized⟩) ∧
    (Text.lowerAscii (Text.collapse (Text.trim s)) ∈ permitted →
      parse s = .ok ⟨Text.trim s, Text.lowerAscii (Text.collapse (Text.trim s))⟩) := by
  constructor
  · intro op parsed
    have plain := backslash_not_mem_text parsed
    obtain ⟨listed, rfl⟩ := listed_of_parse parsed
    refine ⟨?_, foldl_write_pieces plain, ?_, ?_, ?_, listed, ?_, parse_of_permitted listed⟩
    · intro condition target negated pieces own given
      exact Condition.exists_pieces_of_operator own given
    · rw [reading_eq]
      exact (normalize_eq s).symm
    · rw [reading_eq]
      constructor
      · intro same
        apply clear_of_lowerAscii
        rw [same]
        exact listed
      · exact lowerAscii_eq_normalize
    · rw [reading_eq]
      constructor
      · exact clear_of_lowerAscii
      · intro clear
        rw [lowerAscii_eq_normalize clear]
        exact listed
    · have again : normalize (Text.trim s) = normalize s := normalize_trim s
      rw [parse_of_listed (again.symm ▸ listed), Text.trim_trim, again]
  · intro reads
    have same := lowerAscii_eq_normalize (clear_of_lowerAscii reads)
    rw [same] at reads ⊢
    exact parse_of_listed reads

/-- An ideographic space and capital letters are written, and read as the form that is permitted. -/
theorem parse_written_notLike :
    parse "Not\u3000LIKE " = .ok ⟨"Not\u3000LIKE", "not like"⟩ ∧
      (∃ ahead behind, [.text "", .text "1", .text " ", .text "Not\u3000LIKE", .text " ",
        .text "NULL"] = ahead ++ pieces ⟨"Not\u3000LIKE", "not like"⟩ ++ behind) ∧
      Text.lowerAscii (reading ⟨"Not\u3000LIKE", "not like"⟩) = "not like" ∧
      parse "not\tLIKE" = .ok ⟨"not\tLIKE", "not like"⟩ := by
  have parsed : parse "Not\u3000LIKE " = .ok ⟨"Not\u3000LIKE", "not like"⟩ :=
    (parse_of_listed (by decide +kernel)).trans (congrArg Except.ok (by decide +kernel))
  have rendered : ((Condition.compare (.numeral "1") ⟨"Not\u3000LIKE", "not like"⟩
      (.value .null)).render {} false).outcome = .ok [.text "", .text "1", .text " ",
        .text "Not\u3000LIKE", .text " ", .text "NULL"] := by
    rw [(Condition.render_compare_null _ _ _ _).1, Column.render]
    rfl
  obtain ⟨stands, -, -, reads, -⟩ := (parse_written "Not\u3000LIKE ").1 _ parsed
  have accepted := (parse_written "not\tLIKE").2 (by decide +kernel)
  exact ⟨parsed, stands _ _ _ _ rfl rendered, reads.mpr (by decide),
    accepted.trans (congrArg Except.ok (by decide +kernel))⟩

/-- The Kelvin sign is accepted for a letter and written as it is. -/
theorem written_kelvin :
    let b := (Call.runAll [.source (.name "t"),
      .filter .wheres {} (.compare (.name "a") "li\u212ae" (.value (.text "x")))] (.start {})).value
    parse "li\u212ae" = .ok ⟨"li\u212ae", "like"⟩ ∧
      Text.lowerAscii (reading ⟨"li\u212ae", "like"⟩) = "li\u212ae" ∧
      "li\u212ae" ∉ permitted ∧
      (b.toSql.outcome.map Sql.text).toOption =
        some "select * from \"t\" where \"a\" li\u212ae ?" := by
  have parsed : parse "li\u212ae" = .ok ⟨"li\u212ae", "like"⟩ :=
    (parse_of_listed (by decide +kernel)).trans (congrArg Except.ok (by decide +kernel))
  exact ⟨parsed, by decide +kernel, by decide +kernel, by decide +kernel⟩

end Operator

end PortableSql
