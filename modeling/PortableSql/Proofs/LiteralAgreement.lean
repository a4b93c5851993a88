import PortableSql.Proofs.Described
import PortableSql.Proofs.PlaceholderAgreement

/-!
The two outputs of a statement agree.

`Sql.cut` takes a text apart at its placeholders. Where there is one placeholder for each value, the
text with the values written into it is those pieces with a literal between each two
(`Sql.literalChars_eq_fill`); a literal is written as it is, whatever question marks it has.
Described statements have one placeholder for each value (`Statement.placeholders_of_plain`), so
their two outputs are one text with slots and without (`Builder.toQuery_describe`).
-/

namespace PortableSql

/-- A text in pieces: the one in front of the first placeholder, and one behind each placeholder. -/
structure Pieces where
  first : List Char
  others : List (List Char)

namespace Sql

/-! ### Text in pieces -/

/-- Takes a text apart at its placeholders; `behind` says whether a backslash is directly in front
of the text. -/
def cut (behind : Bool) : List Char → Pieces
  | [] => ⟨[], []⟩
  | c :: rest =>
    let pieces := cut (c == '\\') rest
    if c = '?' ∧ behind = false then ⟨[], pieces.first :: pieces.others⟩
    else ⟨c :: pieces.first, pieces.others⟩

/-- Text whose escaped question marks lose their backslash. -/
def unescape : List Char → List Char
  | [] => []
  | '\\' :: '?' :: rest => '?' :: unescape rest
  | c :: rest => c :: unescape rest

/-- Pieces, unescaped, with the literal of a value in front of each but the first. -/
def fill (grammar : Grammar) (pieces : Pieces) (values : List Value) : List Char :=
  unescape pieces.first ++ (List.zipWith (fun value piece =>
    (value.literal grammar).toList ++ unescape piece) values pieces.others).flatten

theorem cut_mark (rest : List Char) :
    cut false ('?' :: rest) = ⟨[], (cut false rest).first :: (cut false rest).others⟩ := rfl

theorem cut_char {behind : Bool} {c : Char} (plain : ¬(c = '?' ∧ behind = false))
    (rest : List Char) : cut behind (c :: rest) =
      ⟨c :: (cut (c == '\\') rest).first, (cut (c == '\\') rest).others⟩ := by
  rw [cut, if_neg plain]

/-- There is one more piece than placeholders. -/
theorem length_others_cut (behind : Bool) (cs : List Char) :
    (cut behind cs).others.length = marks behind cs := by
  induction cs generalizing behind with
  | nil => rfl
  | cons c rest ih =>
    rw [marks, ← ih]
    by_cases mark : c = '?' ∧ behind = false
    · obtain ⟨rfl, rfl⟩ := mark
      rw [cut_mark, List.length_cons, if_pos ⟨rfl, rfl⟩, Nat.add_comm]
      rfl
    · rw [cut_char mark, if_neg mark, Nat.zero_add]

/-- The pieces with question marks between them are the text. -/
theorem glue_cut (behind : Bool) (cs : List Char) :
    (cut behind cs).first ++ (cut behind cs).others.flatMap ('?' :: ·) = cs := by
  induction cs generalizing behind with
  | nil => rfl
  | cons c rest ih =>
    by_cases mark : c = '?' ∧ behind = false
    · obtain ⟨rfl, rfl⟩ := mark
      rw [cut_mark, List.nil_append, List.flatMap_cons, List.cons_append, ih]
    · rw [cut_char mark, List.cons_append, ih]

theorem marks_first_cut (behind : Bool) (cs : List Char) :
    marks behind (cut behind cs).first = 0 := by
  induction cs generalizing behind with
  | nil => rfl
  | cons c rest ih =>
    by_cases mark : c = '?' ∧ behind = false
    · obtain ⟨rfl, rfl⟩ := mark
      rfl
    · rw [cut_char mark, marks, if_neg mark, ih]

/-- No piece holds a placeholder. -/
theorem marks_others_cut (behind : Bool) (cs : List Char) :
    ∀ piece ∈ (cut behind cs).others, marks false piece = 0 := by
  induction cs generalizing behind with
  | nil => exact nofun
  | cons c rest ih =>
    by_cases mark : c = '?' ∧ behind = false
    · obtain ⟨rfl, rfl⟩ := mark
      rw [cut_mark]
      exact List.forall_mem_cons.mpr ⟨marks_first_cut false rest, ih false⟩
    · rw [cut_char mark]
      exact ih (c == '\\')

/-- What is in front of a text counts only if it begins with a question mark. -/
theorem cut_behind (behind : Bool) {cs : List Char} (different : cs.head? ≠ some '?') :
    cut behind cs = cut false cs := by
  cases cs with
  | nil => rfl
  | cons c rest =>
    have other : c ≠ '?' := by simpa using different
    rw [cut_char (by simp [other]), cut_char (by simp [other])]

/-- The first piece begins with a question mark only if the text does. -/
theorem head?_first_cut (behind : Bool) {cs : List Char} (different : cs.head? ≠ some '?') :
    (cut behind cs).first.head? ≠ some '?' := by
  cases cs with
  | nil => simp [cut]
  | cons c rest =>
    have other : c ≠ '?' := by simpa using different
    rw [cut_char (by simp [other])]
    simpa using other

theorem unescape_cons {c : Char} {cs : List Char} (plain : c = '\\' → cs.head? ≠ some '?') :
    unescape (c :: cs) = c :: unescape cs := by
  refine unescape.eq_3 c cs fun rest backslash mark => ?_
  exact plain backslash (by rw [mark, List.head?_cons])

/-! ### Literals in the place of placeholders -/

variable {grammar : Grammar}

theorem fill_cons {c : Char} {pieces : Pieces} (plain : c = '\\' → pieces.first.head? ≠ some '?')
    (values : List Value) :
    fill grammar ⟨c :: pieces.first, pieces.others⟩ values = c :: fill grammar pieces values := by
  rw [fill, unescape_cons plain]
  rfl

/-- What is in front of a text counts only if it begins with a question mark. -/
theorem marks_behind {cs : List Char} (different : cs.head? ≠ some '?') (behind : Bool) :
    marks behind cs = marks false cs := by
  rw [← length_others_cut, cut_behind behind different, length_others_cut]

/-- With one placeholder for each value, a character at which the scan finds neither an escape nor a
placeholder with a value is no question mark, and no open backslash either. -/
theorem kept_char {c : Char} {rest : List Char} {values : List Value}
    (agree : marks false (c :: rest) = values.length)
    (escaped : ∀ more, c = '\\' → rest = '?' :: more → False)
    (filled : ∀ value others, values = value :: others → c = '?' → False) :
    c ≠ '?' ∧ (c = '\\' → rest.head? ≠ some '?') ∧ marks false rest = values.length := by
  have other : c ≠ '?' := by
    rintro rfl
    cases values with
    | nil => simp [marks] at agree
    | cons value values => exact filled value values rfl rfl
  have lone : c = '\\' → rest.head? ≠ some '?' := by
    rintro rfl found
    obtain ⟨more, rfl⟩ := List.head?_eq_some_iff.mp found
    exact escaped more rfl rfl
  refine ⟨other, lone, ?_⟩
  rw [← agree, marks, if_neg fun mark => other mark.1, Nat.zero_add]
  by_cases backslash : c = '\\'
  · exact (marks_behind (lone backslash) _).symm
  · rw [beq_false_of_ne backslash]

/-- With one placeholder for each value, the literals stand between the pieces. -/
theorem literalChars_eq_fill {cs : List Char} {values : List Value}
    (agree : marks false cs = values.length) :
    literalChars grammar cs values = fill grammar (cut false cs) values := by
  fun_induction literalChars grammar cs values with
  | case1 values =>
    rw [fill]
    simp [cut, unescape]
  | case2 rest values ih =>
    -- The escaped mark stays in its piece.
    rw [ih (by simpa [marks] using agree)]
    rfl
  | case3 rest value values ih =>
    have count : 1 + marks false rest = values.length + 1 := by simpa [marks] using agree
    rw [ih (by omega), cut_mark]
    simp [fill, unescape]
  | case4 c rest values escaped filled ih =>
    obtain ⟨other, lone, tail⟩ := kept_char agree escaped filled
    have same : cut (c == '\\') rest = cut false rest := by
      by_cases backslash : c = '\\'
      · exact cut_behind _ (lone backslash)
      · rw [beq_false_of_ne backslash]
    rw [ih tail, cut_char (by simp [other]), same]
    exact (fill_cons (fun backslash => head?_first_cut false (lone backslash)) values).symm

theorem literal_eq_fill {sql : Sql} (agree : placeholders sql.text = sql.bindings.length) :
    sql.literal grammar =
      String.ofList (fill grammar (cut false sql.text.toList) sql.bindings) := by
  rw [literal, literalChars_eq_fill agree]

end Sql

/-! ### Statements that documents describe -/

namespace Statement

/-- A statement of plain operands has one placeholder for each value. -/
theorem placeholders_of_plain {s : Statement} (plain : s.Plain) {target : Target} {sql : Sql}
    (compiled : (s.compile target).outcome = .ok sql) :
    Sql.placeholders sql.text = sql.bindings.length := by
  obtain ⟨pieces, rendered, rfl⟩ := pieces_of_compile compiled
  let promise : Promise := ⟨fun _ => True, fun _ _ => trivial, True⟩
  have guarded : s.All fun t => ∀ fragment, .raw fragment ∈ t.operands →
      fragment.guarded = true ∨ fragment.Lone := by
    refine plain.all fun fragment member => .inr ?_
    cases plain _ member with
    | raw lone => exact lone
  have safe : Rendering.Safe promise false true (s.render target) :=
    safe_render target (plain.all fun _ _ => trivial) fun _ => guarded
  have kept := safe.ok rendered
  have count := Sql.placeholders_add_hidden kept.written
  have none := (kept.shown trivial false nofun).1
  omega

end Statement

namespace Builder

/-- The text with values is the text with slots, its values written into it. -/
theorem outcome_toQuery (b : Builder) :
    b.toQuery.outcome = b.toSql.outcome.map (·.literal b.target.grammar) := by
  unfold toQuery Statement.compileLiteral toSql
  rw [Render.outcome_bind]
  cases (b.statement.compile b.target).outcome <;> rfl

/-- Both outputs of a description fail alike, or the text with slots has one placeholder for each
value, and the text with values has the literal of the value in the place of each, with the escaped
question marks of the pieces between them unescaped. -/
theorem toQuery_describe (target : Target) (description : Json) :
    let b := ((Builder.start target).describe description).value
    (∃ fault, b.toSql.outcome = .error fault ∧ b.toQuery.outcome = .error fault) ∨
      ∃ sql, b.toSql.outcome = .ok sql ∧
        Sql.placeholders sql.text = sql.bindings.length ∧
        b.toQuery.outcome = .ok (String.ofList
          (Sql.fill target.grammar (Sql.cut false sql.text.toList) sql.bindings)) := by
  intro b
  have kept : b.target = target := target_describe (.start target) description
  have empty : (Builder.start target).statement.Plain := nofun
  have plain : b.statement.Plain := plain_describe empty description
  have literal := b.outcome_toQuery
  rw [kept] at literal
  cases compiled : b.toSql.outcome with
  | error fault =>
    left
    exact ⟨fault, rfl, by rw [literal, compiled]; rfl⟩
  | ok sql =>
    right
    have agree := Statement.placeholders_of_plain plain compiled
    refine ⟨sql, rfl, agree, ?_⟩
    rw [literal, compiled, ← Sql.literal_eq_fill agree]
    rfl

/-- The question mark of a value is no placeholder, and an output slot stays one. -/
example : ((Builder.start { dialect := .oracle }).describe (.object
    [("into", .string "t"), ("insert", .object [("a", .string "b?")]),
      ("returning", .string "id")])).value.toQuery.outcome.toOption =
    some "insert into \"t\" (\"a\") values ('b?') returning ROWID into ?" := by
  decide +kernel

end Builder

end PortableSql
