import PortableSql.Proofs.LiteralAgreement
import PortableSql.Proofs.NameCharacters

/-!
Names in the text with values.

The question marks of a name are escaped where the name is written, unless a backslash in front of
them is taken for an escape that they have already, and the text with values takes all escapes back.
So a name is shown as it is quoted exactly if none of its question marks has an odd number of
backslashes in front of it (`Builder.toQuery_name`).
-/

namespace PortableSql

namespace Sql

/-! ### Escapes that are taken back -/

/-- What is left of a text after its question marks are escaped and the escapes taken back. -/
def shown : List Char → List Char
  | [] => []
  | '\\' :: '\\' :: rest => '\\' :: '\\' :: shown rest
  | '\\' :: '?' :: rest => '?' :: shown rest
  | c :: rest => c :: shown rest

/-- What is behind a backslash that begins neither a pair nor an escape. -/
theorem head?_ne_of_lone {c : Char} {rest : List Char}
    (notDouble : ∀ more, c = '\\' → rest = '\\' :: more → False)
    (notMark : ∀ more, c = '\\' → rest = '?' :: more → False) (backslash : c = '\\') :
    rest.head? ≠ some '?' ∧ rest.head? ≠ some '\\' := by
  constructor <;> intro found <;> obtain ⟨more, rfl⟩ := List.head?_eq_some_iff.mp found
  · exact notMark more backslash rfl
  · exact notDouble more backslash rfl

theorem head?_escapeMarks (cs : List Char) : (escapeMarks false cs).head? ≠ some '?' := by
  cases cs with
  | nil => exact nofun
  | cons c rest =>
    rw [escapeMarks]
    split
    · simp
    · rename_i other
      simpa using other

/-- An open backslash counts only in front of a question mark and of a backslash. -/
theorem escapeMarks_open {cs : List Char} (mark : cs.head? ≠ some '?')
    (backslash : cs.head? ≠ some '\\') : escapeMarks true cs = escapeMarks false cs := by
  cases cs with
  | nil => rfl
  | cons c rest =>
    have notMark : c ≠ '?' := by simpa using mark
    have notBackslash : (c == '\\') = false := by simpa using backslash
    simp [escapeMarks, notMark, notBackslash]

theorem unescape_escapeMarks (cs : List Char) : unescape (escapeMarks false cs) = shown cs := by
  fun_induction shown cs with
  | case1 => rfl
  | case2 rest ih =>
    change unescape ('\\' :: '\\' :: escapeMarks false rest) = _
    rw [unescape_cons (by simp), unescape_cons fun _ => head?_escapeMarks rest, ih]
  | case3 rest ih => exact congrArg ('?' :: ·) ih
  | case4 c rest notDouble notMark ih =>
    by_cases mark : c = '?'
    · rw [mark]
      exact congrArg ('?' :: ·) ih
    · have next : escapeMarks (c == '\\' && !false) rest = escapeMarks false rest := by
        by_cases backslash : c = '\\'
        · obtain ⟨mark, double⟩ := head?_ne_of_lone notDouble notMark backslash
          rw [backslash]
          exact escapeMarks_open mark double
        · rw [beq_false_of_ne backslash, Bool.false_and]
      rw [escapeMarks, if_neg fun is => mark is.1, next,
        unescape_cons fun _ => head?_escapeMarks rest, ih]

theorem unescape_append {front : List Char} (plain : '\\' ∉ front) (cs : List Char) :
    unescape (front ++ cs) = front ++ unescape cs := by
  induction front with
  | nil => rfl
  | cons c front ih =>
    rw [List.mem_cons, not_or] at plain
    rw [List.cons_append, unescape_cons fun same => absurd same.symm plain.1, ih plain.2]
    rfl

/-- Without values, the text with values is the text without escapes. -/
theorem literalChars_nil (grammar : Grammar) (cs : List Char) :
    literalChars grammar cs [] = unescape cs := by
  fun_induction unescape cs with
  | case1 => rfl
  | case2 rest ih => exact congrArg ('?' :: ·) ih
  | case3 c rest notMark ih =>
    rw [literalChars.eq_4 grammar [] c rest notMark nofun, ih]

theorem endsBehind_of_plain {cs : List Char} (plain : '\\' ∉ cs) :
    endsBehind false cs = false := by
  induction cs with
  | nil => rfl
  | cons c rest ih =>
    rw [List.mem_cons, not_or] at plain
    rw [endsBehind_cons, beq_false_of_ne (Ne.symm plain.1), ih plain.2]

theorem toList_appendEscaped {front : String} (plain : '\\' ∉ front.toList) (s : String) :
    (appendEscaped front s).toList = front.toList ++ escapeMarks false s.toList := by
  rw [appendEscaped_toList, endsBehind_of_plain plain]

/-- Behind words, a text is shown with its escapes taken back. -/
theorem literal_appendEscaped {front : String} (plain : '\\' ∉ front.toList) (grammar : Grammar)
    (s : String) :
    literal ⟨appendEscaped front s, []⟩ grammar = front ++ String.ofList (shown s.toList) := by
  rw [literal, toList_appendEscaped plain, literalChars_nil, unescape_append plain,
    unescape_escapeMarks, String.ofList_append, String.ofList_toList]

/-- Behind the same words, texts that are shown differently are written differently. -/
theorem shown_eq_of_appendEscaped {front : String} (plain : '\\' ∉ front.toList) {s other : String}
    (same : appendEscaped front s = appendEscaped front other) :
    shown s.toList = shown other.toList := by
  have chars := congrArg String.toList same
  rw [toList_appendEscaped plain, toList_appendEscaped plain] at chars
  rw [← unescape_escapeMarks, ← unescape_escapeMarks, List.append_cancel_left chars]

/-! ### Hidden question marks -/

/-- A question mark of a text is behind an odd number of backslashes. -/
def HidesMark (cs : List Char) : Prop :=
  ∃ front back, cs = front ++ '?' :: back ∧ (front.reverse.takeWhile (· == '\\')).length % 2 = 1

/-- Whether a question mark is behind an odd number of backslashes; `odd` says whether the number of
those directly in front of the text is odd. -/
def hidesMark (odd : Bool) : List Char → Bool
  | [] => false
  | c :: rest => (c == '?' && odd) || hidesMark (c == '\\' && !odd) rest

/-- Whether the number of backslashes at the end of a text is odd. -/
def endsOdd (cs : List Char) : Bool :=
  (cs.reverse.takeWhile (· == '\\')).length % 2 == 1

theorem endsOdd_concat (cs : List Char) (c : Char) :
    endsOdd (cs ++ [c]) = (c == '\\' && !endsOdd cs) := by
  unfold endsOdd
  rw [List.reverse_append, List.reverse_singleton, List.singleton_append, List.takeWhile_cons]
  split
  · rename_i backslash
    rw [backslash, Bool.true_and, List.length_cons]
    generalize (cs.reverse.takeWhile (· == '\\')).length = n
    rcases Nat.mod_two_eq_zero_or_one n with even | odd
    · simp [even, Nat.add_mod]
    · simp [odd, Nat.add_mod]
  · rename_i other
    rw [Bool.not_eq_true] at other
    rw [other]
    rfl

theorem hidesMark_iff (read cs : List Char) : hidesMark (endsOdd read) cs = true ↔
    ∃ front back, cs = front ++ '?' :: back ∧ endsOdd (read ++ front) = true := by
  induction cs generalizing read with
  | nil => exact iff_of_false nofun fun ⟨front, back, whole, _⟩ => by cases front <;> cases whole
  | cons c rest ih =>
    have step := ih (read ++ [c])
    rw [endsOdd_concat] at step
    rw [hidesMark, Bool.or_eq_true, Bool.and_eq_true, beq_iff_eq, step]
    constructor
    · rintro (⟨rfl, odd⟩ | ⟨front, back, rfl, odd⟩)
      · exact ⟨[], rest, rfl, by rwa [List.append_nil]⟩
      · exact ⟨c :: front, back, rfl, by rwa [List.append_assoc] at odd⟩
    · rintro ⟨front, back, whole, odd⟩
      cases front with
      | nil =>
        cases whole
        exact .inl ⟨rfl, by rwa [List.append_nil] at odd⟩
      | cons d front =>
        cases whole
        exact .inr ⟨front, back, rfl, by rwa [List.append_assoc]⟩

theorem hidesMark_false_iff (cs : List Char) : hidesMark false cs = true ↔ HidesMark cs := by
  have same := hidesMark_iff [] cs
  simpa [endsOdd, HidesMark] using same

instance (cs : List Char) : Decidable (HidesMark cs) :=
  decidable_of_iff _ (hidesMark_false_iff cs)

theorem hidesMark_open {cs : List Char} (mark : cs.head? ≠ some '?')
    (backslash : cs.head? ≠ some '\\') : hidesMark true cs = hidesMark false cs := by
  cases cs with
  | nil => rfl
  | cons c rest =>
    have notMark : (c == '?') = false := by simpa using mark
    have notBackslash : (c == '\\') = false := by simpa using backslash
    simp [hidesMark, notMark, notBackslash]

/-- A text without hidden question marks is shown as it is, and any other loses characters. -/
theorem shown_eq_or_shorter (cs : List Char) :
    hidesMark false cs = false ∧ shown cs = cs ∨
      hidesMark false cs = true ∧ (shown cs).length < cs.length := by
  fun_induction shown cs with
  | case1 => exact .inl ⟨rfl, rfl⟩
  | case2 rest ih =>
    change hidesMark false rest = false ∧ _ ∨ hidesMark false rest = true ∧ _
    rcases ih with ⟨clear, same⟩ | ⟨hides, shorter⟩
    · exact .inl ⟨clear, by rw [same]⟩
    · exact .inr ⟨hides, by simpa using shorter⟩
  | case3 rest ih =>
    right
    refine ⟨rfl, ?_⟩
    rcases ih with ⟨-, same⟩ | ⟨-, shorter⟩
    · simp [same]
    · simp only [List.length_cons]
      omega
  | case4 c rest notDouble notMark ih =>
    have next : hidesMark false (c :: rest) = hidesMark false rest := by
      by_cases backslash : c = '\\'
      · obtain ⟨mark, double⟩ := head?_ne_of_lone notDouble notMark backslash
        rw [backslash]
        exact hidesMark_open mark double
      · have other : (c == '\\') = false := beq_false_of_ne backslash
        simp [hidesMark, other]
    rw [next]
    rcases ih with ⟨clear, same⟩ | ⟨hides, shorter⟩
    · exact .inl ⟨clear, by rw [same]⟩
    · exact .inr ⟨hides, by simpa using shorter⟩

theorem shown_eq_self_iff (cs : List Char) : shown cs = cs ↔ ¬HidesMark cs := by
  rw [← hidesMark_false_iff]
  rcases shown_eq_or_shorter cs with ⟨clear, same⟩ | ⟨hides, shorter⟩
  · exact iff_of_true same (by simp [clear])
  · exact iff_of_false (fun same => by simp [same] at shorter) (by simp [hides])

/-! ### Text around neutral characters -/

/-- A character that neither escapes nor can be escaped. -/
def Neutral (c : Char) : Prop :=
  c ≠ '\\' ∧ c ≠ '?'

instance (c : Char) : Decidable (Neutral c) :=
  inferInstanceAs (Decidable (_ ∧ _))

theorem hidesMark_cons {c : Char} (neutral : Neutral c) (odd : Bool) (cs : List Char) :
    hidesMark odd (c :: cs) = hidesMark false cs := by
  have notMark : (c == '?') = false := beq_false_of_ne neutral.2
  have notBackslash : (c == '\\') = false := beq_false_of_ne neutral.1
  simp [hidesMark, notMark, notBackslash]

/-- On the two sides of a neutral character, question marks are hidden or not by themselves. -/
theorem hidesMark_append_cons {c : Char} (neutral : Neutral c) (odd : Bool) (xs ys : List Char) :
    hidesMark odd (xs ++ c :: ys) = (hidesMark odd xs || hidesMark false ys) := by
  induction xs generalizing odd with
  | nil => exact hidesMark_cons neutral odd ys
  | cons d xs ih => rw [List.cons_append, hidesMark, hidesMark, ih, Bool.or_assoc]

theorem hidesMark_neutral_append {front : List Char} (neutral : ∀ c ∈ front, Neutral c)
    (ys : List Char) : hidesMark false (front ++ ys) = hidesMark false ys := by
  induction front with
  | nil => rfl
  | cons c front ih =>
    obtain ⟨first, others⟩ := List.forall_mem_cons.mp neutral
    rw [List.cons_append, hidesMark_cons first, ih others]

theorem hidesMark_append_neutral {back : List Char} (neutral : ∀ c ∈ back, Neutral c)
    (xs : List Char) : hidesMark false (xs ++ back) = hidesMark false xs := by
  cases back with
  | nil => rw [List.append_nil]
  | cons c back =>
    obtain ⟨first, others⟩ := List.forall_mem_cons.mp neutral
    have rest := hidesMark_neutral_append others []
    rw [List.append_nil] at rest
    rw [hidesMark_append_cons first, rest]
    exact Bool.or_false _

/-- Two texts with neutral characters between them. -/
theorem hidesMark_between {middle : List Char} (nonempty : middle ≠ [])
    (neutral : ∀ c ∈ middle, Neutral c) (xs ys : List Char) :
    hidesMark false (xs ++ (middle ++ ys)) = (hidesMark false xs || hidesMark false ys) := by
  obtain ⟨c, middle, rfl⟩ := List.exists_cons_of_ne_nil nonempty
  obtain ⟨first, others⟩ := List.forall_mem_cons.mp neutral
  rw [List.cons_append, hidesMark_append_cons first, hidesMark_neutral_append others]

end Sql

/-! ### Rendered names -/

namespace Identifier

open Sql (hidesMark Neutral)

theorem neutral_of_blank {cs : List Char} (blank : Text.Blank cs) : ∀ c ∈ cs, Neutral c := by
  intro c member
  constructor <;> rintro rfl <;> exact absurd (blank _ member) (by decide)

theorem Joint.neutral {cs : List Char} (joint : Joint cs) : cs ≠ [] ∧ ∀ c ∈ cs, Neutral c := by
  obtain ⟨⟨first, second⟩, ahead, behind⟩ := joint
  refine ⟨by simp, ?_⟩
  simp only [List.mem_append, List.mem_cons]
  rintro c (member | rfl | rfl | member)
  · exact neutral_of_blank ahead.2 c member
  · rcases first with rfl | rfl <;> decide
  · constructor <;> rintro rfl <;> exact absurd second (by decide)
  · exact neutral_of_blank behind.2 c member

/-- A name hides a question mark if its expression or its alias does. -/
theorem Divides.hidesMark_eq {name : List Char} {parts : List Char × Option (List Char)}
    (divides : Divides name parts) :
    hidesMark false name = (hidesMark false parts.1 || parts.2.any (hidesMark false)) := by
  cases divides with
  | plain whole ahead last =>
    rw [whole, Sql.hidesMark_neutral_append (neutral_of_blank ahead),
      Sql.hidesMark_append_neutral (neutral_of_blank last)]
    exact (Bool.or_false _).symm
  | aliased whole ahead joins last =>
    rw [whole, Sql.hidesMark_neutral_append (neutral_of_blank ahead),
      Sql.hidesMark_between joins.neutral.1 joins.neutral.2,
      Sql.hidesMark_append_neutral (neutral_of_blank last)]
    rfl

theorem hidesMark_splitDots (depth : Nat) (read cs : List Char) :
    (splitDots depth read cs).any (hidesMark false) = hidesMark false (read.reverse ++ cs) := by
  fun_induction splitDots depth read cs with
  | case1 => simp
  | case2 depth read rest ih => simpa using ih
  | case3 depth read rest _ ih => simpa using ih
  | case4 depth read c rest _ _ dot ih =>
    have neutral : Neutral c := by
      rw [dot.1]
      decide
    rw [List.any_cons, ih, Sql.hidesMark_append_cons neutral]
    rfl
  | case5 depth read c rest _ _ _ ih => simpa using ih

theorem hidesMark_intercalate (items : List (List Char)) :
    hidesMark false (['.'].intercalate items) = items.any (hidesMark false) := by
  induction items with
  | nil => rfl
  | cons first rest ih =>
    cases rest with
    | nil => simp
    | cons second rest =>
      have dot : Neutral '.' := by decide
      rw [List.intercalate_cons_cons, List.append_assoc, List.singleton_append,
        Sql.hidesMark_append_cons dot, ih]
      rfl

theorem hidesMark_doubleClosing {close : Char} (neutral : Neutral close) (odd : Bool)
    (cs : List Char) : hidesMark odd (doubleClosing close cs) = hidesMark odd cs := by
  induction cs generalizing odd with
  | nil => rfl
  | cons c rest ih =>
    unfold doubleClosing
    split
    · rename_i same
      subst same
      rw [Sql.hidesMark_cons neutral, Sql.hidesMark_cons neutral, Sql.hidesMark_cons neutral, ih]
    · rw [hidesMark, hidesMark, ih]

section

variable {grammar : Grammar} (opening : Neutral grammar.openQuote)
  (closing : Neutral grammar.closeQuote)

include opening closing

theorem hidesMark_quoteChars (name rest : List Char) :
    hidesMark false (quoteChars grammar name ++ rest) =
      (hidesMark false name || hidesMark false rest) := by
  rw [quoteChars, List.cons_append, List.cons_append, List.append_assoc, List.singleton_append,
    Sql.hidesMark_cons opening, Sql.hidesMark_append_cons closing, hidesMark_doubleClosing closing]

theorem hidesMark_renderSegment (segment : List Char) :
    hidesMark false (renderSegment grammar segment) = hidesMark false segment := by
  by_cases star : segment = ['*']
  · rw [star]
    rfl
  · obtain ⟨column, outside, whole, written, opened, -⟩ := exists_outside grammar star
    rw [written, hidesMark_quoteChars opening closing, whole]
    rcases opened with rfl | ⟨-, opened⟩
    · rw [List.append_nil]
      exact Bool.or_false _
    · obtain ⟨more, rfl⟩ := List.head?_eq_some_iff.mp opened
      have bracket : Neutral '[' := by decide
      rw [Sql.hidesMark_cons bracket, Sql.hidesMark_append_cons bracket]

theorem hidesMark_renderPath (expr : String) :
    hidesMark false (renderPath grammar expr).toList = hidesMark false expr.toList := by
  rw [renderPath, String.toList_ofList, hidesMark_intercalate, List.any_map]
  have segments := hidesMark_splitDots 0 [] expr.toList
  rw [List.reverse_nil, List.nil_append] at segments
  rw [← segments]
  refine congrArg (List.any _) (funext fun segment => ?_)
  exact hidesMark_renderSegment opening closing segment

end

theorem neutral_quotes (d : Dialect) :
    Neutral d.grammar.openQuote ∧ Neutral d.grammar.closeQuote := by
  cases d <;> decide

theorem neutral_aliasSeparator (d : Dialect) :
    d.grammar.aliasSeparator.toList ≠ [] ∧ ∀ c ∈ d.grammar.aliasSeparator.toList, Neutral c := by
  have notMark : '?' ∉ d.grammar.aliasSeparator.toList := by
    cases d <;> decide
  refine ⟨by cases d <;> decide, fun c member => ⟨?_, ?_⟩⟩
  · rintro rfl
    exact plain_aliasSeparator d member
  · rintro rfl
    exact notMark member

/-- A rendered name hides a question mark if the name does. -/
theorem hidesMark_render (d : Dialect) (name : String) :
    hidesMark false (render d.grammar name).toList = hidesMark false name.toList := by
  obtain ⟨opening, closing⟩ := neutral_quotes d
  obtain ⟨nonempty, neutral⟩ := neutral_aliasSeparator d
  rw [(Divides.parts name).hidesMark_eq]
  unfold render
  split
  · rename_i expr text found
    rw [found, String.toList_append, renderAlias, String.toList_append,
      Sql.hidesMark_between nonempty neutral, hidesMark_renderPath opening closing, quote,
      String.toList_ofList]
    have alone := hidesMark_quoteChars opening closing text.toList []
    rw [List.append_nil] at alone
    rw [alone]
    exact congrArg _ (Bool.or_false _)
  · rename_i expr found
    rw [found, hidesMark_renderPath opening closing]
    exact (Bool.or_false _).symm

theorem hidesMark_render_iff (d : Dialect) (name : String) :
    Sql.HidesMark (render d.grammar name).toList ↔ Sql.HidesMark name.toList := by
  rw [← Sql.hidesMark_false_iff, ← Sql.hidesMark_false_iff, hidesMark_render]

end Identifier

/-! ### Statements of one name -/

namespace Builder

variable (target : Target)

/-- A select of one column without a table. -/
def ofColumn (name : String) : Builder :=
  (Call.runAll [.select [.name name]] (.start target)).value

/-- A select of everything from one table. -/
def ofTable (name : String) : Builder :=
  (Call.runAll [.source (.name name)] (.start target)).value

theorem target_ofColumn (name : String) : (ofColumn target name).target = target := rfl

theorem target_ofTable (name : String) : (ofTable target name).target = target := rfl

theorem toSql_ofColumn (name : String) :
    (ofColumn target name).toSql.outcome =
      .ok ⟨Sql.appendEscaped "select " (Identifier.render target.grammar name), []⟩ := by
  have rendered : ((ofColumn target name).statement.render target).outcome =
      .ok [.text "select ", .text (Identifier.render target.grammar name)] := by
    obtain ⟨d, flag⟩ := target
    cases d <;> rfl
  have written (s : String) : Sql.ofPieces [.text "select ", .text s] =
      ⟨Sql.appendEscaped "select " s, []⟩ := rfl
  rw [toSql, target_ofColumn, ← written]
  exact Statement.compile_of_ok rendered

theorem toSql_ofTable (name : String) :
    (ofTable target name).toSql.outcome =
      .ok ⟨Sql.appendEscaped "select * from " (Identifier.render target.grammar name), []⟩ := by
  have rendered : ((ofTable target name).statement.render target).outcome =
      .ok [.text "select ", .text "*", .text " from ",
        .text (Identifier.render target.grammar name)] := by
    obtain ⟨d, flag⟩ := target
    cases d <;> rfl
  have written (s : String) :
      Sql.ofPieces [.text "select ", .text "*", .text " from ", .text s] =
        ⟨Sql.appendEscaped "select * from " s, []⟩ := rfl
  rw [toSql, target_ofTable, ← written]
  exact Statement.compile_of_ok rendered

/-- A name is shown as it is quoted, in a select of it and in a select from it, exactly if none of
its question marks is behind an odd number of backslashes. Two names of which this holds have the
same text only if they are quoted the same. -/
theorem toQuery_name (target : Target) (name : String) :
    let quoted (name : String) := Identifier.render target.grammar name
    let shown := String.ofList (Sql.shown (quoted name).toList)
    ((ofColumn target name).toQuery.outcome = .ok ("select " ++ shown) ∧
      (ofTable target name).toQuery.outcome = .ok ("select * from " ++ shown)) ∧
    (shown = quoted name ↔ ¬Sql.HidesMark name.toList) ∧
    ∀ other, ¬Sql.HidesMark name.toList → ¬Sql.HidesMark other.toList →
      ((ofColumn target name).toSql.outcome = (ofColumn target other).toSql.outcome ∨
        (ofTable target name).toSql.outcome = (ofTable target other).toSql.outcome) →
      quoted name = quoted other := by
  intro quoted shown
  have shown_iff (name : String) :
      Sql.shown (quoted name).toList = (quoted name).toList ↔ ¬Sql.HidesMark name.toList := by
    rw [Sql.shown_eq_self_iff]
    exact not_congr (Identifier.hidesMark_render_iff target.dialect name)
  refine ⟨⟨?_, ?_⟩, ?_, ?_⟩
  · rw [outcome_toQuery, toSql_ofColumn]
    exact congrArg Except.ok (Sql.literal_appendEscaped (by decide) _ _)
  · rw [outcome_toQuery, toSql_ofTable]
    exact congrArg Except.ok (Sql.literal_appendEscaped (by decide) _ _)
  · rw [← shown_iff, ← String.toList_inj, String.toList_ofList]
  · intro other clear clear' same
    have alike : Sql.shown (quoted name).toList = Sql.shown (quoted other).toList := by
      rw [toSql_ofColumn, toSql_ofColumn, toSql_ofTable, toSql_ofTable] at same
      rcases same with same | same
      · obtain ⟨texts, -⟩ := Sql.mk.inj (Except.ok.inj same)
        exact Sql.shown_eq_of_appendEscaped (by decide) texts
      · obtain ⟨texts, -⟩ := Sql.mk.inj (Except.ok.inj same)
        exact Sql.shown_eq_of_appendEscaped (by decide) texts
    rw [(shown_iff name).mpr clear, (shown_iff other).mpr clear'] at alike
    exact String.toList_injective alike

/-- Behind two backslashes, a question mark is escaped, and shown as it is. -/
theorem toQuery_name_even :
    ¬Sql.HidesMark "a\\\\?".toList ∧
      (ofColumn {} "a\\\\?").toQuery.outcome = .ok "select \"a\\\\?\"" ∧
      ∀ other, ¬Sql.HidesMark other.toList →
        (ofColumn {} "a\\\\?").toSql.outcome = (ofColumn {} other).toSql.outcome →
        "\"a\\\\?\"" = Identifier.render Dialect.generic.grammar other := by
  have clear : ¬Sql.HidesMark "a\\\\?".toList := by decide
  have quoted : Identifier.render Dialect.generic.grammar "a\\\\?" = "\"a\\\\?\"" := by
    decide +kernel
  obtain ⟨⟨written, -⟩, same, apart⟩ := toQuery_name {} "a\\\\?"
  refine ⟨clear, ?_, fun other clear' text => ?_⟩
  · rw [written, same.mpr clear]
    exact congrArg (fun name => Except.ok ("select " ++ name)) quoted
  · rw [← quoted]
    exact apart other clear clear' (.inl text)

/-- A question mark behind a backslash is taken for one that is escaped already. -/
theorem toQuery_hidden :
    (ofColumn {} "a\\?b").toQuery.outcome = .ok "select \"a?b\"" ∧
      Identifier.render Dialect.generic.grammar "a\\?b" = "\"a\\?b\"" ∧
      (ofColumn {} "a\\?b").toSql.outcome = (ofColumn {} "a?b").toSql.outcome ∧
      Identifier.render Dialect.generic.grammar "a?b" = "\"a?b\"" := by
  have same : Sql.appendEscaped "select " (Identifier.render Dialect.generic.grammar "a\\?b") =
      Sql.appendEscaped "select " (Identifier.render Dialect.generic.grammar "a?b") := by
    decide +kernel
  refine ⟨?_, by decide +kernel, ?_, by decide +kernel⟩
  · rw [outcome_toQuery, toSql_ofColumn]
    rfl
  · rw [toSql_ofColumn, toSql_ofColumn]
    exact congrArg (fun text => Except.ok (Sql.mk text [])) same

end Builder

end PortableSql
