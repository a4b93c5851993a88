import PortableSql.Proofs.AliasedNames
import PortableSql.Proofs.NameReading
import PortableSql.Proofs.Returning
import PortableSql.Proofs.RowLocks

/-!
Deletes with joins.

A delete with joins names its table between `delete` and `from`, where the alias of the table is
looked for before the schema is put in front of the name. Behind `from` it is looked for afterwards.
So the two agree exactly if the schema gives the name no other alias and, where there is none, does
not begin with white space (`Identifier.namesSource_iff`).
-/

namespace PortableSql

/-! ### White space -/

namespace Text

theorem trimStartChars_append_cons {c : Char} (dark : isBlank c = false) (xs ys : List Char) :
    trimStartChars (xs ++ c :: ys) = trimStartChars xs ++ c :: ys := by
  induction xs with
  | nil => exact List.dropWhile_cons_of_neg (Bool.eq_false_iff.mp dark)
  | cons d xs ih =>
    unfold trimStartChars at ih ⊢
    rw [List.cons_append, List.dropWhile_cons, List.dropWhile_cons]
    split
    · exact ih
    · rfl

theorem trimStartChars_eq_self_iff (cs : List Char) :
    trimStartChars cs = cs ↔ ∀ c ∈ cs.head?, isBlank c = false := by
  cases cs with
  | nil => exact iff_of_true rfl nofun
  | cons c cs =>
    unfold trimStartChars
    rw [List.dropWhile_cons]
    split
    · rename_i blank
      refine iff_of_false (fun same => ?_) fun dark => ?_
      · have shorter : (cs.dropWhile isBlank).length ≤ cs.length :=
          (List.dropWhile_sublist isBlank).length_le
        rw [same, List.length_cons] at shorter
        omega
      · rw [dark c rfl] at blank
        cases blank
    · rename_i dark
      exact iff_of_true rfl fun d first => Option.some.inj first ▸ Bool.eq_false_iff.mpr dark

theorem head?_trimStartChars (cs : List Char) :
    ∀ c ∈ (trimStartChars cs).head?, isBlank c = false := by
  intro c first
  have head := List.head?_dropWhile_not isBlank cs
  rw [trimStartChars, Option.mem_def] at first
  rw [first] at head
  simpa using head

/-- How many characters of a text are not white space. -/
def visible (cs : List Char) : Nat :=
  cs.countP fun c => !isBlank c

theorem visible_append (xs ys : List Char) : visible (xs ++ ys) = visible xs + visible ys :=
  List.countP_append

theorem visible_of_blank {cs : List Char} (blank : Blank cs) : visible cs = 0 := by
  rw [visible, List.countP_eq_zero]
  intro c member
  simp [blank c member]

theorem visible_cons {c : Char} (dark : isBlank c = false) (cs : List Char) :
    visible (c :: cs) = visible cs + 1 :=
  List.countP_cons_of_pos (by simp [dark])

theorem visible_trimStartChars (cs : List Char) : visible (trimStartChars cs) = visible cs := by
  obtain ⟨front, whole, blank⟩ := exists_trimStartChars cs
  have sum := congrArg visible whole
  rw [visible_append, visible_of_blank blank, Nat.zero_add] at sum
  exact sum.symm

theorem visible_trimChars (cs : List Char) : visible (trimChars cs) = visible cs := by
  obtain ⟨front, back, whole, ahead, last⟩ := exists_trimChars cs
  have sum := congrArg visible whole
  rw [visible_append, visible_append, visible_of_blank ahead, visible_of_blank last, Nat.zero_add,
    Nat.add_zero] at sum
  exact sum.symm

end Text

namespace Identifier

open Text (Blank visible)

/-! ### Paths and aliases as text -/

/-- The segments of an expression with dots between them are the expression. -/
theorem intercalate_splitDots (depth : Nat) (read cs : List Char) :
    ['.'].intercalate (splitDots depth read cs) = read.reverse ++ cs := by
  fun_induction splitDots depth read cs with
  | case1 => simp
  | case2 depth read rest ih => simpa using ih
  | case3 depth read rest _ ih => simpa using ih
  | case4 depth read c rest _ _ dot ih =>
    obtain ⟨next, others, more⟩ := List.exists_cons_of_ne_nil (splitDots_ne_nil 0 [] rest)
    rw [more] at ih ⊢
    rw [List.intercalate_cons_cons, ih, dot.1]
    simp
  | case5 depth read c rest _ _ _ ih => simpa using ih

/-- A path may end where the text ends. -/
theorem endsPath_nil (grammar : Grammar) : EndsPath grammar [] where
  quote := (Option.some_ne_none _).symm
  bracket := (Option.some_ne_none _).symm
  dot := (Option.some_ne_none _).symm

section

variable (d : Dialect) (plain : d.grammar.arraySubscripts = false)

include plain

theorem readPath_renderPath (expr : String) :
    readPath d.grammar (renderPath d.grammar expr).toList = some (pathSegments expr, []) := by
  have read := readPath_render (marksApart d) (splitDots_ne_nil 0 [] expr.toList)
    (fun _ _ has => absurd has (by simp [plain])) (endsPath_nil d.grammar)
  rw [List.append_nil] at read
  rw [renderPath, String.toList_ofList]
  exact read

/-- Without subscripts, expressions that are written the same are the same. -/
theorem renderPath_inj {expr other : String} :
    renderPath d.grammar expr = renderPath d.grammar other ↔ expr = other := by
  refine ⟨fun same => ?_, congrArg _⟩
  have read := readPath_renderPath d plain expr
  rw [same, readPath_renderPath d plain other] at read
  obtain ⟨segments, -⟩ := Prod.mk.inj (Option.some.inj read)
  have joined := congrArg ['.'].intercalate segments
  rw [pathSegments, pathSegments, intercalate_splitDots, intercalate_splitDots] at joined
  exact (String.toList_injective joined).symm

/-- Without subscripts, an expression that is written like one identifier is that identifier. -/
theorem eq_of_renderPath_eq_quote {expr text : String}
    (same : renderPath d.grammar expr = quote d.grammar text) : expr = text := by
  have read := readPath_renderPath d plain expr
  have ends := endsPath_nil d.grammar
  have item := readItem_quoteChars (marksApart d) text.toList (.inl rfl) ends.toEndsSegment
  rw [plain, if_neg Bool.false_ne_true, List.append_nil, List.append_nil, List.append_nil] at item
  rw [same, quote, String.toList_ofList, readPath_of_readItem item, if_neg ends.dot] at read
  obtain ⟨segments, -⟩ := Prod.mk.inj (Option.some.inj read)
  have joined := congrArg ['.'].intercalate segments
  rw [pathSegments, intercalate_splitDots, List.intercalate_singleton] at joined
  exact (String.toList_injective joined).symm

end

/-- An alias is shorter than its name, by the keyword at the least. -/
theorem visible_alias {name text : String} (found : (parts name).2 = some text) :
    visible text.toList + 2 ≤ visible name.toList := by
  have divides := Divides.parts name
  rw [found] at divides
  cases divides with
  | aliased whole ahead joins last =>
    obtain ⟨keyword, -, -⟩ := joins
    rw [whole, Text.visible_append, Text.visible_append, Text.visible_append, Text.visible_append,
      Text.visible_append, Text.visible_cons keyword.dark.1, Text.visible_cons keyword.dark.2]
    omega

/-! ### Names with a schema -/

/-- A table name with the schema in front, if there is one. -/
def sourceName (schema : Option String) (name : String) : String :=
  match schema with
  | some schema => qualified schema (Text.trimStart name)
  | none => name

theorem renderTable_eq (grammar : Grammar) (schema : Option String) (name : String) :
    renderTable grammar schema name = render grammar (sourceName schema name) := by
  cases schema <;> rfl

theorem toList_qualified (schema name : String) :
    (qualified schema name).toList = schema.toList ++ '.' :: name.toList := by
  simp [qualified, String.toList_append]

theorem visible_qualified (schema name : String) :
    visible (qualified schema name).toList = visible schema.toList + visible name.toList + 1 := by
  have dark : Text.isBlank '.' = false := by decide
  rw [toList_qualified, Text.visible_append, Text.visible_cons dark]
  omega

theorem visible_trim (name : String) :
    visible (Text.trim name).toList = visible name.toList := by
  rw [Text.trim, String.toList_ofList, Text.visible_trimChars]

theorem visible_trimStart (name : String) :
    visible (Text.trimStart name).toList = visible name.toList := by
  rw [Text.trimStart, String.toList_ofList, Text.visible_trimStartChars]

theorem trim_qualified (schema name : String) :
    Text.trim (qualified schema (Text.trimStart name)) =
      qualified (Text.trimStart schema) (Text.trim name) := by
  have dark : Text.isBlank '.' = false := by decide
  apply String.toList_injective
  rw [toList_qualified, Text.trim, Text.trim, Text.trimStart, Text.trimStart,
    String.toList_ofList, String.toList_ofList, String.toList_ofList, toList_qualified,
    String.toList_ofList, Text.trimChars, Text.trimStartChars_append_cons dark,
    List.reverse_append, List.reverse_cons, List.append_assoc, List.singleton_append,
    Text.trimStartChars_append_cons dark, List.reverse_append, List.reverse_cons,
    List.reverse_reverse, List.append_assoc, List.singleton_append]
  rfl

theorem parts_of_none {name : String} (bare : (parts name).2 = none) :
    parts name = (Text.trim name, none) := by
  unfold parts at bare ⊢
  split
  · rename_i found
    rw [found] at bare
    cases bare
  · rfl

theorem parts_of_some {name text : String} (found : (parts name).2 = some text) :
    parts name = ((parts name).1, some text) := by
  rw [← found]

/-! ### The name of a table in a delete -/

/-- What a delete with joins calls its table is what the table is called behind `from`: its alias,
if one is written there, and otherwise all that is written there. -/
def NamesSource (grammar : Grammar) (schema : Option String) (name : String) : Prop :=
  tableName grammar schema name =
    match (parts (sourceName schema name)).2 with
    | some aliasName => quote grammar aliasName
    | none => renderTable grammar schema name

section

variable {grammar : Grammar} {schema : Option String} {name : String}

theorem tableName_of_alias {text : String} (found : (parts name).2 = some text) :
    tableName grammar schema name = quote grammar text := by
  rw [tableName, parts_of_some found]

theorem tableName_of_none {own : String} (bare : (parts name).2 = none) :
    tableName grammar (some own) name = renderPath grammar (qualified own (Text.trim name)) := by
  rw [tableName, parts_of_none bare]

theorem renderTable_of_none {own : String} (bare : (parts (sourceName (some own) name)).2 = none) :
    renderTable grammar (some own) name =
      renderPath grammar (qualified (Text.trimStart own) (Text.trim name)) := by
  rw [renderTable_eq, render, parts_of_none bare, sourceName, trim_qualified]

theorem namesSource_of_alias {text : String}
    (found : (parts (sourceName schema name)).2 = some text) :
    NamesSource grammar schema name ↔ tableName grammar schema name = quote grammar text := by
  rw [NamesSource, found]

theorem namesSource_of_none (bare : (parts (sourceName schema name)).2 = none) :
    NamesSource grammar schema name ↔
      tableName grammar schema name = renderTable grammar schema name := by
  rw [NamesSource, bare]

theorem quote_inj {text other : String} :
    quote grammar text = quote grammar other ↔ text = other := by
  refine ⟨fun same => ?_, congrArg _⟩
  have chars : quoteChars grammar text.toList = quoteChars grammar other.toList := by
    simpa [quote] using congrArg String.toList same
  have ends := (endsPath_nil grammar).quote
  have read := readIdentifier_quoteChars text.toList ends
  rw [List.append_nil, chars] at read
  have back := readIdentifier_quoteChars other.toList ends
  rw [List.append_nil] at back
  exact String.toList_injective (Prod.mk.inj (Option.some.inj (read.symm.trans back))).1

theorem qualified_inj {own other name : String} :
    qualified own name = qualified other name ↔ own = other := by
  refine ⟨fun same => ?_, fun same => congrArg (qualified · name) same⟩
  have chars := congrArg String.toList same
  rw [toList_qualified, toList_qualified] at chars
  exact String.toList_injective (List.append_cancel_right chars)

end

/-- A delete calls its table by what is behind `from` exactly if the schema gives the name no other
alias and, where there is none, does not begin with white space. -/
theorem namesSource_iff (d : Dialect) (plain : d.grammar.arraySubscripts = false)
    (schema : Option String) (name : String) :
    NamesSource d.grammar schema name ↔
      ∀ own ∈ schema, (parts (sourceName schema name)).2 = (parts name).2 ∧
        ((parts name).2 = none → Text.trimStart own = own) := by
  cases schema with
  | none =>
    refine iff_of_true ?_ nofun
    unfold NamesSource tableName renderTable render
    cases found : parts name with
    | mk expr aliasName => cases aliasName <;> simp [sourceName, found]
  | some own =>
    have one {P : String → Prop} : (∀ own' ∈ some own, P own') ↔ P own := by simp
    rw [one]
    cases bare : (parts name).2 with
    | some text =>
      have longer := visible_alias bare
      cases whole : (parts (sourceName (some own) name)).2 with
      | some text' =>
        rw [namesSource_of_alias whole, tableName_of_alias bare, quote_inj]
        simp [eq_comm]
      | none =>
        rw [namesSource_of_none whole, tableName_of_alias bare, renderTable_of_none whole]
        refine iff_of_false (fun same => ?_) nofun
        -- All of the name would be the alias, which does not have that many characters.
        obtain rfl := eq_of_renderPath_eq_quote d plain same.symm
        rw [visible_qualified, visible_trim] at longer
        omega
    | none =>
      cases whole : (parts (sourceName (some own) name)).2 with
      | some text' =>
        have longer := visible_alias whole
        rw [namesSource_of_alias whole, tableName_of_none bare]
        refine iff_of_false (fun same => ?_) nofun
        obtain rfl := eq_of_renderPath_eq_quote d plain same
        rw [sourceName, visible_qualified, visible_qualified, visible_trim, visible_trimStart]
          at longer
        omega
      | none =>
        rw [namesSource_of_none whole, tableName_of_none bare, renderTable_of_none whole,
          renderPath_inj d plain, qualified_inj]
        simp [eq_comm]

/-! ### Schemas that leave aliases alone -/

/-- The alias that is found does not depend on what was read in front. -/
theorem aliased?_alias (read read' cs : List Char) :
    (aliased? read cs).map Prod.snd = (aliased? read' cs).map Prod.snd := by
  induction cs generalizing read read' with
  | nil => rfl
  | cons c cs ih =>
    rw [aliased?, aliased?]
    by_cases line : c = '\n'
    · rw [if_pos line, if_pos line]
    · rw [if_neg line, if_neg line]
      cases beforeKeyword? cs with
      | some text => rfl
      | none => exact ih (c :: read) (c :: read')

/-- A schema of one line that does not begin with white space and holds no keyword behind its first
word. -/
structure PlainSchema (cs : List Char) : Prop where
  line : '\n' ∉ cs
  first : ∀ c ∈ cs.head?, Text.isBlank c = false
  free : KeywordFree cs

/-- Behind the dot the alias is found that the name has by itself. -/
theorem aliased?_append_dot (read : List Char) {rest name : List Char}
    (own : PlainSchema (read.reverse ++ rest))
    (first : ∀ c ∈ name.head?, Text.isBlank c = false) :
    (aliased? read (rest ++ '.' :: name)).map Prod.snd = (aliased? [] name).map Prod.snd := by
  induction rest generalizing read with
  | nil =>
    rw [List.nil_append, aliased?, if_neg (by decide), beforeKeyword?_of_dark first]
    exact aliased?_alias _ _ name
  | cons c rest ih =>
    have line : c ≠ '\n' := by
      rintro rfl
      exact own.line (List.mem_append_right _ List.mem_cons_self)
    have whole : read.reverse ++ c :: rest = (c :: read).reverse ++ rest := by
      rw [List.reverse_cons, List.append_assoc, List.singleton_append]
    rw [whole] at own
    have started : (c :: read).reverse ≠ [] := by
      simp
    have apart : ∀ d ∈ ('.' :: name).head?, Text.isBlank d = true ∨ d = '.' := by
      rintro d ⟨⟩
      exact .inr rfl
    rw [List.cons_append, aliased?, if_neg line,
      beforeKeyword?_eq_none own.free (forall_head?_of_append own.first) started apart fun _ => rfl]
    exact ih (c :: read) own

theorem keyword?_of_word {cs : List Char} (first : ∀ c ∈ cs.head?, Text.isBlank c = false)
    (other : ∀ word ∈ (Text.wordsOf cs).head?, ¬IsKeyword word) : keyword? cs = none := by
  refine Option.eq_none_iff_forall_ne_some.mpr fun text found => ?_
  obtain ⟨a, s, gap, back, rfl, keyword, ⟨nonempty, white⟩, -⟩ := exists_of_keyword? found
  have ends : ∀ c ∈ (gap ++ (text ++ back)).head?, Text.isBlank c = true := by
    obtain ⟨d, gap, rfl⟩ := List.exists_cons_of_ne_nil nonempty
    rintro c ⟨⟩
    exact white d List.mem_cons_self
  refine other [a, s] ?_ (isKeyword_pair.mpr keyword)
  have words := Text.wordsOf_append keyword.solid ends
  rw [List.cons_append, List.cons_append, List.nil_append] at words
  rw [words]
  rfl

theorem keyword?_of_blank {c : Char} (white : Text.isBlank c = true) (cs : List Char) :
    keyword? (c :: cs) = none := by
  refine Option.eq_none_iff_forall_ne_some.mpr fun text found => ?_
  obtain ⟨a, s, gap, back, whole, keyword, -, -⟩ := exists_of_keyword? found
  obtain ⟨rfl, -⟩ := List.cons_eq_cons.mp whole
  rw [keyword.dark.1] at white
  cases white

section

variable {front name : List Char} (blank : Blank front)
  (first : ∀ c ∈ name.head?, Text.isBlank c = false) (other : keyword? name = none)

include blank first other

theorem beforeKeyword?_of_blank : beforeKeyword? (front ++ name) = none := by
  induction front with
  | nil => exact beforeKeyword?_of_dark first
  | cons c front ih =>
    obtain ⟨white, others⟩ := List.forall_mem_cons.mp blank
    rw [List.cons_append, beforeKeyword?, if_pos white, ih others]
    cases front with
    | nil => exact other
    | cons d front => exact keyword?_of_blank (others d List.mem_cons_self) (front ++ name)

theorem aliased?_of_blank (read : List Char) (bare : aliased? [] name = none) :
    aliased? read (front ++ name) = none := by
  induction front generalizing read with
  | nil =>
    have same := aliased?_alias read [] name
    rw [bare] at same
    exact Option.map_eq_none_iff.mp same
  | cons c front ih =>
    obtain ⟨-, others⟩ := List.forall_mem_cons.mp blank
    rw [List.cons_append, aliased?]
    by_cases line : c = '\n'
    · rw [if_pos line]
    · rw [if_neg line, beforeKeyword?_of_blank others first other]
      exact ih others (c :: read)

/-- White space in front of a name is no expression of an alias. -/
theorem aliasParts?_of_blank :
    (aliasParts? (front ++ name)).map Prod.snd = (aliased? [] name).map Prod.snd := by
  induction front with
  | nil => rw [List.nil_append, aliasParts?_of_dark first]
  | cons c front ih =>
    have whole := blank
    obtain ⟨white, others⟩ := List.forall_mem_cons.mp blank
    have later := ih others
    rw [List.cons_append, aliasParts?, if_pos white]
    cases found : aliasParts? (front ++ name) with
    | some result =>
      rw [found] at later
      exact later
    | none =>
      rw [found] at later
      have bare : aliased? [] name = none := Option.map_eq_none_iff.mp later.symm
      rw [bare]
      exact congrArg (Option.map Prod.snd) (aliased?_of_blank whole first other [] bare)

end

theorem parts_alias (name : String) :
    (parts name).2 = ((aliasParts? name.toList).map Prod.snd).map String.ofList := by
  unfold parts
  split <;> rename_i found <;> rw [found] <;> rfl

/-- Of a plain schema and a name that does not begin with white space and the keyword, the alias is
that of the name. -/
theorem parts_qualified {schema name : String} (own : PlainSchema schema.toList)
    (begun : (∀ c ∈ name.toList.head?, Text.isBlank c = false) ∨
      ∀ word ∈ (Text.wordsOf name.toList).head?, ¬IsKeyword word) :
    (parts (qualified schema (Text.trimStart name))).2 = (parts name).2 := by
  have first := Text.head?_trimStartChars name.toList
  have outer : ∀ c ∈ (schema.toList ++ '.' :: Text.trimStartChars name.toList).head?,
      Text.isBlank c = false := by
    cases found : schema.toList with
    | nil =>
      rintro c ⟨⟩
      decide
    | cons d rest =>
      rintro c ⟨⟩
      exact own.first d (found ▸ rfl)
  have alone : (aliasParts? name.toList).map Prod.snd =
      (aliased? [] (Text.trimStartChars name.toList)).map Prod.snd := by
    rcases begun with dark | word
    · rw [aliasParts?_of_dark dark, (Text.trimStartChars_eq_self_iff _).mpr dark]
    · obtain ⟨front, whole, blank⟩ := Text.exists_trimStartChars name.toList
      have same : Text.wordsOf name.toList = Text.wordsOf (Text.trimStartChars name.toList) :=
        (congrArg Text.wordsOf whole).trans (Text.wordsOf_append_of_blank blank _)
      have other := keyword?_of_word first (same ▸ word)
      exact (congrArg (fun cs => (aliasParts? cs).map Prod.snd) whole).trans
        (aliasParts?_of_blank blank first other)
  have dotted : (aliased? [] (schema.toList ++ '.' :: Text.trimStartChars name.toList)).map
      Prod.snd = (aliased? [] (Text.trimStartChars name.toList)).map Prod.snd :=
    aliased?_append_dot [] own first
  rw [parts_alias, parts_alias, toList_qualified, Text.trimStart, String.toList_ofList,
    aliasParts?_of_dark outer, dotted, alone]

/-- A plain schema in front of a name that does not begin with white space and the keyword. -/
theorem namesSource_of_plain (d : Dialect) (plain : d.grammar.arraySubscripts = false)
    {schema : Option String} {name : String} (own : ∀ text ∈ schema, PlainSchema text.toList)
    (begun : (∀ c ∈ name.toList.head?, Text.isBlank c = false) ∨
      ∀ word ∈ (Text.wordsOf name.toList).head?, ¬IsKeyword word) :
    NamesSource d.grammar schema name := by
  rw [namesSource_iff d plain]
  rintro text ⟨⟩
  have own := own text rfl
  refine ⟨parts_qualified own begun, fun _ => ?_⟩
  rw [Text.trimStart, (Text.trimStartChars_eq_self_iff _).mpr own.first, String.ofList_toList]

instance (grammar : Grammar) (schema : Option String) (name : String) :
    Decidable (NamesSource grammar schema name) :=
  inferInstanceAs (Decidable (_ = _))

end Identifier

namespace Statement

open Identifier (NamesSource PlainSchema IsKeyword parts sourceName tableName renderTable)

/-! ### Deletes -/

section Delete

variable {target : Target} {s : Statement} {name : String} (deletes : s.kind = .delete)
  (keeps : target.grammar.deleteJoins = true) (joined : s.joins ≠ [])
  (named : s.table = some (.name name))

include deletes keeps joined named

/-- A delete with joins begins with the name of its table, its table and its joins. -/
theorem compile_delete_append {sql : Sql} (compiled : (s.compile target).outcome = .ok sql) :
    ∃ joins rest, (Rendering.concat (Join.renderList target s.schema s.joins)).outcome = .ok joins ∧
      sql = (Sql.ofPieces [.text "delete ", .text (tableName target.grammar s.schema name),
        .text " from ", .text (renderTable target.grammar s.schema name)]).append
          ((Sql.ofPieces joins).append rest) := by
  have ahead : s.mutationLimitAhead target = .nothing := by
    obtain ⟨dialect, flag⟩ := target
    cases dialect with
    | mysql => rfl
    | _ => cases keeps
  have kept : (target.grammar.deleteJoins && !s.joins.isEmpty) = true := by
    rw [keeps, Bool.true_and, Bool.not_eq_true', List.isEmpty_eq_false_iff]
    exact joined
  have accepted := fault_eq_none_of_compile compiled
  rw [outcome_compile, render_eq, assemble, accepted, deletes] at compiled
  obtain ⟨pieces, rendered, rfl⟩ := map_ok.mp compiled
  dsimp only at rendered
  have source : (s.clauses target).source =
      .text (renderTable target.grammar s.schema name) := by
    show Column.renderTable target s.schema s.table = _
    rw [named]
    rfl
  rw [renderDelete, ahead, kept, deleteReference, named, source] at rendered
  obtain ⟨front, back, head, behind, rfl⟩ :=
    @Rendering.exists_outcome_of_concat_append [_, _, _, _, _] _ _ rendered
  obtain rfl := Except.ok.inj head
  obtain ⟨joins, back, given, -, rfl⟩ := Rendering.exists_outcome_of_concat behind
  obtain ⟨rest, written⟩ := Sql.ofPieces_append (_ ++ joins) back
  refine ⟨joins, rest, given, ?_⟩
  rw [← List.append_assoc, written, Sql.ofPieces_append_of_fresh (fresh_of_joins target given).1,
    Sql.append_assoc]
  refine congrArg (Sql.append · _) (Sql.ext ?_ rfl)
  simp [Sql.ofPieces, Piece.writeText, Sql.appendEscaped, String.append_assoc]

/-- Between `delete` and `from`, a delete with joins has the name of its table. This is the alias
that is written behind `from`, or all that is written there, exactly if the schema gives the name no
other alias and, where there is none, does not begin with white space. A plain schema does neither,
unless the name begins with white space and the keyword. -/
theorem compile_delete_joined :
    (∀ sql, (s.compile target).outcome = .ok sql → ∃ joins rest,
      (Rendering.concat (Join.renderList target s.schema s.joins)).outcome = .ok joins ∧
      sql = (Sql.ofPieces [.text "delete ", .text (tableName target.grammar s.schema name),
        .text " from ", .text (renderTable target.grammar s.schema name)]).append
          ((Sql.ofPieces joins).append rest)) ∧
    (NamesSource target.grammar s.schema name ↔
      ∀ own ∈ s.schema, (parts (sourceName s.schema name)).2 = (parts name).2 ∧
        ((parts name).2 = none → Text.trimStart own = own)) ∧
    ((∀ own ∈ s.schema, PlainSchema own.toList) →
      ((∀ c ∈ name.toList.head?, Text.isBlank c = false) ∨
        ∀ word ∈ (Text.wordsOf name.toList).head?, ¬IsKeyword word) →
      NamesSource target.grammar s.schema name) := by
  have plain : target.grammar.arraySubscripts = false := by
    obtain ⟨dialect, flag⟩ := target
    cases dialect with
    | mysql => rfl
    | _ => cases keeps
  exact ⟨fun sql compiled => compile_delete_append deletes keeps joined named compiled,
    Identifier.namesSource_iff target.dialect plain s.schema name,
    Identifier.namesSource_of_plain target.dialect plain⟩

end Delete

/-- The schema begins with the keyword and holds a bracket, and the name has white space around its
alias. -/
theorem compile_delete_joined_alias :
    let s := (Call.runAll [.source (.name " a.b AS  x.y "), .withSchema "as [b].c",
      .join .cross (.name "u") [], .delete] (.start {})).value.statement
    let target : Target := { dialect := .mysql }
    s.kind = .delete ∧ target.grammar.deleteJoins = true ∧ s.joins ≠ [] ∧
      NamesSource target.grammar s.schema " a.b AS  x.y " ∧ ∃ sql joins rest : Sql,
        (s.compile target).outcome = .ok sql ∧
        joins.text = " cross join `as [b]`.`c`.`u`" ∧
        sql = .append ⟨"delete `x.y` from `as [b]`.`c`.`a`.`b` as `x.y`", []⟩
          (joins.append rest) := by
  intro s target
  have joined : s.joins ≠ [] := List.cons_ne_nil _ _
  have compiled : (s.compile target).outcome = .ok _ := rfl
  obtain ⟨begins, -, plain⟩ :=
    @compile_delete_joined target s " a.b AS  x.y " rfl rfl joined rfl
  obtain ⟨joins, rest, given, written⟩ := begins _ compiled
  obtain ⟨rfl⟩ : joins = _ := Except.ok.inj given.symm
  have head : Sql.ofPieces [.text "delete ",
      .text (tableName target.grammar s.schema " a.b AS  x.y "), .text " from ",
      .text (renderTable target.grammar s.schema " a.b AS  x.y ")] =
        ⟨"delete `x.y` from `as [b]`.`c`.`a`.`b` as `x.y`", []⟩ :=
    Sql.ext (by decide +kernel) rfl
  rw [head] at written
  refine ⟨rfl, rfl, joined, ?_, _, _, rest, compiled, by decide +kernel, written⟩
  refine plain ?_ (.inr (by decide +kernel))
  rintro own ⟨⟩
  have begins : "as [b].c".toList.head? = some 'a' := by
    decide +kernel
  refine ⟨by decide +kernel, fun c first => ?_, by decide +kernel⟩
  obtain rfl := Option.some.inj (begins.symm.trans first)
  decide

/-- White space in front of the schema stays in the name of the table, and is left out behind
`from`. -/
theorem not_namesSource_of_blank :
    let s := (Call.runAll [.source (.name "t"), .withSchema " s", .join .cross (.name "u") [],
      .delete] (.start {})).value.statement
    let target : Target := { dialect := .mysql }
    (∃ sql, (s.compile target).outcome = .ok sql ∧
      sql.text = "delete ` s`.`t` from `s`.`t` cross join `s`.`u`") ∧
      ¬NamesSource target.grammar s.schema "t" := by
  intro s target
  have compiled : (s.compile target).outcome = .ok _ := rfl
  exact ⟨⟨_, compiled, by decide +kernel⟩, by decide +kernel⟩

end Statement

end PortableSql
