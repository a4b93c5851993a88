import PortableSql.Proofs.NameReader
import PortableSql.Proofs.SafeRendering

/-!
Names are read back from their text.

A rendered name is read back as the segments and the alias of the name, so nothing in a name is
taken for a mark. The exception are subscripts: a subscript runs to the last closing bracket of its
segment, and where it is more than groups of brackets, the rest of it is read as SQL text. So a name
is read back exactly if its subscripts are groups of brackets (`Identifier.readName_render_iff`).
-/

namespace PortableSql.Identifier

/-! ### Segments -/

/-- The marks of a grammar cannot be taken for one another where a name is read. -/
structure MarksApart (grammar : Grammar) : Prop where
  star : grammar.openQuote ≠ '*'
  dot : grammar.closeQuote ≠ '.'
  space : grammar.closeQuote ≠ ' '
  bracket : grammar.arraySubscripts = true → grammar.closeQuote ≠ '['
  separator : grammar.aliasSeparator.toList.head? = some ' '

theorem marksApart (d : Dialect) : MarksApart d.grammar := by
  cases d <;> constructor <;> decide

/-- A segment that a grammar writes with groups of brackets, or nothing, outside its quotes. -/
def Bracketed (grammar : Grammar) (segment : List Char) : Prop :=
  grammar.arraySubscripts = true → ∀ cut ∈ splitSubscript? segment, isGroups 0 cut.2 = true

/-- Text that cannot be taken for more of a segment in front of it. -/
structure EndsSegment (grammar : Grammar) (rest : List Char) : Prop where
  quote : rest.head? ≠ some grammar.closeQuote
  bracket : rest.head? ≠ some '['

/-- A subscript is the end of its segment and begins with a bracket. -/
theorem eq_append_of_splitSubscript? {segment column subscript : List Char}
    (found : splitSubscript? segment = some (column, subscript)) :
    segment = column ++ subscript ∧ subscript.head? = some '[' := by
  unfold splitSubscript? at found
  dsimp only at found
  split at found
  · rename_i fits
    cases found
    refine ⟨(List.takeWhile_append_dropWhile).symm, ?_⟩
    cases behind : segment.dropWhile (· != '[') with
    | nil => simp [behind] at fits
    | cons c rest =>
      have head := List.head?_dropWhile_not (· != '[') segment
      rw [behind] at head
      simpa using head
  · cases found

variable {grammar : Grammar}

/-- A segment that is no star is written as a quoted column and what is left of it, which is a
subscript if it is anything. -/
theorem exists_outside (grammar : Grammar) {segment : List Char} (plain : segment ≠ ['*']) :
    ∃ column outside, segment = column ++ outside ∧
      renderSegment grammar segment = quoteChars grammar column ++ outside ∧
      (outside = [] ∨ grammar.arraySubscripts = true ∧ outside.head? = some '[') ∧
      (isGroups 0 outside = true ↔ Bracketed grammar segment) := by
  unfold renderSegment
  rw [if_neg plain]
  cases subscripts : grammar.arraySubscripts with
  | false =>
    refine ⟨segment, [], by simp, by simp, .inl rfl, ?_⟩
    exact iff_of_true rfl fun has => by simp [subscripts] at has
  | true =>
    cases found : splitSubscript? segment with
    | none =>
      refine ⟨segment, [], by simp, by simp, .inl rfl, ?_⟩
      exact iff_of_true rfl fun _ => by simp [found]
    | some cut =>
      obtain ⟨column, subscript⟩ := cut
      obtain ⟨whole, opened⟩ := eq_append_of_splitSubscript? found
      refine ⟨column, subscript, whole, rfl, .inr ⟨rfl, opened⟩, ?_⟩
      constructor
      · intro are _ cut is
        cases found.symm.trans is
        exact are
      · exact fun bracketed => bracketed subscripts _ found

section

variable (apart : MarksApart grammar)

include apart

/-- Of a quoted column and what is outside, the column is read, and then the groups outside. -/
theorem readItem_quoteChars (column : List Char) {outside rest : List Char}
    (opened : outside = [] ∨ grammar.arraySubscripts = true ∧ outside.head? = some '[')
    (ends : EndsSegment grammar rest) :
    readItem grammar (quoteChars grammar column ++ outside ++ rest) =
      if grammar.arraySubscripts then
        (readGroups 0 (outside ++ rest)).map fun (subscript, rest) => (column ++ subscript, rest)
      else
        some (column, outside ++ rest) := by
  have quote : (outside ++ rest).head? ≠ some grammar.closeQuote := by
    rcases opened with rfl | ⟨has, opened⟩
    · exact ends.quote
    · rw [List.head?_append, opened]
      simpa using (apart.bracket has).symm
  have begun : (quoteChars grammar column ++ (outside ++ rest)).head? ≠ some '*' := by
    simpa [quoteChars] using apart.star
  rw [readItem, List.append_assoc, if_neg begun, readIdentifier_quoteChars column quote]
  rfl

theorem readItem_renderSegment {segment rest : List Char} (bracketed : Bracketed grammar segment)
    (ends : EndsSegment grammar rest) :
    readItem grammar (renderSegment grammar segment ++ rest) = some (segment, rest) := by
  by_cases star : segment = ['*']
  · rw [star]
    rfl
  · obtain ⟨column, outside, whole, written, opened, groups⟩ := exists_outside grammar star
    rw [written, readItem_quoteChars apart column opened ends, whole]
    split
    · rw [readGroups_append (groups.mpr bracketed) ends.bracket]
      rfl
    · rename_i none
      obtain rfl : outside = [] := opened.resolve_right fun is => none is.1
      rw [List.append_nil, List.nil_append]

/-- A segment is read back only if what is outside its quotes is groups of brackets. -/
theorem bracketed_of_readItem {segment rest left : List Char} (ends : EndsSegment grammar rest)
    (found : readItem grammar (renderSegment grammar segment ++ rest) = some (segment, left)) :
    Bracketed grammar segment := by
  by_cases star : segment = ['*']
  · rw [star]
    exact nofun
  · obtain ⟨column, outside, whole, written, opened, groups⟩ := exists_outside grammar star
    rw [written, readItem_quoteChars apart column opened ends] at found
    split at found
    · obtain ⟨⟨subscript, behind⟩, read, same⟩ := Option.map_eq_some_iff.mp found
      obtain ⟨same, -⟩ := Prod.mk.inj same
      obtain rfl : subscript = outside := List.append_cancel_left (same.trans whole)
      exact groups.mp (isGroups_of_readGroups read).1
    · rename_i none
      exact fun has => absurd has none

end

/-! ### Paths -/

/-- The path of several segments is the first of them, a dot and the path of the others. -/
theorem intercalate_render_append (segment next : List Char) (others : List (List Char))
    (rest : List Char) :
    ['.'].intercalate ((segment :: next :: others).map (renderSegment grammar)) ++ rest =
      renderSegment grammar segment ++
        '.' :: (['.'].intercalate ((next :: others).map (renderSegment grammar)) ++ rest) := by
  rw [List.map_cons, List.map_cons, List.intercalate_cons_cons, List.append_assoc,
    List.append_assoc, List.singleton_append]

/-- Text that cannot be taken for more of a path in front of it. -/
structure EndsPath (grammar : Grammar) (rest : List Char) : Prop extends
    EndsSegment grammar rest where
  dot : rest.head? ≠ some '.'

section

variable (apart : MarksApart grammar)

include apart

theorem endsSegment_dot (rest : List Char) : EndsSegment grammar ('.' :: rest) where
  quote := by simpa using apart.dot.symm
  bracket := by simp

/-- A written path whose segments are bracketed is read back. -/
theorem readPath_render {segments : List (List Char)} (nonempty : segments ≠ [])
    (bracketed : ∀ segment ∈ segments, Bracketed grammar segment) {rest : List Char}
    (ends : EndsPath grammar rest) :
    readPath grammar (['.'].intercalate (segments.map (renderSegment grammar)) ++ rest) =
      some (segments, rest) := by
  induction segments with
  | nil => exact absurd rfl nonempty
  | cons segment others ih =>
    have own := bracketed segment List.mem_cons_self
    cases others with
    | nil =>
      have read := readItem_renderSegment apart own ends.toEndsSegment
      rw [List.map_singleton, List.intercalate_singleton, readPath_of_readItem read,
        if_neg ends.dot]
    | cons next others =>
      have read := readItem_renderSegment apart own (endsSegment_dot apart
        (['.'].intercalate ((next :: others).map (renderSegment grammar)) ++ rest))
      have tail := ih (List.cons_ne_nil _ _)
        fun segment member => bracketed segment (List.mem_cons_of_mem _ member)
      rw [intercalate_render_append, readPath_dot read, tail]
      rfl

/-- Only segments that are bracketed are read back. -/
theorem bracketed_of_readPath {segments : List (List Char)} {rest left : List Char}
    (ends : EndsPath grammar rest)
    (found : readPath grammar (['.'].intercalate (segments.map (renderSegment grammar)) ++ rest) =
      some (segments, left)) :
    ∀ segment ∈ segments, Bracketed grammar segment := by
  induction segments with
  | nil => exact nofun
  | cons segment others ih =>
    obtain ⟨behind, read⟩ := readItem_of_readPath found
    cases others with
    | nil =>
      rw [List.map_singleton, List.intercalate_singleton] at read
      have own := bracketed_of_readItem apart ends.toEndsSegment read
      simpa using own
    | cons next others =>
      rw [intercalate_render_append] at read found
      have own := bracketed_of_readItem apart (endsSegment_dot apart _) read
      -- Since the first segment is read as a whole, the other segments are read behind its dot.
      rw [readPath_dot (readItem_renderSegment apart own (endsSegment_dot apart _))] at found
      obtain ⟨⟨items, behind⟩, tail, same⟩ := Option.map_eq_some_iff.mp found
      obtain ⟨rfl, rfl⟩ : items = next :: others ∧ behind = left := by simpa using same
      exact List.forall_mem_cons.mpr ⟨own, ih tail⟩

/-! ### Names -/

omit apart in
theorem readAlias_append (aliasName : List Char) (separator : grammar.aliasSeparator.toList ≠ []) :
    readAlias grammar (grammar.aliasSeparator.toList ++ quoteChars grammar aliasName) =
      some (some aliasName) := by
  have nonempty : grammar.aliasSeparator.toList ++ quoteChars grammar aliasName ≠ [] :=
    List.append_ne_nil_of_left_ne_nil separator _
  have read : readIdentifier grammar (quoteChars grammar aliasName) = some (aliasName, []) := by
    rw [← List.append_nil (quoteChars grammar aliasName)]
    exact readIdentifier_quoteChars aliasName nofun
  rw [readAlias, if_neg nonempty, if_pos (List.prefix_append _ _), List.drop_left, read]
  rfl

end

namespace Reading

/-- The text of an alias behind a path. -/
def aliasText (grammar : Grammar) (r : Reading) : List Char :=
  match r.aliasName with
  | some aliasName => grammar.aliasSeparator.toList ++ quoteChars grammar aliasName
  | none => []

/-- The text of segments and an alias. -/
def write (grammar : Grammar) (r : Reading) : List Char :=
  ['.'].intercalate (r.segments.map (renderSegment grammar)) ++ r.aliasText grammar

theorem endsPath_aliasText (apart : MarksApart grammar) (r : Reading) :
    EndsPath grammar (r.aliasText grammar) := by
  unfold aliasText
  split
  · rename_i aliasName _
    have head : (grammar.aliasSeparator.toList ++ quoteChars grammar aliasName).head? =
        some ' ' := by
      rw [List.head?_append, apart.separator]
      rfl
    refine ⟨⟨?_, ?_⟩, ?_⟩ <;> rw [head]
    · simpa using apart.space.symm
    · decide
    · decide
  · exact ⟨⟨nofun, nofun⟩, nofun⟩

theorem readAlias_aliasText (apart : MarksApart grammar) (r : Reading) :
    readAlias grammar (r.aliasText grammar) = some r.aliasName := by
  unfold aliasText
  split
  · rename_i aliasName found
    have separator : grammar.aliasSeparator.toList ≠ [] := by
      intro empty
      have head := apart.separator
      rw [empty] at head
      cases head
    rw [found]
    exact readAlias_append aliasName separator
  · rename_i found
    rw [found]
    rfl

/-- What is written is read back if its segments are bracketed, and only then. -/
theorem readName_write_iff (apart : MarksApart grammar) {r : Reading} (nonempty : r.segments ≠ []) :
    readName grammar (r.write grammar) = some r ↔
      ∀ segment ∈ r.segments, Bracketed grammar segment := by
  have ends := r.endsPath_aliasText apart
  constructor
  · intro read
    obtain ⟨⟨segments, rest⟩, path, read⟩ := Option.bind_eq_some_iff.mp read
    obtain ⟨aliasName, -, same⟩ := Option.map_eq_some_iff.mp read
    have own : segments = r.segments := congrArg Reading.segments same
    rw [own] at path
    exact bracketed_of_readPath apart ends path
  · intro bracketed
    rw [readName, write, readPath_render apart nonempty bracketed ends, Option.bind_some]
    dsimp only
    rw [readAlias_aliasText apart r]
    rfl

end Reading

/-- The segments and the alias of a name. -/
def reading (name : String) : Reading :=
  ⟨pathSegments (parts name).1, (parts name).2.map String.toList⟩

theorem toList_render (name : String) :
    (render grammar name).toList = (reading name).write grammar := by
  unfold render reading Reading.write Reading.aliasText
  obtain ⟨expr, aliasName⟩ := parts name
  cases aliasName with
  | none => simp [renderPath]
  | some aliasName => simp [renderPath, renderAlias, quote]

theorem readName_render_iff (d : Dialect) (name : String) :
    readName d.grammar (render d.grammar name).toList = some (reading name) ↔
      ∀ segment ∈ pathSegments (parts name).1, Bracketed d.grammar segment := by
  rw [toList_render]
  exact Reading.readName_write_iff (marksApart d) (splitDots_ne_nil 0 [] _)

/-- Where a grammar has no array subscripts, every name is read back from its text. So names have
one text exactly if they have the same segments and the same alias. -/
theorem readName_render (d : Dialect) (plain : d.grammar.arraySubscripts = false) (name : String) :
    readName d.grammar (render d.grammar name).toList = some (reading name) ∧
      ∀ other, render d.grammar name = render d.grammar other ↔ reading name = reading other := by
  have back (name : String) :
      readName d.grammar (render d.grammar name).toList = some (reading name) :=
    (readName_render_iff d name).mpr fun _ _ has => absurd has (by simp [plain])
  refine ⟨back name, fun other => ?_⟩
  constructor
  · intro same
    have read := back name
    rw [same, back other] at read
    exact (Option.some.inj read).symm
  · intro same
    rw [← String.toList_inj, toList_render, toList_render, same]

/-- A closing bracket in a name is doubled, and the star behind the dot is no identifier. -/
theorem readName_render_mssql :
    Dialect.mssql.grammar.arraySubscripts = false ∧
      render Dialect.mssql.grammar "a]b.* as x" = "[a]]b].* as [x]" ∧
      readName Dialect.mssql.grammar "[a]]b].* as [x]".toList =
        some ⟨[['a', ']', 'b'], ['*']], some ['x']⟩ := by
  have text : render Dialect.mssql.grammar "a]b.* as x" = "[a]]b].* as [x]" := by decide +kernel
  have parts : reading "a]b.* as x" = ⟨[['a', ']', 'b'], ['*']], some ['x']⟩ := by rfl
  refine ⟨rfl, text, ?_⟩
  rw [← text, ← parts]
  exact (readName_render .mssql rfl "a]b.* as x").1

/-! ### Subscripts -/

/-- What is outside the quotes of a written segment is groups of brackets, if it is no star. -/
def WritesGroups (grammar : Grammar) (segment : List Char) : Prop :=
  segment ≠ ['*'] → ∃ column outside,
    readIdentifier grammar (renderSegment grammar segment) = some (column, outside) ∧
      isGroups 0 outside = true

theorem writesGroups_iff (apart : MarksApart grammar) (segment : List Char) :
    WritesGroups grammar segment ↔ Bracketed grammar segment := by
  by_cases star : segment = ['*']
  · refine iff_of_true (fun plain => absurd star plain) ?_
    rw [star]
    exact nofun
  · obtain ⟨column, outside, -, written, opened, groups⟩ := exists_outside grammar star
    have quote : outside.head? ≠ some grammar.closeQuote := by
      rcases opened with rfl | ⟨has, opened⟩
      · exact nofun
      · rw [opened]
        simpa using (apart.bracket has).symm
    have read := readIdentifier_quoteChars column quote
    rw [← written] at read
    rw [← groups]
    constructor
    · intro writes
      obtain ⟨column', outside', read', are⟩ := writes star
      cases read'.symm.trans read
      exact are
    · exact fun are _ => ⟨column, outside, read, are⟩

/-- On a grammar with array subscripts, what is written outside the quotes of the segments of a name
is groups of brackets exactly if the subscripts of the name are, and exactly then the name is read
back from its text. -/
theorem writesGroups_iff_subscripts (d : Dialect) (subscripts : d.grammar.arraySubscripts = true)
    (name : String) :
    let segments := pathSegments (parts name).1
    let grouped := ∀ segment ∈ segments, ∀ cut ∈ splitSubscript? segment, isGroups 0 cut.2 = true
    ((∀ segment ∈ segments, WritesGroups d.grammar segment) ↔ grouped) ∧
      (readName d.grammar (render d.grammar name).toList = some (reading name) ↔ grouped) := by
  intro segments grouped
  have bracketed : (∀ segment ∈ segments, Bracketed d.grammar segment) ↔ grouped :=
    forall₂_congr fun _ _ => ⟨fun own => own subscripts, fun own _ => own⟩
  constructor
  · rw [← bracketed]
    exact forall₂_congr fun segment _ => writesGroups_iff (marksApart d) segment
  · rw [← bracketed]
    exact readName_render_iff d name

/-- Two groups behind a column, one with a dot inside. -/
theorem writesGroups_postgres :
    Dialect.postgres.grammar.arraySubscripts = true ∧
      render Dialect.postgres.grammar "t.m[a.b][2] as x" = "\"t\".\"m\"[a.b][2] as \"x\"" ∧
      ∀ segment ∈ pathSegments (parts "t.m[a.b][2] as x").1,
        WritesGroups Dialect.postgres.grammar segment := by
  refine ⟨rfl, by decide +kernel, ?_⟩
  refine (writesGroups_iff_subscripts .postgres rfl "t.m[a.b][2] as x").1.mpr ?_
  decide +kernel

/-- Text between two groups of brackets is written outside quotes and brackets. -/
theorem not_writesGroups_postgres :
    render Dialect.postgres.grammar "a[1] or b[2]" = "\"a\"[1] or b[2]" ∧
      ¬ ∀ segment ∈ pathSegments (parts "a[1] or b[2]").1,
        WritesGroups Dialect.postgres.grammar segment := by
  refine ⟨by decide +kernel, fun all => ?_⟩
  have written := all "a[1] or b[2]".toList (by decide +kernel) (by decide)
  obtain ⟨column, outside, read, are⟩ := written
  have found : readIdentifier Dialect.postgres.grammar
      (renderSegment Dialect.postgres.grammar "a[1] or b[2]".toList) =
        some (['a'], "[1] or b[2]".toList) := by decide +kernel
  cases found.symm.trans read
  revert are
  decide

end PortableSql.Identifier
