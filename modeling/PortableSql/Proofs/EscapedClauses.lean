import PortableSql.Proofs.InsertBlock
import PortableSql.Proofs.NameCharacters
import PortableSql.Proofs.Numbering

/-!
Operands, fragments and clauses write backslashes only to escape.

Each function that renders a part writes backslashes only in front of question marks where its
rendered parts do and where the names and raw texts that it writes itself have none. That goes for a
block too: what is quoted in it was escaped before, and stays so.
-/

namespace PortableSql

open Rendering (EscapesOnly)

variable {target : Target}

/-! ### Operands -/

/-- The names that a value stands for in an identifier position. -/
def Value.nameTexts : Value → List String
  | .text name => [name]
  | .array items => items.filterMap fun
    | .text name => some name
    | _ => none
  | _ => []

namespace Rendered

/-- A rendered operand writes backslashes only to escape. -/
def Escapes : Rendered → Prop
  | .value _ | .undefined => True
  | .query body | .raw body => body.EscapesOnly

/-- It does in an identifier position too. -/
def EscapesAsName : Rendered → Prop
  | .value v => ∀ name ∈ v.nameTexts, PlainText name
  | .undefined => True
  | .query body | .raw body => body.EscapesOnly

variable {rendered : Rendered}

theorem EscapesAsName.escapes (named : rendered.EscapesAsName) : rendered.Escapes := by
  cases rendered with
  | value | undefined => trivial
  | query | raw => exact named

theorem escapes_inValue (escapes : rendered.Escapes) : rendered.inValue.EscapesOnly := by
  cases rendered with
  | value v => exact .slot v
  | undefined => exact .throw _
  | query body => exact .parenthesized escapes
  | raw body => exact escapes

theorem escapes_bare (escapes : rendered.Escapes) : rendered.bare.EscapesOnly := by
  cases rendered with
  | query body => exact escapes
  | value | undefined | raw => exact escapes_inValue escapes

theorem escapes_enclosed (escapes : rendered.Escapes) : rendered.enclosed.EscapesOnly := by
  cases rendered with
  | raw body => exact .parenthesized escapes
  | value | undefined | query => exact escapes_inValue escapes

theorem escapes_compared (escapes : rendered.Escapes) : rendered.compared.EscapesOnly := by
  unfold compared
  split
  · exact .word (by decide)
  · exact escapes_inValue escapes

theorem plain_undefinedMarker : ∀ marker ∈ target.undefinedMarker, PlainText marker := by
  obtain ⟨dialect, nullAsDefault⟩ := target
  cases dialect <;> cases nullAsDefault <;> rintro _ ⟨⟩ <;> exact .ofList (by decide)

theorem escapes_inCell (column : String) {cell : Option Rendered}
    (escapes : ∀ rendered ∈ cell, rendered.Escapes) :
    (inCell target.undefinedMarker column cell).EscapesOnly := by
  have filler : (inCell target.undefinedMarker column none).EscapesOnly := by
    unfold inCell
    cases found : target.undefinedMarker with
    | none => exact .throw _
    | some text => exact .text (plain_undefinedMarker text found)
  unfold inCell
  split
  · exact filler
  · exact filler
  · exact escapes_inValue (escapes _ rfl)

theorem names_subset {value : Value} {list : List String} (read : names value = .ok list) :
    list ⊆ value.nameTexts := by
  unfold names at read
  split at read
  · cases read
    exact List.Subset.refl _
  · intro name member
    obtain ⟨item, inItems, found⟩ := exists_of_mapM_ok read name member
    refine List.mem_filterMap.mpr ⟨item, inItems, ?_⟩
    split at found
    · cases found
      rfl
    · cases found
  · cases read

theorem escapes_asIdentifier (named : rendered.EscapesAsName) :
    (rendered.asIdentifier target.grammar).EscapesOnly := by
  cases rendered with
  | value v =>
    have read : Render.Ensures (ExceptT.mk (pure (names v)))
        (fun list => ∀ name ∈ list, PlainText name) fun _ => True := by
      cases found : names v with
      | ok list => exact fun name member => named name (names_subset found member)
      | error fault => trivial
    refine read.bind fun list plain => EscapesOnly.text ?_
    exact Identifier.plain_renderList target.dialect (by decide) plain
  | query | raw | undefined => exact escapes_bare (EscapesAsName.escapes named)

end Rendered

/-! ### Fragments -/

namespace Template

variable {κ : Type}

theorem text_subset_of_consText {chars front cs : List Char} {tokens : List (Token κ)}
    (inside : front ⊆ cs) (each : ∀ chars, .text chars ∈ tokens → chars ⊆ cs)
    (member : .text chars ∈ consText front tokens) : chars ⊆ cs := by
  unfold consText at member
  split at member
  · rename_i more rest
    rcases List.mem_cons.mp member with same | member
    · cases same
      exact List.append_subset.mpr ⟨inside, each more List.mem_cons_self⟩
    · exact each chars (List.mem_cons_of_mem _ member)
  · rcases List.mem_cons.mp member with same | member
    · cases same
      exact inside
    · exact each chars member

/-- The text in a template is made of its characters. -/
theorem text_subset_of_positional {cs chars : List Char}
    (member : .text chars ∈ positional cs) : chars ⊆ cs := by
  have later {c : Char} {chars rest : List Char} (inside : chars ⊆ rest) : chars ⊆ c :: rest :=
    List.subset_cons_of_subset c inside
  fun_induction positional cs generalizing chars with
  | case1 => cases member
  | case2 rest ih =>
    exact text_subset_of_consText (by simp) (fun _ inside => later (later (ih inside))) member
  | case3 rest ih => exact later (later (ih (by simpa using member)))
  | case4 rest _ ih => exact later (ih (by simpa using member))
  | case5 c rest _ _ _ ih =>
    exact text_subset_of_consText (by simp) (fun _ inside => later (ih inside)) member

theorem text_subset_of_named {cs chars : List Char}
    (member : .text chars ∈ named cs) : chars ⊆ cs := by
  have later {c : Char} {chars rest : List Char} (inside : chars ⊆ rest) : chars ⊆ c :: rest :=
    List.subset_cons_of_subset c inside
  fun_induction named cs generalizing chars with
  | case1 => cases member
  | case2 rest ih =>
    exact text_subset_of_consText (by simp) (fun _ inside => later (later (ih inside))) member
  | case3 rest ih =>
    exact text_subset_of_consText (by simp) (fun _ inside => later (later (ih inside))) member
  | case4 =>
    rename_i c rest _ _ _ after found ih
    have dropped : after ⊆ rest := by
      have inRest := (List.dropWhile_sublist (l := rest) isNameChar).subset
      rw [found] at inRest
      exact List.Subset.trans (List.subset_cons_self _ after) inRest
    exact later (later (List.Subset.trans (ih (by simpa using member)) dropped))
  | case5 =>
    rename_i c rest _ _ _ _ ih
    have dropped := (List.dropWhile_sublist (l := rest) isNameChar).subset
    exact later (later (List.Subset.trans (ih (by simpa using member)) dropped))
  | case6 c rest _ _ ih =>
    exact text_subset_of_consText (by simp) (fun _ inside => later (ih inside)) member
  | case7 c rest _ _ _ ih =>
    exact text_subset_of_consText (by simp) (fun _ inside => later (ih inside)) member

section Filling

variable (template : String)

theorem escapes_fillPositional (given : Nat) {tokens : List (Token Unit)}
    {bindings : List Rendered} (plain : ∀ chars, .text chars ∈ tokens → '\\' ∉ chars)
    (named : ∀ rendered ∈ bindings, rendered.EscapesAsName) :
    (fillPositional target.grammar template given tokens bindings).EscapesOnly := by
  have tail {token : Token Unit} {tokens : List (Token Unit)}
      (plain : ∀ chars, .text chars ∈ token :: tokens → '\\' ∉ chars) :
      ∀ chars, .text chars ∈ tokens → '\\' ∉ chars :=
    fun chars member => plain chars (List.mem_cons_of_mem _ member)
  fun_induction fillPositional target.grammar template given tokens bindings with
  | case1 => exact .nothing
  | case2 => exact .throw _
  | case3 chars tokens bindings ih =>
    exact .cons (.text (.ofList (plain chars List.mem_cons_self)))
      (.last (ih (tail plain) named))
  | case4 tokens binding bindings ih =>
    obtain ⟨first, rest⟩ := List.forall_mem_cons.mp named
    exact .cons (Rendered.escapes_bare first.escapes) (.last (ih (tail plain) rest))
  | case5 tokens binding bindings ih =>
    obtain ⟨first, rest⟩ := List.forall_mem_cons.mp named
    exact .cons (Rendered.escapes_asIdentifier first) (.last (ih (tail plain) rest))
  | case6 => exact .throw _
  | case7 => exact .throw _

theorem escapes_fillNamed {bindings : Keyed Rendered} {tokens : List (Token String)}
    (plain : ∀ chars, .text chars ∈ tokens → '\\' ∉ chars)
    (named : ∀ pair ∈ bindings, pair.2.EscapesAsName) :
    (fillNamed target.grammar template bindings tokens).EscapesOnly := by
  have tail {token : Token String} {tokens : List (Token String)}
      (plain : ∀ chars, .text chars ∈ token :: tokens → '\\' ∉ chars) :
      ∀ chars, .text chars ∈ tokens → '\\' ∉ chars :=
    fun chars member => plain chars (List.mem_cons_of_mem _ member)
  fun_induction fillNamed target.grammar template bindings tokens with
  | case1 => exact .nothing
  | case2 chars tokens ih =>
    exact .cons (.text (.ofList (plain chars List.mem_cons_self))) (.last (ih (tail plain)))
  | case3 name tokens ih =>
    refine .cons ?_ (.last (ih (tail plain)))
    exact (ensures_lookup template name named trivial).bind fun _ found =>
      Rendered.escapes_bare found.escapes
  | case4 name tokens ih =>
    refine .cons ?_ (.last (ih (tail plain)))
    exact (ensures_lookup template name named trivial).bind fun _ found =>
      Rendered.escapes_asIdentifier found

end Filling

end Template

/-- Rendered bindings write backslashes only to escape, wherever they are asked for. -/
def Bindings.EscapesAsName : Bindings Rendered → Prop
  | .none => True
  | .positional values => ∀ rendered ∈ values, rendered.EscapesAsName
  | .named pairs => ∀ pair ∈ pairs, pair.2.EscapesAsName

theorem Fragment.escapes_render {fragment : Fragment Rendered} (plain : PlainText fragment.template)
    (around : ∀ texts ∈ fragment.around, PlainText texts.1 ∧ PlainText texts.2)
    (bound : fragment.bindings.EscapesAsName) :
    (fragment.render target.grammar).EscapesOnly := by
  obtain ⟨template, bindings, texts⟩ := fragment
  have body : (Template.fill target.grammar template bindings).EscapesOnly := by
    cases bindings with
    | none => exact .text plain
    | positional values =>
      refine Template.escapes_fillPositional template _ (fun chars member inside => ?_) bound
      exact plain (Template.text_subset_of_positional member inside)
    | named pairs =>
      refine Template.escapes_fillNamed template (fun chars member inside => ?_) bound
      exact plain (Template.text_subset_of_named member inside)
  cases texts with
  | none => exact body
  | some texts => exact .between (around texts rfl) body

/-! ### Clauses -/

/-- The entries of a row write backslashes only to escape, under plain names. -/
def Keyed.Escapes (entries : Keyed Rendered) : Prop :=
  ∀ entry ∈ entries, PlainText entry.1 ∧ entry.2.Escapes

/-- A rendered payload writes backslashes only to escape. -/
def RenderedPayload.Escapes : RenderedPayload → Prop
  | .rows table => ∀ row ∈ table, Keyed.Escapes row
  | .query source => source.Escapes

/-- Rendered clauses write backslashes only to escape. -/
structure RenderedClauses.Escapes (c : RenderedClauses) : Prop where
  source : c.source.EscapesOnly
  columns : ∀ column ∈ c.columns, column.EscapesOnly
  joins : c.joins.EscapesOnly
  wheres : c.wheres.EscapesOnly
  groups : c.groups.EscapesOnly
  havings : c.havings.EscapesOnly
  orders : c.orders.EscapesOnly
  unions : c.unions.EscapesOnly
  insert : ∀ payload ∈ c.insert, payload.Escapes
  assignments : Keyed.Escapes c.assignments

namespace Statement

variable {s : Statement} {c : RenderedClauses}

theorem escapes_returningNote : (s.returningNote target).EscapesOnly :=
  .guarded (.event _)

section Returning

variable (returning : ∀ name ∈ s.returning, PlainText name)

include returning

theorem escapes_returningAhead {table : String} (plain : PlainText table) :
    (s.returningAhead target table).EscapesOnly := by
  have front : PlainText (table ++ ".") := by
    rw [PlainText, String.toList_append, List.mem_append, not_or]
    exact ⟨plain, PlainText.ofList (by decide)⟩
  exact .guarded (.literal (by decide) (.last (.text
    (Identifier.plain_renderList target.dialect front returning))))

theorem escapes_returningAtEnd : (s.returningAtEnd target).EscapesOnly := by
  refine .guarded ?_
  split
  · exact .literal (by decide) (.last (.text
      (Identifier.plain_renderList target.dialect (by decide) returning)))
  · exact .literal (by decide) (.last (.slot _))
  · exact .nothing
  · exact escapes_returningNote

end Returning

/-! ### Selects -/

theorem plain_lockTexts : (∀ text ∈ target.grammar.lockUpdate, PlainText text) ∧
    ∀ text ∈ target.grammar.lockShare, PlainText text := by
  unfold Target.grammar
  cases target.dialect <;> constructor <;> rintro _ ⟨⟩ <;> exact .ofList (by decide)

theorem escapes_lockClause : (s.lockClause target).EscapesOnly := by
  unfold lockClause
  split
  · exact .nothing
  · rename_i lock _
    split
    · dsimp only
      split
      · rename_i found
        refine .literal (by decide) (.last (.text ?_))
        cases lock with
        | forUpdate => exact plain_lockTexts.1 _ found
        | forShare => exact plain_lockTexts.2 _ found
      · exact .event _
    · exact .event _

theorem escapes_selectLimitAhead : (s.selectLimitAhead target).EscapesOnly := by
  unfold selectLimitAhead
  split
  · exact .top _
  · exact .nothing

theorem escapes_selectUpToOrder (escapes : c.Escapes) :
    (s.selectUpToOrder target c).EscapesOnly := by
  have columns : EscapesOnly
      (if c.columns.isEmpty then .text "*" else .commaSeparated c.columns) := by
    split
    · exact .word (by decide)
    · exact .commaSeparated escapes.columns
  have source : EscapesOnly (.concat [.text " from ", c.source]) :=
    .literal (by decide) (.last escapes.source)
  refine .literal (by decide) (.cons (.guarded (.word (by decide))) ?_)
  refine .cons escapes_selectLimitAhead ?_
  refine .cons columns (.cons (.guarded source) (.cons escapes.joins ?_))
  refine .cons (.guarded escapes_lockClause) (.cons escapes.wheres (.cons escapes.groups ?_))
  exact .cons escapes.havings (.last escapes.orders)

theorem escapes_limitAndOffset : (s.limitAndOffset target).EscapesOnly := by
  have lone (text : String) (found : target.grammar.pagination = .limitOffset (.literal text)) :
      PlainText text := by
    unfold Target.grammar at found
    cases dialect : target.dialect <;> rw [dialect] at found <;> cases found
    exact .ofList (by decide)
  unfold limitAndOffset
  split
  · exact .cons (.count (by decide) _) (.last (.count? (by decide) _))
  · rename_i loneOffset _ found _ _
    refine .cons ?_ (.last (.count (by decide) _))
    rcases loneOffset with _ | text | n
    · exact .nothing
    · exact .literal (by decide) (.last (.text (lone text found)))
    · exact .literal (by decide) (.last (.slot _))
  · refine .cons (.count (by decide) _) (.literal (by decide) (.last ?_))
    split
    · exact .cons (.count (by decide) _) (.last (.word (by decide)))
    · exact .nothing
  · exact .nothing

theorem escapes_rowNumberWrap (unboundedLimit : UInt64) {pieces : List Piece}
    (inner : ∀ piece ∈ pieces, piece.EscapesOnly) :
    (s.rowNumberWrap unboundedLimit (Sql.ofPieces pieces)).EscapesOnly := by
  unfold rowNumberWrap
  dsimp only
  split
  · exact .literal (by decide) (.cons (.whole inner) (.last (.count (by decide) _)))
  · exact .literal (by decide) (.cons (.whole inner) (.cons (.count (by decide) _)
      (.last (.count (by decide) _))))

theorem escapes_selectBody (escapes : c.Escapes) : (s.selectBody target c).EscapesOnly := by
  unfold selectBody
  split
  · have inner : EscapesOnly (.concat [s.selectUpToOrder target c, c.unions]) :=
      .cons (escapes_selectUpToOrder escapes) (.last escapes.unions)
    refine inner.bind fun pieces written => ?_
    exact Render.Ensures.bind (P := fun _ => True) trivial fun _ _ =>
      escapes_rowNumberWrap _ written
  · exact .cons (escapes_selectUpToOrder escapes) (.cons escapes_limitAndOffset
      (.last escapes.unions))

theorem escapes_renderSelect (escapes : c.Escapes) : (s.renderSelect target c).EscapesOnly :=
  .cons (escapes_selectBody escapes) (.last (.guarded escapes_lockClause))

/-! ### Inserts -/

theorem escapes_cell {row : Keyed Rendered} (escapes : Keyed.Escapes row) (column : String) :
    (cell target row column).EscapesOnly := by
  refine Rendered.escapes_inCell _ fun rendered found => ?_
  obtain ⟨key, member⟩ := Keyed.exists_mem_of_get? found
  exact (escapes _ member).2

theorem escapes_rowTuple (columns : List String) {row : Keyed Rendered}
    (escapes : Keyed.Escapes row) : (rowTuple target columns row).EscapesOnly := by
  refine .parenthesized (.commaSeparated fun r member => ?_)
  obtain ⟨column, _, rfl⟩ := List.mem_map.mp member
  exact escapes_cell escapes column

/-- The columns of rows are names in them. -/
theorem plain_rowColumns {rows : List (Keyed Rendered)}
    (escapes : ∀ row ∈ rows, Keyed.Escapes row) :
    ∀ column ∈ rowColumns rows, PlainText column := by
  intro column member
  obtain ⟨row, inRows, inKeys⟩ := List.mem_flatMap.mp (List.mem_eraseDups.mp member)
  obtain ⟨entry, inRow, rfl⟩ := List.mem_map.mp inKeys
  exact (escapes row inRows entry inRow).1

section Rows

variable {columns : List String} (plain : ∀ column ∈ columns, PlainText column)
  {rows : List (Keyed Rendered)} (rowsEscape : ∀ row ∈ rows, Keyed.Escapes row)
  (returning : ∀ name ∈ s.returning, PlainText name)

include plain in
theorem escapes_insertInto (source : c.source.EscapesOnly) :
    (insertInto target c columns).EscapesOnly :=
  .literal (by decide) (.cons source (.literal (by decide) (.cons (.text
    (Identifier.plain_renderList target.dialect (by decide) plain)) (.last (.word (by decide))))))

/-- A slot behind a word. -/
theorem slotBehind {word : String} (plain : PlainText word) {value : Value} :
    ∀ piece ∈ [Piece.text word, .slot value], piece.EscapesOnly :=
  List.forall_mem_cons.mpr ⟨Sql.EscapesOnly.of_not_mem plain, List.forall_mem_singleton.mpr trivial⟩

theorem escapes_inputPieces (start : Nat) (values : List Value) :
    ∀ piece ∈ inputPieces start values, piece.EscapesOnly := by
  induction values generalizing start with
  | nil => exact nofun
  | cons value rest ih =>
    have lead : PlainText (if start = 0 then " using " else ", ") := by
      split <;> exact .ofList (by decide)
    rw [inputPieces_cons, List.forall_mem_append]
    exact ⟨slotBehind lead, ih (start + 1)⟩

theorem escapes_usingList (returning : List String) (values : List Value) :
    ∀ piece ∈ usingList returning values, piece.EscapesOnly := by
  have lead : PlainText (if values.isEmpty then " using out " else ", out ") := by
    split <;> exact .ofList (by decide)
  change ∀ piece ∈ (if returning.isEmpty then inputPieces 0 values
    else inputPieces 0 values ++ _), piece.EscapesOnly
  split
  · exact escapes_inputPieces 0 values
  · rw [List.forall_mem_append]
    exact ⟨escapes_inputPieces 0 values,
      slotBehind lead⟩

/-- The text that a row hands to its block, as characters. -/
theorem toList_blockText (head : String) (values : Sql) :
    (s.blockText head values).toList =
      head.toList ++ " values ".toList ++ Sql.numberPlaceholders values.text ++
        if s.returning.isEmpty then []
        else " returning ROWID into :".toList ++
          Nat.toDigits 10 (Sql.placeholders values.text + 1) := by
  rw [blockText, Sql.numbered_eq]
  generalize " values " = word, " returning ROWID into :" = into
  split
  · simp
  · simp [Nat.toString_eq_repr, Nat.repr]

/-- What a row hands to its block is quoted text that was escaped before. -/
theorem escapes_blockRow {head values : Sql} (first : Sql.EscapesOnly head.text.toList)
    (second : Sql.EscapesOnly values.text.toList) :
    ∀ piece ∈ s.blockRow head.text values, piece.EscapesOnly := by
  have text : Sql.EscapesOnly (s.blockText head.text values).toList := by
    have numbered : Sql.EscapesOnly (Sql.numberPlaceholders values.text) := by
      rw [Sql.numberPlaceholders_eq]
      exact second.numberMarks false 0
    have middle : PlainText " values " := .ofList (by decide)
    have into : PlainText " returning ROWID into :" := .ofList (by decide)
    rw [toList_blockText]
    refine ((first.append (.of_not_mem middle)).append numbered).append ?_
    split
    · trivial
    · exact (Sql.EscapesOnly.of_not_mem into).append
        (.of_not_mem (Sql.plain_toDigits (by decide) _))
  have word {s : String} (plain : PlainText s) :
      ∀ piece ∈ [Piece.text s], piece.EscapesOnly :=
    List.forall_mem_singleton.mpr (Sql.EscapesOnly.of_not_mem plain)
  have literal : ∀ piece ∈ s.blockLiteral head.text values, piece.EscapesOnly := by
    refine List.forall_mem_cons.mpr ⟨?_, word (.ofList (by decide))⟩
    simpa [Piece.EscapesOnly] using text.doubleQuotes
  have row : s.blockRow head.text values = [.text "execute immediate '"] ++
      (s.blockLiteral head.text values ++ usingList s.returning values.bindings) ++
        [.text "; "] := rfl
  rw [row, List.forall_mem_append, List.forall_mem_append, List.forall_mem_append]
  exact ⟨⟨word (.ofList (by decide)), literal, escapes_usingList _ _⟩, word (.ofList (by decide))⟩

include rowsEscape in
theorem escapes_rowsAsBlock {head : List Piece} (written : ∀ piece ∈ head, piece.EscapesOnly) :
    (s.rowsAsBlock target columns rows (Sql.ofPieces head)).EscapesOnly := by
  refine .literal (by decide) (.cons (.concat fun r member => ?_) (.last (.word (by decide))))
  obtain ⟨row, inRows, rfl⟩ := List.mem_map.mp member
  exact (escapes_rowTuple columns (rowsEscape row inRows)).bind fun pieces tuple =>
    .pure (escapes_blockRow (Sql.escaped_ofPieces written).text (Sql.escaped_ofPieces tuple).text)

include rowsEscape returning in
theorem escapes_rowsAsValues {head : List Piece} (written : ∀ piece ∈ head, piece.EscapesOnly) :
    (s.rowsAsValues target columns rows (Sql.ofPieces head)).EscapesOnly := by
  refine .cons (.whole written) (.cons (escapes_returningAhead returning (.ofList (by decide))) ?_)
  refine .literal (by decide) ?_
  refine .cons (.commaSeparated fun r member => ?_) (.last (escapes_returningAtEnd returning))
  obtain ⟨row, inRows, rfl⟩ := List.mem_map.mp member
  exact escapes_rowTuple columns (rowsEscape row inRows)

include plain rowsEscape in
theorem escapes_rowsAsUnion {head : List Piece} (written : ∀ piece ∈ head, piece.EscapesOnly) :
    (s.rowsAsUnion target columns rows (Sql.ofPieces head)).EscapesOnly := by
  refine .cons (.whole written) (.literal (by decide) (.cons ?_ (.last escapes_returningNote)))
  refine .separated (by decide) fun r member => ?_
  obtain ⟨row, inRows, rfl⟩ := List.mem_map.mp member
  refine .commaSeparated fun r member => ?_
  obtain ⟨column, inColumns, rfl⟩ := List.mem_map.mp member
  exact .cons (escapes_cell (rowsEscape row inRows) column) (.literal (by decide)
    (.last (.text (Identifier.plain_quote target.dialect (plain column inColumns)))))

include plain rowsEscape returning in
theorem escapes_renderRows (source : c.source.EscapesOnly) :
    (s.renderRows target c columns rows).EscapesOnly := by
  refine (escapes_insertInto plain source).bind fun head written => ?_
  split
  · exact escapes_rowsAsValues rowsEscape returning written
  · split
    · exact escapes_rowsAsValues rowsEscape returning written
    · exact escapes_rowsAsUnion plain rowsEscape written
    · exact escapes_rowsAsBlock rowsEscape written

end Rows

section Whole

variable (returning : ∀ name ∈ s.returning, PlainText name) (escapes : c.Escapes)

include returning escapes

theorem escapes_renderEmptyRows (count : Nat) :
    (s.renderEmptyRows target c count).EscapesOnly := by
  unfold renderEmptyRows
  dsimp only
  split
  · exact .throw _
  · refine .literal (by decide) (.cons escapes.source (.last ?_))
    split
    · exact .cons (escapes_returningAhead returning (.ofList (by decide))) (.literal (by decide)
        (.last (escapes_returningAtEnd returning)))
    · have pairs : PlainText (", ".intercalate (List.replicate count "()")) := by
        rw [PlainText, String.toList_intercalate]
        refine Identifier.not_mem_intercalate (PlainText.ofList (by decide)) fun item member => ?_
        obtain ⟨text, inTexts, rfl⟩ := List.mem_map.mp member
        rw [List.eq_of_mem_replicate inTexts]
        exact PlainText.ofList (by decide)
      exact .literal (by decide) (.last (.text pairs))
    · split
      · rename_i column rest found
        have plain : PlainText column := returning column (by rw [found]; exact List.mem_cons_self)
        exact .literal (by decide) (.cons (.text (Identifier.plain_render target.dialect plain))
          (.literal (by decide) (.last (escapes_returningAtEnd returning))))
      · exact .throw _

theorem escapes_renderInsert : (s.renderInsert target c).EscapesOnly := by
  unfold renderInsert
  split
  · exact .nothing
  · rename_i query found
    have body : query.Escapes := escapes.insert (.query query) found
    exact .literal (by decide) (.cons escapes.source (.literal (by decide)
      (.last (Rendered.escapes_bare body))))
  · rename_i rows found
    have rowsEscape : ∀ row ∈ rows, Keyed.Escapes row := escapes.insert (.rows rows) found
    split
    · exact .nothing
    · dsimp only
      split
      · exact escapes_renderEmptyRows returning escapes _
      · exact escapes_renderRows (plain_rowColumns rowsEscape) rowsEscape returning escapes.source

/-! ### Updates, deletes and truncates -/

omit returning escapes in
theorem escapes_mutationLimitAhead : (s.mutationLimitAhead target).EscapesOnly := by
  unfold mutationLimitAhead
  split
  · exact .top _
  · exact .nothing

omit returning in
theorem escapes_mutationOrderAndLimit : (s.mutationOrderAndLimit target c).EscapesOnly := by
  unfold mutationOrderAndLimit
  split
  · exact .cons escapes.orders (.last (.count? (by decide) _))
  · exact escapes.orders
  · exact .guarded (.event _)

omit returning escapes in
theorem escapes_mutationEnd : (s.mutationEnd target).EscapesOnly := by
  have plain : PlainText target.grammar.mutationSuffix := by
    unfold Target.grammar
    cases target.dialect <;> exact .ofList (by decide)
  exact .guarded (.text plain)

omit returning in
theorem escapes_keptJoins (kept : Bool) (verb : String) :
    (s.keptJoins target c kept verb).EscapesOnly := by
  unfold keptJoins
  split
  · exact escapes.joins
  · exact .guarded (.event _)

theorem escapes_renderUpdate : (s.renderUpdate target c).EscapesOnly := by
  unfold renderUpdate
  split
  · exact .throw _
  · refine .literal (by decide) (.cons escapes_mutationLimitAhead (.cons escapes.source ?_))
    refine .cons (escapes_keptJoins escapes _ _) (.literal (by decide) ?_)
    refine .cons (.commaSeparated fun r member => ?_) ?_
    · obtain ⟨entry, inEntries, rfl⟩ := List.mem_map.mp member
      obtain ⟨column, value⟩ := escapes.assignments entry inEntries
      exact .cons (.text (Identifier.plain_render target.dialect column)) (.literal (by decide)
        (.last (Rendered.escapes_inValue value)))
    · refine .cons (escapes_returningAhead returning (.ofList (by decide))) ?_
      exact .cons escapes.wheres (.cons (escapes_mutationOrderAndLimit escapes)
        (.cons (escapes_returningAtEnd returning) (.last escapes_mutationEnd)))

omit returning escapes in
theorem escapes_deleteReference (schema : ∀ text ∈ s.schema, PlainText text)
    (table : ∀ text, s.table = some (.name text) → PlainText text) :
    (s.deleteReference target).EscapesOnly := by
  unfold deleteReference
  split
  · rename_i text found
    exact .cons (.text (Identifier.plain_tableName target.dialect schema (table text found)))
      (.last (.word (by decide)))
  · exact .nothing

theorem escapes_renderDelete (schema : ∀ text ∈ s.schema, PlainText text)
    (table : ∀ text, s.table = some (.name text) → PlainText text) :
    (s.renderDelete target c).EscapesOnly := by
  refine .literal (by decide) (.cons escapes_mutationLimitAhead ?_)
  refine .cons (.guarded (escapes_deleteReference schema table)) (.literal (by decide) ?_)
  refine .cons escapes.source (.cons (escapes_keptJoins escapes _ _) ?_)
  refine .cons (escapes_returningAhead returning (.ofList (by decide))) (.cons escapes.wheres ?_)
  refine .cons (escapes_mutationOrderAndLimit escapes) (.cons ?_ (.last escapes_mutationEnd))
  split
  · exact escapes_returningNote
  · exact escapes_returningAtEnd returning

omit returning in
theorem escapes_renderTruncate : (renderTruncate target c).EscapesOnly := by
  refine .between ?_ escapes.source
  unfold Target.grammar
  cases target.dialect <;> exact ⟨.ofList (by decide), .ofList (by decide)⟩

theorem escapes_assemble (schema : ∀ text ∈ s.schema, PlainText text)
    (table : ∀ text, s.table = some (.name text) → PlainText text) :
    (s.assemble target c).EscapesOnly := by
  unfold assemble
  split
  · exact .throw _
  · split
    · exact escapes_renderSelect escapes
    · exact escapes_renderInsert returning escapes
    · exact escapes_renderUpdate returning escapes
    · exact escapes_renderDelete returning escapes schema table
    · exact escapes_renderTruncate escapes

end Whole

end Statement

end PortableSql
