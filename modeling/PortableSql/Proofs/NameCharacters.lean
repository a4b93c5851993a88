import PortableSql.Proofs.NameParts
import PortableSql.Proofs.NameReading

/-!
The characters of rendered names.

Taking a name apart leaves characters out and adds none, and what is added when its parts are quoted
belongs to the grammar: quotes, dots and what stands in front of an alias. None of that is a
backslash, so a name without backslashes is rendered without any.
-/

namespace PortableSql

namespace Text

theorem trimStartChars_subset (cs : List Char) : trimStartChars cs ⊆ cs :=
  (List.dropWhile_sublist _).subset

end Text

namespace Identifier

/-! ### Parts of names -/

/-- A character that is passed moves to what was passed. -/
theorem passed_subset (read rest : List Char) (c : Char) :
    c :: read ++ rest ⊆ read ++ c :: rest :=
  List.perm_middle.symm.subset

/-- The expression and the alias of a name are made of its characters. -/
theorem parts_subset (name : String) :
    (parts name).1.toList ⊆ name.toList ∧ ∀ text ∈ (parts name).2, text.toList ⊆ name.toList := by
  have divides := Divides.parts name
  cases found : parts name with
  | mk expr aliasName =>
    rw [found] at divides
    cases aliasName with
    | none =>
      cases divides with
      | plain whole => exact ⟨fun c member => by simp [whole, member], nofun⟩
    | some text =>
      cases divides with
      | aliased whole =>
        refine ⟨fun c member => by simp [whole, member], ?_⟩
        rintro _ ⟨⟩ c member
        simp [whole, member]

theorem splitDots_subset {depth : Nat} {read cs segment : List Char}
    (member : segment ∈ splitDots depth read cs) : segment ⊆ read ++ cs := by
  fun_induction splitDots depth read cs with
  | case1 =>
    obtain rfl := List.mem_singleton.mp member
    exact fun x inside => by simpa using inside
  | case2 depth read rest ih => exact List.Subset.trans (ih member) (passed_subset read rest _)
  | case3 depth read rest _ ih => exact List.Subset.trans (ih member) (passed_subset read rest _)
  | case4 depth read c rest _ _ _ ih =>
    rcases List.mem_cons.mp member with rfl | member
    · exact fun x inside => by simp [List.mem_reverse.mp inside]
    · exact List.Subset.trans (ih member) fun x inside => by simp_all
  | case5 depth read c rest _ _ _ ih =>
    exact List.Subset.trans (ih member) (passed_subset read rest c)

theorem doubleClosing_subset (close : Char) (cs : List Char) : doubleClosing close cs ⊆ cs := by
  induction cs with
  | nil => exact List.Subset.refl _
  | cons c rest ih =>
    intro x member
    unfold doubleClosing at member
    split at member
    · rename_i same
      rcases List.mem_cons.mp member with rfl | member
      · simp [same]
      · rcases List.mem_cons.mp member with rfl | member
        · exact List.mem_cons_self
        · exact List.mem_cons_of_mem _ (ih member)
    · rcases List.mem_cons.mp member with rfl | member
      · exact List.mem_cons_self
      · exact List.mem_cons_of_mem _ (ih member)

/-! ### Rendered names -/

variable (d : Dialect)

theorem quotes_ne : d.grammar.openQuote ≠ '\\' ∧ d.grammar.closeQuote ≠ '\\' := by
  cases d <;> decide

theorem plain_aliasSeparator : '\\' ∉ d.grammar.aliasSeparator.toList := by
  cases d <;> decide

theorem plain_quoteChars {name : List Char} (plain : '\\' ∉ name) :
    '\\' ∉ quoteChars d.grammar name := by
  obtain ⟨opening, closing⟩ := quotes_ne d
  intro member
  simp only [quoteChars, List.cons_append, List.mem_cons, List.mem_append, List.not_mem_nil,
    or_false] at member
  rcases member with first | inside | last
  · exact opening first.symm
  · exact plain (doubleClosing_subset _ _ inside)
  · exact closing last.symm

theorem plain_renderSegment {segment : List Char} (plain : '\\' ∉ segment) :
    '\\' ∉ renderSegment d.grammar segment := by
  unfold renderSegment
  split
  · exact plain
  · split
    · rename_i column subscript found
      have bracket : splitSubscript? segment = some (column, subscript) := by
        split at found
        · exact found
        · cases found
      rw [(eq_append_of_splitSubscript? bracket).1, List.mem_append, not_or] at plain
      rw [List.mem_append, not_or]
      exact ⟨plain_quoteChars d plain.1, plain.2⟩
    · exact plain_quoteChars d plain

theorem not_mem_intercalate {x : Char} {separator : List Char} {items : List (List Char)}
    (between : x ∉ separator) (each : ∀ item ∈ items, x ∉ item) :
    x ∉ separator.intercalate items := by
  induction items with
  | nil => simp [List.intercalate]
  | cons first rest ih =>
    have others := ih fun item member => each item (List.mem_cons_of_mem _ member)
    cases rest with
    | nil =>
      rw [List.intercalate_singleton]
      exact each first List.mem_cons_self
    | cons second rest =>
      rw [List.intercalate_cons_cons]
      simp only [List.mem_append, not_or]
      exact ⟨⟨each first List.mem_cons_self, between⟩, others⟩

theorem plain_renderPath {expr : String} (plain : '\\' ∉ expr.toList) :
    '\\' ∉ (renderPath d.grammar expr).toList := by
  rw [renderPath, String.toList_ofList]
  refine not_mem_intercalate (by decide) fun item member => ?_
  obtain ⟨segment, inSegments, rfl⟩ := List.mem_map.mp member
  refine plain_renderSegment d fun inside => plain ?_
  simpa using splitDots_subset inSegments inside

theorem plain_quote {name : String} (plain : '\\' ∉ name.toList) :
    '\\' ∉ (quote d.grammar name).toList := by
  rw [quote, String.toList_ofList]
  exact plain_quoteChars d plain

theorem plain_renderAlias {aliasName : String} (plain : '\\' ∉ aliasName.toList) :
    '\\' ∉ (renderAlias d.grammar aliasName).toList := by
  rw [renderAlias, String.toList_append, List.mem_append, not_or]
  exact ⟨plain_aliasSeparator d, plain_quote d plain⟩

theorem plain_render {name : String} (plain : '\\' ∉ name.toList) :
    '\\' ∉ (render d.grammar name).toList := by
  obtain ⟨inExpr, inAlias⟩ := parts_subset name
  unfold render
  split
  · rename_i expr aliasName found
    rw [found] at inExpr inAlias
    rw [String.toList_append, List.mem_append, not_or]
    exact ⟨plain_renderPath d fun member => plain (inExpr member),
      plain_renderAlias d fun member => plain (inAlias aliasName rfl member)⟩
  · rename_i expr found
    rw [found] at inExpr
    exact plain_renderPath d fun member => plain (inExpr member)

theorem plain_renderList {qualifier : String} {names : List String}
    (front : '\\' ∉ qualifier.toList) (plain : ∀ name ∈ names, '\\' ∉ name.toList) :
    '\\' ∉ (renderList d.grammar qualifier names).toList := by
  rw [renderList, String.toList_intercalate]
  refine not_mem_intercalate (by decide) fun item member => ?_
  obtain ⟨text, inTexts, rfl⟩ := List.mem_map.mp member
  obtain ⟨name, inNames, rfl⟩ := List.mem_map.mp inTexts
  rw [String.toList_append, List.mem_append, not_or]
  exact ⟨front, plain_render d (plain name inNames)⟩

theorem plain_qualified {schema name : String} (front : '\\' ∉ schema.toList)
    (plain : '\\' ∉ name.toList) : '\\' ∉ (qualified schema name).toList := by
  have dot : '\\' ∉ ".".toList := by
    decide
  simp only [qualified, String.toList_append, List.mem_append, not_or]
  exact ⟨⟨front, dot⟩, plain⟩

theorem plain_renderTable {schema : Option String} {name : String}
    (front : ∀ text ∈ schema, '\\' ∉ text.toList) (plain : '\\' ∉ name.toList) :
    '\\' ∉ (renderTable d.grammar schema name).toList := by
  cases schema with
  | none => exact plain_render d plain
  | some schema =>
    refine plain_render d (plain_qualified (front schema rfl) fun member => plain ?_)
    rw [Text.trimStart, String.toList_ofList] at member
    exact Text.trimStartChars_subset _ member

theorem plain_tableName {schema : Option String} {name : String}
    (front : ∀ text ∈ schema, '\\' ∉ text.toList) (plain : '\\' ∉ name.toList) :
    '\\' ∉ (tableName d.grammar schema name).toList := by
  obtain ⟨inExpr, inAlias⟩ := parts_subset name
  unfold tableName
  split
  · rename_i expr aliasName found
    rw [found] at inAlias
    exact plain_quote d fun member => plain (inAlias aliasName rfl member)
  · rename_i expr found
    rw [found] at inExpr
    have own : '\\' ∉ expr.toList := fun member => plain (inExpr member)
    cases schema with
    | none => exact plain_renderPath d own
    | some schema => exact plain_renderPath d (plain_qualified (front schema rfl) own)

end Identifier

end PortableSql
