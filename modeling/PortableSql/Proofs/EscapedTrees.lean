import PortableSql.Proofs.EscapedClauses
import PortableSql.Proofs.SafeTree

/-!
Trees without backslashes.

`Statement.texts` lists what a statement writes into SQL text as it was given: names, operators and
raw text. A value is not among them unless a fragment may ask for it as a name. If none of these
texts has a backslash, at any depth, the rendered statement has backslashes only in front of
question marks (`Statement.escapes_render`), and that goes for every part of it.
-/

namespace PortableSql

variable {σ : Type}

/-! ### Texts -/

/-- The names that a binding may stand for. -/
def Operand.nameTexts : Operand σ → List String
  | .value v => v.nameTexts
  | _ => []

/-- The names that bindings may stand for. -/
def Bindings.texts : Bindings (Operand σ) → List String
  | .none => []
  | .positional values => values.flatMap Operand.nameTexts
  | .named pairs => pairs.flatMap (·.2.nameTexts)

/-- The texts of a fragment. -/
def Fragment.texts (fragment : Fragment (Operand σ)) : List String :=
  fragment.template :: fragment.around.toList.flatMap (fun (before, after) => [before, after]) ++
    fragment.bindings.texts

/-- The texts of an operand, but not those of the operands bound inside it. -/
def Operand.texts : Operand σ → List String
  | .raw fragment => fragment.texts
  | _ => []

/-- The texts of a column. -/
def Column.texts : Column σ → List String
  | .name text | .numeral text => [text]
  | .aggregate a => [a.function, a.column]
  | .query _ | .raw _ => []

mutual

/-- The texts of a condition. -/
def Condition.texts : Condition σ → List String
  | .compare column operator _ => column.texts ++ [operator.text]
  | .columns first operator second => first.texts ++ [operator.text] ++ second.texts
  | .isIn column _ | .null column | .between column _ _ => column.texts
  | .group terms => Term.textsList terms
  | .exists _ | .raw _ | .literal _ => []

/-- The texts of a list of conditions. -/
def Term.textsList : List (Term σ) → List String
  | [] => []
  | ⟨_, _, condition⟩ :: rest => condition.texts ++ Term.textsList rest

end

/-- The texts of a join. -/
def Join.texts : Join σ → List String
  | .clause joined => joined.table.texts ++ Term.textsList joined.conditions ++ joined.shared
  | .raw _ => []

/-- The texts of an entry of an ordering. -/
def Order.texts : Order σ → List String
  | .column ordered _ => ordered.texts
  | .raw _ => []

/-- The texts of what an insert writes. -/
def InsertPayload.texts : InsertPayload σ → List String
  | .rows table => table.flatMap Keyed.keys
  | .query _ => []

/-- The texts of settings. -/
def Settings.texts (settings : Settings) : List String :=
  settings.schema.toList ++ settings.aliasName.toList ++ settings.returning

/-- The texts of a statement, but not those of the statements nested in it. -/
def Statement.texts (s : Statement) : List String :=
  s.toSettings.texts ++ (s.table.toList.flatMap Column.texts ++ (s.columns.flatMap Column.texts ++
    (s.joins.flatMap Join.texts ++ (Term.textsList s.wheres ++ (s.groups.flatMap Column.texts ++
    (Term.textsList s.havings ++ (s.orders.flatMap Order.texts ++
    (s.insert.toList.flatMap InsertPayload.texts ++ (Keyed.keys s.assignments ++
    s.operands.flatMap Operand.texts)))))))))

/-- No text in a statement has a backslash, nor has any in a statement nested in it. -/
abbrev Statement.PlainTexts (s : Statement) : Prop :=
  s.All fun t => ∀ text ∈ t.texts, PlainText text

/-! ### Renderings that parts are put together with -/

open Rendering (EscapesOnly)

variable {target : Target}

theorem Aggregate.escapes_render {a : Aggregate} (function : PlainText a.function)
    (column : PlainText a.column) : (a.render target.grammar).EscapesOnly := by
  obtain ⟨inExpr, inAlias⟩ := Identifier.parts_subset a.column
  unfold Aggregate.render
  have path : PlainText (Identifier.renderPath target.grammar (Identifier.parts a.column).1) :=
    Identifier.plain_renderPath target.dialect fun member => column (inExpr member)
  refine .cons (.text function) (.literal (by decide) (.cons (.guarded (.word (by decide))) ?_))
  refine .cons (.text path) (.literal (by decide) (.last ?_))
  split
  · rename_i name found
    exact .text (Identifier.plain_renderAlias target.dialect fun member =>
      column (inAlias name found member))
  · exact .nothing

theorem Operator.escapes_render {op : Operator} (plain : PlainText op.text) :
    (Rendering.text op.render).EscapesOnly := by
  have escaped {cs : List Char} (plain : '\\' ∉ cs) : Sql.EscapesOnly (escapeMarks cs) := by
    induction cs with
    | nil => trivial
    | cons c rest ih =>
      rw [List.mem_cons, not_or] at plain
      unfold escapeMarks
      split
      · exact ⟨fun _ => rfl, nofun, ih plain.2⟩
      · exact ⟨fun backslash => absurd backslash.symm plain.1, ih plain.2⟩
  refine .pure (List.forall_mem_singleton.mpr ?_)
  rw [Piece.EscapesOnly, Operator.render, String.toList_ofList]
  exact escaped plain

namespace Rendering

variable {conditions : List (Connector × Rendering)}

theorem escapes_nested {aliasName : Option String} {body : Rendering} (inside : body.EscapesOnly)
    (plain : ∀ name ∈ aliasName, PlainText name) :
    (nested target.grammar aliasName body).EscapesOnly := by
  refine .cons (.parenthesized inside) (.last ?_)
  cases aliasName with
  | none => exact .nothing
  | some name => exact .text (Identifier.plain_renderAlias target.dialect (plain name rfl))

theorem escapes_negation (negated : Bool) : (negation negated).EscapesOnly := by
  cases negated <;> exact .word (by decide)

theorem escapes_membership (negated : Bool) {column : Rendering} {values : Rendered}
    (first : column.EscapesOnly) (second : values.Escapes) :
    (membership negated column values).EscapesOnly := by
  have word : (text (if negated then " not in " else " in ")).EscapesOnly := by
    cases negated <;> exact .word (by decide)
  unfold membership
  split
  · exact .literal (by decide) (.last (.slot _))
  · refine .cons first (.cons word (.last (.parenthesized (.commaSeparated fun r member => ?_))))
    obtain ⟨item, -, rfl⟩ := List.mem_map.mp member
    exact .slot item
  · exact .cons first (.cons word (.last (Rendered.escapes_enclosed second)))

theorem escapes_connected (each : ∀ condition ∈ conditions, condition.2.EscapesOnly) :
    (connected conditions).EscapesOnly := by
  unfold connected
  split
  · exact .nothing
  · rename_i first rest
    obtain ⟨own, others⟩ := List.forall_mem_cons.mp each
    refine .cons own (.concat fun r member => ?_)
    obtain ⟨⟨connector, condition⟩, inRest, rfl⟩ := List.mem_map.mp member
    refine .cons ?_ (.last (others _ inRest))
    cases connector <;> exact .word (by decide)

theorem escapes_conditionClause {lead : String} (plain : PlainText lead)
    (each : ∀ condition ∈ conditions, condition.2.EscapesOnly) :
    (conditionClause lead conditions).EscapesOnly :=
  .guarded (.cons (.text plain) (.last (escapes_connected each)))

end Rendering

theorem JoinKind.escapes_render (kind : JoinKind) {table : Rendering} {shared : List String}
    {conditions : List (Connector × Rendering)} (first : table.EscapesOnly)
    (plain : ∀ name ∈ shared, PlainText name)
    (each : ∀ condition ∈ conditions, condition.2.EscapesOnly) :
    (kind.render target.grammar table shared conditions).EscapesOnly := by
  have word : (Rendering.text kind.text).EscapesOnly := by
    cases kind <;> exact .word (by decide)
  refine .cons word (.literal (by decide) (.cons first (.last ?_)))
  split
  · exact Rendering.escapes_conditionClause (.ofList (by decide)) each
  · exact .literal (by decide) (.cons (.text
      (Identifier.plain_renderList target.dialect (by decide) plain)) (.last (.word (by decide))))

theorem Rendered.escapes_union (all wrap : Bool) {query : Rendered} (body : query.Escapes) :
    (query.union all wrap).EscapesOnly := by
  have word : (Rendering.text (if all then " union all " else " union ")).EscapesOnly := by
    cases all <;> exact .word (by decide)
  exact .cons word (.cons (.guarded (.word (by decide))) (.cons (Rendered.escapes_bare body)
    (.last (.guarded (.word (by decide))))))

/-! ### Parts of trees -/

/-- An operand whose texts have no backslash, and whose statement has backslashes only to escape. -/
structure Operand.Escaping (target : Target) (operand : Operand Attached) : Prop where
  texts : ∀ text ∈ operand.texts, PlainText text
  query : ∀ a, operand = .query a →
    (a.render target).EscapesOnly ∧ ∀ name ∈ (a.statement target).aliasName, PlainText name

theorem Rendered.escapesAsName_of_names {operand : Operand Attached}
    (escapes : (operand.rendered target).Escapes)
    (names : ∀ text ∈ operand.nameTexts, PlainText text) :
    (operand.rendered target).EscapesAsName := by
  cases operand with
  | value v => exact names
  | undefined => trivial
  | query | raw => exact escapes

mutual

theorem Operand.escapes_rendered : (operand : Operand Attached) →
    (∀ part ∈ operand.operands, part.Escaping target) → (operand.rendered target).Escapes
  | .value _, _ => trivial
  | .undefined, _ => trivial
  | .query a, parts => ((parts (.query a) (by simp [Operand.operands])).query a rfl).1
  | .raw fragment, parts =>
    Fragment.escapes_rendered fragment (parts (.raw fragment) (by simp [Operand.operands])).texts
      fun part member => parts part (List.mem_cons_of_mem _ member)

theorem Fragment.escapes_rendered : (fragment : Fragment (Operand Attached)) →
    (∀ text ∈ fragment.texts, PlainText text) →
    (∀ part ∈ Fragment.operands fragment, part.Escaping target) →
    (Fragment.rendered target fragment).EscapesOnly
  | ⟨template, bindings, around⟩, plain, parts => by
    simp only [Fragment.texts, List.cons_append, List.forall_mem_cons, List.forall_mem_append]
      at plain
    obtain ⟨own, texts, names⟩ := plain
    refine Fragment.escapes_render own ?_ (Bindings.escapes_rendered bindings names parts)
    rintro ⟨front, back⟩ rfl
    simpa using texts

theorem Bindings.escapes_rendered : (bindings : Bindings (Operand Attached)) →
    (∀ text ∈ bindings.texts, PlainText text) →
    (∀ part ∈ Bindings.operands bindings, part.Escaping target) →
    (Bindings.rendered target bindings).EscapesAsName
  | .none, _, _ => trivial
  | .positional values, names, parts => Operand.escapes_renderedList values names parts
  | .named pairs, names, parts => Operand.escapes_namedPairs pairs names parts

theorem Operand.escapes_renderedList : (values : List (Operand Attached)) →
    (∀ text ∈ values.flatMap Operand.nameTexts, PlainText text) →
    (∀ part ∈ Operand.operandsList values, part.Escaping target) →
    ∀ rendered ∈ Operand.renderedList target values, rendered.EscapesAsName
  | [], _, _ => nofun
  | operand :: rest, names, parts => by
    rw [List.flatMap_cons, List.forall_mem_append] at names
    rw [Operand.operandsList, List.forall_mem_append] at parts
    rw [Operand.renderedList, List.forall_mem_cons]
    exact ⟨Rendered.escapesAsName_of_names (Operand.escapes_rendered operand parts.1) names.1,
      Operand.escapes_renderedList rest names.2 parts.2⟩

theorem Operand.escapes_namedPairs : (pairs : List (String × Operand Attached)) →
    (∀ text ∈ pairs.flatMap (·.2.nameTexts), PlainText text) →
    (∀ part ∈ Operand.operandsPairs pairs, part.Escaping target) →
    ∀ pair ∈ Operand.renderedPairs target pairs, pair.2.EscapesAsName
  | [], _, _ => nofun
  | (name, operand) :: rest, names, parts => by
    rw [List.flatMap_cons, List.forall_mem_append] at names
    rw [Operand.operandsPairs, List.forall_mem_append] at parts
    rw [Operand.renderedPairs, List.forall_mem_cons]
    exact ⟨Rendered.escapesAsName_of_names (Operand.escapes_rendered operand parts.1) names.1,
      Operand.escapes_namedPairs rest names.2 parts.2⟩

end

/-- The entries of a row, under plain names. -/
theorem Operand.escapes_renderedPairs (pairs : List (String × Operand Attached))
    (names : ∀ text ∈ Keyed.keys pairs, PlainText text)
    (parts : ∀ part ∈ Operand.operandsPairs pairs, part.Escaping target) :
    Keyed.Escapes (Operand.renderedPairs target pairs) := by
  rw [Operand.operandsPairs_eq_flatMap] at parts
  rw [Operand.renderedPairs_eq_map]
  intro entry member
  obtain ⟨pair, inPairs, rfl⟩ := List.mem_map.mp member
  refine ⟨names pair.1 (List.mem_map_of_mem inPairs), pair.2.escapes_rendered fun part inside => ?_⟩
  exact parts part (List.mem_flatMap.mpr ⟨pair, inPairs, inside⟩)

theorem Column.escapes_render {schema : Option String} (front : ∀ text ∈ schema, PlainText text)
    (column : Column Attached) (plain : ∀ text ∈ column.texts, PlainText text)
    (parts : ∀ part ∈ column.operands, part.Escaping target) :
    (column.render target schema).EscapesOnly := by
  cases column with
  | name text =>
    exact .text (Identifier.plain_renderTable target.dialect front (plain text (by simp [texts])))
  | numeral text => exact .text (plain text (by simp [texts]))
  | aggregate a => exact a.escapes_render (plain _ (by simp [texts])) (plain _ (by simp [texts]))
  | query a =>
    obtain ⟨body, name⟩ := (parts (.query a) (by simp [operands])).query a rfl
    exact Rendering.escapes_nested body name
  | raw fragment => exact Operand.escapes_rendered (.raw fragment) parts

/-- In the place of a value no schema is in front of a name. -/
theorem Column.escapes_render_bare (column : Column Attached)
    (plain : ∀ text ∈ column.texts, PlainText text)
    (parts : ∀ part ∈ column.operands, part.Escaping target) :
    (column.render target none).EscapesOnly :=
  column.escapes_render (by simp) plain parts

mutual

theorem Condition.escapes_render (negated : Bool) : (condition : Condition Attached) →
    (∀ text ∈ condition.texts, PlainText text) →
    (∀ part ∈ condition.operands, part.Escaping target) →
    (condition.render target negated).EscapesOnly
  | .compare column operator value, plain, parts => by
    simp only [Condition.texts, List.forall_mem_append, List.forall_mem_singleton] at plain
    rw [Condition.operands, List.forall_mem_append] at parts
    refine .cons (Rendering.escapes_negation negated) ?_
    refine .cons (column.escapes_render_bare plain.1 parts.1) (.literal (by decide) ?_)
    exact .cons (operator.escapes_render plain.2) (.literal (by decide)
      (.last (Rendered.escapes_compared (value.escapes_rendered parts.2))))
  | .columns first operator second, plain, parts => by
    simp only [Condition.texts, List.forall_mem_append, List.forall_mem_singleton] at plain
    rw [Condition.operands, List.forall_mem_append] at parts
    refine .cons (Rendering.escapes_negation negated) ?_
    refine .cons (first.escapes_render_bare plain.1.1 parts.1) (.literal (by decide) ?_)
    exact .cons (operator.escapes_render plain.1.2) (.literal (by decide)
      (.last (second.escapes_render_bare plain.2 parts.2)))
  | .isIn column values, plain, parts => by
    rw [Condition.operands, List.forall_mem_append] at parts
    exact Rendering.escapes_membership negated (column.escapes_render_bare plain parts.1)
      (values.escapes_rendered parts.2)
  | .null column, plain, parts => by
    refine .cons (column.escapes_render_bare plain parts) (.last ?_)
    cases negated <;> exact .word (by decide)
  | .between column low high, plain, parts => by
    simp only [Condition.operands, List.forall_mem_append] at parts
    obtain ⟨⟨first, second⟩, third⟩ := parts
    have word : EscapesOnly (.text (if negated then " not between " else " between ")) := by
      cases negated <;> exact .word (by decide)
    refine .cons (column.escapes_render_bare plain first) (.cons word ?_)
    exact .cons (Rendered.escapes_inValue (low.escapes_rendered second)) (.literal (by decide)
      (.last (Rendered.escapes_inValue (high.escapes_rendered third))))
  | .exists query, _, parts => by
    have word : EscapesOnly (.text (if negated then "not exists " else "exists ")) := by
      cases negated <;> exact .word (by decide)
    exact .cons word (.last (Rendered.escapes_enclosed (query.escapes_rendered parts)))
  | .group terms, plain, parts =>
    .cons (Rendering.escapes_negation negated) (.last (.parenthesized
      (Rendering.escapes_connected (Term.escapes_renderList terms plain parts))))
  | .raw fragment, _, parts =>
    .cons (Rendering.escapes_negation negated) (.last
      (Operand.escapes_rendered (.raw fragment) parts))
  | .literal value, _, _ => by
    refine .cons (Rendering.escapes_negation negated) (.last ?_)
    cases value <;> exact .word (by decide)

theorem Term.escapes_renderList : (terms : List (Term Attached)) →
    (∀ text ∈ Term.textsList terms, PlainText text) →
    (∀ part ∈ Term.operandsList terms, part.Escaping target) →
    ∀ condition ∈ Term.renderList target terms, condition.2.EscapesOnly
  | [], _, _ => nofun
  | ⟨connector, negated, condition⟩ :: rest, plain, parts => by
    rw [Term.textsList, List.forall_mem_append] at plain
    rw [Term.operandsList, List.forall_mem_append] at parts
    rw [Term.renderList, List.forall_mem_cons]
    exact ⟨Condition.escapes_render negated condition plain.1 parts.1,
      Term.escapes_renderList rest plain.2 parts.2⟩

end

theorem Join.escapes_render {schema : Option String} (front : ∀ text ∈ schema, PlainText text)
    (join : Join Attached) (plain : ∀ text ∈ join.texts, PlainText text)
    (parts : ∀ part ∈ join.operands, part.Escaping target) :
    (join.render target schema).EscapesOnly := by
  cases join with
  | clause joined =>
    obtain ⟨kind, table, conditions, shared, recorded⟩ := joined
    simp only [texts, List.forall_mem_append] at plain
    rw [operands, List.forall_mem_append] at parts
    cases recorded with
    | some fault => exact .throw fault
    | none =>
      exact kind.escapes_render (table.escapes_render front plain.1.1 parts.1) plain.2
        (Term.escapes_renderList conditions plain.1.2 parts.2)
  | raw fragment => exact Operand.escapes_rendered (.raw fragment) parts

theorem Order.escapes_render (order : Order Attached)
    (plain : ∀ text ∈ order.texts, PlainText text)
    (parts : ∀ part ∈ order.operands, part.Escaping target) :
    (order.render target).EscapesOnly := by
  cases order with
  | column ordered direction =>
    refine .cons (ordered.escapes_render_bare plain parts) (.literal (by decide) (.last ?_))
    cases direction <;> exact .word (by decide)
  | raw fragment => exact Operand.escapes_rendered (.raw fragment) parts

/-- What is rendered from the items of a list writes backslashes only to escape if it does for each
item with plain texts and escaping operands. -/
theorem each_escapes {α β : Type} {items : List α} {texts : α → List String}
    {operands : α → List (Operand Attached)} {f : α → β} {P : β → Prop}
    (plain : ∀ text ∈ items.flatMap texts, PlainText text)
    (parts : ∀ part ∈ items.flatMap operands, part.Escaping target)
    (step : ∀ item, (∀ text ∈ texts item, PlainText text) →
      (∀ part ∈ operands item, part.Escaping target) → P (f item)) :
    ∀ rendered ∈ items.map f, P rendered := by
  intro rendered member
  obtain ⟨item, inItems, rfl⟩ := List.mem_map.mp member
  refine step item (fun text inside => plain text ?_) fun part inside => parts part ?_
  · exact List.mem_flatMap.mpr ⟨item, inItems, inside⟩
  · exact List.mem_flatMap.mpr ⟨item, inItems, inside⟩

theorem InsertPayload.escapes_rendered (insert : Option (InsertPayload Attached))
    (plain : ∀ text ∈ insert.toList.flatMap InsertPayload.texts, PlainText text)
    (parts : ∀ part ∈ insert.toList.flatMap InsertPayload.operands, part.Escaping target) :
    ∀ payload ∈ InsertPayload.rendered target insert, payload.Escapes := by
  intro payload found
  rcases insert with _ | source | source
  · cases found
  · cases found
    simp only [Option.toList_some, List.flatMap_singleton, InsertPayload.operands,
      InsertPayload.texts] at plain parts
    simp only [RenderedPayload.Escapes, Operand.renderedRows_eq_map]
    exact each_escapes plain parts Operand.escapes_renderedPairs
  · cases found
    exact source.escapes_rendered (by simpa [InsertPayload.operands] using parts)

/-! ### Statements -/

section Statements

variable {s : Statement} (plain : ∀ text ∈ s.texts, PlainText text)

include plain

theorem Statement.plain_settings : (∀ text ∈ s.schema, PlainText text) ∧
    (∀ name ∈ s.aliasName, PlainText name) ∧ ∀ name ∈ s.returning, PlainText name := by
  simp only [texts, Settings.texts, List.forall_mem_append] at plain
  simpa [and_assoc] using plain.1

theorem Statement.plain_table (text : String) (named : s.table = some (.name text)) :
    PlainText text := by
  simp only [texts, List.forall_mem_append, named] at plain
  simpa [Column.texts] using plain.2.1

/-- The clauses of a statement write backslashes only to escape where its texts are plain and its
operands escape. -/
theorem Statement.escapes_clauses (parts : ∀ part ∈ s.operands, part.Escaping target) :
    (s.clauses target).Escapes := by
  have front := (plain_settings plain).1
  simp only [texts, List.forall_mem_append] at plain
  simp only [operands, List.forall_mem_append] at parts
  obtain ⟨-, table, columns, joins, wheres, groups, havings, orders, insert, assignments, -⟩ :=
    plain
  obtain ⟨⟨⟨⟨⟨⟨⟨⟨⟨inTable, inColumns⟩, inJoins⟩, inWheres⟩, inGroups⟩, inHavings⟩, inOrders⟩,
    inUnions⟩, inInsert⟩, inAssignments⟩ := parts
  have source : (Column.renderTable target s.schema s.table).EscapesOnly := by
    cases found : s.table with
    | none => exact .throw _
    | some column =>
      rw [found] at table inTable
      exact column.escapes_render front (by simpa using table) (by simpa using inTable)
  have columnsEscape {columns : List (Column Attached)}
      (plain : ∀ text ∈ columns.flatMap Column.texts, PlainText text)
      (parts : ∀ part ∈ columns.flatMap Column.operands, part.Escaping target) :
      ∀ column ∈ Column.renderList target columns, column.EscapesOnly := by
    rw [Column.renderList_eq_map]
    exact each_escapes plain parts Column.escapes_render_bare
  have joinsEscape : ∀ join ∈ Join.renderList target s.schema s.joins, join.EscapesOnly := by
    rw [Join.renderList_eq_map]
    exact each_escapes joins inJoins fun join plain parts =>
      .literal (by decide) (.last (join.escapes_render front plain parts))
  have ordersEscape : ∀ order ∈ Order.renderList target s.orders, order.EscapesOnly := by
    rw [Order.renderList_eq_map]
    exact each_escapes orders inOrders Order.escapes_render
  have unionsEscape : ∀ union ∈ UnionPart.renderList target s.unions, union.EscapesOnly := by
    rw [UnionPart.renderList_eq_map]
    intro rendered member
    obtain ⟨union, inUnion, rfl⟩ := List.mem_map.mp member
    refine Rendered.escapes_union _ _ (union.query.escapes_rendered fun part inside => ?_)
    exact inUnions part (List.mem_flatMap.mpr ⟨union, inUnion, inside⟩)
  exact {
    source := source
    columns := columnsEscape columns inColumns
    joins := .concat joinsEscape
    wheres := Rendering.escapes_conditionClause (.ofList (by decide))
      (Term.escapes_renderList _ wheres inWheres)
    groups := .clause (by decide) (columnsEscape groups inGroups)
    havings := Rendering.escapes_conditionClause (.ofList (by decide))
      (Term.escapes_renderList _ havings inHavings)
    orders := .clause (by decide) ordersEscape
    unions := .concat unionsEscape
    insert := InsertPayload.escapes_rendered _ insert inInsert
    assignments := Operand.escapes_renderedPairs _ assignments inAssignments }

theorem Statement.escapes_render_of_operands (parts : ∀ part ∈ s.operands, part.Escaping target) :
    (s.render target).EscapesOnly := by
  rw [render_eq]
  obtain ⟨schema, -, returning⟩ := plain_settings plain
  exact escapes_assemble returning (escapes_clauses plain parts) schema (plain_table plain)

end Statements

theorem Attached.escapes_render {a : Attached}
    (escapes : ((a.statement target).render target).EscapesOnly) :
    (a.render target).EscapesOnly := by
  rwa [EscapesOnly, Render.Ensures, a.outcome_render]

/-- A statement without backslashes in its texts writes them only in front of question marks. -/
theorem Statement.escapes_render {s : Statement} (plain : s.PlainTexts) :
    (∀ part ∈ s.operands, part.Escaping target) ∧ (s.render target).EscapesOnly := by
  induction plain with
  | @intro s here nested ih =>
    have parts : ∀ part ∈ s.operands, part.Escaping target := by
      intro part member
      constructor
      · intro text inside
        refine here text ?_
        have inParts := List.mem_flatMap.mpr ⟨part, member, inside⟩
        simp [texts, inParts]
      · rintro a rfl
        exact ⟨Attached.escapes_render (ih a member target).2,
          (plain_settings (nested a member target).here).2.1⟩
    exact ⟨parts, escapes_render_of_operands here parts⟩

end PortableSql
