import PortableSql.Proofs.Agreement

/-!
Similar statements render to agreeing pieces.

Agreement carries over from the clauses to a statement where it is kept by assembling them, which
depends on the kinds of the statements. That is `Congruence.Assembles`; with it the induction over
similar trees gives the agreement of whole statements.
-/

namespace PortableSql

variable {t u : Target} {V : Value → Value → Prop} {c : Congruence t u V}

open Rendering (Agree)

/-! ### Rendered clauses -/

/-- Rendered payloads that agree. -/
inductive RenderedPayload.Agreeing (c : Congruence t u V) :
    RenderedPayload → RenderedPayload → Prop where
  | rows {xs ys : List (Keyed Rendered)}
      (table : Paired (PairedEntries (Rendered.Agreeing c)) xs ys) :
      RenderedPayload.Agreeing c (.rows xs) (.rows ys)
  | query {r q : Rendered} (source : Rendered.Agreeing c r q) :
      RenderedPayload.Agreeing c (.query r) (.query q)

/-- Rendered clauses that agree one by one. -/
structure RenderedClauses.Agreeing (c : Congruence t u V) (a b : RenderedClauses) : Prop where
  source : Agree c a.source b.source
  columns : Paired (Agree c) a.columns b.columns
  joins : Agree c a.joins b.joins
  wheres : Agree c a.wheres b.wheres
  groups : Agree c a.groups b.groups
  havings : Agree c a.havings b.havings
  orders : Agree c a.orders b.orders
  unions : Agree c a.unions b.unions
  insert : Paired (RenderedPayload.Agreeing c) a.insert.toList b.insert.toList
  assignments : PairedEntries (Rendered.Agreeing c) a.assignments b.assignments

/-! ### Selects -/

namespace Statement

variable {s s' : Statement} {a b : RenderedClauses}

theorem textual_lockClause (target : Target) (s : Statement) : (s.lockClause target).Textual := by
  unfold lockClause
  split
  · exact ⟨[], rfl⟩
  · split
    · dsimp only
      split
      · exact ⟨[" ", _], rfl⟩
      · exact ⟨[], rfl⟩
    · exact ⟨[], rfl⟩

theorem textual_guarded {condition : Bool} {r : Rendering} (textual : r.Textual) :
    (Rendering.guarded condition r).Textual := by
  cases condition with
  | true => exact textual
  | false => exact ⟨[], rfl⟩

/-- A row lock has no values, so it agrees wherever a grammar puts it. -/
theorem agree_lockClause (same : s.toSettings = s'.toSettings) (place : Grammar → Bool) :
    Agree c (.guarded (place t.grammar) (s.lockClause t))
      (.guarded (place u.grammar) (s'.lockClause u)) := by
  have equal : s'.lockClause u = s.lockClause u := by
    simp only [lockClause, same]
  rw [equal]
  exact .textual (fun target => .guarded (place target.grammar) (s.lockClause target))
    fun target => textual_guarded (s.textual_lockClause target)

theorem agree_selectUpToOrder (same : s.toSettings = s'.toSettings)
    (table : s.table.isSome = s'.table.isSome) (clauses : a.Agreeing c b)
    (ahead : Agree c (s.selectLimitAhead t) (s'.selectLimitAhead u)) :
    Agree c (s.selectUpToOrder t a) (s'.selectUpToOrder u b) := by
  have columns : Agree c (if a.columns.isEmpty then .text "*" else .commaSeparated a.columns)
      (if b.columns.isEmpty then .text "*" else .commaSeparated b.columns) := by
    rw [clauses.columns.isEmpty_eq]
    split
    · exact .word _
    · exact .separated clauses.columns
  have source : Agree c (.guarded s.table.isSome (.concat [.text " from ", a.source]))
      (.guarded s'.table.isSome (.concat [.text " from ", b.source])) := by
    rw [table]
    exact .guarded (.cons (.word _) (.cons clauses.source .nil))
  have distinct : Agree c (.guarded s.distinct (.text "distinct "))
      (.guarded s'.distinct (.text "distinct ")) := by
    rw [congrArg Settings.distinct same]
    exact .guarded (.word _)
  refine .cons (.word _) (.cons distinct (.cons ahead (.cons columns (.cons source ?_))))
  refine .cons clauses.joins (.cons (agree_lockClause same (·.lockInFrom)) ?_)
  refine .cons clauses.wheres (.cons clauses.groups (.cons clauses.havings ?_))
  exact .cons clauses.orders .nil

end Statement

/-! ### Similar trees -/

/-- Agreement is kept where the clauses of similar statements are assembled. The schema and the
alias of a statement are written outside it. -/
structure Congruence.Assembles (c : Congruence t u V) (N : Settings → Settings → Prop) : Prop where
  schema : ∀ {a b}, N a b → a.schema = b.schema
  aliasName : ∀ {a b}, N a b → a.aliasName = b.aliasName
  assemble : ∀ {s s' a b}, Statement.Similar V N s s' → RenderedClauses.Agreeing c a b →
    Agree c (s.assemble t a) (s'.assemble u b)

theorem Column.renderList_agree {xs ys : List (Column Attached)}
    (each : Paired (fun x y => Agree c (x.render t none) (y.render u none)) xs ys) :
    Paired (Agree c) (Column.renderList t xs) (Column.renderList u ys) := by
  rw [Column.renderList_eq_map, Column.renderList_eq_map]
  exact each.map fun _ _ agree => agree

theorem Column.renderTable_agree {schema : Option String} {x y : Option (Column Attached)}
    (each : Paired (fun x y => Agree c (x.render t schema) (y.render u schema)) x.toList y.toList) :
    Agree c (Column.renderTable t schema x) (Column.renderTable u schema y) := by
  rcases x with _ | x <;> rcases y with _ | y <;> cases each
  · exact .throw _
  · assumption

theorem InsertPayload.rendered_agreeing {x y : Option (InsertPayload Attached)}
    (each : Paired (fun x y => ∀ a ∈ InsertPayload.rendered t (some x),
      ∀ b ∈ InsertPayload.rendered u (some y), RenderedPayload.Agreeing c a b)
      x.toList y.toList) :
    Paired (RenderedPayload.Agreeing c) (InsertPayload.rendered t x).toList
      (InsertPayload.rendered u y).toList := by
  rcases x with _ | x <;> rcases y with _ | y <;> cases each
  · exact .nil
  · rename_i first _
    cases x <;> cases y <;> exact .cons (first _ rfl _ rfl) .nil

section Trees

variable {N : Settings → Settings → Prop}

-- The hypothesis is used where a statement is assembled; the other theorems only hand it on.
mutual

theorem Attached.Related.agree (assembles : c.Assembles N) {a b : Attached} :
    Attached.Congruent V N a b → Agree c (a.render t) (b.render u)
  | .prepared related => related.agree assembles

theorem Operand.Similar.agreeing (assembles : c.Assembles N) {a b : Operand Attached} :
    Operand.Similar V (Attached.Congruent V N) a b →
      Rendered.Agreeing c (a.rendered t) (b.rendered u)
  | .value related => .value related
  | .undefined => .undefined
  | .query related => .query (related.agree assembles)
  | .raw similar => .raw (similar.agree assembles)

theorem Fragment.Similar.agree (assembles : c.Assembles N) : {f g : Fragment (Operand Attached)} →
    Fragment.Similar V (Attached.Congruent V N) f g →
      Agree c (Fragment.rendered t f) (Fragment.rendered u g)
  | ⟨template, _, around⟩, _, .intro bindings identifiers => by
    have body := Template.agree_fill template (bindings.agreeing assembles) identifiers
    cases around with
    | none => exact body
    | some around => exact .between body

theorem Bindings.Similar.agreeing (assembles : c.Assembles N) {b d : Bindings (Operand Attached)} :
    Bindings.Similar V (Attached.Congruent V N) b d →
      Bindings.Agreeing c (Bindings.rendered t b) (Bindings.rendered u d)
  | .none => .none
  | .positional values => .positional (Operand.agreeing_list assembles values)
  | .named pairs => .named (Operand.agreeing_pairs assembles pairs)

theorem Operand.agreeing_list (assembles : c.Assembles N) {xs ys : List (Operand Attached)} :
    Paired (Operand.Similar V (Attached.Congruent V N)) xs ys →
      Paired (Rendered.Agreeing c) (Operand.renderedList t xs) (Operand.renderedList u ys)
  | .nil => .nil
  | .cons first rest => .cons (first.agreeing assembles) (Operand.agreeing_list assembles rest)

theorem Operand.agreeing_pairs (assembles : c.Assembles N)
    {xs ys : List (String × Operand Attached)} :
    PairedEntries (Operand.Similar V (Attached.Congruent V N)) xs ys →
      PairedEntries (Rendered.Agreeing c) (Operand.renderedPairs t xs) (Operand.renderedPairs u ys)
  | .nil => .nil
  | .cons first rest => .cons (first.agreeing assembles) (Operand.agreeing_pairs assembles rest)

theorem Operand.agreeing_rows (assembles : c.Assembles N)
    {xs ys : List (List (String × Operand Attached))} :
    Paired (PairedEntries (Operand.Similar V (Attached.Congruent V N))) xs ys →
      Paired (PairedEntries (Rendered.Agreeing c)) (Operand.renderedRows t xs)
        (Operand.renderedRows u ys)
  | .nil => .nil
  | .cons first rest =>
    .cons (Operand.agreeing_pairs assembles first) (Operand.agreeing_rows assembles rest)

theorem Column.Similar.agree (assembles : c.Assembles N) (schema : Option String) :
    {x y : Column Attached} →
    Column.Similar V (Attached.Congruent V N) x y →
      Agree c (x.render t schema) (y.render u schema)
  | _, _, .name text => .text fun target => Identifier.renderTable target.grammar schema text
  | _, _, .numeral text => .word _
  | _, _, .aggregate a => a.agree_render
  | .query (.prepared s), .query (.prepared s'), .query (.prepared related) => by
    have agree := Rendering.agree_nested s.aliasName (related.agree assembles)
    have same : s.aliasName = s'.aliasName := assembles.aliasName related.settings
    rw [same] at agree
    simpa only [Column.render, Attached.render, Attached.statement, Attached.build,
      Logged.value_pure, same] using agree
  | _, _, .raw similar => similar.agree assembles

theorem Column.agree_list (assembles : c.Assembles N) (schema : Option String)
    {xs ys : List (Column Attached)} :
    Paired (Column.Similar V (Attached.Congruent V N)) xs ys →
      Paired (fun x y => Agree c (x.render t schema) (y.render u schema)) xs ys
  | .nil => .nil
  | .cons first rest =>
    .cons (first.agree assembles schema) (Column.agree_list assembles schema rest)

theorem Condition.Similar.agree (assembles : c.Assembles N) (negated : Bool)
    {x y : Condition Attached} :
    Condition.Similar V (Attached.Congruent V N) x y →
      Agree c (x.render t negated) (y.render u negated)
  | .compare operator column value null => by
    have same : ∀ x y : Operand Attached, x.isNull = y.isNull →
        (x.rendered t).isNull = (y.rendered u).isNull := by
      intro x y null
      rw [Operand.isNull_rendered, Operand.isNull_rendered, null]
    exact .cons (.word _) (.cons (column.agree assembles none) (.cons (.word _) (.cons (.word _)
      (.cons (.word _) (.cons ((value.agreeing assembles).compared (same _ _ null)) .nil)))))
  | .columns operator first second =>
    .cons (.word _) (.cons (first.agree assembles none) (.cons (.word _) (.cons (.word _)
      (.cons (.word _) (.cons (second.agree assembles none) .nil)))))
  | .among column items =>
    Rendering.agree_membership_items negated (column.agree assembles none) items
  | .isIn column values first second =>
    Rendering.agree_membership negated (column.agree assembles none) (values.agreeing assembles)
      (Operand.rendered_ne_array t first) (Operand.rendered_ne_array u second)
  | .null column => .cons (column.agree assembles none) (.cons (.word _) .nil)
  | .between column low high =>
    .cons (column.agree assembles none) (.cons (.word _) (.cons (low.agreeing assembles).inValue
      (.cons (.word _) (.cons (high.agreeing assembles).inValue .nil))))
  | .exists query => .cons (.word _) (.cons (query.agreeing assembles).enclosed .nil)
  | .group terms =>
    .cons (.word _) (.cons (.between (Rendering.agree_connected (Term.agree_list assembles terms)))
      .nil)
  | .raw similar => .cons (.word _) (.cons (similar.agree assembles) .nil)
  | .literal b => .cons (.word _) (.cons (.word _) .nil)

theorem Term.Similar.agree (assembles : c.Assembles N) {x y : Term Attached} :
    Term.Similar V (Attached.Congruent V N) x y →
      Agree c (x.condition.render t x.negated) (y.condition.render u y.negated)
  | .intro connector negated condition => condition.agree assembles negated

theorem Term.agree_list (assembles : c.Assembles N) {xs ys : List (Term Attached)} :
    Paired (Term.Similar V (Attached.Congruent V N)) xs ys →
      Paired (Rendering.AgreeTerms c) (Term.renderList t xs) (Term.renderList u ys)
  | .nil => .nil
  | .cons (.intro connector negated condition) rest =>
    .cons ⟨rfl, condition.agree assembles negated⟩ (Term.agree_list assembles rest)

theorem Join.Similar.agree (assembles : c.Assembles N) (schema : Option String)
    {x y : Join Attached} :
    Join.Similar V (Attached.Congruent V N) x y → Agree c (x.render t schema) (y.render u schema)
  | .clause kind shared fault table conditions => by
    cases fault with
    | some fault => exact .throw fault
    | none =>
      exact kind.agree_render shared (table.agree assembles schema)
        (Term.agree_list assembles conditions)
  | .raw similar => similar.agree assembles

theorem Join.agree_list (assembles : c.Assembles N) (schema : Option String)
    {xs ys : List (Join Attached)} :
    Paired (Join.Similar V (Attached.Congruent V N)) xs ys →
      Paired (Agree c) (Join.renderList t schema xs) (Join.renderList u schema ys)
  | .nil => .nil
  | .cons first rest =>
    .cons (.cons (.word _) (.cons (first.agree assembles schema) .nil))
      (Join.agree_list assembles schema rest)

theorem Order.Similar.agree (assembles : c.Assembles N) {x y : Order Attached} :
    Order.Similar V (Attached.Congruent V N) x y → Agree c (x.render t) (y.render u)
  | .column direction ordered =>
    .cons (ordered.agree assembles none) (.cons (.word _) (.cons (.word _) .nil))
  | .raw similar => similar.agree assembles

theorem Order.agree_list (assembles : c.Assembles N) {xs ys : List (Order Attached)} :
    Paired (Order.Similar V (Attached.Congruent V N)) xs ys →
      Paired (Agree c) (Order.renderList t xs) (Order.renderList u ys)
  | .nil => .nil
  | .cons first rest => .cons (first.agree assembles) (Order.agree_list assembles rest)

theorem UnionPart.agree_list (assembles : c.Assembles N) {xs ys : List (UnionPart Attached)} :
    Paired (UnionPart.Similar V (Attached.Congruent V N)) xs ys →
      Paired (Agree c) (UnionPart.renderList t xs) (UnionPart.renderList u ys)
  | .nil => .nil
  | .cons (.intro all wrap query) rest =>
    .cons ((query.agreeing assembles).union all wrap) (UnionPart.agree_list assembles rest)

theorem InsertPayload.agreeing_list (assembles : c.Assembles N)
    {xs ys : List (InsertPayload Attached)} :
    Paired (InsertPayload.Similar V (Attached.Congruent V N)) xs ys →
      Paired (fun x y => ∀ a ∈ InsertPayload.rendered t (some x),
        ∀ b ∈ InsertPayload.rendered u (some y), RenderedPayload.Agreeing c a b) xs ys
  | .nil => .nil
  | .cons (.rows table) rest => by
    refine .cons ?_ (InsertPayload.agreeing_list assembles rest)
    rintro _ ⟨⟩ _ ⟨⟩
    exact .rows (Operand.agreeing_rows assembles table)
  | .cons (.query source) rest => by
    refine .cons ?_ (InsertPayload.agreeing_list assembles rest)
    rintro _ ⟨⟩ _ ⟨⟩
    exact .query (source.agreeing assembles)

/-- Similar statements render to agreeing pieces. -/
theorem Statement.Similar.agree (assembles : c.Assembles N) : {s s' : Statement} →
    Statement.Similar V N s s' → Agree c (s.render t) (s'.render u)
  | ⟨settings, table, columns, joins, wheres, groups, havings, orders, unions, insert,
      assignments⟩, ⟨settings', table', columns', joins', wheres', groups', havings', orders',
      unions', insert', assignments'⟩,
    .intro related inTable inColumns inJoins inWheres inGroups inHavings inOrders inUnions inInsert
      inAssignments => by
    refine assembles.assemble (.intro related inTable inColumns inJoins inWheres inGroups inHavings
      inOrders inUnions inInsert inAssignments) ?_
    have schema : settings.schema = settings'.schema := assembles.schema related
    exact {
      source := schema ▸ Column.renderTable_agree
        (Column.agree_list assembles settings.schema inTable)
      columns := Column.renderList_agree (Column.agree_list assembles none inColumns)
      joins := schema ▸ .concat (Join.agree_list assembles _ inJoins)
      wheres := Rendering.agree_conditionClause " where " (Term.agree_list assembles inWheres)
      groups := .clause (Column.renderList_agree (Column.agree_list assembles none inGroups))
      havings := Rendering.agree_conditionClause " having " (Term.agree_list assembles inHavings)
      orders := .clause (Order.agree_list assembles inOrders)
      unions := .concat (UnionPart.agree_list assembles inUnions)
      insert := InsertPayload.rendered_agreeing (InsertPayload.agreeing_list assembles inInsert)
      assignments := Operand.agreeing_pairs assembles inAssignments }

end

end Trees

end PortableSql
