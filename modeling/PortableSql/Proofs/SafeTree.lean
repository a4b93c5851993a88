import PortableSql.Proofs.SafeStatement
import PortableSql.Proofs.Tree

/-!
Trees keep the promise of their parts.

A part keeps a promise where the operands in it are admitted: nested statements keep the promise and
fragments are guarded or lone if the promise is about hidden values. So a statement does by
induction on its nesting, and what is asked of it is about the faults that are recorded in it and
the fragments that are written in it, not about its rendering.
-/

namespace PortableSql

variable {p : Promise} {before after : Bool}

open Rendering (Safe)

/-! ### Renderings that parts are put together with -/

theorem Aggregate.safe_render (grammar : Grammar) (a : Aggregate) :
    Safe p before true (a.render grammar) := by
  unfold Aggregate.render
  dsimp only
  refine .leads (.text _) (.clear (by decide) ?_)
  refine .settles (.guarded (.clean_of_true (by decide))) ?_
  refine .leads (.text _) (.leads (.text _) (.last ?_))
  split
  · exact .text _
  · exact .nothing

namespace Rendering

variable {conditions : List (Connector × Rendering)}

theorem safe_nested (grammar : Grammar) (aliasName : Option String) {body : Rendering}
    (safe : Safe p false true body) : Safe p before true (nested grammar aliasName body) := by
  refine .leads (.between (by decide) safe) (.last ?_)
  split
  · exact .text _
  · exact .nothing

theorem safe_negation (negated : Bool) : Safe p false false (negation negated) := by
  cases negated with
  | false => exact .clean fun _ => by decide
  | true => exact .clean fun _ => by decide

theorem safe_membership (negated : Bool) {column : Rendering} {values : Rendered}
    (safe : Safe p false true column) (keeps : values.Keeps p) :
    Safe p false true (membership negated column values) := by
  have word : Sql.endsBehind true (if negated then " not in " else " in ").toList = false := by
    cases negated <;> decide
  unfold membership
  split
  · exact .clear (by decide) (.last (.slot _))
  · rename_i items _
    refine .leads safe (.clear word (.last (.between (by decide) (.commaSeparated ?_))))
    intro r member
    obtain ⟨value, _, rfl⟩ := List.mem_map.mp member
    exact .slot value
  · exact .leads safe (.clear word (.last (Rendered.safe_enclosed keeps)))

theorem safe_connected (each : ∀ condition ∈ conditions, Safe p false true condition.2) :
    Safe p false true (connected conditions) := by
  cases conditions with
  | nil => exact .anywhere .nothing
  | cons first rest =>
    refine .leads (each first (by simp)) (.concatAll fun r member => ?_)
    obtain ⟨⟨connector, condition⟩, inRest, rfl⟩ := List.mem_map.mp member
    have safe := each _ (List.mem_cons_of_mem _ inRest)
    cases connector with
    | and => exact .clear (by decide) (.last safe)
    | or => exact .clear (by decide) (.last safe)

theorem safe_conditionClause {lead : String} (clean : Sql.endsBehind true lead.toList = false)
    (each : ∀ condition ∈ conditions, Safe p false true condition.2) :
    Safe p true true (conditionClause lead conditions) :=
  .guarded (.clear clean (.last (safe_connected each)))

end Rendering

theorem JoinKind.safe_render (kind : JoinKind) (grammar : Grammar) (shared : List String)
    {table : Rendering} {conditions : List (Connector × Rendering)} (safe : Safe p false true table)
    (each : ∀ condition ∈ conditions, Safe p false true condition.2) :
    Safe p before true (kind.render grammar table shared conditions) := by
  refine .leads (.text _) (.clear (by decide) (.leads safe (.last ?_)))
  split
  · exact Rendering.safe_conditionClause (by decide) each
  · exact .leads (.text _) (.leads (.text _) (.last (.text _)))

theorem Rendered.safe_union (all wrap : Bool) {query : Rendered} (keeps : query.Keeps p) :
    Safe p true true (query.union all wrap) := by
  have word : Sql.endsBehind true (if all then " union all " else " union ").toList = false := by
    cases all <;> decide
  refine .clear word (.settles (.guarded (.clean fun _ => by decide)) ?_)
  exact .leads (Rendered.safe_bare keeps) (.last (.guarded (.text _)))

/-! ### Parts of trees -/

section Parts

variable {target : Target}

/-- A nested statement keeps a promise if the statement does that the attachment stands for. -/
theorem Attached.safe_render {a : Attached}
    (safe : Safe p before after ((a.statement target).render target)) :
    Safe p before after (a.render target) := by
  rwa [Safe, Render.Ensures, a.outcome_render]

/-- An operand that parts may hold: a statement that keeps the promise, or a fragment that is
guarded or lone if the promise is about hidden values. -/
def Operand.Admitted (p : Promise) (target : Target) : Operand Attached → Prop
  | .value _ | .undefined => True
  | .query a => Safe p false true (a.render target)
  | .raw fragment => p.guarded → fragment.guarded = true ∨ fragment.Lone

/-- What is rendered from the items of a list is safe if it is for each item with admitted
operands. -/
theorem each_rendered {α β : Type} {items : List α} {operands : α → List (Operand Attached)}
    {f : α → β} {P : β → Prop}
    (admitted : ∀ part ∈ items.flatMap operands, part.Admitted p target)
    (step : ∀ item, (∀ part ∈ operands item, part.Admitted p target) → P (f item)) :
    ∀ rendered ∈ items.map f, P rendered := by
  intro rendered member
  obtain ⟨item, inItems, rfl⟩ := List.mem_map.mp member
  refine step item fun part inside => admitted part ?_
  exact List.mem_flatMap.mpr ⟨item, inItems, inside⟩

/-- Values are rendered as values, so none of them ends with a backslash. -/
theorem Bindings.ends_rendered {bindings : Bindings (Operand Attached)}
    (values : ∀ operand ∈ Bindings.operands bindings, ∃ v, operand = .value v) :
    (Bindings.rendered target bindings).Ends p false := by
  have each {operand : Operand Attached} (value : ∃ v, operand = .value v) :
      (operand.rendered target).Ends p false := by
    obtain ⟨v, rfl⟩ := value
    trivial
  cases bindings with
  | none => trivial
  | positional items =>
    rw [Bindings.operands, Operand.operandsList_eq_flatMap] at values
    rw [Bindings.rendered, Operand.renderedList_eq_map]
    intro rendered member
    obtain ⟨operand, inItems, rfl⟩ := List.mem_map.mp member
    exact each (values operand (List.mem_flatMap.mpr ⟨operand, inItems, operand.mem_operands⟩))
  | named pairs =>
    rw [Bindings.operands, Operand.operandsPairs_eq_flatMap] at values
    rw [Bindings.rendered, Operand.renderedPairs_eq_map]
    intro rendered member
    obtain ⟨pair, inPairs, rfl⟩ := List.mem_map.mp member
    exact each (values pair.2 (List.mem_flatMap.mpr ⟨pair, inPairs, pair.2.mem_operands⟩))

mutual

theorem Operand.keeps_rendered : (operand : Operand Attached) →
    (∀ part ∈ operand.operands, part.Admitted p target) → (operand.rendered target).Keeps p
  | .value _, _ => trivial
  | .undefined, _ => trivial
  | .query a, admitted => admitted (.query a) (by simp [Operand.operands])
  | .raw fragment, admitted => by
    refine Fragment.safe_rendered fragment ?_ fun part member => ?_
    · exact admitted (.raw fragment) (by simp [Operand.operands])
    · exact admitted part (List.mem_cons_of_mem _ member)

theorem Fragment.safe_rendered : (fragment : Fragment (Operand Attached)) →
    (p.guarded → fragment.guarded = true ∨ fragment.Lone) →
    (∀ part ∈ Fragment.operands fragment, part.Admitted p target) →
    Safe p false true (Fragment.rendered target fragment)
  | ⟨template, bindings, around⟩, guarded, admitted => by
    refine Fragment.safe_render target.dialect.closeQuote_ne
      (Bindings.keeps_rendered bindings admitted) fun holds => ?_
    rcases guarded holds with parts | lone
    · left
      rw [← parts]
      cases bindings <;> rfl
    · exact .inr ⟨lone.alone, Bindings.ends_rendered lone.values⟩

theorem Bindings.keeps_rendered : (bindings : Bindings (Operand Attached)) →
    (∀ part ∈ Bindings.operands bindings, part.Admitted p target) →
    (Bindings.rendered target bindings).Ends p true
  | .none, _ => trivial
  | .positional values, admitted => Operand.keeps_renderedList values admitted
  | .named pairs, admitted => Operand.keeps_renderedPairs pairs admitted

theorem Operand.keeps_renderedList : (values : List (Operand Attached)) →
    (∀ part ∈ Operand.operandsList values, part.Admitted p target) →
    ∀ rendered ∈ Operand.renderedList target values, rendered.Keeps p
  | [], _ => nofun
  | operand :: rest, admitted => by
    intro rendered member
    rcases List.mem_cons.mp member with rfl | member
    · exact Operand.keeps_rendered operand fun part inside =>
        admitted part (List.mem_append_left _ inside)
    · exact Operand.keeps_renderedList rest
        (fun part inside => admitted part (List.mem_append_right _ inside)) rendered member

theorem Operand.keeps_renderedPairs : (pairs : List (String × Operand Attached)) →
    (∀ part ∈ Operand.operandsPairs pairs, part.Admitted p target) →
    ∀ pair ∈ Operand.renderedPairs target pairs, pair.2.Keeps p
  | [], _ => nofun
  | (name, operand) :: rest, admitted => by
    intro pair member
    rcases List.mem_cons.mp member with rfl | member
    · exact Operand.keeps_rendered operand fun part inside =>
        admitted part (List.mem_append_left _ inside)
    · exact Operand.keeps_renderedPairs rest
        (fun part inside => admitted part (List.mem_append_right _ inside)) pair member

end

theorem Column.safe_render (schema : Option String) (column : Column Attached)
    (admitted : ∀ part ∈ column.operands, part.Admitted p target) :
    Safe p false true (column.render target schema) := by
  cases column with
  | name text => exact .text _
  | numeral text => exact .text _
  | aggregate a => exact a.safe_render _
  | query a => exact Rendering.safe_nested _ _ (admitted (.query a) (by simp [Column.operands]))
  | raw fragment => exact Operand.keeps_rendered (.raw fragment) admitted

mutual

theorem Condition.safe_render (negated : Bool) : (condition : Condition Attached) →
    (∀ part ∈ condition.operands, part.Admitted p target) →
    Safe p false true (condition.render target negated)
  | .compare column operator value, admitted => by
    have first := column.safe_render none fun part inside =>
      admitted part (List.mem_append_left _ inside)
    have second := value.keeps_rendered fun part inside =>
      admitted part (List.mem_append_right _ inside)
    refine .settles (Rendering.safe_negation negated) (.leads first (.leads (.text _) ?_))
    exact .leads (.text _) (.clear (by decide) (.last (Rendered.safe_compared second)))
  | .columns first operator second, admitted => by
    have left := first.safe_render none fun part inside =>
      admitted part (List.mem_append_left _ inside)
    have right := second.safe_render none fun part inside =>
      admitted part (List.mem_append_right _ inside)
    refine .settles (Rendering.safe_negation negated) (.leads left (.leads (.text _) ?_))
    exact .leads (.text _) (.clear (by decide) (.last right))
  | .isIn column values, admitted =>
    Rendering.safe_membership negated
      (column.safe_render none fun part inside => admitted part (List.mem_append_left _ inside))
      (values.keeps_rendered fun part inside => admitted part (List.mem_append_right _ inside))
  | .null column, admitted => .leads (column.safe_render none admitted) (.last (.text _))
  | .between column low high, admitted => by
    have bounds : ∀ part ∈ low.operands ++ high.operands, part.Admitted p target := by
      intro part inside
      refine admitted part ?_
      simp only [Condition.operands, List.append_assoc]
      exact List.mem_append_right _ inside
    have first := column.safe_render none fun part inside =>
      admitted part (List.mem_append_left _ (List.mem_append_left _ inside))
    have second := low.keeps_rendered fun part inside =>
      bounds part (List.mem_append_left _ inside)
    have third := high.keeps_rendered fun part inside =>
      bounds part (List.mem_append_right _ inside)
    have word : Sql.endsBehind true
        (if negated then " not between " else " between ").toList = false := by
      cases negated <;> decide
    refine .leads first (.clear word (.leads (Rendered.safe_inValue second) ?_))
    exact .clear (by decide) (.last (Rendered.safe_inValue third))
  | .exists query, admitted => by
    have word : Sql.endsBehind true (if negated then "not exists " else "exists ").toList =
        false := by
      cases negated <;> decide
    exact .clear word (.last (Rendered.safe_enclosed (query.keeps_rendered admitted)))
  | .group terms, admitted =>
    .settles (Rendering.safe_negation negated) (.last (.between (by decide)
      (Rendering.safe_connected (Term.safe_renderList terms admitted))))
  | .raw fragment, admitted =>
    .settles (Rendering.safe_negation negated) (.last
      (Operand.keeps_rendered (.raw fragment) admitted))
  | .literal value, _ => .settles (Rendering.safe_negation negated) (.last (.text _))

theorem Term.safe_renderList : (terms : List (Term Attached)) →
    (∀ part ∈ Term.operandsList terms, part.Admitted p target) →
    ∀ condition ∈ Term.renderList target terms, Safe p false true condition.2
  | [], _ => nofun
  | ⟨connector, negated, condition⟩ :: rest, admitted => by
    intro rendered member
    rcases List.mem_cons.mp member with rfl | member
    · exact Condition.safe_render negated condition fun part inside =>
        admitted part (List.mem_append_left _ inside)
    · exact Term.safe_renderList rest
        (fun part inside => admitted part (List.mem_append_right _ inside)) rendered member

end

theorem Join.safe_render (schema : Option String) (join : Join Attached)
    (expected : ∀ fault ∈ join.fault?, p.faults fault)
    (admitted : ∀ part ∈ join.operands, part.Admitted p target) :
    Safe p false true (join.render target schema) := by
  cases join with
  | clause joined =>
    obtain ⟨kind, table, conditions, shared, fault⟩ := joined
    cases fault with
    | some fault => exact .throw (expected fault rfl)
    | none =>
      exact kind.safe_render _ shared
        (table.safe_render schema fun part inside => admitted part (List.mem_append_left _ inside))
        (Term.safe_renderList conditions fun part inside =>
          admitted part (List.mem_append_right _ inside))
  | raw fragment => exact Operand.keeps_rendered (.raw fragment) admitted

theorem Order.safe_render (order : Order Attached)
    (admitted : ∀ part ∈ order.operands, part.Admitted p target) :
    Safe p false true (order.render target) := by
  cases order with
  | column ordered direction =>
    exact .leads (ordered.safe_render none admitted) (.leads (.text _) (.last (.text _)))
  | raw fragment => exact Operand.keeps_rendered (.raw fragment) admitted

theorem InsertPayload.keeps_rendered (insert : Option (InsertPayload Attached))
    (admitted : ∀ part ∈ insert.toList.flatMap InsertPayload.operands, part.Admitted p target) :
    ∀ payload ∈ InsertPayload.rendered target insert, payload.Keeps p := by
  intro payload found
  rcases insert with _ | source | source
  · cases found
  · cases found
    simp only [Option.toList_some, List.flatMap_singleton, InsertPayload.operands] at admitted
    simp only [RenderedPayload.Keeps, Operand.renderedRows_eq_map]
    exact each_rendered admitted Operand.keeps_renderedPairs
  · cases found
    exact source.keeps_rendered (by simpa [InsertPayload.operands] using admitted)

/-! ### Statements -/

/-- A statement keeps a promise where its operands are admitted and its faults are expected. -/
theorem Statement.safe_render_of_operands (s : Statement)
    (expected : ∀ fault ∈ s.faults, p.faults fault)
    (admitted : ∀ part ∈ s.operands, part.Admitted p target) :
    Safe p false true (s.render target) := by
  obtain ⟨settings, table, columns, joins, wheres, groups, havings, orders, unions, insert,
    assignments⟩ := s
  simp only [operands, List.forall_mem_append] at admitted
  obtain ⟨⟨⟨⟨⟨⟨⟨⟨⟨inTable, inColumns⟩, inJoins⟩, inWheres⟩, inGroups⟩, inHavings⟩, inOrders⟩,
    inUnions⟩, inInsert⟩, inAssignments⟩ := admitted
  have source : Safe p false true (Column.renderTable target settings.schema table) := by
    cases table with
    | none => exact .refuse rfl
    | some table => exact table.safe_render _ (by simpa using inTable)
  have columnsSafe {columns : List (Column Attached)}
      (admitted : ∀ part ∈ columns.flatMap Column.operands, part.Admitted p target) :
      ∀ column ∈ Column.renderList target columns, Safe p false true column := by
    rw [Column.renderList_eq_map]
    exact each_rendered admitted (Column.safe_render none)
  have joinsSafe : ∀ join ∈ Join.renderList target settings.schema joins,
      Safe p true true join := by
    rw [Join.renderList_eq_map]
    intro rendered member
    obtain ⟨join, inJoined, rfl⟩ := List.mem_map.mp member
    have joined : ∀ fault ∈ join.fault?, p.faults fault := fun fault own =>
      expected fault (List.mem_append_right _ (List.mem_filterMap.mpr ⟨join, inJoined, own⟩))
    refine .clear (by decide) (.last (join.safe_render _ joined fun part inside => ?_))
    exact inJoins part (List.mem_flatMap.mpr ⟨join, inJoined, inside⟩)
  have ordersSafe : ∀ order ∈ Order.renderList target orders, Safe p false true order := by
    rw [Order.renderList_eq_map]
    exact each_rendered inOrders Order.safe_render
  have unionsSafe : ∀ union ∈ UnionPart.renderList target unions, Safe p true true union := by
    rw [UnionPart.renderList_eq_map]
    exact each_rendered inUnions fun union inside =>
      Rendered.safe_union _ _ (union.query.keeps_rendered inside)
  refine Statement.safe_assemble target _ ?_ fun fault own =>
    expected fault (List.mem_append_left _ (Option.mem_toList.mpr own))
  exact {
    source := source
    columns := columnsSafe inColumns
    joins := .concatAll joinsSafe
    wheres := Rendering.safe_conditionClause (by decide) (Term.safe_renderList wheres inWheres)
    groups := .clause (by decide) (columnsSafe inGroups)
    havings := Rendering.safe_conditionClause (by decide) (Term.safe_renderList havings inHavings)
    orders := .clause (by decide) ordersSafe
    unions := .concatAll unionsSafe
    insert := InsertPayload.keeps_rendered insert inInsert
    assignments := Operand.keeps_renderedPairs assignments inAssignments }

end Parts

/-- A statement keeps a promise that expects the faults recorded in it and in what is nested in it,
if all fragments in it are guarded or lone, or the promise is not about hidden values. -/
theorem Statement.safe_render (target : Target) {s : Statement}
    (expected : s.All fun t => ∀ fault ∈ t.faults, p.faults fault)
    (guarded : p.guarded → s.All fun t => ∀ fragment, .raw fragment ∈ t.operands →
      fragment.guarded = true ∨ fragment.Lone) :
    Safe p false true (s.render target) := by
  induction expected with
  | intro here _ ih =>
    refine safe_render_of_operands _ here fun part member => ?_
    cases part with
    | value => trivial
    | undefined => trivial
    | query a =>
      exact a.safe_render (ih a member target fun holds => (guarded holds).nested member target)
    | raw fragment => exact fun holds => (guarded holds).here fragment member

end PortableSql
