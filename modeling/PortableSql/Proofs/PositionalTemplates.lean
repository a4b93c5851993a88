import PortableSql.Proofs.BoundValues
import PortableSql.Proofs.TemplateReading

/-!
Templates with bindings by position.

A fragment is accepted exactly if its bindings fit the placeholders of its template: there is one
for each, and each is accepted where it stands. Then the fragment binds what its bindings bind, in
the order of the placeholders (`Fragment.bound_positional_iff`). Statements and fragments in the
place of a binding fit where they are not stopped themselves, so what holds at the top holds at
every depth.
-/

namespace PortableSql

/-! ### Bindings in the place of identifiers -/

/-- A text, or an array of texts. -/
def Value.IsNames : Value → Prop
  | .text _ => True
  | .array items => ∀ item ∈ items, ∃ name, item = .text name
  | _ => False

namespace Rendered

/-- A text and an array of texts can be read as names, and nothing else can. -/
theorem exists_names_iff (v : Value) : (∃ list, names v = .ok list) ↔ v.IsNames := by
  cases v with
  | text name => exact iff_of_true ⟨[name], rfl⟩ trivial
  | array items =>
    change _ ↔ ∀ item ∈ items, ∃ name, item = .text name
    simp only [names]
    induction items with
    | nil => exact iff_of_true ⟨[], rfl⟩ nofun
    | cons item rest ih =>
      rw [List.forall_mem_cons, ← ih]
      constructor
      · rintro ⟨list, given⟩
        obtain ⟨first, others, own, behind, -⟩ := mapM_cons_ok.mp given
        refine ⟨?_, others, behind⟩
        cases item with
        | text name => exact ⟨name, rfl⟩
        | _ => cases own
      · rintro ⟨⟨name, rfl⟩, others, behind⟩
        exact ⟨name :: others, mapM_cons_ok.mpr ⟨name, others, rfl, behind, rfl⟩⟩
  | _ => exact iff_of_false nofun id

/-- A value in the place of an identifier binds nothing, and is refused if it is no names. -/
theorem bound_asIdentifier_value (grammar : Grammar) (v : Value) :
    ((Rendered.value v).asIdentifier grammar).bound = (names v).map fun _ => [] := by
  unfold asIdentifier
  rw [Rendering.bound, Render.outcome_bind]
  change Except.map _ (Except.bind (names v) _) = _
  cases names v <;> rfl

end Rendered

/-! ### Placeholders -/

namespace Template

namespace Placeholder

/-- A binding in the place of a placeholder. -/
def rendering (grammar : Grammar) : Placeholder → Rendered → Rendering
  | value, binding => binding.bare
  | identifier, binding => binding.asIdentifier grammar

/-- An operand is accepted in the place of a placeholder. -/
def Accepts (target : Target) : Placeholder → Operand Attached → Prop
  | value, .value _ => True
  | identifier, .value v => v.IsNames
  | _, .undefined => False
  | _, .query statement => (statement.render target).Renders
  | _, .raw fragment => (Fragment.rendered target fragment).Renders

/-- The values that an operand binds in the place of a placeholder. -/
def binds (target : Target) : Placeholder → Operand Attached → List Value
  | value, .value v => [v]
  | identifier, .value _ => []
  | _, .undefined => []
  | _, .query statement => (statement.render target).values
  | _, .raw fragment => (Fragment.rendered target fragment).values

/-- An operand goes through exactly if it is accepted. -/
theorem bound_rendering_iff (target : Target) (placeholder : Placeholder)
    (operand : Operand Attached) (values : List Value) :
    (placeholder.rendering target.grammar (operand.rendered target)).bound = .ok values ↔
      placeholder.Accepts target operand ∧ values = placeholder.binds target operand := by
  cases operand with
  | value v =>
    cases placeholder with
    | value =>
      change Except.ok [v] = .ok values ↔ True ∧ values = [v]
      rw [Except.ok.injEq, true_and, eq_comm]
    | identifier =>
      change ((Rendered.value v).asIdentifier target.grammar).bound = .ok values ↔
        v.IsNames ∧ values = []
      rw [Rendered.bound_asIdentifier_value, map_ok, ← Rendered.exists_names_iff]
      constructor
      · rintro ⟨list, given, rfl⟩
        exact ⟨⟨list, given⟩, rfl⟩
      · rintro ⟨⟨list, given⟩, rfl⟩
        exact ⟨list, given, rfl⟩
  | undefined => cases placeholder <;> exact iff_of_false nofun And.left
  | query statement => cases placeholder <;> exact Rendering.bound_ok_iff
  | raw fragment => cases placeholder <;> exact Rendering.bound_ok_iff

end Placeholder

/-! ### Filled templates -/

/-- The bindings of a template fit its placeholders: there is one for each, and each is accepted. -/
def Fits (target : Target) (placeholders : List Placeholder)
    (operands : List (Operand Attached)) : Prop :=
  placeholders.length = operands.length ∧
    ∀ pair ∈ placeholders.zip operands, pair.1.Accepts target pair.2

/-- The values that bindings bind, in the order of the placeholders. -/
def binds (target : Target) (placeholders : List Placeholder)
    (operands : List (Operand Attached)) : List Value :=
  (placeholders.zip operands).flatMap fun pair => pair.1.binds target pair.2

variable (target : Target)

@[simp] theorem fits_cons_iff {placeholder : Placeholder} {operand : Operand Attached}
    {placeholders : List Placeholder} {operands : List (Operand Attached)} :
    Fits target (placeholder :: placeholders) (operand :: operands) ↔
      placeholder.Accepts target operand ∧ Fits target placeholders operands := by
  unfold Fits
  rw [List.length_cons, List.length_cons, Nat.succ_inj, List.zip_cons_cons, List.forall_mem_cons]
  exact and_left_comm

/-- A binding in front of others that are filled as they fit. -/
theorem bound_placeholder_iff (placeholder : Placeholder) (operand : Operand Attached)
    (placeholders : List Placeholder) (operands : List (Operand Attached)) {rest : Rendering}
    (behind : ∀ values, rest.bound = .ok values ↔
      Fits target placeholders operands ∧ values = binds target placeholders operands)
    (values : List Value) :
    (Rendering.concat
        [placeholder.rendering target.grammar (operand.rendered target), rest]).bound = .ok values ↔
      Fits target (placeholder :: placeholders) (operand :: operands) ∧
        values = binds target (placeholder :: placeholders) (operand :: operands) := by
  rw [Rendering.bound_concat_cons, Rendering.bound_concat_singleton, bind_ok, fits_cons_iff]
  simp only [map_ok, Placeholder.bound_rendering_iff, behind]
  constructor
  · rintro ⟨own, ⟨accepts, rfl⟩, others, ⟨fits, rfl⟩, rfl⟩
    exact ⟨⟨accepts, fits⟩, rfl⟩
  · rintro ⟨⟨accepts, fits⟩, rfl⟩
    exact ⟨_, ⟨accepts, rfl⟩, _, ⟨fits, rfl⟩, rfl⟩

/-- Tokens are filled exactly if the bindings fit the placeholders among them. -/
theorem bound_fillPositional_iff (template : String) (given : Nat) (tokens : List (Token Unit))
    (operands : List (Operand Attached)) (values : List Value) :
    (fillPositional target.grammar template given tokens
        (Operand.renderedList target operands)).bound = .ok values ↔
      Fits target (tokens.filterMap Token.placeholder?) operands ∧
        values = binds target (tokens.filterMap Token.placeholder?) operands := by
  induction tokens generalizing operands values with
  | nil =>
    cases operands with
    | nil =>
      change Except.ok [] = .ok values ↔ _ ∧ values = []
      rw [Except.ok.injEq, and_iff_right ⟨rfl, nofun⟩, eq_comm]
    | cons operand operands => exact iff_of_false nofun fun fit => absurd fit.1.1 nofun
  | cons token tokens ih =>
    cases token with
    | text chars =>
      change (Rendering.concat [.text _, _]).bound = _ ↔ _
      rw [Rendering.bound_concat_text, Rendering.bound_concat_singleton]
      exact ih operands values
    | value =>
      cases operands with
      | nil => exact iff_of_false nofun fun fit => absurd fit.1.1 nofun
      | cons operand operands =>
        exact bound_placeholder_iff target .value _ _ _ (ih operands) values
    | identifier =>
      cases operands with
      | nil => exact iff_of_false nofun fun fit => absurd fit.1.1 nofun
      | cons operand operands =>
        exact bound_placeholder_iff target .identifier _ _ _ (ih operands) values

end Template

/-- A fragment binds what its body binds. -/
theorem Fragment.bound_render (grammar : Grammar) (fragment : Fragment Rendered) :
    (fragment.render grammar).bound =
      (Template.fill grammar fragment.template fragment.bindings).bound := by
  unfold Fragment.render
  split
  · exact Rendering.bound_between _ _ _
  · rfl

open Template in
/-- A template with bindings by position has one reading. It is filled exactly if its bindings fit
the placeholders of the reading, and then it binds what they bind, in their order. -/
theorem Fragment.bound_positional_iff (target : Target) (template : String)
    (operands : List (Operand Attached)) (around : Option (String × String)) :
    ∃ parts, (∀ others, Reading PositionalPart.lexicon template.toList others ↔ others = parts) ∧
      let placeholders := parts.filterMap PositionalPart.placeholder?
      ∀ values, (Fragment.rendered target ⟨template, .positional operands, around⟩).bound =
          .ok values ↔
        (placeholders.length = operands.length ∧
            ∀ pair ∈ placeholders.zip operands, pair.1.Accepts target pair.2) ∧
          values = (placeholders.zip operands).flatMap fun pair => pair.1.binds target pair.2 := by
  obtain ⟨parts, unique⟩ := PositionalPart.exact_lexicon.exists_unique template.toList
  refine ⟨parts, unique, fun values => ?_⟩
  rw [Fragment.rendered, Fragment.bound_render,
    ← PositionalPart.placeholders_positional ((unique parts).mpr rfl)]
  exact bound_fillPositional_iff target template _ _ operands values

/-- An escape in front of a value, and three question marks for an identifier and a fragment. -/
example : (Fragment.rendered {} ⟨"\\?? = ???", .positional [.value (.int 1), .value (.text "a"),
    .raw ⟨"f(?)", .positional [.value (.int 2)], none⟩], none⟩).bound =
      .ok [.int 1, .int 2] := by
  rfl

end PortableSql
