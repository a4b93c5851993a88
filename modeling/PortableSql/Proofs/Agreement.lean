import PortableSql.Proofs.Rendering
import PortableSql.Proofs.Similar

/-!
Two renderings that agree.

Renderings agree when they are stopped by the same fault or give related pieces. Which pieces are
related is left open: a `Congruence` says so for the renderings of two targets, and asks that it is
kept by putting pieces together and that texts without values never matter. So agreement carries
over to everything that is put together from parts, and to a template that is filled.
-/

namespace PortableSql

namespace Render

variable {α β : Type}

/-- Both renderings are stopped by the same fault, or both give results and these are related. -/
inductive Agree (R : α → α → Prop) (r q : Render α) : Prop where
  | stopped {fault : Fault} (first : r.outcome = .error fault) (second : q.outcome = .error fault) :
      Agree R r q
  | given {x y : α} (first : r.outcome = .ok x) (second : q.outcome = .ok y) (related : R x y) :
      Agree R r q

namespace Agree

variable {R : α → α → Prop} {Q : β → β → Prop}

theorem pure {x y : α} (related : R x y) : Agree R (Pure.pure x) (Pure.pure y) :=
  .given rfl rfl related

theorem throw (fault : Fault) :
    Agree R (MonadExcept.throw fault : Render α) (MonadExcept.throw fault) :=
  .stopped rfl rfl

theorem refl (r : Render α) : Agree Eq r r := by
  cases found : r.outcome with
  | error fault => exact .stopped found found
  | ok x => exact .given found found rfl

theorem bind {r q : Render α} {f g : α → Render β} (agree : Agree R r q)
    (next : ∀ x y, R x y → Agree Q (f x) (g y)) : Agree Q (r >>= f) (q >>= g) := by
  cases agree with
  | @stopped fault first second =>
    have left : (r >>= f).outcome = .error fault := by
      rw [outcome_bind, first]
      rfl
    have right : (q >>= g).outcome = .error fault := by
      rw [outcome_bind, second]
      rfl
    exact .stopped left right
  | @given x y first second related =>
    have left : (r >>= f).outcome = (f x).outcome := by
      rw [outcome_bind, first]
      rfl
    have right : (q >>= g).outcome = (g y).outcome := by
      rw [outcome_bind, second]
      rfl
    cases next x y related with
    | stopped first second => exact .stopped (left.trans first) (right.trans second)
    | given first second related => exact .given (left.trans first) (right.trans second) related

end Agree

end Render

/-- Which pieces of the renderings for two targets are related, if `V` says which values are. -/
structure Congruence (t u : Target) (V : Value → Value → Prop) where
  related : List Piece → List Piece → Prop
  append : ∀ {ws xs ys zs}, related ws xs → related ys zs → related (ws ++ ys) (xs ++ zs)
  /-- Texts without values are related if they come about the same way. -/
  texts : ∀ f : Target → List String, related ((f t).map .text) ((f u).map .text)
  slot : ∀ {v w}, V v w → related [.slot v] [.slot w]
  refl : ∀ v, V v v

namespace Rendering

variable {t u : Target} {V : Value → Value → Prop} (c : Congruence t u V)

/-- Renderings that agree on pieces that a congruence relates. -/
abbrev Agree (r q : Rendering) : Prop :=
  Render.Agree c.related r q

/-- Whether a rendering gives texts only. -/
def Textual (r : Rendering) : Prop :=
  ∃ texts : List String, r.outcome = .ok (texts.map .text)

variable {c}

namespace Agree

/-- Renderings without values agree if they come about the same way. -/
theorem textual (f : Target → Rendering) (each : ∀ target, (f target).Textual) :
    Agree c (f t) (f u) :=
  .given (each t).choose_spec (each u).choose_spec (c.texts fun target => (each target).choose)

theorem text (f : Target → String) : Agree c (.text (f t)) (.text (f u)) :=
  .pure (c.texts fun target => [f target])

theorem word (s : String) : Agree c (.text s) (.text s) :=
  text fun _ => s

theorem nothing : Agree c nothing nothing :=
  .pure (c.texts fun _ => [])

theorem slot {v w : Value} (related : V v w) : Agree c (slot v) (slot w) :=
  .pure (c.slot related)

theorem nil : Agree c (concat []) (concat []) :=
  nothing

theorem cons {r q : Rendering} {rs qs : List Rendering} (first : Agree c r q)
    (rest : Agree c (concat rs) (concat qs)) : Agree c (concat (r :: rs)) (concat (q :: qs)) :=
  first.bind fun _ _ front => rest.bind fun _ _ back => .pure (c.append front back)

theorem concat {rs qs : List Rendering} (each : Paired (Agree c) rs qs) :
    Agree c (concat rs) (concat qs) := by
  induction each with
  | nil => exact nil
  | cons first _ ih => exact cons first ih

theorem between {front back : String} {r q : Rendering} (agree : Agree c r q) :
    Agree c (between front back r) (between front back q) :=
  cons (word front) (cons agree (cons (word back) nil))

theorem guarded {condition : Bool} {r q : Rendering} (agree : Agree c r q) :
    Agree c (guarded condition r) (guarded condition q) := by
  cases condition with
  | true => exact agree
  | false => exact nothing

theorem separated {separator : String} {rs qs : List Rendering} (each : Paired (Agree c) rs qs) :
    Agree c (separated separator rs) (separated separator qs) := by
  cases each with
  | nil => exact nothing
  | cons first rest =>
    exact cons first (concat (rest.map fun _ _ agree => cons (word separator) (cons agree nil)))

theorem clause {lead : String} {rs qs : List Rendering} (each : Paired (Agree c) rs qs) :
    Agree c (clause lead rs) (clause lead qs) := by
  unfold Rendering.clause
  rw [each.isEmpty_eq]
  split
  · exact nothing
  · exact cons (word lead) (cons (separated each) nil)

end Agree

end Rendering

/-! ### Parts -/

variable {t u : Target} {V : Value → Value → Prop} {c : Congruence t u V}

open Rendering (Agree)

namespace Rendered

/-- Rendered operands that agree wherever they stand, except that a value in an identifier position
or under a comparison has to be looked at. -/
inductive Agreeing (c : Congruence t u V) : Rendered → Rendered → Prop where
  | value {v w : Value} (related : V v w) : Agreeing c (.value v) (.value w)
  | undefined : Agreeing c .undefined .undefined
  | query {r q : Rendering} (agree : Agree c r q) : Agreeing c (.query r) (.query q)
  | raw {r q : Rendering} (agree : Agree c r q) : Agreeing c (.raw r) (.raw q)

/-- Whether a rendered operand is a bound null. -/
def isNull : Rendered → Bool
  | .value v => v.isNull
  | _ => false

/-- The value of a rendered operand that is one. -/
def value? : Rendered → Option Value
  | .value v => some v
  | _ => none

variable {r q : Rendered}

theorem Agreeing.inValue (agreeing : Agreeing c r q) : Agree c r.inValue q.inValue := by
  cases agreeing with
  | value related => exact .slot related
  | undefined => exact .throw _
  | query agree => exact .between agree
  | raw agree => exact agree

theorem Agreeing.bare (agreeing : Agreeing c r q) : Agree c r.bare q.bare := by
  cases agreeing with
  | query agree => exact agree
  | value related => exact .slot related
  | undefined => exact .throw _
  | raw agree => exact agree

theorem Agreeing.enclosed (agreeing : Agreeing c r q) : Agree c r.enclosed q.enclosed := by
  cases agreeing with
  | raw agree => exact .between agree
  | value related => exact .slot related
  | undefined => exact .throw _
  | query agree => exact .between agree

theorem Agreeing.asIdentifier (agreeing : Agreeing c r q) (same : r.value? = q.value?) :
    Agree c (r.asIdentifier t.grammar) (q.asIdentifier u.grammar) := by
  cases agreeing with
  | @value v w related =>
    obtain rfl : v = w := by simpa [value?] using same
    refine Render.Agree.bind (.refl (ExceptT.mk (pure (names v)))) fun list _ equal => ?_
    subst equal
    exact .pure (c.texts fun target => [Identifier.renderList target.grammar "" list])
  | undefined => exact .throw _
  | query agree => exact agree
  | raw agree => exact agree

theorem compared_of_isNull {v : Value} (different : v.isNull = false) :
    (Rendered.value v).compared = .slot v := by
  cases v <;> first | rfl | cases different

/-- A compared value is a placeholder or the word for null. -/
theorem Agreeing.compared (agreeing : Agreeing c r q) (null : r.isNull = q.isNull) :
    Agree c r.compared q.compared := by
  cases agreeing with
  | @value v w related =>
    by_cases isNull : v.isNull = true
    · obtain rfl : v = .null := by cases v <;> first | rfl | cases isNull
      obtain rfl : w = .null := by cases w <;> first | rfl | cases null
      exact .word _
    · have other : w.isNull = false := by simpa [Rendered.isNull, isNull] using null.symm
      rw [compared_of_isNull (by simpa using isNull), compared_of_isNull other]
      exact .slot related
  | undefined => exact .throw _
  | query agree => exact .between agree
  | raw agree => exact agree

end Rendered

/-! ### Templates -/

namespace Template

theorem agree_fillPositional (template : String) (given : Nat) {tokens : List (Token Unit)}
    {xs ys : List Rendered} (values : Paired (Rendered.Agreeing c) xs ys)
    (same : atIdentifiers tokens (xs.map Rendered.value?) =
      atIdentifiers tokens (ys.map Rendered.value?)) :
    Agree c (fillPositional t.grammar template given tokens xs)
      (fillPositional u.grammar template given tokens ys) := by
  induction tokens generalizing xs ys with
  | nil =>
    cases values with
    | nil => exact .nothing
    | cons first rest =>
      simp only [fillPositional, List.length_cons, rest.length_eq]
      exact .throw _
  | cons token tokens ih =>
    cases token with
    | text chars => exact .cons (.word _) (.cons (ih values same) .nil)
    | value key =>
      cases values with
      | nil => exact .throw _
      | cons first rest => exact .cons first.bare (.cons (ih rest same) .nil)
    | identifier key =>
      cases values with
      | nil => exact .throw _
      | cons first rest =>
        simp only [List.map_cons, atIdentifiers, List.cons.injEq] at same
        exact .cons (first.asIdentifier same.1) (.cons (ih rest same.2) .nil)

theorem agree_lookup (template name : String) {xs ys : Keyed Rendered}
    (pairs : PairedEntries (Rendered.Agreeing c) xs ys) :
    Render.Agree (fun r q => Rendered.Agreeing c r q ∧ Keyed.get? name xs = some r ∧
      Keyed.get? name ys = some q) (lookup template name xs) (lookup template name ys) := by
  unfold lookup
  rcases pairs.get? name with ⟨first, second⟩ | ⟨r, q, first, second, related⟩
  · rw [first, second]
    exact .throw _
  · rw [first, second]
    exact .pure ⟨related, rfl, rfl⟩

theorem agree_fillNamed (template : String) {tokens : List (Token String)} {xs ys : Keyed Rendered}
    (pairs : PairedEntries (Rendered.Agreeing c) xs ys)
    (same : ∀ name ∈ identifierNames tokens,
      (Keyed.get? name xs).bind Rendered.value? = (Keyed.get? name ys).bind Rendered.value?) :
    Agree c (fillNamed t.grammar template xs tokens) (fillNamed u.grammar template ys tokens) := by
  induction tokens with
  | nil => exact .nothing
  | cons token tokens ih =>
    cases token with
    | text chars => exact .cons (.word _) (.cons (ih same) .nil)
    | value name =>
      refine .cons ?_ (.cons (ih same) .nil)
      exact (agree_lookup template name pairs).bind fun r q found => found.1.bare
    | identifier name =>
      refine .cons ?_ (.cons (ih fun other member => same other (by simp [identifierNames, member]))
        .nil)
      refine (agree_lookup template name pairs).bind fun r q found => found.1.asIdentifier ?_
      simpa [found.2] using same name (by simp [identifierNames])

end Template

/-- Rendered bindings that agree. -/
inductive Bindings.Agreeing (c : Congruence t u V) :
    Bindings Rendered → Bindings Rendered → Prop where
  | none : Bindings.Agreeing c .none .none
  | positional {xs ys : List Rendered} (values : Paired (Rendered.Agreeing c) xs ys) :
      Bindings.Agreeing c (.positional xs) (.positional ys)
  | named {xs ys : Keyed Rendered} (pairs : PairedEntries (Rendered.Agreeing c) xs ys) :
      Bindings.Agreeing c (.named xs) (.named ys)

theorem Operand.map_value?_renderedList (target : Target) (values : List (Operand Attached)) :
    (Operand.renderedList target values).map Rendered.value? = values.map Operand.value? := by
  rw [Operand.renderedList_eq_map, List.map_map]
  refine List.map_congr_left fun operand _ => ?_
  cases operand <;> rfl

theorem Operand.bind_value?_renderedPairs (target : Target) (name : String)
    (pairs : List (String × Operand Attached)) :
    (Keyed.get? name (Operand.renderedPairs target pairs)).bind Rendered.value? =
      (Keyed.get? name pairs).bind Operand.value? := by
  induction pairs with
  | nil => rfl
  | cons pair rest ih =>
    obtain ⟨key, operand⟩ := pair
    by_cases found : key = name
    · simp only [Operand.renderedPairs, Keyed.get?, found, if_true, Option.bind_some]
      cases operand <;> rfl
    · simpa [Operand.renderedPairs, Keyed.get?, found] using ih

theorem Operand.isNull_rendered (target : Target) (operand : Operand Attached) :
    (operand.rendered target).isNull = operand.isNull := by
  cases operand <;> rfl

theorem Operand.rendered_ne_array (target : Target) {operand : Operand Attached}
    (notList : operand.items? = none) (items : List Value) :
    operand.rendered target ≠ .value (.array items) := by
  intro equal
  cases operand with
  | value v =>
    cases equal
    cases notList
  | undefined | query | raw => cases equal

theorem Template.agree_fill (template : String) {b d : Bindings (Operand Attached)}
    (bindings : Bindings.Agreeing c (Bindings.rendered t b) (Bindings.rendered u d))
    (same : b.identifierValues template = d.identifierValues template) :
    Agree c (Template.fill t.grammar template (Bindings.rendered t b))
      (Template.fill u.grammar template (Bindings.rendered u d)) := by
  cases b with
  | none =>
    cases d <;> cases bindings
    exact .word template
  | positional xs =>
    cases d <;> cases bindings
    rename_i ys values
    simp only [fill, Bindings.rendered, values.length_eq]
    refine agree_fillPositional template _ values ?_
    simpa only [Bindings.identifierValues, Operand.map_value?_renderedList] using same
  | named xs =>
    cases d <;> cases bindings
    rename_i ys pairs
    refine agree_fillNamed template pairs fun name member => ?_
    rw [Operand.bind_value?_renderedPairs, Operand.bind_value?_renderedPairs]
    exact List.map_inj_left.mp same name member

/-! ### What parts are put together with -/

namespace Rendering

variable {rs qs : List (Connector × Rendering)}

/-- Rendered conditions that agree and have the same connectors. -/
def AgreeTerms (c : Congruence t u V) (x y : Connector × Rendering) : Prop :=
  x.1 = y.1 ∧ Agree c x.2 y.2

theorem agree_nested (aliasName : Option String) {r q : Rendering} (agree : Agree c r q) :
    Agree c (nested t.grammar aliasName r) (nested u.grammar aliasName q) := by
  refine .cons (.between agree) (.cons ?_ .nil)
  cases aliasName with
  | none => exact .nothing
  | some name => exact .text fun target => Identifier.renderAlias target.grammar name

theorem membership_of_ne_array (negated : Bool) (column : Rendering) {values : Rendered}
    (different : ∀ items, values ≠ .value (.array items)) :
    membership negated column values =
      .concat [column, .text (if negated then " not in " else " in "), values.enclosed] := by
  unfold membership
  split
  · exact absurd rfl (different [])
  · rename_i items _
    exact absurd rfl (different items)
  · rfl

theorem agree_membership (negated : Bool) {r q : Rendering} {x y : Rendered} (column : Agree c r q)
    (values : Rendered.Agreeing c x y) (first : ∀ items, x ≠ .value (.array items))
    (second : ∀ items, y ≠ .value (.array items)) :
    Agree c (membership negated r x) (membership negated q y) := by
  rw [membership_of_ne_array negated r first, membership_of_ne_array negated q second]
  exact .cons column (.cons (.word _) (.cons values.enclosed .nil))

theorem agree_membership_items (negated : Bool) {r q : Rendering} {xs ys : List Value}
    (column : Agree c r q) (items : Paired V xs ys) :
    Agree c (membership negated r (.value (.array xs)))
      (membership negated q (.value (.array ys))) := by
  cases items with
  | nil => exact .cons (.word _) (.cons (.slot (c.refl _)) .nil)
  | cons first rest =>
    have slots := (Paired.cons first rest).map fun _ _ related => Agree.slot (c := c) related
    exact .cons column (.cons (.word _) (.cons (.between (.separated slots)) .nil))

theorem agree_connected (terms : Paired (AgreeTerms c) rs qs) :
    Agree c (connected rs) (connected qs) := by
  cases terms with
  | nil => exact .nothing
  | cons first rest =>
    refine .cons first.2 (.concat (rest.map fun x y agree => ?_))
    obtain ⟨connector, r⟩ := x
    obtain ⟨other, q⟩ := y
    obtain ⟨rfl, agree⟩ := agree
    exact .cons (.word _) (.cons agree .nil)

theorem agree_conditionClause (lead : String) (terms : Paired (AgreeTerms c) rs qs) :
    Agree c (conditionClause lead rs) (conditionClause lead qs) := by
  unfold Rendering.conditionClause
  rw [terms.isEmpty_eq]
  exact .guarded (.cons (.word lead) (.cons (agree_connected terms) .nil))

end Rendering

theorem Aggregate.agree_render (a : Aggregate) :
    Agree c (a.render t.grammar) (a.render u.grammar) := by
  unfold Aggregate.render
  refine .cons (.word _) (.cons (.word _) (.cons (.guarded (.word _)) ?_))
  refine .cons (.text fun target => Identifier.renderPath target.grammar _) ?_
  refine .cons (.word _) (.cons ?_ .nil)
  split
  · exact .text fun target => Identifier.renderAlias target.grammar _
  · exact .nothing

theorem JoinKind.agree_render (kind : JoinKind) (shared : List String) {r q : Rendering}
    {rs qs : List (Connector × Rendering)} (table : Agree c r q)
    (terms : Paired (Rendering.AgreeTerms c) rs qs) :
    Agree c (kind.render t.grammar r shared rs) (kind.render u.grammar q shared qs) := by
  refine .cons (.word _) (.cons (.word _) (.cons table (.cons ?_ .nil)))
  split
  · exact Rendering.agree_conditionClause " on " terms
  · exact .cons (.word _)
      (.cons (.text fun target => Identifier.renderList target.grammar "" shared)
        (.cons (.word _) .nil))

theorem Rendered.Agreeing.union (all wrap : Bool) {r q : Rendered} (query : Agreeing c r q) :
    Agree c (r.union all wrap) (q.union all wrap) :=
  .cons (.word _) (.cons (.guarded (.word _)) (.cons query.bare (.cons (.guarded (.word _)) .nil)))

end PortableSql
