import PortableSql.Proofs.Shape
import PortableSql.Proofs.Similar

/-!
Builders of similar statements.

Calls take arguments whose values may differ within `V`, and put values into a statement that may
differ within `W`. `W` is the wider of the two, because the items of a list become values of their
own. Every operation on similar builders with similar arguments gives similar builders with the same
fault, since what it decides depends only on whether a value is null and how long a list is.
-/

namespace PortableSql

/-- Values that differ within `V` are null together and are lists of one length together, whose
items differ within `W`. -/
structure Value.Widens (V W : Value → Value → Prop) : Prop where
  refl : ∀ v, V v v
  wider : ∀ {v w}, V v w → W v w
  null : ∀ {v w}, V v w → v.isNull = w.isNull
  items : ∀ {xs w}, V (.array xs) w → ∃ ys, w = .array ys ∧ Paired W xs ys
  itemsBack : ∀ {v ys}, V v (.array ys) → ∃ xs, v = .array xs

/-! ### Results of resolving -/

/-- Results that are related and record the same fault. -/
structure Build.Alike {α : Type} (R : α → α → Prop) (r q : Build α) : Prop where
  value : R r.value q.value
  fault : r.fault = q.fault

namespace Build.Alike

variable {α β : Type} {R : α → α → Prop} {Q : β → β → Prop}

theorem pure {x y : α} (related : R x y) : Build.Alike R (Pure.pure x) (Pure.pure y) :=
  ⟨related, rfl⟩

theorem bind {r q : Build α} {f g : α → Build β} (alike : Build.Alike R r q)
    (next : R r.value q.value → Build.Alike Q (f r.value) (g q.value)) :
    Build.Alike Q (r >>= f) (q >>= g) := by
  have rest := next alike.value
  refine ⟨rest.value, ?_⟩
  rw [Build.fault_bind, Build.fault_bind, alike.fault, rest.fault]

end Build.Alike

/-! ### Wider values -/

section Wider

variable {σ : Type} {V W : Value → Value → Prop} {S : σ → σ → Prop}

mutual

theorem Operand.Similar.mono (wider : ∀ {v w}, V v w → W v w) {x y : Operand σ} :
    Operand.Similar V S x y → Operand.Similar W S x y
  | .value related => .value (wider related)
  | .undefined => .undefined
  | .query related => .query related
  | .raw similar => .raw (similar.mono wider)

theorem Fragment.Similar.mono (wider : ∀ {v w}, V v w → W v w) {f g : Fragment (Operand σ)} :
    Fragment.Similar V S f g → Fragment.Similar W S f g
  | .intro bindings identifiers => .intro (bindings.mono wider) identifiers

theorem Bindings.Similar.mono (wider : ∀ {v w}, V v w → W v w) {b d : Bindings (Operand σ)} :
    Bindings.Similar V S b d → Bindings.Similar W S b d
  | .none => .none
  | .positional values => .positional (Operand.similar_list_mono wider values)
  | .named pairs => .named (Operand.similar_pairs_mono wider pairs)

theorem Operand.similar_list_mono (wider : ∀ {v w}, V v w → W v w) {xs ys : List (Operand σ)} :
    Paired (Operand.Similar V S) xs ys → Paired (Operand.Similar W S) xs ys
  | .nil => .nil
  | .cons first rest => .cons (first.mono wider) (Operand.similar_list_mono wider rest)

theorem Operand.similar_pairs_mono (wider : ∀ {v w}, V v w → W v w)
    {xs ys : List (String × Operand σ)} :
    PairedEntries (Operand.Similar V S) xs ys → PairedEntries (Operand.Similar W S) xs ys
  | .nil => .nil
  | .cons first rest => .cons (first.mono wider) (Operand.similar_pairs_mono wider rest)

end

theorem Column.Similar.mono (wider : ∀ {v w}, V v w → W v w) {x y : Column σ}
    (similar : Column.Similar V S x y) : Column.Similar W S x y := by
  cases similar with
  | name text => exact .name text
  | numeral text => exact .numeral text
  | aggregate a => exact .aggregate a
  | query related => exact .query related
  | raw similar => exact .raw (similar.mono wider)

mutual

theorem Condition.Similar.mono (wider : ∀ {v w}, V v w → W v w) {x y : Condition σ} :
    Condition.Similar V S x y → Condition.Similar W S x y
  | .compare operator column value null =>
    .compare operator (column.mono wider) (value.mono wider) null
  | .columns operator first second => .columns operator (first.mono wider) (second.mono wider)
  | .among column items => .among (column.mono wider) (items.mono fun _ _ => wider)
  | .isIn column values first second =>
    .isIn (column.mono wider) (values.mono wider) first second
  | .null column => .null (column.mono wider)
  | .between column low high => .between (column.mono wider) (low.mono wider) (high.mono wider)
  | .exists query => .exists (query.mono wider)
  | .group terms => .group (Term.similar_list_mono wider terms)
  | .raw similar => .raw (similar.mono wider)
  | .literal b => .literal b

theorem Term.similar_list_mono (wider : ∀ {v w}, V v w → W v w) {xs ys : List (Term σ)} :
    Paired (Term.Similar V S) xs ys → Paired (Term.Similar W S) xs ys
  | .nil => .nil
  | .cons (.intro connector negated condition) rest =>
    .cons (.intro connector negated (condition.mono wider)) (Term.similar_list_mono wider rest)

end

theorem Join.Similar.mono (wider : ∀ {v w}, V v w → W v w) {x y : Join σ}
    (similar : Join.Similar V S x y) : Join.Similar W S x y := by
  cases similar with
  | clause kind shared fault table conditions =>
    exact .clause kind shared fault (table.mono wider) (Term.similar_list_mono wider conditions)
  | raw similar => exact .raw (similar.mono wider)

end Wider

theorem Operand.Similar.isQuery_eq {σ : Type} {V : Value → Value → Prop} {S : σ → σ → Prop}
    {x y : Operand σ} (similar : Operand.Similar V S x y) : x.isQuery = y.isQuery := by
  cases similar <;> rfl

/-! ### Arguments -/

/-- Nested statements in arguments that are similar once they are resolved, for any two targets. -/
inductive Attached.Similar (W : Value → Value → Prop) : Attached → Attached → Prop where
  | prepared {s t : Statement} (similar : Statement.Alike W s t) :
      Attached.Similar W (.prepared s) (.prepared t)
  | callback {f g : Target → Logged Statement}
      (similar : ∀ target other, Statement.Alike W (f target).value (g other).value) :
      Attached.Similar W (.callback f) (.callback g)

/-- Conditions as asked for that differ in values only. -/
inductive Filter.Similar {σ : Type} (V : Value → Value → Prop) (S : σ → σ → Prop) :
    Filter σ → Filter σ → Prop where
  | compare {c d : Column σ} (operator : String) {v w : Operand σ}
      (column : Column.Similar V S c d) (value : Operand.Similar V S v w) :
      Filter.Similar V S (.compare c operator v) (.compare d operator w)
  | isIn {c d : Column σ} {v w : Operand σ} (column : Column.Similar V S c d)
      (values : Operand.Similar V S v w) : Filter.Similar V S (.isIn c v) (.isIn d w)
  | null {c d : Column σ} (column : Column.Similar V S c d) :
      Filter.Similar V S (.null c) (.null d)
  | between {c d : Column σ} {v w x y : Operand σ} (column : Column.Similar V S c d)
      (low : Operand.Similar V S v w) (high : Operand.Similar V S x y) :
      Filter.Similar V S (.between c v x) (.between d w y)
  | exists {v w : Operand σ} (query : Operand.Similar V S v w) :
      Filter.Similar V S (.exists v) (.exists w)
  | object {xs ys : List (String × Operand σ)}
      (row : PairedEntries (Operand.Similar V S) xs ys) :
      Filter.Similar V S (.object xs) (.object ys)
  | raw {f g : Fragment (Operand σ)} (similar : Fragment.Similar V S f g) :
      Filter.Similar V S (.raw f) (.raw g)
  | literal (b : Bool) : Filter.Similar V S (.literal b) (.literal b)

/-- Joins under construction that differ in values only. -/
structure JoinDraft.Similar (V W : Value → Value → Prop) (x y : JoinDraft) : Prop where
  kind : x.kind = y.kind
  table : Column.Similar V (Attached.Similar W) x.table y.table
  conditions : Paired (Term.Similar V (Attached.Similar W)) x.conditions y.conditions
  shared : x.shared = y.shared
  fault : x.fault = y.fault

/-! ### Lists are resolved item by item -/

section Lists

variable (target : Target)

theorem Operand.resolveList_value (values : List (Operand Attached)) :
    (Operand.resolveList target values).value =
      values.map fun operand => (operand.resolve target).value := by
  induction values with
  | nil => rfl
  | cons operand rest ih => simp [Operand.resolveList, ih]

theorem Operand.resolvePairs_value (pairs : List (String × Operand Attached)) :
    (Operand.resolvePairs target pairs).value =
      pairs.map fun (name, operand) => (name, (operand.resolve target).value) := by
  induction pairs with
  | nil => rfl
  | cons pair rest ih => simp [Operand.resolvePairs, ih]

theorem Operand.value?_resolve (operand : Operand Attached) :
    (operand.resolve target).value.value? = operand.value? := by
  cases operand <;> rfl

theorem Operand.items?_resolve (operand : Operand Attached) :
    (operand.resolve target).value.items? = operand.items? := by
  cases operand with
  | value v => cases v <;> rfl
  | undefined | query | raw => rfl

theorem Bindings.identifierValues_resolve (template : String)
    (bindings : Bindings (Operand Attached)) :
    (Bindings.resolve target bindings).value.identifierValues template =
      bindings.identifierValues template := by
  cases bindings with
  | none => rfl
  | positional values =>
    simp only [Bindings.resolve, Build.value_bind, Build.value_pure, Bindings.identifierValues,
      Operand.resolveList_value]
    rw [Operand.map_value?_map (Operand.value?_resolve target)]
  | named pairs =>
    simp only [Bindings.resolve, Build.value_bind, Build.value_pure, Bindings.identifierValues,
      Operand.resolvePairs_value]
    refine List.map_congr_left fun name _ => ?_
    exact Operand.bind_value?_map (Operand.value?_resolve target) name pairs

end Lists

/-! ### Resolving similar arguments -/

section Resolving

variable {V W : Value → Value → Prop} {target other : Target}

theorem Attached.Similar.resolve (run ran : Event) {x y : Attached}
    (similar : Attached.Similar W x y) :
    Build.Alike (Attached.Alike W) (x.resolve target run) (y.resolve other ran) := by
  cases similar with
  | prepared similar =>
    refine ⟨.prepared similar, ?_⟩
    simp [Attached.resolve, Build.inherit, congrArg Settings.fault similar.settings]
  | callback similar =>
    have alike := similar target other
    refine ⟨.prepared alike, ?_⟩
    simp [Attached.resolve, Build.inherit, Build.ofLogged, congrArg Settings.fault alike.settings]

mutual

theorem Operand.Similar.resolve {x y : Operand Attached} :
    Operand.Similar V (Attached.Similar W) x y →
      Build.Alike (Operand.Similar V (Attached.Alike W)) (x.resolve target) (y.resolve other)
  | .value related => .pure (.value related)
  | .undefined => .pure .undefined
  | .query related => (related.resolve _ _).bind fun similar => .pure (.query similar)
  | .raw similar => similar.resolve.bind fun similar => .pure (.raw similar)

theorem Fragment.Similar.resolve : {f g : Fragment (Operand Attached)} →
    Fragment.Similar V (Attached.Similar W) f g →
      Build.Alike (Fragment.Similar V (Attached.Alike W)) (Fragment.resolve target f)
        (Fragment.resolve other g)
  | ⟨_, _, _⟩, _, .intro bindings identifiers => by
    refine bindings.resolve.bind fun similar => ⟨.intro similar ?_, rfl⟩
    rw [Bindings.identifierValues_resolve, Bindings.identifierValues_resolve, identifiers]

theorem Bindings.Similar.resolve {b d : Bindings (Operand Attached)} :
    Bindings.Similar V (Attached.Similar W) b d →
      Build.Alike (Bindings.Similar V (Attached.Alike W)) (Bindings.resolve target b)
        (Bindings.resolve other d)
  | .none => .pure .none
  | .positional values =>
    (Operand.similar_resolveList values).bind fun similar => .pure (.positional similar)
  | .named pairs => (Operand.similar_resolvePairs pairs).bind fun similar => .pure (.named similar)

theorem Operand.similar_resolveList {xs ys : List (Operand Attached)} :
    Paired (Operand.Similar V (Attached.Similar W)) xs ys →
      Build.Alike (Paired (Operand.Similar V (Attached.Alike W)))
        (Operand.resolveList target xs) (Operand.resolveList other ys)
  | .nil => .pure .nil
  | .cons first rest =>
    first.resolve.bind fun head =>
      (Operand.similar_resolveList rest).bind fun tail => .pure (.cons head tail)

theorem Operand.similar_resolvePairs {xs ys : List (String × Operand Attached)} :
    PairedEntries (Operand.Similar V (Attached.Similar W)) xs ys →
      Build.Alike (PairedEntries (Operand.Similar V (Attached.Alike W)))
        (Operand.resolvePairs target xs) (Operand.resolvePairs other ys)
  | .nil => .pure .nil
  | .cons first rest =>
    first.resolve.bind fun head =>
      (Operand.similar_resolvePairs rest).bind fun tail => .pure (.cons head tail)

end

theorem Operand.similar_resolveRows {xs ys : List (List (String × Operand Attached))}
    (rows : Paired (PairedEntries (Operand.Similar V (Attached.Similar W))) xs ys) :
    Build.Alike (Paired (PairedEntries (Operand.Similar V (Attached.Alike W))))
      (Operand.resolveRows target xs) (Operand.resolveRows other ys) := by
  induction rows with
  | nil => exact .pure .nil
  | cons first _ ih =>
    exact (Operand.similar_resolvePairs first).bind fun head =>
      ih.bind fun tail => .pure (.cons head tail)

theorem Column.Similar.resolve {x y : Column Attached}
    (similar : Column.Similar V (Attached.Similar W) x y) :
    Build.Alike (Column.Similar V (Attached.Alike W)) (x.resolve target) (y.resolve other) := by
  cases similar with
  | name text => exact .pure (.name text)
  | numeral text => exact .pure (.numeral text)
  | aggregate a => exact .pure (.aggregate a)
  | query related => exact (related.resolve _ _).bind fun similar => .pure (.query similar)
  | raw similar => exact similar.resolve.bind fun similar => .pure (.raw similar)

theorem Column.similar_resolveList {xs ys : List (Column Attached)}
    (columns : Paired (Column.Similar V (Attached.Similar W)) xs ys) :
    Build.Alike (Paired (Column.Similar V (Attached.Alike W))) (Column.resolveList target xs)
      (Column.resolveList other ys) := by
  induction columns with
  | nil => exact .pure .nil
  | cons first _ ih =>
    exact first.resolve.bind fun head => ih.bind fun tail => .pure (.cons head tail)

mutual

theorem Condition.Similar.resolve {x y : Condition Attached} :
    Condition.Similar V (Attached.Similar W) x y →
      Build.Alike (Condition.Similar V (Attached.Alike W)) (Condition.resolve target x)
        (Condition.resolve other y)
  | .compare operator column value null => by
    refine column.resolve.bind fun column => value.resolve.bind fun value => ⟨?_, rfl⟩
    refine .compare operator column value ?_
    rw [Operand.isNull_resolve, Operand.isNull_resolve, null]
  | .columns operator first second =>
    first.resolve.bind fun first => second.resolve.bind fun second =>
      .pure (.columns operator first second)
  | .among column items => column.resolve.bind fun column => .pure (.among column items)
  | .isIn column values first second => by
    refine column.resolve.bind fun column => values.resolve.bind fun values => ⟨?_, rfl⟩
    refine .isIn column values ?_ ?_
    · rw [Operand.items?_resolve, first]
    · rw [Operand.items?_resolve, second]
  | .null column => column.resolve.bind fun column => .pure (.null column)
  | .between column low high =>
    column.resolve.bind fun column => low.resolve.bind fun low => high.resolve.bind fun high =>
      .pure (.between column low high)
  | .exists query => query.resolve.bind fun query => .pure (.exists query)
  | .group terms => (Term.similar_resolveList terms).bind fun terms => .pure (.group terms)
  | .raw similar => similar.resolve.bind fun similar => .pure (.raw similar)
  | .literal b => .pure (.literal b)

theorem Term.similar_resolveList {xs ys : List (Term Attached)} :
    Paired (Term.Similar V (Attached.Similar W)) xs ys →
      Build.Alike (Paired (Term.Similar V (Attached.Alike W))) (Term.resolveList target xs)
        (Term.resolveList other ys)
  | .nil => .pure .nil
  | .cons (.intro connector negated condition) rest =>
    condition.resolve.bind fun condition => (Term.similar_resolveList rest).bind fun tail =>
      .pure (.cons (.intro connector negated condition) tail)

end

theorem JoinDraft.Similar.resolve {x y : JoinDraft} (similar : JoinDraft.Similar V W x y) :
    Build.Alike (fun a b => Join.Similar V (Attached.Alike W) (.clause a) (.clause b))
      (x.resolve target) (y.resolve other) := by
  have fault : Build.Alike (fun _ _ => True) (Build.inherit x.fault) (Build.inherit y.fault) :=
    ⟨trivial, similar.fault⟩
  refine fault.bind fun _ => similar.table.resolve.bind fun table => ?_
  refine (Term.similar_resolveList similar.conditions).bind fun conditions => ⟨?_, rfl⟩
  dsimp only [Build.value_bind, Build.value_pure]
  rw [similar.kind, similar.shared]
  exact .clause _ _ none table conditions

end Resolving

/-! ### Conditions -/

section Conditions

variable {V W : Value → Value → Prop} {target other : Target} (widens : Value.Widens V W)

/-- Conditions that are both left out, or both there and similar. -/
def Condition.SimilarOptions (W : Value → Value → Prop) (x y : Option (Condition Attached)) :
    Prop :=
  Paired (Condition.Similar W (Attached.Alike W)) x.toList y.toList

/-- Conditions that are both left out, or both there with the same flip of the negation. -/
def Condition.SimilarFlips (W : Value → Value → Prop)
    (x y : Option (Bool × Condition Attached)) : Prop :=
  Paired (fun a b => a.1 = b.1 ∧ Condition.Similar W (Attached.Alike W) a.2 b.2) x.toList y.toList

theorem Condition.SimilarOptions.flip {x y : Option (Condition Attached)} (flip : Bool)
    (similar : Condition.SimilarOptions W x y) :
    Condition.SimilarFlips W (x.map (flip, ·)) (y.map (flip, ·)) := by
  rcases x with _ | x <;> rcases y with _ | y <;> cases similar
  · exact .nil
  · rename_i first _
    exact .cons ⟨rfl, first⟩ .nil

namespace Filter

variable {c d : Column Attached} {v w : Operand Attached}

theorem membership_value (c : Column Attached) {v : Value} (single : ∀ items, v ≠ .array items) :
    membership c (.value v) = pure (some (.isIn c (.value (.array [v])))) := by
  cases v with
  | array items => exact absurd rfl (single items)
  | null | bool | int | float | text | blob | date | timestamp | json | returning => rfl

theorem range_value (c : Column Attached) {v : Value}
    (other : ∀ low high, v ≠ .array [low, high]) :
    range c (.value v) = Build.fail .betweenBounds >>= fun _ => pure none := by
  unfold range
  split
  · rename_i low high found
    cases found
    exact absurd rfl (other low high)
  · rfl

include widens

theorem isNull_eq (values : Operand.Similar V (Attached.Alike W) v w) : v.isNull = w.isNull := by
  cases values with
  | value related => exact widens.null related
  | undefined | query | raw => rfl

theorem similar_membership (column : Column.Similar W (Attached.Alike W) c d)
    (values : Operand.Similar V (Attached.Alike W) v w) :
    Build.Alike (Condition.SimilarOptions W) (membership c v) (membership d w) := by
  cases values with
  | @value v w related =>
    -- Whether a value is a list is all that is looked at, and both are lists or none is.
    by_cases list : ∃ xs, v = .array xs
    · obtain ⟨xs, rfl⟩ := list
      obtain ⟨ys, rfl, items⟩ := widens.items related
      exact .pure (.cons (.among column items) .nil)
    · have first : ∀ xs, v ≠ .array xs := fun xs equal => list ⟨xs, equal⟩
      have second : ∀ ys, w ≠ .array ys := by
        rintro ys rfl
        exact list (widens.itemsBack related)
      rw [membership_value c first, membership_value d second]
      exact .pure (.cons (.among column (.cons (widens.wider related) .nil)) .nil)
  | undefined => exact ⟨.nil, rfl⟩
  | query related => exact .pure (.cons (.isIn column (.query related) rfl rfl) .nil)
  | raw similar =>
    exact .pure (.cons (.isIn column (.raw (similar.mono widens.wider)) rfl rfl) .nil)

theorem similar_range (column : Column.Similar W (Attached.Alike W) c d)
    (values : Operand.Similar V (Attached.Alike W) v w) :
    Build.Alike (Condition.SimilarOptions W) (range c v) (range d w) := by
  cases values with
  | @value v w related =>
    by_cases bounds : ∃ low high, v = .array [low, high]
    · obtain ⟨low, high, rfl⟩ := bounds
      obtain ⟨ys, rfl, items⟩ := widens.items related
      cases items with
      | cons first rest =>
        cases rest with
        | cons second rest =>
          cases rest
          exact .pure (.cons (.between column (.value first) (.value second)) .nil)
    · have first : ∀ low high, v ≠ .array [low, high] := fun low high equal =>
        bounds ⟨low, high, equal⟩
      have second : ∀ low high, w ≠ .array [low, high] := by
        rintro low high rfl
        obtain ⟨xs, rfl⟩ := widens.itemsBack related
        obtain ⟨ys, equal, items⟩ := widens.items related
        have length := items.length_eq
        cases equal
        match xs, length with
        | [a, b], _ => exact first a b rfl
      rw [range_value c first, range_value d second]
      exact ⟨.nil, rfl⟩
  | undefined => exact ⟨.nil, rfl⟩
  | query related => exact ⟨.nil, rfl⟩
  | raw similar => exact ⟨.nil, rfl⟩

theorem similar_comparison (operator : Operator)
    (column : Column.Similar W (Attached.Alike W) c d)
    (values : Operand.Similar V (Attached.Alike W) v w) :
    Build.Alike (Condition.SimilarFlips W) (comparison c operator v) (comparison d operator w) := by
  have null := isNull_eq widens values
  unfold comparison
  dsimp only
  split
  · exact (similar_membership widens column values).bind fun similar => .pure (similar.flip _)
  · split
    · exact (similar_range widens column values).bind fun similar => .pure (similar.flip _)
    · rw [null]
      split
      · exact .pure (.cons ⟨rfl, .null column⟩ .nil)
      · exact .pure (.cons ⟨rfl, .compare operator column (values.mono widens.wider) null⟩ .nil)

theorem similar_compared {c d : Column Attached} {v w : Operand Attached} (operator : String)
    (column : Column.Similar V (Attached.Similar W) c d)
    (value : Operand.Similar V (Attached.Similar W) v w) :
    Build.Alike (Condition.SimilarFlips W) (compared target c operator v)
      (compared other d operator w) := by
  unfold compared
  split
  · exact ⟨.nil, rfl⟩
  · refine column.resolve.bind fun column => value.resolve.bind fun value => ?_
    exact similar_comparison widens _ (column.mono widens.wider) value

omit widens in
theorem similar_term (connector : Connector) (negated : Bool)
    {x y : Option (Bool × Condition Attached)} (similar : Condition.SimilarFlips W x y) :
    Paired (Term.Similar W (Attached.Alike W)) (term connector negated x)
      (term connector negated y) := by
  rcases x with _ | ⟨flip, x⟩ <;> rcases y with _ | ⟨other, y⟩ <;> cases similar
  · exact .nil
  · rename_i first _
    obtain ⟨equal, similar⟩ := first
    dsimp only at equal similar
    subst equal
    exact .cons (.intro _ _ similar) .nil

theorem similar_pairTerms (negated : Bool) {xs ys : List (String × Operand Attached)}
    (row : PairedEntries (Operand.Similar V (Attached.Similar W)) xs ys) :
    Build.Alike (Paired (Term.Similar W (Attached.Alike W))) (pairTerms target negated xs)
      (pairTerms other negated ys) := by
  induction row with
  | nil => exact .pure .nil
  | @cons name _ _ _ _ first _ ih =>
    refine (similar_compared widens "=" (.name name) first).bind fun similar => ?_
    exact ih.bind fun rest => .pure ((similar_term .and negated similar).append rest)

theorem Similar.terms (connector : Connector) (negated : Bool) {f g : Filter Attached}
    (similar : Filter.Similar V (Attached.Similar W) f g) :
    Build.Alike (Paired (Term.Similar W (Attached.Alike W))) (f.terms target connector negated)
      (g.terms other connector negated) := by
  have one {x y : Condition Attached} (condition : Condition.Similar W (Attached.Alike W) x y) :
      Paired (Term.Similar W (Attached.Alike W)) [⟨connector, negated, x⟩]
        [⟨connector, negated, y⟩] := .cons (.intro connector negated condition) .nil
  cases similar with
  | compare operator column value =>
    refine (similar_compared widens operator column value).bind fun similar => .pure ?_
    exact similar_term connector negated similar
  | isIn column values =>
    refine column.resolve.bind fun column => values.resolve.bind fun values => ?_
    refine (similar_membership widens (column.mono widens.wider) values).bind fun similar => ?_
    exact .pure (similar_term connector negated (similar.flip false))
  | null column =>
    exact column.resolve.bind fun column => .pure (one (.null (column.mono widens.wider)))
  | between column low high =>
    refine column.resolve.bind fun column => low.resolve.bind fun low => ?_
    exact high.resolve.bind fun high => .pure (one (.between (column.mono widens.wider)
      (low.mono widens.wider) (high.mono widens.wider)))
  | «exists» query =>
    refine query.resolve.bind fun query => ?_
    rw [query.isQuery_eq]
    split
    · exact .pure (one (.exists (query.mono widens.wider)))
    · exact ⟨.nil, rfl⟩
  | object row =>
    refine (similar_pairTerms widens negated row).bind fun pairs => ?_
    cases connector with
    | and => exact .pure pairs
    | or =>
      rw [pairs.isEmpty_eq]
      refine .pure ?_
      split
      · exact .nil
      · exact .cons (.intro _ _ (.group pairs)) .nil
  | raw similar =>
    exact similar.resolve.bind fun similar => .pure (one (.raw (similar.mono widens.wider)))
  | literal b => exact .pure (one (.literal b))

end Filter

end Conditions

/-! ### Operations -/

/-- Builders of similar statements with the same modifiers waiting, for any two targets. -/
structure Builder.Similar (W : Value → Value → Prop) (b b' : Builder) : Prop where
  statement : Statement.Alike W b.statement b'.statement
  connector : b.connector = b'.connector
  negated : b.negated = b'.negated

namespace Statement

variable {W : Value → Value → Prop} {s s' : Statement}

theorem Alike.fault_eq (similar : Alike W s s') : s.fault = s'.fault :=
  congrArg Settings.fault similar.settings

/-- A change of settings that looks at settings only keeps statements similar. -/
theorem Alike.edit (similar : Alike W s s') (f : Settings → Settings) :
    Alike W { s with toSettings := f s.toSettings } { s' with toSettings := f s'.toSettings } := by
  cases similar with
  | intro same table columns joins wheres groups havings orders unions insert assignments =>
    exact .intro (congrArg f same) table columns joins wheres groups havings orders unions insert
      assignments

theorem Alike.record (similar : Alike W s s') (fault : Option Fault) :
    Alike W (s.record fault) (s'.record fault) :=
  similar.edit fun settings => { settings with fault := settings.fault <|> fault }

end Statement

namespace Builder.Similar

variable {V W : Value → Value → Prop} {b b' : Builder}

theorem start (target : Target) {other : Target} :
    Builder.Similar W (.start target) (.start other) where
  statement := .intro rfl .nil .nil .nil .nil .nil .nil .nil .nil .nil .nil
  connector := rfl
  negated := rfl

theorem edit (similar : Builder.Similar W b b') {f g : Statement → Statement}
    (step : ∀ {s s'}, Statement.Alike W s s' → Statement.Alike W (f s) (g s')) :
    Builder.Similar W (b.edit f) (b'.edit g) :=
  { similar with statement := step similar.statement }

theorem fail (similar : Builder.Similar W b b') (fault : Fault) :
    Builder.Similar W (b.fail fault) (b'.fail fault) :=
  similar.edit fun alike => alike.record (some fault)

/-- What is built for similar builders with one fault is put into their statements alike. -/
theorem attach {α : Type} {R : α → α → Prop} {r q : Build α} {f g : α → Statement → Statement}
    (similar : Builder.Similar W b b') (built : Build.Alike R r q)
    (step : ∀ {x y s s'}, R x y → Statement.Alike W s s' →
      Statement.Alike W (f x s) (g y s')) :
    Builder.Similar W (b.attach r f).value (b'.attach q g).value := by
  refine { similar with statement := step built.value ?_ }
  rw [built.fault]
  exact similar.statement.record _

theorem clearModifiers (similar : Builder.Similar W b b') :
    Builder.Similar W b.clearModifiers b'.clearModifiers :=
  { similar with connector := rfl, negated := rfl }

theorem modifiers_eq (similar : Builder.Similar W b b') (lead : Lead) :
    b.modifiers lead = b'.modifiers lead := by
  simp only [modifiers, similar.connector, similar.negated]

theorem addTerms (clause : FilterClause) {s s' : Statement} {ts us : List (Term Attached)}
    (terms : Paired (Term.Similar W (Attached.Alike W)) ts us) (alike : Statement.Alike W s s') :
    Statement.Alike W (Builder.addTerms clause ts s) (Builder.addTerms clause us s') := by
  cases alike with
  | intro same table columns joins wheres groups havings orders unions insert assignments =>
    cases clause with
    | wheres =>
      exact .intro same table columns joins (wheres.append terms) groups havings orders unions
        insert assignments
    | havings =>
      exact .intro same table columns joins wheres groups (havings.append terms) orders unions
        insert assignments

theorem groupConditions (similar : Builder.Similar W b b') :
    Build.Alike (Paired (Term.Similar W (Attached.Alike W))) b.groupConditions
      b'.groupConditions := by
  have inherited : Build.Alike (fun _ _ => True) (Build.inherit b.fault) (Build.inherit b'.fault) :=
    ⟨trivial, similar.statement.fault_eq⟩
  refine inherited.bind fun _ => ?_
  cases similar.statement with
  | intro _ _ _ _ wheres _ havings =>
    revert wheres havings
    generalize b.statement.wheres = xs
    generalize b'.statement.wheres = ys
    generalize b.statement.havings = zs
    generalize b'.statement.havings = ws
    intro wheres havings
    cases wheres with
    | nil =>
      cases havings with
      | nil => exact .pure .nil
      | cons first rest => exact .pure (.cons first rest)
    | cons first rest =>
      cases havings with
      | nil => exact .pure (.cons first rest)
      | cons => exact ⟨.nil, rfl⟩

section Operations

variable (similar : Builder.Similar W b b')

include similar

theorem group (clause : FilterClause) (lead : Lead) {r q : Logged Builder}
    (built : Builder.Similar W r.value q.value) :
    Builder.Similar W (b.group clause lead r).value (b'.group clause lead q).value := by
  unfold Builder.group
  rw [similar.modifiers_eq lead]
  refine similar.clearModifiers.attach ?_ (addTerms clause)
  have inner : Build.Alike (Builder.Similar W) (Build.ofLogged r) (Build.ofLogged q) := ⟨built, rfl⟩
  refine inner.bind fun built => built.groupConditions.bind fun conditions => .pure ?_
  rw [conditions.isEmpty_eq]
  split
  · exact .nil
  · exact .cons (.intro _ _ (.group conditions)) .nil

theorem aggregate (a : Aggregate) : Builder.Similar W (b.aggregate a) (b'.aggregate a) := by
  refine similar.edit fun alike => ?_
  cases alike with
  | intro same table columns joins wheres groups havings orders unions insert assignments =>
    exact .intro same table (columns.append (.cons (.aggregate a) .nil)) joins wheres groups havings
      orders unions insert assignments

/-- Settings are changed alike. -/
theorem settings (f : Settings → Settings) :
    Builder.Similar W (b.edit fun s => { s with toSettings := f s.toSettings })
      (b'.edit fun s => { s with toSettings := f s.toSettings }) :=
  similar.edit fun alike => alike.edit f

variable (widens : Value.Widens V W)

include widens

theorem filter (clause : FilterClause) (lead : Lead) {f g : Filter Attached}
    (filter : Filter.Similar V (Attached.Similar W) f g) :
    Builder.Similar W (b.filter clause lead f).value (b'.filter clause lead g).value := by
  unfold Builder.filter
  rw [similar.modifiers_eq lead]
  exact similar.clearModifiers.attach (filter.terms widens _ _) (addTerms clause)

theorem select {xs ys : List (Column Attached)}
    (columns : Paired (Column.Similar V (Attached.Similar W)) xs ys) :
    Builder.Similar W (b.select xs).value (b'.select ys).value := by
  unfold Builder.select
  refine similar.attach (Column.similar_resolveList columns) fun columns alike => ?_
  cases alike with
  | intro same table front joins wheres groups havings orders unions insert assignments =>
    refine .intro same table (front.append ?_) joins wheres groups havings orders unions insert
      assignments
    exact columns.mono fun _ _ column => column.mono widens.wider

theorem source {c d : Column Attached} (table : Column.Similar V (Attached.Similar W) c d) :
    Builder.Similar W (b.source c).value (b'.source d).value := by
  unfold Builder.source
  refine similar.attach table.resolve fun table alike => ?_
  cases alike with
  | intro same _ columns joins wheres groups havings orders unions insert assignments =>
    exact .intro same (.cons (table.mono widens.wider) .nil) columns joins wheres groups havings
      orders unions insert assignments

theorem join {x y : JoinDraft} (draft : JoinDraft.Similar V W x y) :
    Builder.Similar W (b.join x).value (b'.join y).value := by
  unfold Builder.join
  refine similar.attach draft.resolve fun clause alike => ?_
  cases alike with
  | intro same table columns joins wheres groups havings orders unions insert assignments =>
    exact .intro same table columns (joins.append (.cons (clause.mono widens.wider) .nil)) wheres
      groups havings orders unions insert assignments

theorem joinRaw {f g : Fragment (Operand Attached)}
    (fragment : Fragment.Similar V (Attached.Similar W) f g) :
    Builder.Similar W (b.joinRaw f).value (b'.joinRaw g).value := by
  unfold Builder.joinRaw
  refine similar.attach fragment.resolve fun fragment alike => ?_
  cases alike with
  | intro same table columns joins wheres groups havings orders unions insert assignments =>
    have joined : Join.Similar W (Attached.Alike W) _ _ := .raw (fragment.mono widens.wider)
    exact .intro same table columns (joins.append (.cons joined .nil)) wheres groups havings orders
      unions insert assignments

theorem groupBy {xs ys : List (Column Attached)}
    (columns : Paired (Column.Similar V (Attached.Similar W)) xs ys) :
    Builder.Similar W (b.groupBy xs).value (b'.groupBy ys).value := by
  unfold Builder.groupBy
  refine similar.attach (Column.similar_resolveList columns) fun columns alike => ?_
  cases alike with
  | intro same table front joins wheres groups havings orders unions insert assignments =>
    refine .intro same table front joins wheres (groups.append ?_) havings orders unions insert
      assignments
    exact columns.mono fun _ _ column => column.mono widens.wider

theorem orderBy {c d : Column Attached} (direction : Direction)
    (column : Column.Similar V (Attached.Similar W) c d) :
    Builder.Similar W (b.orderBy c direction).value (b'.orderBy d direction).value := by
  unfold Builder.orderBy
  refine similar.attach column.resolve fun column alike => ?_
  cases alike with
  | intro same table columns joins wheres groups havings orders unions insert assignments =>
    have ordered : Order.Similar W (Attached.Alike W) _ _ :=
      .column direction (column.mono widens.wider)
    exact .intro same table columns joins wheres groups havings (orders.append (.cons ordered .nil))
      unions insert assignments

theorem orderByRaw {f g : Fragment (Operand Attached)}
    (fragment : Fragment.Similar V (Attached.Similar W) f g) :
    Builder.Similar W (b.orderByRaw f).value (b'.orderByRaw g).value := by
  unfold Builder.orderByRaw
  refine similar.attach fragment.resolve fun fragment alike => ?_
  cases alike with
  | intro same table columns joins wheres groups havings orders unions insert assignments =>
    have ordered : Order.Similar W (Attached.Alike W) _ _ := .raw (fragment.mono widens.wider)
    exact .intro same table columns joins wheres groups havings (orders.append (.cons ordered .nil))
      unions insert assignments

omit similar widens in
theorem unionParts {target other : Target} (all wrap : Bool) {xs ys : List (Operand Attached)}
    (queries : Paired (Operand.Similar V (Attached.Similar W)) xs ys) :
    Build.Alike (Paired (UnionPart.Similar V (Attached.Alike W)))
      (Builder.unionParts target all wrap xs) (Builder.unionParts other all wrap ys) := by
  induction queries with
  | nil => exact .pure .nil
  | cons first _ ih =>
    refine first.resolve.bind fun query => ?_
    rw [query.isQuery_eq]
    split
    · exact ih.bind fun rest => .pure (.cons (.intro all wrap query) rest)
    · have failed : Build.Alike (fun _ _ => True) (Build.fail .unionOperand)
          (Build.fail .unionOperand) := ⟨trivial, rfl⟩
      exact failed.bind fun _ => ih

theorem union (all wrap : Bool) {xs ys : List (Operand Attached)}
    (queries : Paired (Operand.Similar V (Attached.Similar W)) xs ys) :
    Builder.Similar W (b.union xs all wrap).value (b'.union ys all wrap).value := by
  unfold Builder.union
  refine similar.attach (unionParts all wrap queries) fun parts alike => ?_
  cases alike with
  | intro same table columns joins wheres groups havings orders unions insert assignments =>
    refine .intro same table columns joins wheres groups havings orders (unions.append ?_) insert
      assignments
    refine parts.mono fun _ _ part => ?_
    cases part with
    | intro all wrap query => exact .intro all wrap (query.mono widens.wider)

omit similar in
theorem insertPayload {target other : Target} {x y : InsertPayload Attached}
    (payload : InsertPayload.Similar V (Attached.Similar W) x y) :
    Build.Alike (InsertPayload.Similar W (Attached.Alike W)) (Builder.insertPayload target x)
      (Builder.insertPayload other y) := by
  cases payload with
  | rows table =>
    refine (Operand.similar_resolveRows table).bind fun rows => .pure (.rows ?_)
    exact rows.mono fun _ _ row => row.mono fun _ _ cell => cell.mono widens.wider
  | query source =>
    refine source.resolve.bind fun query => ?_
    have wider := query.mono (W := W) widens.wider
    rw [query.isQuery_eq]
    split
    · exact .pure (.query wider)
    · exact ⟨.query wider, rfl⟩

theorem insert {x y : InsertPayload Attached}
    (payload : InsertPayload.Similar V (Attached.Similar W) x y) :
    Builder.Similar W (b.insert x).value (b'.insert y).value := by
  unfold Builder.insert
  refine similar.attach (insertPayload widens payload) fun payload alike => ?_
  cases alike with
  | intro same table columns joins wheres groups havings orders unions _ assignments =>
    refine .intro ?_ table columns joins wheres groups havings orders unions (.cons payload .nil)
      assignments
    exact congrArg (fun settings : Settings => { settings with kind := .insert }) same

omit similar widens in
theorem definedPairs {target other : Target} {xs ys : List (String × Operand Attached)}
    (row : PairedEntries (Operand.Similar V (Attached.Similar W)) xs ys) :
    Build.Alike (PairedEntries (Operand.Similar V (Attached.Alike W)))
      (Builder.definedPairs target xs) (Builder.definedPairs other ys) := by
  induction row with
  | nil => exact .pure .nil
  | @cons name x y _ _ first _ ih =>
    have given : Build.Alike (Operand.Similar V (Attached.Alike W)) (x.resolve target)
        (y.resolve other) := first.resolve
    cases first with
    | undefined => exact ih
    | value | query | raw =>
      exact given.bind fun value => ih.bind fun rest => .pure (.cons value rest)

theorem update {xs ys : List (String × Operand Attached)}
    (row : PairedEntries (Operand.Similar V (Attached.Similar W)) xs ys) :
    Builder.Similar W (b.update xs).value (b'.update ys).value := by
  unfold Builder.update
  refine similar.attach (definedPairs row) fun pairs alike => ?_
  cases alike with
  | intro same table columns joins wheres groups havings orders unions insert assignments =>
    refine .intro ?_ table columns joins wheres groups havings orders unions insert
      (assignments.insertAll (pairs.mono fun _ _ cell => cell.mono widens.wider))
    exact congrArg (fun settings : Settings => { settings with kind := .update }) same

end Operations

end Builder.Similar

end PortableSql
