import PortableSql.Proofs.Tree
import PortableSql.Template

/-!
Statements of one shape.

Two parts are similar when they differ in values only. `V` says which values may stand for each
other, `S` which nested statements, and `N` which settings. A value that a template takes for an
identifier has to be the same in both, and so does whether a compared value is null and whether the
values of a membership are a list.
-/

namespace PortableSql

/-! ### Lists -/

/-- Lists of one length whose items are related in order. -/
inductive Paired {α : Type} (R : α → α → Prop) : List α → List α → Prop where
  | nil : Paired R [] []
  | cons {x y : α} {xs ys : List α} (first : R x y) (rest : Paired R xs ys) :
      Paired R (x :: xs) (y :: ys)

/-- Entries of the same names in order, whose values are related. -/
inductive PairedEntries {α : Type} (R : α → α → Prop) :
    List (String × α) → List (String × α) → Prop where
  | nil : PairedEntries R [] []
  | cons {name : String} {x y : α} {xs ys : List (String × α)} (first : R x y)
      (rest : PairedEntries R xs ys) : PairedEntries R ((name, x) :: xs) ((name, y) :: ys)

namespace Paired

variable {α β : Type} {R Q : α → α → Prop} {xs ys : List α}

theorem mono (implied : ∀ x y, R x y → Q x y) (paired : Paired R xs ys) : Paired Q xs ys := by
  induction paired with
  | nil => exact .nil
  | cons first _ ih => exact .cons (implied _ _ first) ih

theorem refl (each : ∀ x ∈ xs, R x x) : Paired R xs xs := by
  induction xs with
  | nil => exact .nil
  | cons x rest ih => exact .cons (each x (by simp)) (ih fun y member => each y (by simp [member]))

theorem append {zs ws : List α} (front : Paired R xs ys) (back : Paired R zs ws) :
    Paired R (xs ++ zs) (ys ++ ws) := by
  induction front with
  | nil => exact back
  | cons first _ ih => exact .cons first ih

theorem map {R' : β → β → Prop} {f g : α → β} (step : ∀ x y, R x y → R' (f x) (g y))
    (paired : Paired R xs ys) : Paired R' (xs.map f) (ys.map g) := by
  induction paired with
  | nil => exact .nil
  | cons first _ ih => exact .cons (step _ _ first) ih

/-- One list under two functions whose values are related on its items. -/
theorem map_same {items : List β} {f g : β → α} (each : ∀ item ∈ items, R (f item) (g item)) :
    Paired R (items.map f) (items.map g) := by
  induction items with
  | nil => exact .nil
  | cons item rest ih =>
    exact .cons (each item (by simp)) (ih fun other member => each other (by simp [member]))

theorem flatMap {R' : β → β → Prop} {f g : α → List β}
    (step : ∀ x y, R x y → Paired R' (f x) (g y)) (paired : Paired R xs ys) :
    Paired R' (xs.flatMap f) (ys.flatMap g) := by
  induction paired with
  | nil => exact .nil
  | cons first _ ih =>
    rw [List.flatMap_cons, List.flatMap_cons]
    exact (step _ _ first).append ih

theorem zipIdx (paired : Paired R xs ys) (n : Nat) :
    Paired (fun x y => R x.1 y.1 ∧ x.2 = y.2) (xs.zipIdx n) (ys.zipIdx n) := by
  induction paired generalizing n with
  | nil => exact .nil
  | cons first _ ih => exact .cons ⟨first, rfl⟩ (ih (n + 1))

theorem length_eq (paired : Paired R xs ys) : xs.length = ys.length := by
  induction paired with
  | nil => rfl
  | cons _ _ ih => simp [ih]

theorem isEmpty_eq (paired : Paired R xs ys) : xs.isEmpty = ys.isEmpty := by
  cases paired <;> rfl

theorem isSome_eq {x y : Option α} (paired : Paired R x.toList y.toList) :
    x.isSome = y.isSome := by
  rcases x with _ | x <;> rcases y with _ | y <;> first | rfl | cases paired

theorem map_eq {f : α → β} (same : ∀ x y, R x y → f x = f y) (paired : Paired R xs ys) :
    xs.map f = ys.map f := by
  induction paired with
  | nil => rfl
  | cons first _ ih => simp [same _ _ first, ih]

end Paired

namespace PairedEntries

variable {α β : Type} {R Q : α → α → Prop} {xs ys : List (String × α)}

theorem mono (implied : ∀ x y, R x y → Q x y) (paired : PairedEntries R xs ys) :
    PairedEntries Q xs ys := by
  induction paired with
  | nil => exact .nil
  | cons first _ ih => exact .cons (implied _ _ first) ih

theorem isEmpty_eq (paired : PairedEntries R xs ys) : xs.isEmpty = ys.isEmpty := by
  cases paired <;> rfl

theorem keys_eq (paired : PairedEntries R xs ys) : Keyed.keys xs = Keyed.keys ys := by
  induction paired with
  | nil => rfl
  | cons _ _ ih => simpa [Keyed.keys] using ih

/-- A name has no entry in either list, or related entries. -/
theorem get? (paired : PairedEntries R xs ys) (name : String) :
    (Keyed.get? name xs = none ∧ Keyed.get? name ys = none) ∨
      ∃ x y, Keyed.get? name xs = some x ∧ Keyed.get? name ys = some y ∧ R x y := by
  induction paired with
  | nil => exact .inl ⟨rfl, rfl⟩
  | @cons key x y xs ys first _ ih =>
    by_cases found : key = name
    · exact .inr ⟨x, y, by simp [Keyed.get?, found], by simp [Keyed.get?, found], first⟩
    · simpa [Keyed.get?, found] using ih

theorem insert {key : String} {x y : α} (related : R x y) (paired : PairedEntries R xs ys) :
    PairedEntries R (Keyed.insert key x xs) (Keyed.insert key y ys) := by
  induction paired with
  | nil => exact .cons related .nil
  | @cons name _ _ _ _ first rest ih =>
    by_cases same : name = key
    · simpa [Keyed.insert, same] using PairedEntries.cons related rest
    · simpa [Keyed.insert, same] using PairedEntries.cons first ih

theorem insertAll {zs ws : List (String × α)} (entries : PairedEntries R xs ys)
    (pairs : PairedEntries R zs ws) :
    PairedEntries R (Keyed.insertAll xs zs) (Keyed.insertAll ys ws) := by
  induction pairs generalizing xs ys with
  | nil => exact entries
  | cons first _ ih => exact ih (entries.insert first)

end PairedEntries

/-! ### Values that templates take for identifiers -/

namespace Template

/-- The bindings that stand in identifier positions of tokens. -/
def atIdentifiers {α : Type} : List (Token Unit) → List α → List α
  | .text _ :: tokens, bindings => atIdentifiers tokens bindings
  | .value _ :: tokens, _ :: bindings => atIdentifiers tokens bindings
  | .identifier _ :: tokens, binding :: bindings => binding :: atIdentifiers tokens bindings
  | _, _ => []

/-- The names that tokens ask for in identifier positions. -/
def identifierNames : List (Token String) → List String
  | [] => []
  | .identifier name :: tokens => name :: identifierNames tokens
  | _ :: tokens => identifierNames tokens

end Template

variable {σ : Type}

namespace Operand

/-- The value of an operand that is one. -/
def value? : Operand σ → Option Value
  | .value v => some v
  | _ => none

/-- The items of an operand that is an array. -/
def items? : Operand σ → Option (List Value)
  | .value (.array items) => some items
  | _ => none

end Operand

/-- The values that a template takes for identifiers; a binding there may also be no value. -/
def Bindings.identifierValues (template : String) : Bindings (Operand σ) → List (Option Value)
  | .none => []
  | .positional values =>
    Template.atIdentifiers (Template.positional template.toList) (values.map Operand.value?)
  | .named pairs => (Template.identifierNames (Template.named template.toList)).map fun name =>
    (Keyed.get? name pairs).bind Operand.value?

theorem Operand.map_value?_map {τ : Type} {f : Operand σ → Operand τ}
    (same : ∀ operand, (f operand).value? = operand.value?) (values : List (Operand σ)) :
    (values.map f).map Operand.value? = values.map Operand.value? := by
  rw [List.map_map]
  exact List.map_congr_left fun operand _ => same operand

theorem Operand.bind_value?_map {τ : Type} {f : Operand σ → Operand τ}
    (same : ∀ operand, (f operand).value? = operand.value?) (name : String)
    (pairs : List (String × Operand σ)) :
    (Keyed.get? name (pairs.map fun (key, operand) => (key, f operand))).bind Operand.value? =
      (Keyed.get? name pairs).bind Operand.value? := by
  induction pairs with
  | nil => rfl
  | cons pair rest ih =>
    obtain ⟨key, operand⟩ := pair
    by_cases found : key = name
    · simp [Keyed.get?, found, same]
    · simpa [Keyed.get?, found] using ih

/-! ### Similar parts -/

mutual

/-- Operands that differ in values only. -/
inductive Operand.Similar (V : Value → Value → Prop) (S : σ → σ → Prop) :
    Operand σ → Operand σ → Prop where
  | value {v w : Value} (related : V v w) : Operand.Similar V S (.value v) (.value w)
  | undefined : Operand.Similar V S .undefined .undefined
  | query {s t : σ} (related : S s t) : Operand.Similar V S (.query s) (.query t)
  | raw {f g : Fragment (Operand σ)} (similar : Fragment.Similar V S f g) :
      Operand.Similar V S (.raw f) (.raw g)

/-- Fragments of one template whose bindings are similar and the same in identifier positions. -/
inductive Fragment.Similar (V : Value → Value → Prop) (S : σ → σ → Prop) :
    Fragment (Operand σ) → Fragment (Operand σ) → Prop where
  | intro {template : String} {around : Option (String × String)} {b c : Bindings (Operand σ)}
      (bindings : Bindings.Similar V S b c)
      (identifiers : b.identifierValues template = c.identifierValues template) :
      Fragment.Similar V S ⟨template, b, around⟩ ⟨template, c, around⟩

/-- Bindings that are similar in order. -/
inductive Bindings.Similar (V : Value → Value → Prop) (S : σ → σ → Prop) :
    Bindings (Operand σ) → Bindings (Operand σ) → Prop where
  | none : Bindings.Similar V S .none .none
  | positional {xs ys : List (Operand σ)} (values : Paired (Operand.Similar V S) xs ys) :
      Bindings.Similar V S (.positional xs) (.positional ys)
  | named {xs ys : List (String × Operand σ)}
      (pairs : PairedEntries (Operand.Similar V S) xs ys) :
      Bindings.Similar V S (.named xs) (.named ys)

end

/-- Columns that differ in values only. -/
inductive Column.Similar (V : Value → Value → Prop) (S : σ → σ → Prop) :
    Column σ → Column σ → Prop where
  | name (text : String) : Column.Similar V S (.name text) (.name text)
  | numeral (text : String) : Column.Similar V S (.numeral text) (.numeral text)
  | aggregate (a : Aggregate) : Column.Similar V S (.aggregate a) (.aggregate a)
  | query {s t : σ} (related : S s t) : Column.Similar V S (.query s) (.query t)
  | raw {f g : Fragment (Operand σ)} (similar : Fragment.Similar V S f g) :
      Column.Similar V S (.raw f) (.raw g)

mutual

/-- Conditions that differ in values only. -/
inductive Condition.Similar (V : Value → Value → Prop) (S : σ → σ → Prop) :
    Condition σ → Condition σ → Prop where
  | compare {c d : Column σ} (operator : Operator) {v w : Operand σ}
      (column : Column.Similar V S c d) (value : Operand.Similar V S v w)
      (null : v.isNull = w.isNull) :
      Condition.Similar V S (.compare c operator v) (.compare d operator w)
  | columns {a b c d : Column σ} (operator : Operator) (first : Column.Similar V S a b)
      (second : Column.Similar V S c d) :
      Condition.Similar V S (.columns a operator c) (.columns b operator d)
  /-- The items of a list are values of their own. -/
  | among {c d : Column σ} {xs ys : List Value} (column : Column.Similar V S c d)
      (items : Paired V xs ys) :
      Condition.Similar V S (.isIn c (.value (.array xs))) (.isIn d (.value (.array ys)))
  | isIn {c d : Column σ} {v w : Operand σ} (column : Column.Similar V S c d)
      (values : Operand.Similar V S v w) (first : v.items? = none) (second : w.items? = none) :
      Condition.Similar V S (.isIn c v) (.isIn d w)
  | null {c d : Column σ} (column : Column.Similar V S c d) :
      Condition.Similar V S (.null c) (.null d)
  | between {c d : Column σ} {v w x y : Operand σ} (column : Column.Similar V S c d)
      (low : Operand.Similar V S v w) (high : Operand.Similar V S x y) :
      Condition.Similar V S (.between c v x) (.between d w y)
  | exists {v w : Operand σ} (query : Operand.Similar V S v w) :
      Condition.Similar V S (.exists v) (.exists w)
  | group {ts us : List (Term σ)} (terms : Paired (Term.Similar V S) ts us) :
      Condition.Similar V S (.group ts) (.group us)
  | raw {f g : Fragment (Operand σ)} (similar : Fragment.Similar V S f g) :
      Condition.Similar V S (.raw f) (.raw g)
  | literal (b : Bool) : Condition.Similar V S (.literal b) (.literal b)

/-- Conditions with the same connector and negation that differ in values only. -/
inductive Term.Similar (V : Value → Value → Prop) (S : σ → σ → Prop) :
    Term σ → Term σ → Prop where
  | intro (connector : Connector) (negated : Bool) {c d : Condition σ}
      (condition : Condition.Similar V S c d) :
      Term.Similar V S ⟨connector, negated, c⟩ ⟨connector, negated, d⟩

end

/-- Joins that differ in values only. -/
inductive Join.Similar (V : Value → Value → Prop) (S : σ → σ → Prop) : Join σ → Join σ → Prop where
  | clause (kind : JoinKind) {c d : Column σ} {ts us : List (Term σ)} (shared : List String)
      (fault : Option Fault) (table : Column.Similar V S c d)
      (conditions : Paired (Term.Similar V S) ts us) :
      Join.Similar V S (.clause ⟨kind, c, ts, shared, fault⟩) (.clause ⟨kind, d, us, shared, fault⟩)
  | raw {f g : Fragment (Operand σ)} (similar : Fragment.Similar V S f g) :
      Join.Similar V S (.raw f) (.raw g)

/-- Entries of an ordering that differ in values only. -/
inductive Order.Similar (V : Value → Value → Prop) (S : σ → σ → Prop) :
    Order σ → Order σ → Prop where
  | column {c d : Column σ} (direction : Direction) (ordered : Column.Similar V S c d) :
      Order.Similar V S (.column c direction) (.column d direction)
  | raw {f g : Fragment (Operand σ)} (similar : Fragment.Similar V S f g) :
      Order.Similar V S (.raw f) (.raw g)

/-- Unions that differ in values only. -/
inductive UnionPart.Similar (V : Value → Value → Prop) (S : σ → σ → Prop) :
    UnionPart σ → UnionPart σ → Prop where
  | intro (all wrap : Bool) {v w : Operand σ} (query : Operand.Similar V S v w) :
      UnionPart.Similar V S ⟨all, wrap, v⟩ ⟨all, wrap, w⟩

/-- What inserts write, where it differs in values only. -/
inductive InsertPayload.Similar (V : Value → Value → Prop) (S : σ → σ → Prop) :
    InsertPayload σ → InsertPayload σ → Prop where
  | rows {xs ys : List (List (String × Operand σ))}
      (table : Paired (PairedEntries (Operand.Similar V S)) xs ys) :
      InsertPayload.Similar V S (.rows xs) (.rows ys)
  | query {v w : Operand σ} (source : Operand.Similar V S v w) :
      InsertPayload.Similar V S (.query v) (.query w)

/-- Attachments of related statements; no callback is left in either. -/
inductive Attached.Related (R : Statement → Statement → Prop) : Attached → Attached → Prop where
  | prepared {s t : Statement} (related : R s t) : Attached.Related R (.prepared s) (.prepared t)

/-- Statements with related settings that differ in values only, and so do the statements nested in
them. -/
inductive Statement.Similar (V : Value → Value → Prop) (N : Settings → Settings → Prop) :
    Statement → Statement → Prop where
  | intro {s t : Statement} (settings : N s.toSettings t.toSettings)
      (table : Paired (Column.Similar V (Attached.Related (Statement.Similar V N))) s.table.toList
        t.table.toList)
      (columns : Paired (Column.Similar V (Attached.Related (Statement.Similar V N))) s.columns
        t.columns)
      (joins : Paired (Join.Similar V (Attached.Related (Statement.Similar V N))) s.joins t.joins)
      (wheres : Paired (Term.Similar V (Attached.Related (Statement.Similar V N))) s.wheres
        t.wheres)
      (groups : Paired (Column.Similar V (Attached.Related (Statement.Similar V N))) s.groups
        t.groups)
      (havings : Paired (Term.Similar V (Attached.Related (Statement.Similar V N))) s.havings
        t.havings)
      (orders : Paired (Order.Similar V (Attached.Related (Statement.Similar V N))) s.orders
        t.orders)
      (unions : Paired (UnionPart.Similar V (Attached.Related (Statement.Similar V N))) s.unions
        t.unions)
      (insert :
        Paired (InsertPayload.Similar V (Attached.Related (Statement.Similar V N))) s.insert.toList
          t.insert.toList)
      (assignments :
        PairedEntries (Operand.Similar V (Attached.Related (Statement.Similar V N))) s.assignments
          t.assignments) :
      Statement.Similar V N s t

/-- Attachments of statements that are similar. -/
abbrev Attached.Congruent (V : Value → Value → Prop) (N : Settings → Settings → Prop) :
    Attached → Attached → Prop :=
  Attached.Related (Statement.Similar V N)

/-- Statements with the same settings everywhere that differ in values only. -/
abbrev Statement.Alike (V : Value → Value → Prop) : Statement → Statement → Prop :=
  Statement.Similar V (· = ·)

/-- Attachments of statements that are alike. -/
abbrev Attached.Alike (V : Value → Value → Prop) : Attached → Attached → Prop :=
  Attached.Congruent V (· = ·)

theorem Statement.Similar.settings {V : Value → Value → Prop} {N : Settings → Settings → Prop}
    {s t : Statement} (similar : Statement.Similar V N s t) : N s.toSettings t.toSettings := by
  cases similar with
  | intro settings => exact settings

/-! ### Every part is similar to itself -/

section Reflexive

variable {V : Value → Value → Prop} {S : σ → σ → Prop}

/-- A list is similar to itself if its items are, each with its own nested statements. -/
theorem Paired.refl_of_operands {α : Type} {R : α → α → Prop} {items : List α}
    {operands : α → List (Operand σ)}
    (each : ∀ item, (∀ s, .query s ∈ operands item → S s s) → R item item)
    (nested : ∀ s, .query s ∈ items.flatMap operands → S s s) : Paired R items items := by
  refine .refl fun item inItems => each item fun s member => nested s ?_
  exact List.mem_flatMap.mpr ⟨item, inItems, member⟩

mutual

theorem Operand.Similar.refl (reflexive : ∀ v, V v v) : (operand : Operand σ) →
    (∀ s, .query s ∈ operand.operands → S s s) → Operand.Similar V S operand operand
  | .value v, _ => .value (reflexive v)
  | .undefined, _ => .undefined
  | .query s, nested => .query (nested s (by simp [Operand.operands]))
  | .raw fragment, nested =>
    .raw (Fragment.Similar.refl reflexive fragment fun s member =>
      nested s (List.mem_cons_of_mem _ member))

theorem Fragment.Similar.refl (reflexive : ∀ v, V v v) : (fragment : Fragment (Operand σ)) →
    (∀ s, .query s ∈ Fragment.operands fragment → S s s) → Fragment.Similar V S fragment fragment
  | ⟨_, bindings, _⟩, nested => .intro (Bindings.Similar.refl reflexive bindings nested) rfl

theorem Bindings.Similar.refl (reflexive : ∀ v, V v v) : (bindings : Bindings (Operand σ)) →
    (∀ s, .query s ∈ Bindings.operands bindings → S s s) → Bindings.Similar V S bindings bindings
  | .none, _ => .none
  | .positional values, nested => .positional (Operand.similar_list_refl reflexive values nested)
  | .named pairs, nested => .named (Operand.similar_pairs_refl reflexive pairs nested)

theorem Operand.similar_list_refl (reflexive : ∀ v, V v v) : (values : List (Operand σ)) →
    (∀ s, .query s ∈ Operand.operandsList values → S s s) →
    Paired (Operand.Similar V S) values values
  | [], _ => .nil
  | operand :: rest, nested =>
    .cons
      (Operand.Similar.refl reflexive operand fun s member =>
        nested s (List.mem_append_left _ member))
      (Operand.similar_list_refl reflexive rest fun s member =>
        nested s (List.mem_append_right _ member))

theorem Operand.similar_pairs_refl (reflexive : ∀ v, V v v) : (pairs : List (String × Operand σ)) →
    (∀ s, .query s ∈ Operand.operandsPairs pairs → S s s) →
    PairedEntries (Operand.Similar V S) pairs pairs
  | [], _ => .nil
  | (_, operand) :: rest, nested =>
    .cons
      (Operand.Similar.refl reflexive operand fun s member =>
        nested s (List.mem_append_left _ member))
      (Operand.similar_pairs_refl reflexive rest fun s member =>
        nested s (List.mem_append_right _ member))

end

theorem Column.Similar.refl (reflexive : ∀ v, V v v) (column : Column σ)
    (nested : ∀ s, .query s ∈ column.operands → S s s) : Column.Similar V S column column := by
  cases column with
  | name text => exact .name text
  | numeral text => exact .numeral text
  | aggregate a => exact .aggregate a
  | query s => exact .query (nested s (by simp [Column.operands]))
  | raw fragment =>
    refine .raw (Fragment.Similar.refl reflexive fragment fun s member => nested s ?_)
    exact List.mem_cons_of_mem _ member

mutual

theorem Condition.Similar.refl (reflexive : ∀ v, V v v) : (condition : Condition σ) →
    (∀ s, .query s ∈ condition.operands → S s s) → Condition.Similar V S condition condition
  | .compare column operator value, nested =>
    .compare operator
      (Column.Similar.refl reflexive column fun s member =>
        nested s (List.mem_append_left _ member))
      (Operand.Similar.refl reflexive value fun s member =>
        nested s (List.mem_append_right _ member)) rfl
  | .columns first operator second, nested =>
    .columns operator
      (Column.Similar.refl reflexive first fun s member =>
        nested s (List.mem_append_left _ member))
      (Column.Similar.refl reflexive second fun s member =>
        nested s (List.mem_append_right _ member))
  | .isIn column values, nested => by
    have same := Column.Similar.refl reflexive column fun s member =>
      nested s (List.mem_append_left _ member)
    cases found : values.items? with
    | none =>
      refine .isIn same (Operand.Similar.refl reflexive values fun s member => ?_) found found
      exact nested s (List.mem_append_right _ member)
    | some items =>
      obtain rfl : values = .value (.array items) := by
        unfold Operand.items? at found
        split at found
        · cases found
          rfl
        · cases found
      exact .among same (.refl fun v _ => reflexive v)
  | .null column, nested => .null (Column.Similar.refl reflexive column nested)
  | .between column low high, nested => by
    simp only [Condition.operands, List.append_assoc] at nested
    refine .between (Column.Similar.refl reflexive column fun s member => nested s ?_)
      (Operand.Similar.refl reflexive low fun s member => nested s ?_)
      (Operand.Similar.refl reflexive high fun s member => nested s ?_)
    · exact List.mem_append_left _ member
    · exact List.mem_append_right _ (List.mem_append_left _ member)
    · exact List.mem_append_right _ (List.mem_append_right _ member)
  | .exists query, nested => .exists (Operand.Similar.refl reflexive query nested)
  | .group terms, nested => .group (Term.similar_list_refl reflexive terms nested)
  | .raw fragment, nested =>
    .raw (Fragment.Similar.refl reflexive fragment fun s member =>
      nested s (List.mem_cons_of_mem _ member))
  | .literal b, _ => .literal b

theorem Term.similar_list_refl (reflexive : ∀ v, V v v) : (terms : List (Term σ)) →
    (∀ s, .query s ∈ Term.operandsList terms → S s s) → Paired (Term.Similar V S) terms terms
  | [], _ => .nil
  | ⟨connector, negated, condition⟩ :: rest, nested =>
    .cons (.intro connector negated (Condition.Similar.refl reflexive condition fun s member =>
        nested s (List.mem_append_left _ member)))
      (Term.similar_list_refl reflexive rest fun s member =>
        nested s (List.mem_append_right _ member))

end

theorem Join.Similar.refl (reflexive : ∀ v, V v v) (join : Join σ)
    (nested : ∀ s, .query s ∈ join.operands → S s s) : Join.Similar V S join join := by
  cases join with
  | clause joined =>
    obtain ⟨kind, table, conditions, shared, fault⟩ := joined
    refine .clause kind shared fault (Column.Similar.refl reflexive table fun s member => nested s
      ?_)
      (Term.similar_list_refl reflexive conditions fun s member => nested s ?_)
    · exact List.mem_append_left _ member
    · exact List.mem_append_right _ member
  | raw fragment =>
    exact .raw (Fragment.Similar.refl reflexive fragment fun s member =>
      nested s (List.mem_cons_of_mem _ member))

theorem Order.Similar.refl (reflexive : ∀ v, V v v) (order : Order σ)
    (nested : ∀ s, .query s ∈ order.operands → S s s) : Order.Similar V S order order := by
  cases order with
  | column ordered direction =>
    exact .column direction (Column.Similar.refl reflexive ordered nested)
  | raw fragment =>
    exact .raw (Fragment.Similar.refl reflexive fragment fun s member =>
      nested s (List.mem_cons_of_mem _ member))

theorem UnionPart.Similar.refl (reflexive : ∀ v, V v v) (union : UnionPart σ)
    (nested : ∀ s, .query s ∈ union.query.operands → S s s) : UnionPart.Similar V S union union :=
  .intro union.all union.wrap (Operand.Similar.refl reflexive union.query nested)

theorem InsertPayload.Similar.refl (reflexive : ∀ v, V v v) (payload : InsertPayload σ)
    (nested : ∀ s, .query s ∈ payload.operands → S s s) :
    InsertPayload.Similar V S payload payload := by
  cases payload with
  | rows table =>
    exact .rows (Paired.refl_of_operands (Operand.similar_pairs_refl reflexive) nested)
  | query source => exact .query (Operand.Similar.refl reflexive source nested)

end Reflexive

/-- A statement is similar to itself if all settings in it are related to themselves and no callback
is left in it. -/
theorem Statement.Similar.refl {V : Value → Value → Prop} {N : Settings → Settings → Prop}
    (reflexive : ∀ v, V v v) {s : Statement}
    (all : s.All fun t => t.Resolved ∧ N t.toSettings t.toSettings) :
    Statement.Similar V N s s := by
  induction all with
  | @intro s here _ ih =>
    obtain ⟨resolved, settings⟩ := here
    have nested : ∀ a, .query a ∈ s.operands → Attached.Congruent V N a a := by
      intro a member
      obtain ⟨t, rfl⟩ := resolved a member
      exact .prepared (ih _ member default)
    simp only [Statement.operands, List.mem_append, or_imp, forall_and] at nested
    obtain ⟨⟨⟨⟨⟨⟨⟨⟨⟨inTable, inColumns⟩, inJoins⟩, inWheres⟩, inGroups⟩, inHavings⟩, inOrders⟩,
      inUnions⟩, inInsert⟩, inAssignments⟩ := nested
    exact .intro settings (.refl_of_operands (Column.Similar.refl reflexive) inTable)
      (.refl_of_operands (Column.Similar.refl reflexive) inColumns)
      (.refl_of_operands (Join.Similar.refl reflexive) inJoins)
      (Term.similar_list_refl reflexive _ inWheres)
      (.refl_of_operands (Column.Similar.refl reflexive) inGroups)
      (Term.similar_list_refl reflexive _ inHavings)
      (.refl_of_operands (Order.Similar.refl reflexive) inOrders)
      (.refl_of_operands (UnionPart.Similar.refl reflexive) inUnions)
      (.refl_of_operands (InsertPayload.Similar.refl reflexive) inInsert)
      (Operand.similar_pairs_refl reflexive _ inAssignments)

end PortableSql
