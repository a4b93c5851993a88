import PortableSql.Call
import PortableSql.Proofs.Tree

/-!
The shapes of the parts of a statement.

`Condition.nodes` lists a condition with the conditions inside it, and `Condition.Shaped` says what
one of them looks like when a builder has made it. A join under construction is shaped after every
call on it, and stays so when its nested statements are resolved; the rows of an insert never name
a column twice.
-/

namespace PortableSql

variable {σ : Type}

/-! ### The conditions inside a condition -/

mutual

/-- A condition and the conditions inside it. -/
def Condition.nodes : Condition σ → List (Condition σ)
  | .group terms => .group terms :: Term.nodesList terms
  | .compare column operator value => [.compare column operator value]
  | .columns first operator second => [.columns first operator second]
  | .isIn column values => [.isIn column values]
  | .null column => [.null column]
  | .between column low high => [.between column low high]
  | .exists query => [.exists query]
  | .raw fragment => [.raw fragment]
  | .literal b => [.literal b]

/-- The conditions in a list of terms, with the conditions inside them. -/
def Term.nodesList : List (Term σ) → List (Condition σ)
  | [] => []
  | ⟨_, _, condition⟩ :: rest => condition.nodes ++ Term.nodesList rest

end

theorem Term.nodesList_append (front back : List (Term σ)) :
    Term.nodesList (front ++ back) = Term.nodesList front ++ Term.nodesList back := by
  induction front with
  | nil => rfl
  | cons term rest ih =>
    obtain ⟨connector, negated, condition⟩ := term
    rw [List.cons_append, nodesList, nodesList, ih, List.append_assoc]

/-! ### Shapes -/

/-- What one condition looks like: its operator is permitted, a comparison does not stand for a
membership, a range or a null check, a membership has a list or a query, an existence has a query,
and a group is not empty. -/
def Condition.Shaped : Condition σ → Prop
  | .compare _ operator value =>
    operator.normalized ∈ Operator.permitted ∧
      operator.normalized ∉ ["in", "not in", "between", "not between"] ∧
      (value.isNull = true → operator.normalized ∉ ["=", "is", "is not"])
  | .columns _ operator _ => operator.normalized ∈ Operator.permitted
  | .isIn _ values => values.isQuery = true ∨ ∃ items, values = .value (.array items)
  | .exists query => query.isQuery = true
  | .group terms => terms ≠ []
  | .null _ | .between _ _ _ | .raw _ | .literal _ => True

/-- All conditions in a list of terms are shaped, also inside groups. -/
def Term.Shaped (terms : List (Term σ)) : Prop :=
  ∀ condition ∈ Term.nodesList terms, condition.Shaped

/-- No row of an insert names a column twice. -/
def InsertPayload.Distinct : InsertPayload σ → Prop
  | .rows table => ∀ row ∈ table, (Keyed.keys row).Nodup
  | .query _ => True

namespace Term.Shaped

variable {front back : List (Term σ)}

theorem nil : Term.Shaped ([] : List (Term σ)) :=
  fun _ member => absurd member List.not_mem_nil

theorem append (first : Term.Shaped front) (second : Term.Shaped back) :
    Term.Shaped (front ++ back) := by
  intro condition member
  rw [nodesList_append] at member
  rcases List.mem_append.mp member with member | member
  · exact first condition member
  · exact second condition member

/-- A condition without others inside it. -/
theorem single (condition : Condition σ) (leaf : condition.nodes = [condition])
    (shaped : condition.Shaped) (connector : Connector) (negated : Bool) :
    Term.Shaped [⟨connector, negated, condition⟩] := by
  intro other member
  rw [nodesList, nodesList, List.append_nil, leaf, List.mem_singleton] at member
  exact member ▸ shaped

/-- Terms that become a group, unless there are none. -/
theorem group {terms : List (Term σ)} (shaped : Term.Shaped terms) (connector : Connector)
    (negated : Bool) :
    Term.Shaped (if terms.isEmpty then [] else [⟨connector, negated, .group terms⟩]) := by
  split
  · exact nil
  · rename_i some
    intro other member
    rw [nodesList, nodesList, List.append_nil, Condition.nodes] at member
    rcases List.mem_cons.mp member with rfl | member
    · exact fun none => some (List.isEmpty_iff.mpr none)
    · exact shaped other member

end Term.Shaped

/-! ### Accepted operators -/

namespace Operator

variable {s word : String} {operator : Operator}

theorem parse_of_listed (listed : normalize s ∈ permitted) :
    parse s = .ok ⟨Text.trim s, normalize s⟩ :=
  if_pos (List.contains_iff_mem.mpr listed)

theorem listed_of_parse (parsed : parse s = .ok operator) :
    normalize s ∈ permitted ∧ operator = ⟨Text.trim s, normalize s⟩ := by
  by_cases listed : normalize s ∈ permitted
  · rw [parse_of_listed listed] at parsed
    exact ⟨listed, (Except.ok.inj parsed).symm⟩
  · have refused : parse s = .error (.operator s) :=
      if_neg fun contained => listed (List.contains_iff_mem.mp contained)
    rw [refused] at parsed
    cases parsed

theorem permitted_of_parse (parsed : parse s = .ok operator) :
    operator.normalized ∈ permitted := by
  obtain ⟨listed, rfl⟩ := listed_of_parse parsed
  exact listed

/-- An operator in the form in which operators are looked up, with no character in it that is looked
up or written as another one. -/
structure Canonical (word : String) : Prop where
  noKelvin : '\u212a' ∉ word.toList
  noBackslash : '\\' ∉ word.toList
  normal : normalize word = word
  trimmed : Text.trim word = word

theorem canonical_of_permitted (listed : word ∈ permitted) : Canonical word := by
  have all : permitted.all (fun word =>
      decide ('\u212a' ∉ word.toList) && decide ('\\' ∉ word.toList) && normalize word == word &&
        Text.trim word == word) = true := by
    decide +kernel
  have own := List.all_eq_true.mp all word listed
  simp only [Bool.and_eq_true, decide_eq_true_eq, beq_iff_eq] at own
  obtain ⟨⟨⟨noKelvin, noBackslash⟩, normal⟩, trimmed⟩ := own
  exact ⟨noKelvin, noBackslash, normal, trimmed⟩

/-- A permitted operator spells itself. -/
theorem parse_of_permitted (listed : word ∈ permitted) : parse word = .ok ⟨word, word⟩ := by
  have canonical := canonical_of_permitted listed
  have parsed := parse_of_listed (canonical.normal.symm ▸ listed)
  rwa [canonical.normal, canonical.trimmed] at parsed

theorem parse_equals : parse "=" = .ok .equals :=
  parse_of_permitted (by decide)

end Operator

/-! ### Joins under construction -/

namespace JoinDraft

variable {draft : JoinDraft}

theorem shaped_on (shaped : Term.Shaped draft.conditions) (connector : Connector)
    (first : Column Attached) (operator : String) (second : Column Attached) :
    Term.Shaped (draft.on connector first operator second).conditions := by
  unfold on
  cases parsed : Operator.parse operator with
  | error fault => exact shaped
  | ok operator =>
    have permitted := Operator.permitted_of_parse parsed
    exact shaped.append (.single (.columns first operator second) rfl permitted connector false)

theorem shaped_onRaw (shaped : Term.Shaped draft.conditions) (connector : Connector)
    (fragment : Fragment (Operand Attached)) :
    Term.Shaped (draft.onRaw connector fragment).conditions :=
  shaped.append (.single (.raw fragment) rfl trivial connector false)

theorem shaped_onGroup {built : JoinDraft} (shaped : Term.Shaped draft.conditions)
    (connector : Connector) (inner : Term.Shaped built.conditions) :
    Term.Shaped (draft.onGroup connector built).conditions := by
  have grouped := shaped.append (inner.group connector false)
  unfold onGroup
  dsimp only
  by_cases none : built.conditions.isEmpty
  · rwa [if_pos none]
  · rw [if_neg none] at grouped ⊢
    exact grouped

end JoinDraft

mutual

theorem JoinCall.shaped_run (target : Target) {draft : JoinDraft}
    (shaped : Term.Shaped draft.conditions) : (call : JoinCall) →
    Term.Shaped (call.run target draft).value.conditions
  | .on connector _ operator _ => JoinDraft.shaped_on shaped connector _ operator _
  | .onRaw connector _ => JoinDraft.shaped_onRaw shaped connector _
  | .onGroup connector calls =>
    JoinDraft.shaped_onGroup shaped connector (JoinCall.shaped_runAll target calls .nil)
  | .onShared _ => shaped

theorem JoinCall.shaped_runAll (target : Target) : (calls : List JoinCall) → {draft : JoinDraft} →
    Term.Shaped draft.conditions → Term.Shaped (JoinCall.runAll target calls draft).value.conditions
  | [], _, shaped => shaped
  | call :: rest, _, shaped =>
    JoinCall.shaped_runAll target rest (JoinCall.shaped_run target shaped call)

end

/-! ### Resolving keeps shapes -/

section Resolving

variable (target : Target)

theorem Operand.isNull_resolve (operand : Operand Attached) :
    (operand.resolve target).value.isNull = operand.isNull := by
  cases operand <;> rfl

theorem Operand.isQuery_resolve (operand : Operand Attached) :
    (operand.resolve target).value.isQuery = operand.isQuery := by
  cases operand <;> rfl

theorem Operand.keys_resolvePairs (pairs : List (String × Operand Attached)) :
    Keyed.keys (Operand.resolvePairs target pairs).value = Keyed.keys pairs := by
  induction pairs with
  | nil => rfl
  | cons pair rest ih => exact congrArg (pair.1 :: ·) ih

theorem Operand.mem_resolveRows {rows : List (List (String × Operand Attached))}
    {row : List (String × Operand Attached)}
    (member : row ∈ (Operand.resolveRows target rows).value) :
    ∃ given ∈ rows, Keyed.keys row = Keyed.keys given := by
  induction rows with
  | nil => cases member
  | cons first rest ih =>
    rcases List.mem_cons.mp member with rfl | member
    · exact ⟨first, by simp, keys_resolvePairs target first⟩
    · obtain ⟨given, inRest, same⟩ := ih member
      exact ⟨given, by simp [inRest], same⟩

theorem Term.resolveList_ne_nil {terms : List (Term Attached)} (some : terms ≠ []) :
    (Term.resolveList target terms).value ≠ [] := by
  cases terms with
  | nil => exact absurd rfl some
  | cons term rest =>
    obtain ⟨connector, negated, condition⟩ := term
    exact List.cons_ne_nil _ _

mutual

theorem Condition.shaped_resolve : (condition : Condition Attached) →
    (∀ node ∈ condition.nodes, node.Shaped) →
    ∀ node ∈ (condition.resolve target).value.nodes, node.Shaped
  | .compare column operator value, shaped, node, member => by
    obtain rfl := List.mem_singleton.mp member
    have own := shaped (.compare column operator value) (by simp [Condition.nodes])
    rw [Condition.Shaped, ← Operand.isNull_resolve target value] at own
    exact own
  | .columns first operator second, shaped, node, member => by
    obtain rfl := List.mem_singleton.mp member
    exact shaped (.columns first operator second) (by simp [Condition.nodes])
  | .isIn column values, shaped, node, member => by
    obtain rfl := List.mem_singleton.mp member
    rcases shaped (.isIn column values) (by simp [Condition.nodes]) with query | ⟨items, rfl⟩
    · exact .inl ((Operand.isQuery_resolve target values).trans query)
    · exact .inr ⟨items, rfl⟩
  | .null _, _, node, member => by
    obtain rfl := List.mem_singleton.mp member
    trivial
  | .between _ _ _, _, node, member => by
    obtain rfl := List.mem_singleton.mp member
    trivial
  | .exists query, shaped, node, member => by
    obtain rfl := List.mem_singleton.mp member
    have own := shaped (.exists query) (by simp [Condition.nodes])
    exact (Operand.isQuery_resolve target query).trans own
  | .group terms, shaped, node, member => by
    rcases List.mem_cons.mp member with rfl | inside
    · exact Term.resolveList_ne_nil target (shaped (.group terms) List.mem_cons_self)
    · refine Term.shaped_resolveList terms (fun other inTerms => ?_) node inside
      exact shaped other (List.mem_cons_of_mem _ inTerms)
  | .raw _, _, node, member => by
    obtain rfl := List.mem_singleton.mp member
    trivial
  | .literal _, _, node, member => by
    obtain rfl := List.mem_singleton.mp member
    trivial

theorem Term.shaped_resolveList : (terms : List (Term Attached)) → Term.Shaped terms →
    Term.Shaped (Term.resolveList target terms).value
  | [], _ => .nil
  | ⟨_, _, condition⟩ :: rest, shaped => by
    intro node member
    rcases List.mem_append.mp member with inFirst | inRest
    · refine Condition.shaped_resolve condition (fun other inside => ?_) node inFirst
      exact shaped other (List.mem_append_left _ inside)
    · refine Term.shaped_resolveList rest (fun other inside => ?_) node inRest
      exact shaped other (List.mem_append_right _ inside)

end

end Resolving

/-! ### The rows of an insert -/

theorem Keyed.nodup_keys_ofPairs {α : Type} (pairs : List (String × α)) :
    (Keyed.keys (Keyed.ofPairs pairs)).Nodup :=
  Keyed.nodup_keys_insertAll pairs List.nodup_nil

theorem Operand.distinct_attachRows (target : Target)
    (rows : List (List (String × Operand Nested))) :
    ∀ row ∈ (Operand.attachRows target rows).value, (Keyed.keys row).Nodup := by
  induction rows with
  | nil => exact fun _ member => absurd member List.not_mem_nil
  | cons pairs rest ih =>
    intro row member
    rcases List.mem_cons.mp member with rfl | member
    · exact Keyed.nodup_keys_ofPairs _
    · exact ih row member

theorem InsertPayload.distinct_attach (target : Target) (payload : InsertPayload Nested) :
    (payload.attach target).value.Distinct := by
  cases payload with
  | rows rows => exact Operand.distinct_attachRows target rows
  | query query => trivial

end PortableSql
