import PortableSql.Statement

/-!
Statements inside statements.

`operands` lists everything that stands in the place of a value or an identifier and is not a bare
name or number, with the bindings of fragments, from left to right. The attachments among the
operands of a statement stand for the statements nested directly in it. `Statement.All` says that
something holds of a statement and of every statement nested in it to any depth, those included that
a callback left in it builds for some target.
-/

namespace PortableSql

variable {σ : Type}

mutual

/-- An operand and the operands bound inside it. -/
def Operand.operands : Operand σ → List (Operand σ)
  | .value v => [.value v]
  | .undefined => [.undefined]
  | .query s => [.query s]
  | .raw fragment => .raw fragment :: Fragment.operands fragment

/-- The operands bound inside a fragment. -/
def Fragment.operands : Fragment (Operand σ) → List (Operand σ)
  | ⟨_, bindings, _⟩ => Bindings.operands bindings

/-- The operands in the bindings of a fragment. -/
def Bindings.operands : Bindings (Operand σ) → List (Operand σ)
  | .none => []
  | .positional values => Operand.operandsList values
  | .named pairs => Operand.operandsPairs pairs

/-- The operands in a list. -/
def Operand.operandsList : List (Operand σ) → List (Operand σ)
  | [] => []
  | operand :: rest => operand.operands ++ Operand.operandsList rest

/-- The operands in a list of named operands. -/
def Operand.operandsPairs : List (String × Operand σ) → List (Operand σ)
  | [] => []
  | (_, operand) :: rest => operand.operands ++ Operand.operandsPairs rest

end

/-- The operands in a column. -/
def Column.operands : Column σ → List (Operand σ)
  | .name _ | .numeral _ | .aggregate _ => []
  | .query s => [.query s]
  | .raw fragment => (Operand.raw fragment).operands

mutual

/-- The operands in a condition. -/
def Condition.operands : Condition σ → List (Operand σ)
  | .compare column _ value => column.operands ++ value.operands
  | .columns first _ second => first.operands ++ second.operands
  | .isIn column values => column.operands ++ values.operands
  | .null column => column.operands
  | .between column low high => column.operands ++ low.operands ++ high.operands
  | .exists query => query.operands
  | .group terms => Term.operandsList terms
  | .raw fragment => (Operand.raw fragment).operands
  | .literal _ => []

/-- The operands in a list of conditions. -/
def Term.operandsList : List (Term σ) → List (Operand σ)
  | [] => []
  | ⟨_, _, condition⟩ :: rest => condition.operands ++ Term.operandsList rest

end

/-- The operands in a join. -/
def Join.operands : Join σ → List (Operand σ)
  | .clause joined => joined.table.operands ++ Term.operandsList joined.conditions
  | .raw fragment => (Operand.raw fragment).operands

/-- The operands in an entry of an ordering. -/
def Order.operands : Order σ → List (Operand σ)
  | .column ordered _ => ordered.operands
  | .raw fragment => (Operand.raw fragment).operands

/-- The operands in what an insert writes. -/
def InsertPayload.operands : InsertPayload σ → List (Operand σ)
  | .rows table => table.flatMap Operand.operandsPairs
  | .query source => source.operands

/-- The operands in a statement, but not those in the statements nested in it. -/
def Statement.operands (s : Statement) : List (Operand Attached) :=
  s.table.toList.flatMap Column.operands ++ s.columns.flatMap Column.operands ++
    s.joins.flatMap Join.operands ++ Term.operandsList s.wheres ++
    s.groups.flatMap Column.operands ++ Term.operandsList s.havings ++
    s.orders.flatMap Order.operands ++ s.unions.flatMap (·.query.operands) ++
    s.insert.toList.flatMap InsertPayload.operands ++ Operand.operandsPairs s.assignments

/-- An operand is the first of its own. -/
theorem Operand.mem_operands (operand : Operand σ) : operand ∈ operand.operands := by
  cases operand with
  | raw fragment => exact List.mem_cons_self
  | value | undefined | query => exact List.mem_singleton_self _

/-! ### Plain operands -/

/-- A fragment that stands alone and binds values only. -/
structure Fragment.Lone (fragment : Fragment (Operand σ)) : Prop where
  alone : fragment.around = none
  values : ∀ operand ∈ Fragment.operands fragment, ∃ v, operand = .value v

/-- An operand that a document can hold: a value, or a fragment that stands alone. -/
inductive Operand.Plain : Operand σ → Prop where
  | value (v : Value) : Operand.Plain (.value v)
  | raw {fragment : Fragment (Operand σ)} (lone : fragment.Lone) : Operand.Plain (.raw fragment)

/-! ### Members of the lists -/

theorem Operand.operandsList_eq_flatMap (values : List (Operand σ)) :
    Operand.operandsList values = values.flatMap Operand.operands := by
  induction values with
  | nil => rfl
  | cons operand rest ih => simp [Operand.operandsList, ih]

theorem Operand.operandsPairs_eq_flatMap (pairs : List (String × Operand σ)) :
    Operand.operandsPairs pairs = pairs.flatMap (·.2.operands) := by
  induction pairs with
  | nil => rfl
  | cons pair rest ih => simp [Operand.operandsPairs, ih]

theorem Term.operandsList_eq_flatMap (terms : List (Term σ)) :
    Term.operandsList terms = terms.flatMap (·.condition.operands) := by
  induction terms with
  | nil => rfl
  | cons term rest ih =>
    obtain ⟨connector, negated, condition⟩ := term
    simp [Term.operandsList, ih]

namespace Keyed

variable {α : Type}

/-- An entry was there before or has the new value. -/
theorem mem_insert {key : String} {value : α} {entries : Keyed α}
    {entry : String × α} (member : entry ∈ Keyed.insert key value entries) :
    entry ∈ entries ∨ entry.2 = value := by
  induction entries with
  | nil =>
    obtain rfl : entry = (key, value) := by simpa [Keyed.insert] using member
    exact .inr rfl
  | cons head rest ih =>
    obtain ⟨k, v⟩ := head
    unfold Keyed.insert at member
    split at member
    · rcases List.mem_cons.mp member with rfl | member
      · exact .inr rfl
      · exact .inl (List.mem_cons_of_mem _ member)
    · rcases List.mem_cons.mp member with rfl | member
      · exact .inl List.mem_cons_self
      · rcases ih member with member | same
        · exact .inl (List.mem_cons_of_mem _ member)
        · exact .inr same

/-- An entry has the value of one that was there or was given. -/
theorem mem_insertAll {pairs : List (String × α)} {entries : Keyed α}
    {entry : String × α} (member : entry ∈ Keyed.insertAll entries pairs) :
    ∃ given ∈ entries ++ pairs, given.2 = entry.2 := by
  induction pairs generalizing entries with
  | nil => exact ⟨entry, by simpa [Keyed.insertAll] using member, rfl⟩
  | cons pair rest ih =>
    obtain ⟨given, inBoth, same⟩ := ih member
    rcases List.mem_append.mp inBoth with inFirst | inRest
    · rcases mem_insert inFirst with inFirst | equal
      · exact ⟨given, List.mem_append_left _ inFirst, same⟩
      · exact ⟨pair, by simp, by rw [← same, equal]⟩
    · exact ⟨given, by simp [inRest], same⟩

end Keyed

/-- Entries that are set hold what was there or what is given. -/
theorem Operand.mem_operandsPairs_insertAll {entries pairs : List (String × Operand σ)}
    {operand : Operand σ}
    (member : operand ∈ Operand.operandsPairs (Keyed.insertAll entries pairs)) :
    operand ∈ Operand.operandsPairs entries ∨ operand ∈ Operand.operandsPairs pairs := by
  simp only [Operand.operandsPairs_eq_flatMap] at member ⊢
  obtain ⟨entry, inAll, member⟩ := List.mem_flatMap.mp member
  obtain ⟨given, inBoth, same⟩ := Keyed.mem_insertAll inAll
  rw [← same] at member
  rcases List.mem_append.mp inBoth with inEntries | inPairs
  · exact .inl (List.mem_flatMap.mpr ⟨given, inEntries, member⟩)
  · exact .inr (List.mem_flatMap.mpr ⟨given, inPairs, member⟩)

/-! ### Every nested statement -/

/-- Something holds of a statement and of every statement nested in it to any depth. -/
inductive Statement.All (P : Statement → Prop) : Statement → Prop where
  | intro {s : Statement} (here : P s)
      (nested : ∀ a, .query a ∈ s.operands → ∀ target, Statement.All P (a.statement target)) :
      Statement.All P s

namespace Statement.All

variable {P Q : Statement → Prop} {s : Statement} {a : Attached}

theorem here (all : s.All P) : P s := by
  cases all with
  | intro here _ => exact here

theorem nested (all : s.All P) (member : .query a ∈ s.operands) (target : Target) :
    (a.statement target).All P := by
  cases all with
  | intro _ nested => exact nested a member target

theorem mono (implied : ∀ s, P s → Q s) (all : s.All P) : s.All Q := by
  induction all with
  | intro here _ ih => exact .intro (implied _ here) ih

theorem and (first : s.All P) (second : s.All Q) : s.All fun t => P t ∧ Q t := by
  induction first with
  | intro here _ ih =>
    exact .intro ⟨here, second.here⟩ fun a member target =>
      ih a member target (second.nested member target)

end Statement.All

/-! ### Recorded faults and callbacks -/

/-- The fault recorded in a join. -/
def Join.fault? : Join σ → Option Fault
  | .clause joined => joined.fault
  | .raw _ => none

/-- The faults recorded in a statement itself: its own, and those of its joins. -/
def Statement.faults (s : Statement) : List Fault :=
  s.fault.toList ++ s.joins.filterMap Join.fault?

/-- No callback that is still to be run is nested directly in a statement. -/
def Statement.Resolved (s : Statement) : Prop :=
  ∀ a, .query a ∈ s.operands → ∃ t, a = .prepared t

/-- What builders leave in a statement: no callback is still to be run, and no join has a fault of
its own. -/
structure Statement.Settled (s : Statement) : Prop where
  resolved : s.Resolved
  joins : ∀ joined, .clause joined ∈ s.joins → joined.fault = none

theorem Statement.Settled.faults_eq {s : Statement} (settled : s.Settled) :
    s.faults = s.fault.toList := by
  rw [faults, List.filterMap_eq_nil_iff.mpr, List.append_nil]
  intro join member
  cases join with
  | clause joined => exact settled.joins joined member
  | raw fragment => rfl

/-! ### Induction on the nesting -/

/-- A statement in which nothing is nested without end. -/
abbrev Statement.Founded : Statement → Prop :=
  Statement.All fun _ => True

/-- Every statement that the attachments among operands stand for is founded. -/
def Operand.Founded (operands : List (Operand Attached)) : Prop :=
  ∀ a, .query a ∈ operands → ∀ target, (a.statement target).Founded

namespace Operand.Founded

variable {xs ys : List (Operand Attached)}

theorem nil : Operand.Founded [] :=
  fun _ member => absurd member List.not_mem_nil

theorem append (front : Operand.Founded xs) (back : Operand.Founded ys) :
    Operand.Founded (xs ++ ys) := by
  intro a member
  rcases List.mem_append.mp member with member | member
  · exact front a member
  · exact back a member

theorem query {a : Attached} (founded : ∀ target, (a.statement target).Founded) :
    Operand.Founded [.query a] := by
  intro b member
  cases List.mem_singleton.mp member
  exact founded

theorem raw {fragment : Fragment (Operand Attached)}
    (inside : Operand.Founded (Fragment.operands fragment)) :
    Operand.Founded (Operand.raw fragment).operands :=
  fun a member => inside a (by simpa [Operand.operands] using member)

end Operand.Founded

-- The recursion goes through every type of part, because callbacks have no size to go down in.
mutual

private theorem Attached.founded : (a : Attached) → ∀ target, (a.statement target).Founded
  | .prepared s, _ => Statement.founded s
  | .callback build, target => Attached.founded_built (build target)

private theorem Attached.founded_built : (built : Logged Statement) → built.value.Founded
  | ⟨s, _⟩ => Statement.founded s

private theorem Operand.founded : (operand : Operand Attached) →
    Operand.Founded operand.operands
  | .value _ | .undefined => fun a member => by simp [Operand.operands] at member
  | .query a => .query (Attached.founded a)
  | .raw fragment => .raw (Fragment.founded fragment)

private theorem Fragment.founded : (fragment : Fragment (Operand Attached)) →
    Operand.Founded (Fragment.operands fragment)
  | ⟨_, bindings, _⟩ => Bindings.founded bindings

private theorem Bindings.founded : (bindings : Bindings (Operand Attached)) →
    Operand.Founded (Bindings.operands bindings)
  | .none => .nil
  | .positional values => Operand.founded_list values
  | .named pairs => Operand.founded_pairs pairs

private theorem Operand.founded_list : (values : List (Operand Attached)) →
    Operand.Founded (Operand.operandsList values)
  | [] => .nil
  | operand :: rest => (Operand.founded operand).append (Operand.founded_list rest)

private theorem Operand.founded_pairs : (pairs : List (String × Operand Attached)) →
    Operand.Founded (Operand.operandsPairs pairs)
  | [] => .nil
  | (_, operand) :: rest => (Operand.founded operand).append (Operand.founded_pairs rest)

private theorem Operand.founded_rows : (rows : List (List (String × Operand Attached))) →
    Operand.Founded (rows.flatMap Operand.operandsPairs)
  | [] => .nil
  | row :: rest => (Operand.founded_pairs row).append (Operand.founded_rows rest)

private theorem Column.founded : (column : Column Attached) →
    Operand.Founded column.operands
  | .name _ | .numeral _ | .aggregate _ => .nil
  | .query a => .query (Attached.founded a)
  | .raw fragment => .raw (Fragment.founded fragment)

private theorem Column.founded_option : (column : Option (Column Attached)) →
    Operand.Founded (column.toList.flatMap Column.operands)
  | none => .nil
  | some column => (Column.founded column).append .nil

private theorem Column.founded_list : (columns : List (Column Attached)) →
    Operand.Founded (columns.flatMap Column.operands)
  | [] => .nil
  | column :: rest => (Column.founded column).append (Column.founded_list rest)

private theorem Condition.founded : (condition : Condition Attached) →
    Operand.Founded condition.operands
  | .compare column _ value =>
    (Column.founded column).append (Operand.founded value)
  | .columns first _ second =>
    (Column.founded first).append (Column.founded second)
  | .isIn column values =>
    (Column.founded column).append (Operand.founded values)
  | .null column => Column.founded column
  | .between column low high =>
    ((Column.founded column).append (Operand.founded low)).append
      (Operand.founded high)
  | .exists query => Operand.founded query
  | .group terms => Term.founded_list terms
  | .raw fragment => .raw (Fragment.founded fragment)
  | .literal _ => .nil

private theorem Term.founded_list : (terms : List (Term Attached)) →
    Operand.Founded (Term.operandsList terms)
  | [] => .nil
  | ⟨_, _, condition⟩ :: rest => (Condition.founded condition).append (Term.founded_list rest)

private theorem Join.founded : (join : Join Attached) →
    Operand.Founded join.operands
  | .clause ⟨_, table, conditions, _, _⟩ =>
    (Column.founded table).append (Term.founded_list conditions)
  | .raw fragment => .raw (Fragment.founded fragment)

private theorem Join.founded_list : (joins : List (Join Attached)) →
    Operand.Founded (joins.flatMap Join.operands)
  | [] => .nil
  | join :: rest => (Join.founded join).append (Join.founded_list rest)

private theorem Order.founded : (order : Order Attached) →
    Operand.Founded order.operands
  | .column column _ => Column.founded column
  | .raw fragment => .raw (Fragment.founded fragment)

private theorem Order.founded_list : (orders : List (Order Attached)) →
    Operand.Founded (orders.flatMap Order.operands)
  | [] => .nil
  | order :: rest => (Order.founded order).append (Order.founded_list rest)

private theorem UnionPart.founded_list : (unions : List (UnionPart Attached)) →
    Operand.Founded (unions.flatMap (·.query.operands))
  | [] => .nil
  | ⟨_, _, query⟩ :: rest => (Operand.founded query).append (UnionPart.founded_list rest)

private theorem InsertPayload.founded_option : (insert : Option (InsertPayload Attached)) →
    Operand.Founded (insert.toList.flatMap InsertPayload.operands)
  | none => .nil
  | some (.rows rows) => (Operand.founded_rows rows).append .nil
  | some (.query query) => (Operand.founded query).append .nil

theorem Statement.founded : (s : Statement) → s.Founded
  | ⟨settings, table, columns, joins, wheres, groups, havings, orders, unions, insert,
      assignments⟩ => by
    refine .intro trivial ?_
    exact ((((((((((Column.founded_option table).append (Column.founded_list columns)).append
      (Join.founded_list joins)).append (Term.founded_list wheres)).append
      (Column.founded_list groups)).append (Term.founded_list havings)).append
      (Order.founded_list orders)).append (UnionPart.founded_list unions)).append
      (InsertPayload.founded_option insert)).append (Operand.founded_pairs assignments))

end

theorem Statement.All.of_forall {P : Statement → Prop} (each : ∀ s, P s) (s : Statement) :
    s.All P :=
  s.founded.mono fun t _ => each t

end PortableSql
