import PortableSql.Proofs.Operations

/-!
What is attached brings its fault along.

Building from arguments records the faults of the statements nested in them, in the order of the
arguments, and faults of its own where an argument does not fit. `Build.Adopts` says of what is
built that its fault is the first of a list of faults, and that everything nested in it was there
before or is a statement, not a callback, that comes from the arguments and whose own fault is on
the list.
-/

namespace PortableSql

/-! ### The first fault -/

namespace Fault

/-- The first of a fault and of a list is recorded. -/
theorem head?_toList_append (recorded : Option Fault) (faults : List Fault) :
    (recorded.toList ++ faults).head? = (recorded <|> faults.head?) := by
  cases recorded <;> rfl

theorem head?_toList (recorded : Option Fault) : recorded.toList.head? = recorded := by
  cases recorded <;> rfl

/-- Recording nothing more changes nothing. -/
theorem head?_toList_append_nil (recorded : Option Fault) :
    (recorded.toList ++ []).head? = recorded := by
  rw [List.append_nil, head?_toList]

/-- Of the entries of a list only the first counts. -/
theorem head?_first_append (xs ys : List Fault) :
    (xs.head?.toList ++ ys).head? = (xs ++ ys).head? := by
  cases xs <;> rfl

end Fault

/-! ### Faults of nested statements -/

/-- The fault of the statement that an operand attaches. -/
def Operand.fault? (target : Target) : Operand Attached → Option Fault
  | .query a => (a.statement target).fault
  | _ => none

/-- The faults of the statements that operands attach, in order. -/
def attachedFaults (target : Target) (operands : List (Operand Attached)) : List Fault :=
  operands.filterMap (Operand.fault? target)

section

variable (target : Target)

@[simp] theorem attachedFaults_append (xs ys : List (Operand Attached)) :
    attachedFaults target (xs ++ ys) = attachedFaults target xs ++ attachedFaults target ys := by
  simp [attachedFaults]

@[simp] theorem attachedFaults_query (a : Attached) :
    attachedFaults target [.query a] = (a.statement target).fault.toList := by
  cases found : (a.statement target).fault <;> simp [attachedFaults, Operand.fault?, found]

@[simp] theorem attachedFaults_raw (fragment : Fragment (Operand Attached)) :
    attachedFaults target (Operand.raw fragment).operands =
      attachedFaults target (Fragment.operands fragment) := by
  rw [Operand.operands, attachedFaults, List.filterMap_cons]
  rfl

end

/-! ### Building from arguments -/

/-- Building that records the first of `faults`. What is nested in what is built was there before,
or it is a statement that comes from the operands `given` under a target, and then the fault that it
has is among `faults`. -/
structure Build.Adopts {α : Type} (r : Build α) (target : Target)
    (operands : α → List (Operand Attached)) (before given : List (Operand Attached))
    (faults : List Fault) : Prop where
  fault : r.fault = faults.head?
  nested : ∀ a, .query a ∈ operands r.value → .query a ∈ before ∨
    ∃ g, .query g ∈ given ∧ a = .prepared (g.statement target) ∧
      ∀ fault ∈ (g.statement target).fault, fault ∈ faults

namespace Build.Adopts

variable {α β : Type} {f : α → List (Operand Attached)} {g : β → List (Operand Attached)}
  {before xs ys : List (Operand Attached)} {es fs : List Fault} {target : Target}

theorem pure {x : α} (kept : ∀ a, .query a ∈ f x → .query a ∈ before) :
    Build.Adopts (Pure.pure x) target f before [] [] :=
  ⟨rfl, fun a member => .inl (kept a member)⟩

theorem fail (fault : Fault) :
    Build.Adopts (Build.fail fault) target (fun _ => []) before [] [fault] :=
  ⟨rfl, by simp⟩

theorem inherit (fault : Option Fault) :
    Build.Adopts (Build.inherit fault) target (fun _ => []) before [] fault.toList :=
  ⟨(Fault.head?_toList fault).symm, by simp⟩

/-- What is built second may hold what was built first. -/
theorem bind {r : Build α} {next : α → Build β} (first : Build.Adopts r target f before xs es)
    (second : Build.Adopts (next r.value) target g (f r.value ++ before) ys fs) :
    Build.Adopts (r >>= next) target g before (xs ++ ys) (es ++ fs) := by
  refine ⟨?_, fun a member => ?_⟩
  · rw [Build.fault_bind, first.fault, second.fault, List.head?_append, Option.orElse_eq_orElse,
      Option.orElse_eq_or]
  · rcases second.nested a member with inFirst | ⟨g, attached, same, recorded⟩
    · rcases List.mem_append.mp inFirst with inFirst | inBefore
      · rcases first.nested a inFirst with inBefore | ⟨g, attached, same, recorded⟩
        · exact .inl inBefore
        · refine .inr ⟨g, List.mem_append_left _ attached, same, fun fault own => ?_⟩
          exact List.mem_append_left _ (recorded fault own)
      · exact .inl inBefore
    · refine .inr ⟨g, List.mem_append_right _ attached, same, fun fault own => ?_⟩
      exact List.mem_append_right _ (recorded fault own)

theorem map {r : Build α} {h : α → β} (adopts : Build.Adopts r target f before xs es)
    (kept : ∀ a, .query a ∈ g (h r.value) → .query a ∈ f r.value ∨ .query a ∈ before) :
    Build.Adopts (r >>= fun x => Pure.pure (h x)) target g before xs es := by
  refine ⟨?_, fun a member => ?_⟩
  · rw [Build.fault_bind, Build.fault_pure, adopts.fault]
    cases es <;> rfl
  · rcases kept a member with inResult | inBefore
    · exact adopts.nested a inResult
    · exact .inl inBefore

theorem of_eq {r : Build α} (adopts : Build.Adopts r target f before xs es)
    (given : ∀ a, .query a ∈ xs → .query a ∈ ys) (faults : es = fs) :
    Build.Adopts r target f before ys fs := by
  subst faults
  refine ⟨adopts.fault, fun a member => ?_⟩
  rcases adopts.nested a member with inBefore | ⟨g, attached, rest⟩
  · exact .inl inBefore
  · exact .inr ⟨g, given g attached, rest⟩

theorem both {γ : Type} {k : γ → List (Operand Attached)} {r : Build α} {q : Build β}
    {h : α → β → γ} (first : Build.Adopts r target f before xs es)
    (second : Build.Adopts q target g (f r.value ++ before) ys fs)
    (kept : ∀ a, .query a ∈ k (h r.value q.value) →
      .query a ∈ f r.value ++ g q.value ∨ .query a ∈ before) :
    Build.Adopts (r >>= fun x => q >>= fun y => Pure.pure (h x y)) target k before (xs ++ ys)
      (es ++ fs) := by
  refine first.bind (second.map fun a member => ?_)
  -- The second part may hold what the first one holds, so that counts as there before.
  rcases kept a member with inBoth | inBefore
  · rcases List.mem_append.mp inBoth with inFirst | inSecond
    · exact .inr (List.mem_append_left _ inFirst)
    · exact .inl inSecond
  · exact .inr (List.mem_append_right _ inBefore)

end Build.Adopts

/-- Building that records the first fault of what the operands `given` attach. -/
abbrev Build.Attaches {α : Type} (r : Build α) (target : Target)
    (operands : α → List (Operand Attached)) (before given : List (Operand Attached)) : Prop :=
  Build.Adopts r target operands before given (attachedFaults target given)

theorem Build.Attaches.both {α β γ : Type} {f : α → List (Operand Attached)}
    {g : β → List (Operand Attached)} {k : γ → List (Operand Attached)}
    {before xs ys : List (Operand Attached)} {target : Target} {r : Build α} {q : Build β}
    {h : α → β → γ} (first : r.Attaches target f before xs)
    (second : q.Attaches target g (f r.value ++ before) ys)
    (kept : ∀ a, .query a ∈ k (h r.value q.value) →
      .query a ∈ f r.value ++ g q.value ∨ .query a ∈ before) :
    Build.Attaches (r >>= fun x => q >>= fun y => pure (h x y)) target k before (xs ++ ys) :=
  (Adopts.both first second kept).of_eq (fun _ => id) (attachedFaults_append target xs ys).symm

section Resolving

variable (target : Target)

theorem Attached.attaches_resolve (before : List (Operand Attached)) (run : Event) (a : Attached) :
    (a.resolve target run).Attaches target (fun b => [.query b]) before [.query a] := by
  have value : (a.resolve target run).value = .prepared (a.statement target) := by
    cases a <;> rfl
  have fault : (a.resolve target run).fault = (a.statement target).fault := by
    cases a <;> simp [Attached.resolve, Attached.statement, Attached.build, Build.inherit,
      Build.ofLogged]
  refine ⟨?_, fun b member => ?_⟩
  · rw [fault, attachedFaults_query, Fault.head?_toList]
  · obtain rfl : b = .prepared (a.statement target) := by simpa [value] using member
    exact .inr ⟨a, by simp, rfl, fun fault own => by simpa using own⟩

mutual

theorem Operand.attaches_resolve (before : List (Operand Attached)) :
    (operand : Operand Attached) →
    (operand.resolve target).Attaches target Operand.operands before operand.operands
  | .value _ => (Build.Adopts.pure (by simp [Operand.operands])).of_eq (by simp) rfl
  | .undefined => (Build.Adopts.pure (by simp [Operand.operands])).of_eq (by simp) rfl
  | .query a => (Attached.attaches_resolve target before _ a).map fun _ => .inl
  | .raw fragment => by
    refine ((Fragment.attaches_resolve before fragment).map fun a member => ?_).of_eq ?_ ?_
    · exact .inl (by simpa [Operand.operands] using member)
    · exact fun a => List.mem_cons_of_mem _
    · rw [attachedFaults_raw]

theorem Fragment.attaches_resolve (before : List (Operand Attached)) :
    (fragment : Fragment (Operand Attached)) →
    (Fragment.resolve target fragment).Attaches target Fragment.operands before
      (Fragment.operands fragment)
  | ⟨_, bindings, _⟩ => (Bindings.attaches_resolve before bindings).map fun _ => .inl

theorem Bindings.attaches_resolve (before : List (Operand Attached)) :
    (bindings : Bindings (Operand Attached)) →
    (Bindings.resolve target bindings).Attaches target Bindings.operands before
      (Bindings.operands bindings)
  | .none => .pure (by simp [Bindings.operands])
  | .positional values => (Operand.attaches_resolveList before values).map fun _ => .inl
  | .named pairs => (Operand.attaches_resolvePairs before pairs).map fun _ => .inl

theorem Operand.attaches_resolveList (before : List (Operand Attached)) :
    (values : List (Operand Attached)) →
    (Operand.resolveList target values).Attaches target Operand.operandsList before
      (Operand.operandsList values)
  | [] => .pure (by simp [Operand.operandsList])
  | operand :: rest =>
    .both (Operand.attaches_resolve before operand) (Operand.attaches_resolveList _ rest)
      fun _ => .inl

theorem Operand.attaches_resolvePairs (before : List (Operand Attached)) :
    (pairs : List (String × Operand Attached)) →
    (Operand.resolvePairs target pairs).Attaches target Operand.operandsPairs before
      (Operand.operandsPairs pairs)
  | [] => .pure (by simp [Operand.operandsPairs])
  | (_, operand) :: rest =>
    .both (Operand.attaches_resolve before operand) (Operand.attaches_resolvePairs _ rest)
      fun _ => .inl

end

/-- What is bound inside a fragment is all it attaches. -/
theorem Fragment.attaches_resolve_raw (before : List (Operand Attached))
    (fragment : Fragment (Operand Attached)) :
    (Fragment.resolve target fragment).Attaches target (fun f => (Operand.raw f).operands) before
      (Operand.raw fragment).operands := by
  have inside := fragment.attaches_resolve target before
  refine ⟨?_, fun a member => ?_⟩
  · rw [attachedFaults_raw]
    exact inside.fault
  · rw [attachedFaults_raw]
    have bound : .query a ∈ Fragment.operands (Fragment.resolve target fragment).value := by
      simpa [Operand.operands] using member
    rcases inside.nested a bound with inBefore | ⟨g, attached, rest⟩
    · exact .inl inBefore
    · exact .inr ⟨g, List.mem_cons_of_mem _ attached, rest⟩

theorem Operand.attaches_resolveRows (before : List (Operand Attached))
    (rows : List (List (String × Operand Attached))) :
    (Operand.resolveRows target rows).Attaches target (·.flatMap Operand.operandsPairs) before
      (rows.flatMap Operand.operandsPairs) := by
  induction rows generalizing before with
  | nil => exact .pure (by simp)
  | cons row rest ih =>
    refine .both (Operand.attaches_resolvePairs target before row) (ih _) fun a member => .inl ?_
    simpa using member

theorem Column.attaches_resolve (before : List (Operand Attached)) (column : Column Attached) :
    (column.resolve target).Attaches target Column.operands before column.operands := by
  cases column with
  | name | numeral | aggregate => exact .pure (by simp [Column.operands])
  | query a => exact (Attached.attaches_resolve target before _ a).map fun _ => .inl
  | raw fragment => exact (fragment.attaches_resolve_raw target before).map fun _ => .inl

theorem Column.attaches_resolveList (before : List (Operand Attached))
    (columns : List (Column Attached)) :
    (Column.resolveList target columns).Attaches target (·.flatMap Column.operands) before
      (columns.flatMap Column.operands) := by
  induction columns generalizing before with
  | nil => exact .pure (by simp)
  | cons column rest ih =>
    refine .both (Column.attaches_resolve target before column) (ih _) fun a member => .inl ?_
    simpa using member

mutual

theorem Condition.attaches_resolve (before : List (Operand Attached)) :
    (condition : Condition Attached) →
    (condition.resolve target).Attaches target Condition.operands before condition.operands
  | .compare column _ value =>
    .both (column.attaches_resolve target before) (value.attaches_resolve target _) fun _ => .inl
  | .columns first _ second =>
    .both (first.attaches_resolve target before) (second.attaches_resolve target _) fun _ => .inl
  | .isIn column values =>
    .both (column.attaches_resolve target before) (values.attaches_resolve target _) fun _ => .inl
  | .null column => (column.attaches_resolve target before).map fun _ => .inl
  | .between column low high => by
    have bounds := Build.Attaches.both (k := Condition.operands)
      (h := Condition.between (column.resolve target).value)
      (low.attaches_resolve target ((column.resolve target).value.operands ++ before))
      (high.attaches_resolve target _) fun a member => ?_
    · refine ((column.attaches_resolve target before).bind bounds).of_eq (fun a member => ?_) ?_
      · simpa [Condition.operands] using member
      · simp [Condition.operands]
    · simp only [Condition.operands, List.mem_append] at member ⊢
      grind
  | .exists query => (query.attaches_resolve target before).map fun _ => .inl
  | .group terms => (Term.attaches_resolveList before terms).map fun _ => .inl
  | .raw fragment => (fragment.attaches_resolve_raw target before).map fun _ => .inl
  | .literal _ => .pure (by simp [Condition.operands])

theorem Term.attaches_resolveList (before : List (Operand Attached)) :
    (terms : List (Term Attached)) →
    (Term.resolveList target terms).Attaches target Term.operandsList before
      (Term.operandsList terms)
  | [] => .pure (by simp [Term.operandsList])
  | ⟨_, _, condition⟩ :: rest =>
    .both (condition.attaches_resolve before) (Term.attaches_resolveList _ rest) fun _ => .inl

end

end Resolving

end PortableSql
