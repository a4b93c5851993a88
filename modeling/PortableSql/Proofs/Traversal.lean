/-!
Results that an error stops, and traversals of lists that an item stops.

What went through went through in each step (`bind_ok`, `mapM_ok_iff_map`), and a traversal that is
stopped is stopped by its first item that is (`mapM_error_iff`).
-/

namespace PortableSql

variable {α β ε : Type} {f : α → Except ε β} {item : α} {items : List α} {results : List β}

theorem bind_ok {own : Except ε α} {result : β} :
    own.bind f = .ok result ↔ ∃ x, own = .ok x ∧ f x = .ok result := by
  cases own with
  | error e => exact ⟨nofun, nofun⟩
  | ok x => exact ⟨fun given => ⟨x, rfl, given⟩, fun ⟨_, same, given⟩ => by cases same; exact given⟩

theorem map_ok {own : Except ε α} {g : α → β} {result : β} :
    own.map g = .ok result ↔ ∃ x, own = .ok x ∧ g x = result := by
  cases own with
  | error e => exact ⟨nofun, nofun⟩
  | ok x =>
    exact ⟨fun given => ⟨x, rfl, Except.ok.inj given⟩, fun ⟨_, same, given⟩ => by
      cases same
      exact congrArg Except.ok given⟩

theorem mapM_cons_ok : (item :: items).mapM f = .ok results ↔
    ∃ first others, f item = .ok first ∧ items.mapM f = .ok others ∧ results = first :: others := by
  rw [List.mapM_cons]
  constructor
  · intro given
    obtain ⟨first, own, given⟩ := bind_ok.mp given
    obtain ⟨others, behind, given⟩ := bind_ok.mp given
    exact ⟨first, others, own, behind, (Except.ok.inj given).symm⟩
  · rintro ⟨first, others, own, behind, rfl⟩
    rw [own, behind]
    rfl

theorem length_eq_of_mapM (given : items.mapM f = .ok results) :
    results.length = items.length := by
  induction items generalizing results with
  | nil =>
    cases given
    rfl
  | cons item rest ih =>
    obtain ⟨first, others, _, behind, rfl⟩ := mapM_cons_ok.mp given
    rw [List.length_cons, List.length_cons, ih behind]

/-- The results are results of the items. -/
theorem exists_of_mapM_ok (given : items.mapM f = .ok results) :
    ∀ result ∈ results, ∃ item ∈ items, f item = .ok result := by
  induction items generalizing results with
  | nil =>
    cases given
    exact nofun
  | cons item rest ih =>
    obtain ⟨first, others, own, behind, rfl⟩ := mapM_cons_ok.mp given
    refine List.forall_mem_cons.mpr ⟨⟨item, List.mem_cons_self, own⟩, fun result member => ?_⟩
    obtain ⟨other, inRest, found⟩ := ih behind result member
    exact ⟨other, List.mem_cons_of_mem _ inRest, found⟩

/-- A traversal goes through if each item does. -/
theorem mapM_eq_ok_map {g : α → β} (each : ∀ item ∈ items, f item = .ok (g item)) :
    items.mapM f = .ok (items.map g) := by
  induction items with
  | nil => rfl
  | cons item rest ih =>
    obtain ⟨own, others⟩ := List.forall_mem_cons.mp each
    exact mapM_cons_ok.mpr ⟨g item, rest.map g, own, ih others, rfl⟩

/-- A traversal that goes through gives the result of each item. -/
theorem mapM_ok_iff_map [Inhabited β] : items.mapM f = .ok results ↔
    ∃ g : α → β, (∀ item ∈ items, f item = .ok (g item)) ∧ results = items.map g := by
  constructor
  · intro given
    refine ⟨fun item => (f item).toOption.getD default, ?_⟩
    induction items generalizing results with
    | nil =>
      cases given
      exact ⟨nofun, rfl⟩
    | cons item rest ih =>
      obtain ⟨first, others, own, behind, rfl⟩ := mapM_cons_ok.mp given
      obtain ⟨each, rfl⟩ := ih behind
      have found : (f item).toOption.getD default = first := by
        rw [own]
        rfl
      refine ⟨List.forall_mem_cons.mpr ⟨?_, each⟩, ?_⟩
      · exact own.trans (congrArg Except.ok found.symm)
      · exact congrArg (· :: _) found.symm
  · rintro ⟨g, each, rfl⟩
    exact mapM_eq_ok_map each

/-- A traversal is stopped by the first item that is stopped. -/
theorem mapM_error_iff {e : ε} : items.mapM f = .error e ↔
    ∃ front item back, items = front ++ item :: back ∧
      (∀ other ∈ front, ∃ result, f other = .ok result) ∧ f item = .error e := by
  induction items with
  | nil => exact ⟨nofun, fun ⟨front, item, back, whole, _⟩ => by cases front <;> cases whole⟩
  | cons item rest ih =>
    rw [List.mapM_cons]
    cases own : f item with
    | error fault =>
      constructor
      · rintro ⟨⟩
        exact ⟨[], item, rest, rfl, nofun, own⟩
      · rintro ⟨front, other, back, whole, through, stopped⟩
        cases front with
        | nil =>
          cases whole
          cases own.symm.trans stopped
          rfl
        | cons _ _ =>
          cases whole
          obtain ⟨result, given⟩ := through item List.mem_cons_self
          cases own.symm.trans given
    | ok first =>
      have later : ((Except.ok first).bind fun first =>
          (rest.mapM f).bind fun others => .ok (first :: others)) = .error e ↔
            rest.mapM f = .error e := by
        cases rest.mapM f with
        | error fault => rfl
        | ok others => exact iff_of_false nofun nofun
      refine later.trans (ih.trans ⟨?_, ?_⟩)
      · rintro ⟨front, other, back, rfl, through, stopped⟩
        exact ⟨item :: front, other, back, rfl,
          List.forall_mem_cons.mpr ⟨⟨first, own⟩, through⟩, stopped⟩
      · rintro ⟨front, other, back, whole, through, stopped⟩
        cases front with
        | nil =>
          cases whole
          cases own.symm.trans stopped
        | cons _ front =>
          cases whole
          exact ⟨front, other, back, rfl, (List.forall_mem_cons.mp through).2, stopped⟩

/-- What stops a traversal stops it at an item. -/
theorem exists_of_mapM_error {e : ε} (refused : items.mapM f = .error e) :
    ∃ item ∈ items, f item = .error e := by
  obtain ⟨front, item, back, rfl, -, stopped⟩ := mapM_error_iff.mp refused
  exact ⟨item, List.mem_append_cons_self, stopped⟩

theorem mapM_except_map {γ : Type} (f : α → Except ε β) (g : β → γ) (items : List α) :
    (items.mapM fun item => (f item).map g) = (items.mapM f).map (List.map g) := by
  induction items with
  | nil => rfl
  | cons item rest ih =>
    rw [List.mapM_cons, List.mapM_cons, ih]
    cases f item with
    | error e => rfl
    | ok x => cases rest.mapM f <;> rfl

end PortableSql
