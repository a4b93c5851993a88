/-!
Lists of named entries, in the order in which the names were first given.

`Keyed.insert` replaces the entry of a known name where it stands and appends a new one, so a name
keeps its first position and takes its last value. `get?_insert` and `keys_insert` say so.
-/

namespace PortableSql

/-- Named entries, in order. -/
abbrev Keyed (α : Type) := List (String × α)

namespace Keyed

variable {α : Type}

/-- Sets the entry of a name, in place when the name is known. -/
def insert (key : String) (value : α) : Keyed α → Keyed α
  | [] => [(key, value)]
  | (k, v) :: rest => if k = key then (k, value) :: rest else (k, v) :: insert key value rest

/-- The entry of a name. -/
def get? (key : String) : Keyed α → Option α
  | [] => none
  | (k, v) :: rest => if k = key then some v else get? key rest

/-- The names, in order. -/
def keys (entries : Keyed α) : List String :=
  entries.map Prod.fst

/-- Sets the entries of a list of pairs one after another. -/
def insertAll (entries : Keyed α) (pairs : List (String × α)) : Keyed α :=
  pairs.foldl (fun entries (key, value) => insert key value entries) entries

/-- The entries of a list of pairs in which a name may occur more than once. -/
def ofPairs (pairs : List (String × α)) : Keyed α :=
  insertAll [] pairs

theorem get?_insert (key other : String) (value : α) (entries : Keyed α) :
    get? other (insert key value entries) =
      if key = other then some value else get? other entries := by
  induction entries with
  | nil => simp [insert, get?]
  | cons head rest ih =>
    obtain ⟨k, v⟩ := head
    by_cases same : k = key
    · subst same
      by_cases found : k = other <;> simp [insert, get?, found]
    · by_cases found : k = other
      · subst found
        simp [insert, get?, same, Ne.symm same]
      · simp [insert, get?, same, found, ih]

theorem get?_map {β : Type} (f : α → β) (key : String) (entries : Keyed α) :
    get? key (entries.map fun (name, value) => (name, f value)) = (get? key entries).map f := by
  induction entries with
  | nil => rfl
  | cons entry rest ih =>
    obtain ⟨name, value⟩ := entry
    simp only [List.map_cons, get?, ih]
    split <;> rfl

section Map

variable {β : Type} (f : α → β)

theorem insert_map (key : String) (value : α) (entries : Keyed α) :
    insert key (f value) (entries.map fun (name, value) => (name, f value)) =
      (insert key value entries).map fun (name, value) => (name, f value) := by
  induction entries with
  | nil => rfl
  | cons entry rest ih =>
    obtain ⟨name, old⟩ := entry
    by_cases same : name = key
    · simp [insert, same]
    · simp [insert, same, ih]

theorem insertAll_map (entries : Keyed α) (pairs : List (String × α)) :
    insertAll (entries.map fun (name, value) => (name, f value))
        (pairs.map fun (name, value) => (name, f value)) =
      (insertAll entries pairs).map fun (name, value) => (name, f value) := by
  induction pairs generalizing entries with
  | nil => rfl
  | cons pair rest ih =>
    have first := insert_map f pair.1 pair.2 entries
    have later := ih (insert pair.1 pair.2 entries)
    rw [← first] at later
    exact later

theorem ofPairs_map (pairs : List (String × α)) :
    ofPairs (pairs.map fun (name, value) => (name, f value)) =
      (ofPairs pairs).map fun (name, value) => (name, f value) :=
  insertAll_map f [] pairs

end Map

theorem keys_insert (key : String) (value : α) (entries : Keyed α) :
    keys (insert key value entries) =
      if key ∈ keys entries then keys entries else keys entries ++ [key] := by
  induction entries with
  | nil => simp [insert, keys]
  | cons head rest ih =>
    obtain ⟨k, v⟩ := head
    by_cases same : k = key
    · simp [insert, keys, same]
    · have tail : List.map Prod.fst (insert key value rest) =
          if key ∈ List.map Prod.fst rest then List.map Prod.fst rest
          else List.map Prod.fst rest ++ [key] := ih
      by_cases known : key ∈ List.map Prod.fst rest
      · simp [insert, keys, same, tail, known]
      · simp [insert, keys, same, Ne.symm same, tail, known]

theorem nodup_keys_insert {key : String} {value : α} {entries : Keyed α}
    (distinct : (keys entries).Nodup) : (keys (insert key value entries)).Nodup := by
  rw [keys_insert]
  split
  · exact distinct
  · rename_i fresh
    rw [List.nodup_append]
    exact ⟨distinct, by simp, by
      intro a ha b hb
      simp only [List.mem_singleton] at hb
      subst hb
      exact fun equal => fresh (equal ▸ ha)⟩

theorem nodup_keys_insertAll {entries : Keyed α} (pairs : List (String × α))
    (distinct : (keys entries).Nodup) : (keys (insertAll entries pairs)).Nodup := by
  induction pairs generalizing entries with
  | nil => exact distinct
  | cons pair pairs ih => exact ih (nodup_keys_insert distinct)

end Keyed

end PortableSql
