import PortableSql.Identifier

/-!
A reader of names in SQL text.

`Identifier.readName` knows the marks of a grammar and nothing of how names are written. It reads a
path of items between dots, each a bare star or a quoted identifier in which the closing quote is
doubled, and perhaps the alias separator with one more quoted identifier behind the path. Where a
grammar has array subscripts, groups of brackets may follow a quoted identifier.
-/

namespace PortableSql.Identifier

/-! ### The reader -/

/-- The segments of a path and the alias behind it. -/
structure Reading where
  segments : List (List Char)
  aliasName : Option (List Char)

/-- A character in front of what is read behind it. -/
def prepend (c : Char) (read : List Char × List Char) : List Char × List Char :=
  (c :: read.1, read.2)

/-- Characters up to a closing quote that is not doubled, and the text behind it. -/
def readQuoted (close : Char) : List Char → Option (List Char × List Char)
  | [] => none
  | [c] => if c = close then some ([], []) else none
  | c :: d :: rest =>
    if c ≠ close then (readQuoted close (d :: rest)).map (prepend c)
    else if d = close then (readQuoted close rest).map (prepend close)
    else some ([], d :: rest)

/-- A quoted identifier, and the text behind it. -/
def readIdentifier (grammar : Grammar) : List Char → Option (List Char × List Char)
  | [] => none
  | c :: rest => if c = grammar.openQuote then readQuoted grammar.closeQuote rest else none

/-- How many brackets are open behind a character. -/
def nextDepth (depth : Nat) (c : Char) : Nat :=
  if c = '[' then depth + 1 else if c = ']' then depth - 1 else depth

/-- Whether characters are groups of brackets one behind another, where `depth` brackets are open in
front of them: outside a group stands nothing but the bracket that opens the next, and no bracket is
open at the end. -/
def isGroups (depth : Nat) : List Char → Bool
  | [] => depth == 0
  | c :: rest => if depth = 0 ∧ c ≠ '[' then false else isGroups (nextDepth depth c) rest

/-- As many groups of brackets as there are, and the text behind them. -/
def readGroups (depth : Nat) : List Char → Option (List Char × List Char)
  | [] => if depth = 0 then some ([], []) else none
  | c :: rest =>
    if depth = 0 ∧ c ≠ '[' then some ([], c :: rest)
    else (readGroups (nextDepth depth c) rest).map (prepend c)

/-- An item of a path, and the text behind it: a star, or a quoted identifier with the groups of
brackets that follow it where the grammar has subscripts. -/
def readItem (grammar : Grammar) (text : List Char) : Option (List Char × List Char) :=
  if text.head? = some '*' then
    some (['*'], text.tail)
  else
    (readIdentifier grammar text).bind fun (column, rest) =>
      if grammar.arraySubscripts then
        (readGroups 0 rest).map fun (subscript, rest) => (column ++ subscript, rest)
      else
        some (column, rest)

theorem length_of_readQuoted {close : Char} {text name rest : List Char}
    (found : readQuoted close text = some (name, rest)) : rest.length < text.length := by
  fun_induction readQuoted close text generalizing name with
  | case1 => cases found
  | case2 =>
    cases found
    exact Nat.zero_lt_one
  | case3 => cases found
  | case4 c d more _ ih =>
    obtain ⟨⟨name, rest⟩, read, same⟩ := Option.map_eq_some_iff.mp found
    cases same
    exact Nat.lt_succ_of_lt (ih read)
  | case5 c more _ ih =>
    obtain ⟨⟨name, rest⟩, read, same⟩ := Option.map_eq_some_iff.mp found
    cases same
    exact Nat.lt_succ_of_lt (Nat.lt_succ_of_lt (ih read))
  | case6 c d more _ _ =>
    cases found
    exact Nat.lt_succ_self _

theorem length_of_readIdentifier {grammar : Grammar} {text name rest : List Char}
    (found : readIdentifier grammar text = some (name, rest)) : rest.length < text.length := by
  cases text with
  | nil => cases found
  | cons c more =>
    rw [readIdentifier] at found
    split at found
    · exact Nat.lt_succ_of_lt (length_of_readQuoted found)
    · cases found

/-- What is read as groups are groups, and the text is not changed by reading. -/
theorem isGroups_of_readGroups {depth : Nat} {text groups rest : List Char}
    (found : readGroups depth text = some (groups, rest)) :
    isGroups depth groups = true ∧ text = groups ++ rest := by
  induction text generalizing depth groups with
  | nil =>
    rw [readGroups] at found
    split at found
    · rename_i closed
      cases found
      exact ⟨by simp [isGroups, closed], rfl⟩
    · cases found
  | cons c more ih =>
    rw [readGroups] at found
    split at found
    · rename_i outside
      cases found
      exact ⟨by simp [isGroups, outside.1], rfl⟩
    · rename_i inside
      obtain ⟨⟨groups, rest⟩, read, same⟩ := Option.map_eq_some_iff.mp found
      cases same
      obtain ⟨are, split⟩ := ih read
      refine ⟨?_, congrArg (c :: ·) split⟩
      change isGroups depth (c :: groups) = true
      rw [isGroups, if_neg inside]
      exact are

theorem length_of_readItem {grammar : Grammar} {text item rest : List Char}
    (found : readItem grammar text = some (item, rest)) : rest.length < text.length := by
  unfold readItem at found
  split at found
  · rename_i star
    obtain ⟨more, rfl⟩ := List.head?_eq_some_iff.mp star
    cases found
    exact Nat.lt_succ_self _
  · obtain ⟨⟨column, behind⟩, read, found⟩ := Option.bind_eq_some_iff.mp found
    have shorter := length_of_readIdentifier read
    dsimp only at found
    split at found
    · obtain ⟨⟨subscript, left⟩, groups, same⟩ := Option.map_eq_some_iff.mp found
      cases same
      have whole := (isGroups_of_readGroups groups).2
      rw [whole, List.length_append] at shorter
      exact Nat.lt_of_le_of_lt (Nat.le_add_left _ _) shorter
    · cases found
      exact shorter

/-- Items between dots, and the text behind them. -/
def readPath (grammar : Grammar) (text : List Char) : Option (List (List Char) × List Char) :=
  match _ : readItem grammar text with
  | none => none
  | some (item, rest) =>
    if rest.head? = some '.' then
      (readPath grammar rest.tail).map fun (items, left) => (item :: items, left)
    else
      some ([item], rest)
termination_by text.length
decreasing_by
  have shorter : rest.length < text.length := length_of_readItem ‹_›
  rw [List.length_tail]
  omega

/-- A whole text as the alias behind a path, which may be absent. -/
def readAlias (grammar : Grammar) (text : List Char) : Option (Option (List Char)) :=
  if text = [] then
    some none
  else if grammar.aliasSeparator.toList <+: text then
    (readIdentifier grammar (text.drop grammar.aliasSeparator.toList.length)).bind
      fun (aliasName, rest) => if rest = [] then some (some aliasName) else none
  else
    none

/-- A whole text as a name. -/
def readName (grammar : Grammar) (text : List Char) : Option Reading :=
  (readPath grammar text).bind fun (segments, rest) =>
    (readAlias grammar rest).map fun aliasName => ⟨segments, aliasName⟩

/-! ### Paths are read item by item -/

section

variable {grammar : Grammar}

theorem readPath_of_readItem {text item rest : List Char}
    (found : readItem grammar text = some (item, rest)) :
    readPath grammar text =
      if rest.head? = some '.' then
        (readPath grammar rest.tail).map fun (items, left) => (item :: items, left)
      else
        some ([item], rest) := by
  rw [readPath]
  split
  · rename_i other
    cases other.symm.trans found
  · rename_i other
    cases other.symm.trans found
    rfl

theorem readPath_dot {text item rest : List Char}
    (found : readItem grammar text = some (item, '.' :: rest)) :
    readPath grammar text =
      (readPath grammar rest).map fun (items, left) => (item :: items, left) := by
  rw [readPath_of_readItem found, List.head?_cons, if_pos rfl, List.tail_cons]

theorem readItem_of_readPath {text item left : List Char} {items : List (List Char)}
    (found : readPath grammar text = some (item :: items, left)) :
    ∃ rest, readItem grammar text = some (item, rest) := by
  cases read : readItem grammar text with
  | none =>
    rw [readPath] at found
    split at found
    · cases found
    · rename_i other
      cases other.symm.trans read
  | some result =>
    obtain ⟨first, rest⟩ := result
    rw [readPath_of_readItem read] at found
    split at found
    · obtain ⟨⟨others, behind⟩, -, same⟩ := Option.map_eq_some_iff.mp found
      cases same
      exact ⟨rest, rfl⟩
    · cases found
      exact ⟨_, rfl⟩

end

/-! ### What is written is read back -/

/-- A quoted identifier is read back, unless the text behind it begins with a closing quote. -/
theorem readQuoted_doubleClosing {close : Char} (name : List Char) {rest : List Char}
    (apart : rest.head? ≠ some close) :
    readQuoted close (doubleClosing close name ++ close :: rest) = some (name, rest) := by
  induction name with
  | nil =>
    cases rest with
    | nil => simp [doubleClosing, readQuoted]
    | cons d more =>
      have different : d ≠ close := by simpa using apart
      simp [doubleClosing, readQuoted, different]
  | cons c name ih =>
    by_cases same : c = close
    · subst same
      simp [doubleClosing, readQuoted, ih, prepend]
    · -- The reader looks one character ahead, and there is one: the closing quote at the least.
      obtain ⟨d, more, next⟩ :
          ∃ d more, doubleClosing close name ++ close :: rest = d :: more := by
        cases found : doubleClosing close name ++ close :: rest with
        | nil => simp at found
        | cons d more => exact ⟨d, more, rfl⟩
      rw [doubleClosing, if_neg same, List.cons_append, next, readQuoted, if_pos same, ← next, ih]
      rfl

theorem readIdentifier_quoteChars {grammar : Grammar} (name : List Char) {rest : List Char}
    (apart : rest.head? ≠ some grammar.closeQuote) :
    readIdentifier grammar (quoteChars grammar name ++ rest) = some (name, rest) := by
  rw [quoteChars, List.cons_append, List.cons_append, List.append_assoc, readIdentifier,
    if_pos rfl]
  exact readQuoted_doubleClosing name apart

/-- Groups are read as far as they go. -/
theorem readGroups_append {depth : Nat} {groups rest : List Char}
    (are : isGroups depth groups = true) (apart : rest.head? ≠ some '[') :
    readGroups depth (groups ++ rest) = some (groups, rest) := by
  induction groups generalizing depth with
  | nil =>
    obtain rfl : depth = 0 := by simpa [isGroups] using are
    cases rest with
    | nil => rfl
    | cons c more =>
      have different : c ≠ '[' := by simpa using apart
      rw [List.nil_append, readGroups, if_pos ⟨rfl, different⟩]
  | cons c more ih =>
    rw [isGroups] at are
    split at are
    · cases are
    · rename_i inside
      rw [List.cons_append, readGroups, if_neg inside, ih are]
      rfl

end PortableSql.Identifier
