import PortableSql.Proofs.NameReader
import PortableSql.Sql

/-!
Blocks of statements that are executed one after another.

A block executes statements that are given as string literals, each with the values it uses. What
such a block is as SQL is `Execution.block`, and `Execution.readBlock` reads a block from its text
and its values: it knows that quotes are doubled in a literal and that each use takes one value, and
nothing of how the block came about. A block is read back as it was written
(`Execution.readBlock_block`).
-/

namespace PortableSql

/-- A value that a statement uses: it takes the value in, or gives one out. -/
inductive Use where
  | input (value : Value)
  | output (value : Value)

/-- A statement that is executed, and the values it uses. -/
structure Execution where
  statement : List Char
  uses : List Use

namespace Use

/-- What stands for a use in a list of uses. -/
def text : Use → String
  | .input _ => "?"
  | .output _ => "out ?"

/-- The value of a use. -/
def value : Use → Value
  | .input value | .output value => value

end Use

namespace Execution

/-! ### Writing -/

/-- A list of uses as text; `lead` is in front of the first. -/
def usesChars (lead : String) : List Use → List Char
  | [] => []
  | use :: rest => lead.toList ++ use.text.toList ++ usesChars ", " rest

/-- An execution as text. -/
def chars (e : Execution) : List Char :=
  "execute immediate '".toList ++
    (Value.doubleQuotes e.statement ++ '\'' :: (usesChars " using " e.uses ++ "; ".toList))

/-- The values of an execution. -/
def values (e : Execution) : List Value :=
  e.uses.map Use.value

/-- Executions as a block. -/
def block (executions : List Execution) : Sql :=
  ⟨String.ofList ("begin ".toList ++ (executions.flatMap chars ++ "end;".toList)),
    executions.flatMap values⟩

theorem toList_text_block (executions : List Execution) :
    (block executions).text.toList =
      "begin ".toList ++ (executions.flatMap chars ++ "end;".toList) :=
  String.toList_ofList

theorem bindings_block (executions : List Execution) :
    (block executions).bindings = executions.flatMap values := rfl

theorem usesChars_append (lead : String) (xs ys : List Use) :
    usesChars lead (xs ++ ys) =
      usesChars lead xs ++ usesChars (if xs = [] then lead else ", ") ys := by
  induction xs generalizing lead with
  | nil => simp [usesChars]
  | cons use xs ih =>
    rw [List.cons_append, usesChars, ih, usesChars, if_neg (List.cons_ne_nil _ _), ite_self]
    simp only [List.append_assoc]

/-! ### Reading -/

/-- The text behind a word. -/
def readWord (word : String) (text : List Char) : Option (List Char) :=
  if word.toList <+: text then some (text.drop word.toList.length) else none

/-- A use with a value, and the text behind it. -/
def readUse (lead : String) (text : List Char) (value : Value) : Option (Use × List Char) :=
  match readWord (lead ++ "out ?") text with
  | some rest => some (.output value, rest)
  | none => (readWord (lead ++ "?") text).map fun rest => (.input value, rest)

/-- As many uses as there are, and the text and the values behind them. -/
def readUses (lead : String) (text : List Char) :
    List Value → List Use × List Char × List Value
  | [] => ([], text, [])
  | value :: values =>
    match readUse lead text value with
    | none => ([], text, value :: values)
    | some (use, rest) =>
      let (uses, left) := readUses ", " rest values
      (use :: uses, left)

/-- An execution, and the text and the values behind it. -/
def readExecution (text : List Char) (values : List Value) :
    Option (Execution × List Char × List Value) :=
  (readWord "execute immediate '" text).bind fun literal =>
    (Identifier.readQuoted '\'' literal).bind fun (statement, behind) =>
      let (uses, last, left) := readUses " using " behind values
      (readWord "; " last).map fun rest => (⟨statement, uses⟩, rest, left)

theorem length_of_readWord {word : String} {text rest : List Char}
    (found : readWord word text = some rest) : rest.length ≤ text.length := by
  unfold readWord at found
  split at found
  · cases found
    exact (text.drop_sublist _).length_le
  · cases found

theorem length_of_readUse {lead : String} {text rest : List Char} {value : Value} {use : Use}
    (found : readUse lead text value = some (use, rest)) : rest.length ≤ text.length := by
  unfold readUse at found
  split at found
  · rename_i word
    cases found
    exact length_of_readWord word
  · obtain ⟨left, word, same⟩ := Option.map_eq_some_iff.mp found
    cases same
    exact length_of_readWord word

theorem length_readUses (lead : String) (text : List Char) (values : List Value) :
    (readUses lead text values).2.1.length ≤ text.length := by
  fun_induction readUses lead text values with
  | case1 => exact Nat.le_refl _
  | case2 => exact Nat.le_refl _
  | case3 lead text value values use rest found uses left more ih =>
    rw [more] at ih
    exact Nat.le_trans ih (length_of_readUse found)

theorem length_of_readExecution {text rest : List Char} {values left : List Value} {e : Execution}
    (found : readExecution text values = some (e, rest, left)) : rest.length < text.length := by
  obtain ⟨literal, word, found⟩ := Option.bind_eq_some_iff.mp found
  obtain ⟨⟨statement, behind⟩, quoted, found⟩ := Option.bind_eq_some_iff.mp found
  obtain ⟨rest, last, same⟩ := Option.map_eq_some_iff.mp found
  cases same
  have ends := length_of_readWord last
  have uses := length_readUses " using " behind values
  have shorter := Identifier.length_of_readQuoted quoted
  have begins := length_of_readWord word
  exact Nat.lt_of_le_of_lt (Nat.le_trans ends uses) (Nat.lt_of_lt_of_le shorter begins)

/-- Executions up to the end of the block; no text and no value may be left. -/
def readExecutions (text : List Char) (values : List Value) : Option (List Execution) :=
  match _ : readExecution text values with
  | some (e, rest, left) => (readExecutions rest left).map (e :: ·)
  | none => if text = "end;".toList ∧ values.isEmpty then some [] else none
termination_by text.length
decreasing_by exact length_of_readExecution ‹_›

/-- The executions of a block. -/
def readBlock (sql : Sql) : Option (List Execution) :=
  (readWord "begin " sql.text.toList).bind fun text => readExecutions text sql.bindings

/-! ### What is written is read back -/

theorem readWord_append (word : String) (text : List Char) :
    readWord word (word.toList ++ text) = some text := by
  rw [readWord, if_pos (List.prefix_append _ _), List.drop_left]

/-- A word is not read where the text begins with another character. -/
theorem readWord_of_head {word : String} {text : List Char} {c : Char}
    (begins : word.toList.head? = some c) (other : text.head? ≠ some c) :
    readWord word text = none := by
  refine if_neg fun found => other ?_
  obtain ⟨rest, rfl⟩ := found
  rw [List.head?_append, begins, Option.some_or]

theorem readUse_text (lead : String) (use : Use) (text : List Char) :
    readUse lead (lead.toList ++ use.text.toList ++ text) use.value = some (use, text) := by
  cases use with
  | output value =>
    have word : readWord (lead ++ "out ?") (lead.toList ++ "out ?".toList ++ text) = some text := by
      rw [← String.toList_append]
      exact readWord_append _ text
    rw [readUse, Use.text, word]
    rfl
  | input value =>
    have other : readWord (lead ++ "out ?") (lead.toList ++ "?".toList ++ text) = none := by
      refine if_neg fun found => ?_
      rw [String.toList_append, List.append_assoc, List.prefix_append_right_inj] at found
      obtain ⟨rest, same⟩ := found
      cases same
    have word : readWord (lead ++ "?") (lead.toList ++ "?".toList ++ text) = some text := by
      rw [← String.toList_append]
      exact readWord_append _ text
    rw [readUse, Use.text, other, word]
    rfl

/-- Uses are read as far as they go: what is behind them does not begin like one. -/
theorem readUses_usesChars {lead : String} {c : Char} (begins : lead.toList.head? = some c)
    (uses : List Use) {text : List Char} (apart : text.head? = some ';') (other : c ≠ ';')
    (values : List Value) :
    readUses lead (usesChars lead uses ++ text) (uses.map Use.value ++ values) =
      (uses, text, values) := by
  induction uses generalizing lead c with
  | nil =>
    cases values with
    | nil => rfl
    | cons value values =>
      have none (word : String) : readWord (lead ++ word) text = none := by
        refine readWord_of_head (c := c) ?_ ?_
        · rw [String.toList_append, List.head?_append, begins, Option.some_or]
        · rw [apart]
          exact fun same => other (Option.some.inj same).symm
      simp only [usesChars, List.nil_append, List.map_nil, readUses, readUse, none, Option.map_none]
  | cons use uses ih =>
    rw [usesChars, List.append_assoc, List.map_cons, List.cons_append, readUses, readUse_text]
    dsimp only
    have comma : ", ".toList.head? = some ',' := by
      decide
    rw [ih comma (by decide)]

theorem doubleQuotes_eq (cs : List Char) :
    Value.doubleQuotes cs = Identifier.doubleClosing '\'' cs := by
  induction cs with
  | nil => rfl
  | cons c rest ih =>
    rw [Value.doubleQuotes, Identifier.doubleClosing, ih]
    split
    · rename_i quote
      rw [quote]
    · rfl

/-- No quote follows the literal of an execution directly. -/
theorem head?_usesChars_ne (uses : List Use) {text : List Char} (ends : text.head? = some ';') :
    (usesChars " using " uses ++ text).head? ≠ some '\'' := by
  cases uses with
  | nil =>
    rw [usesChars, List.nil_append, ends]
    decide
  | cons use rest =>
    have blank : " using ".toList.head? = some ' ' := by
      decide
    simp only [usesChars, List.append_assoc, List.head?_append, blank, Option.some_or]
    decide

theorem readExecution_chars (e : Execution) (text : List Char) (values : List Value) :
    readExecution (e.chars ++ text) (e.values ++ values) = some (e, text, values) := by
  have semicolon : "; ".toList.head? = some ';' := by
    decide
  have ends : ("; ".toList ++ text).head? = some ';' := by
    rw [List.head?_append, semicolon, Option.some_or]
  have quoted : Identifier.readQuoted '\'' (Value.doubleQuotes e.statement ++
      '\'' :: (usesChars " using " e.uses ++ ("; ".toList ++ text))) =
        some (e.statement, usesChars " using " e.uses ++ ("; ".toList ++ text)) := by
    rw [doubleQuotes_eq]
    exact Identifier.readQuoted_doubleClosing e.statement (head?_usesChars_ne e.uses ends)
  have blank : " using ".toList.head? = some ' ' := by
    decide
  have uses := readUses_usesChars blank e.uses ends (by decide) values
  -- Stated of any lists, so that no word is taken apart into its characters.
  have assoc (a b c d : List Char) :
      (a ++ (b ++ '\'' :: (c ++ d))) ++ text = a ++ (b ++ '\'' :: (c ++ (d ++ text))) := by
    simp
  have split : e.chars ++ text = _ := assoc _ _ _ _
  rw [split, readExecution, readWord_append, Option.bind_some, quoted, Option.bind_some]
  dsimp only
  rw [Execution.values, uses]
  dsimp only
  rw [readWord_append]
  rfl

theorem readExecutions_of_some {text rest : List Char} {values left : List Value} {e : Execution}
    (found : readExecution text values = some (e, rest, left)) :
    readExecutions text values = (readExecutions rest left).map (e :: ·) := by
  rw [readExecutions]
  split
  · rename_i other
    cases other.symm.trans found
    rfl
  · rename_i other
    cases other.symm.trans found

theorem readExecutions_end : readExecutions "end;".toList [] = some [] := by
  have word : readWord "execute immediate '" "end;".toList = none := if_neg (by decide)
  have none : readExecution "end;".toList [] = none := by
    rw [readExecution, word, Option.bind_none]
  rw [readExecutions]
  split
  · rename_i other
    cases other.symm.trans none
  · rfl

theorem readExecutions_flatMap (executions : List Execution) :
    readExecutions (executions.flatMap chars ++ "end;".toList) (executions.flatMap values) =
      some executions := by
  induction executions with
  | nil => exact readExecutions_end
  | cons e rest ih =>
    rw [List.flatMap_cons, List.flatMap_cons, List.append_assoc,
      readExecutions_of_some (readExecution_chars e _ _), ih]
    rfl

/-- A block is read back as it was written. -/
theorem readBlock_block (executions : List Execution) :
    readBlock (block executions) = some executions := by
  rw [readBlock, toList_text_block, readWord_append, Option.bind_some]
  exact readExecutions_flatMap executions

end Execution

end PortableSql
