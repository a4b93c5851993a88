import PortableSql.Proofs.Compiled
import PortableSql.Proofs.Execution
import PortableSql.Proofs.InsertedRows
import PortableSql.Proofs.Traversal

/-!
The block that an insert of several rows is written as.

A grammar that has no list of rows writes a block with an execution for each row. Its text is the
text of these executions, whatever is in the head and in the tuples: quotes are doubled behind the
escapes as well as in front of them (`Statement.outcome_rowsAsBlock`).
-/

namespace PortableSql

theorem Piece.charsAll_flatten {lists : List (List Piece)}
    (clear : ∀ pieces ∈ lists, endsBehindAll false pieces = false) :
    charsAll false lists.flatten = lists.flatMap (charsAll false) := by
  induction lists with
  | nil => rfl
  | cons pieces rest ih =>
    rw [List.flatten_cons, charsAll_append, clear pieces List.mem_cons_self,
      ih fun other member => clear other (List.mem_cons_of_mem _ member), List.flatMap_cons]

/-- Pieces between two words. -/
theorem Piece.charsAll_between {opening last : String} (pieces : List Piece)
    (plain : '?' ∉ opening.toList ∧ '?' ∉ last.toList)
    (clear : Sql.endsBehind false opening.toList = false) :
    charsAll false ([.text opening] ++ pieces ++ [.text last]) =
      opening.toList ++ (charsAll false pieces ++ last.toList) := by
  simp [charsAll, chars, charsAll_append, Sql.escapeMarks_eq_self plain.1,
    Sql.escapeMarks_eq_self plain.2, clear]

/-- Doubling quotes and escaping question marks can change places. -/
theorem Sql.escapeMarks_doubleQuotes (escaped : Bool) (cs : List Char) :
    escapeMarks escaped (Value.doubleQuotes cs) = Value.doubleQuotes (escapeMarks escaped cs) := by
  induction cs generalizing escaped with
  | nil => rfl
  | cons c rest ih =>
    by_cases quote : c = '\''
    · subst quote
      simp [Value.doubleQuotes, escapeMarks, ih]
    · by_cases mark : c = '?' ∧ escaped = false
      · simp [Value.doubleQuotes, escapeMarks, mark, ih]
      · simp [Value.doubleQuotes, escapeMarks, quote, mark, ih]

/-- Text without question marks is the same behind an escaped text. -/
theorem Sql.escapeMarks_append {xs ys : List Char} (plain : '?' ∉ ys) (escaped : Bool) :
    escapeMarks escaped (xs ++ ys) = escapeMarks escaped xs ++ ys := by
  induction xs generalizing escaped with
  | nil => exact escapeMarks_eq_self plain escaped
  | cons c rest ih =>
    by_cases mark : c = '?' ∧ escaped = false
    · simp [escapeMarks, mark, ih]
    · simp [escapeMarks, mark, ih]

namespace Statement

variable (s : Statement) (head : String)

/-- The values that the executions of a block give out. -/
def outputs : List Value :=
  if s.returning.isEmpty then [] else [.returning s.returning]

/-- The statement of a row with its placeholders numbered, as it is handed to the block. -/
def blockText (values : Sql) : String :=
  head ++ " values " ++ (Sql.numbered values.text).1 ++
    if s.returning.isEmpty then ""
    else " returning ROWID into :" ++ toString ((Sql.numbered values.text).2 + 1)

/-- The execution of a row. -/
def blockExecution (values : Sql) : Execution where
  statement := Sql.escapeMarks false (s.blockText head values).toList
  uses := values.bindings.map .input ++ s.outputs.map .output

/-- The pieces of the values that are taken in, from the one at an index on. -/
def inputPieces (start : Nat) (values : List Value) : List Piece :=
  (values.zipIdx start).flatMap fun (value, index) =>
    [.text (if index = 0 then " using " else ", "), .slot value]

theorem inputPieces_cons (start : Nat) (value : Value) (rest : List Value) :
    inputPieces start (value :: rest) =
      [.text (if start = 0 then " using " else ", "), .slot value] ++
        inputPieces (start + 1) rest := rfl

theorem charsAll_inputPieces (start : Nat) (values : List Value) :
    Piece.charsAll false (inputPieces start values) =
      Execution.usesChars (if start = 0 then " using " else ", ") (values.map .input) := by
  induction values generalizing start with
  | nil => rfl
  | cons value rest ih =>
    have lead : Sql.escapeMarks false (if start = 0 then " using " else ", ").toList =
        (if start = 0 then " using " else ", ").toList :=
      Sql.escapeMarks_eq_self (by split <;> decide) false
    simp [inputPieces_cons, Piece.charsAll, Piece.chars, lead, ih, Execution.usesChars, Use.text]

theorem endsBehindAll_inputPieces (start : Nat) (values : List Value) :
    Piece.endsBehindAll false (inputPieces start values) = false := by
  induction values generalizing start with
  | nil => rfl
  | cons value rest ih =>
    rw [inputPieces_cons, Piece.endsBehindAll_append]
    simpa [Piece.endsBehindAll, Piece.chars] using ih (start + 1)

theorem charsAll_usingList (values : List Value) :
    Piece.charsAll false (usingList s.returning values) =
      Execution.usesChars " using " (values.map .input ++ s.outputs.map .output) := by
  have inputs := charsAll_inputPieces 0 values
  change Piece.charsAll false (if s.returning.isEmpty then inputPieces 0 values
    else inputPieces 0 values ++ _) = _
  unfold outputs
  split
  · simpa using inputs
  · rw [Piece.charsAll_append, endsBehindAll_inputPieces, inputs, Execution.usesChars_append]
    congr 1
    have first : Sql.escapeMarks false " using out ".toList ++ ['?'] =
        " using ".toList ++ "out ?".toList := by
      decide
    have later : Sql.escapeMarks false ", out ".toList ++ ['?'] =
        ", ".toList ++ "out ?".toList := by
      decide
    cases values with
    | nil => simpa [Piece.charsAll, Piece.chars, Execution.usesChars, Use.text] using first
    | cons => simpa [Piece.charsAll, Piece.chars, Execution.usesChars, Use.text] using later

theorem endsBehindAll_blockRow (values : Sql) :
    Piece.endsBehindAll false (s.blockRow head values) = false := by
  unfold blockRow
  rw [Piece.endsBehindAll_append]
  simp [Piece.endsBehindAll, Piece.chars, Sql.endsBehind_escapeMarks]

/-- The literal of a row, and the quote behind it. -/
def blockLiteral (values : Sql) : List Piece :=
  [.text (String.ofList (Value.doubleQuotes (s.blockText head values).toList)), .text "'"]

theorem charsAll_blockLiteral (values : Sql) :
    Piece.charsAll false (s.blockLiteral head values) =
      Value.doubleQuotes (s.blockExecution head values).statement ++ ['\''] := by
  have closing (behind : Bool) : Sql.escapeMarks behind "'".toList = ['\''] :=
    Sql.escapeMarks_eq_self (by decide) behind
  simp only [blockLiteral, Piece.charsAll, Piece.chars, closing, String.toList_ofList,
    Sql.escapeMarks_doubleQuotes, blockExecution, List.append_nil]

theorem endsBehindAll_blockLiteral (values : Sql) :
    Piece.endsBehindAll false (s.blockLiteral head values) = false := by
  have closing (behind : Bool) : Sql.escapeMarks behind "'".toList = ['\''] :=
    Sql.escapeMarks_eq_self (by decide) behind
  simp only [blockLiteral, Piece.endsBehindAll, Piece.chars, closing]
  rfl

/-- A row of a block is written as its execution. -/
theorem charsAll_blockRow (values : Sql) :
    Piece.charsAll false (s.blockRow head values) = (s.blockExecution head values).chars := by
  have row : s.blockRow head values = [.text "execute immediate '"] ++
      (s.blockLiteral head values ++ usingList s.returning values.bindings) ++
        [.text "; "] := rfl
  have words : '?' ∉ "execute immediate '".toList ∧ '?' ∉ "; ".toList := by
    decide
  have opened : Sql.endsBehind false "execute immediate '".toList = false := by
    decide
  rw [row, Piece.charsAll_between _ words opened, Piece.charsAll_append,
    endsBehindAll_blockLiteral, charsAll_blockLiteral, charsAll_usingList]
  unfold Execution.chars
  -- A word is kept from being taken apart into its characters.
  generalize "execute immediate '".toList = opening, "; ".toList = last
  simp [blockExecution]

/-- The values of a row of a block are those of its execution. -/
theorem bindings_blockRow_eq (values : Sql) :
    (s.blockRow head values).flatMap Piece.bindings = (s.blockExecution head values).values := by
  have uses := bindings_usingList s.returning values.bindings
  have own : (s.blockExecution head values).values = values.bindings ++ s.outputs := by
    simp [blockExecution, Execution.values, Use.value, Function.comp_def]
  rw [own, outputs]
  simpa [blockRow, Piece.bindings] using uses

/-- The pieces of a block are its executions. -/
theorem ofPieces_block (head : String) (rows : List Sql) :
    Sql.ofPieces ([.text "begin "] ++ (rows.map (s.blockRow head)).flatten ++ [.text "end;"]) =
      Execution.block (rows.map (s.blockExecution head)) := by
  have words : '?' ∉ "begin ".toList ∧ '?' ∉ "end;".toList := by
    decide
  have opened : Sql.endsBehind false "begin ".toList = false := by
    decide
  have clear : ∀ pieces ∈ rows.map (s.blockRow head),
      Piece.endsBehindAll false pieces = false := by
    intro pieces member
    obtain ⟨values, -, rfl⟩ := List.mem_map.mp member
    exact endsBehindAll_blockRow s head values
  apply Sql.ext
  · apply String.toList_injective
    rw [Sql.toList_text_ofPieces, Piece.charsAll_between _ words opened,
      Piece.charsAll_flatten clear, List.flatMap_map, Execution.toList_text_block,
      List.flatMap_map]
    simp only [charsAll_blockRow]
  · have words (pieces : List Piece) :
        (Sql.ofPieces ([.text "begin "] ++ pieces ++ [.text "end;"])).bindings =
          pieces.flatMap Piece.bindings := by
      simp [Sql.ofPieces, Piece.bindings]
    rw [words, ← List.flatMap_def, List.flatMap_assoc, Execution.bindings_block, List.flatMap_map]
    simp only [bindings_blockRow_eq]

/-- A block is stopped by the tuple of a row, or it is the executions of its rows. -/
theorem outcome_rowsAsBlock (target : Target) (columns : List String)
    (rows : List (Keyed Rendered)) (head : Sql) :
    (s.rowsAsBlock target columns rows head).outcome.map Sql.ofPieces =
      (rows.mapM fun row => (rowTuple target columns row).outcome.map Sql.ofPieces).map
        fun values => Execution.block (values.map (s.blockExecution head.text)) := by
  have entry (row : Keyed Rendered) :
      Render.outcome (do
          let values ← rowTuple target columns row
          return s.blockRow head.text (Sql.ofPieces values)) =
        ((rowTuple target columns row).outcome.map Sql.ofPieces).map (s.blockRow head.text) := by
    rw [Render.outcome_bind]
    cases (rowTuple target columns row).outcome <;> rfl
  have entries : (Rendering.concat (rows.map fun row => do
      let values ← rowTuple target columns row
      return s.blockRow head.text (Sql.ofPieces values))).outcome =
        (rows.mapM fun row => (rowTuple target columns row).outcome.map Sql.ofPieces).map
          fun values => (values.map (s.blockRow head.text)).flatten := by
    rw [Rendering.outcome_concat_map]
    simp only [entry, mapM_except_map]
    cases rows.mapM fun row => (rowTuple target columns row).outcome <;> rfl
  rw [rowsAsBlock, Rendering.outcome_concat_of_ok (Rendering.outcome_text _),
    Rendering.outcome_concat_cons, entries]
  cases rows.mapM fun row => (rowTuple target columns row).outcome.map Sql.ofPieces with
  | error fault => rfl
  | ok values => exact congrArg Except.ok (s.ofPieces_block head.text values)

end Statement

end PortableSql
