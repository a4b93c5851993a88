import PortableSql.Proofs.Rendering

/-!
What a statement compiles to, part by part.

A statement is assembled from its rendered clauses (`Statement.render_eq`), and two statements that
differ in their settings only have the same clauses. Sequences of renderings give the pieces of
their parts, and the buffer of two lists of pieces is the one buffer behind the other wherever the
second list begins with a character that is neither a question mark nor a backslash: a text behind
a backslash is escaped differently only if it begins with one of these.
-/

namespace PortableSql

/-! ### The text of pieces -/

namespace Piece

/-- The characters that pieces add one after another; `behind` says whether a backslash is in front
of them. -/
def charsAll (behind : Bool) : List Piece → List Char
  | [] => []
  | piece :: rest =>
    piece.chars behind ++ charsAll (Sql.endsBehind behind (piece.chars behind)) rest

theorem charsAll_append (behind : Bool) (xs ys : List Piece) :
    charsAll behind (xs ++ ys) = charsAll behind xs ++ charsAll (endsBehindAll behind xs) ys := by
  induction xs generalizing behind with
  | nil => rfl
  | cons piece rest ih => simp [charsAll, endsBehindAll, ih]

theorem foldl_writeText_toList (pieces : List Piece) (text : String) :
    (pieces.foldl writeText text).toList =
      text.toList ++ charsAll (Sql.endsBehind false text.toList) pieces := by
  induction pieces generalizing text with
  | nil => simp [charsAll]
  | cons piece rest ih =>
    rw [List.foldl_cons, ih, writeText_toList, Sql.endsBehind_append, charsAll, List.append_assoc]

/-- Pieces that add the same characters behind a backslash as anywhere else. -/
def Fresh (pieces : List Piece) : Prop :=
  charsAll true pieces = charsAll false pieces

theorem Fresh.nil : Fresh [] := rfl

/-- Pieces are fresh if they begin with a text whose first character has nothing to do with
escapes. -/
theorem Fresh.text {s : String} {rest : List Piece}
    (plain : s.toList.head?.any (fun c => c ≠ '?' ∧ c ≠ '\\') = true) :
    Fresh (.text s :: rest) := by
  unfold Fresh
  cases found : s.toList with
  | nil =>
    rw [found] at plain
    cases plain
  | cons c cs =>
    have other : c ≠ '?' ∧ c ≠ '\\' := by simpa [found] using plain
    have same : Sql.escapeMarks true (c :: cs) = Sql.escapeMarks false (c :: cs) := by
      simp [Sql.escapeMarks, other, beq_false_of_ne other.2]
    simp only [charsAll, chars, found, same, Sql.endsBehind_escapeMarks, Sql.endsBehind_cons]

theorem Fresh.charsAll_eq {pieces : List Piece} (fresh : Fresh pieces) (behind : Bool) :
    charsAll behind pieces = charsAll false pieces := by
  cases behind with
  | false => rfl
  | true => exact fresh

theorem Fresh.append {front back : List Piece} (first : Fresh front) (second : Fresh back) :
    Fresh (front ++ back) := by
  unfold Fresh
  rw [charsAll_append, charsAll_append, first.charsAll_eq,
    second.charsAll_eq (endsBehindAll true front), second.charsAll_eq (endsBehindAll false front)]

end Piece

namespace Sql

theorem ext {a b : Sql} (text : a.text = b.text) (bindings : a.bindings = b.bindings) : a = b := by
  cases a
  cases b
  simp_all

theorem toList_text_ofPieces (pieces : List Piece) :
    (ofPieces pieces).text.toList = Piece.charsAll false pieces := by
  rw [ofPieces, Piece.foldl_writeText_toList]
  rfl

/-- The buffer of pieces is one buffer behind the other where the seam does not count. -/
theorem ofPieces_append_of_seam {front back : List Piece}
    (seam : Piece.charsAll (Piece.endsBehindAll false front) back = Piece.charsAll false back) :
    ofPieces (front ++ back) = (ofPieces front).append (ofPieces back) := by
  apply ext
  · apply String.toList_injective
    rw [toList_text_ofPieces, Piece.charsAll_append, seam]
    simp [append, toList_text_ofPieces]
  · simp [ofPieces, append]

theorem ofPieces_append_of_fresh {front back : List Piece} (fresh : Piece.Fresh back) :
    ofPieces (front ++ back) = (ofPieces front).append (ofPieces back) :=
  ofPieces_append_of_seam (fresh.charsAll_eq _)

/-- Behind a text that does not end with a backslash, any pieces begin anew. -/
theorem ofPieces_append_of_clear {front back : List Piece}
    (clear : Piece.endsBehindAll false front = false) :
    ofPieces (front ++ back) = (ofPieces front).append (ofPieces back) :=
  ofPieces_append_of_seam (by rw [clear])

@[simp] theorem ofPieces_nil : ofPieces [] = empty := rfl

@[simp] theorem ofPieces_whole (sql : Sql) : ofPieces [.whole sql] = sql := by
  simp [ofPieces, Piece.writeText, Piece.bindings]

@[simp] theorem append_empty (sql : Sql) : sql.append empty = sql := by
  simp [append, empty]

@[simp] theorem empty_append (sql : Sql) : empty.append sql = sql := by
  simp [append, empty]

end Sql

/-! ### The pieces of sequences -/

namespace Rendering

@[simp] theorem outcome_pure (pieces : List Piece) :
    Render.outcome (pure pieces : Rendering) = .ok pieces := rfl

@[simp] theorem outcome_text (s : String) : (text s).outcome = .ok [.text s] := rfl

@[simp] theorem outcome_slot (value : Value) : (slot value).outcome = .ok [.slot value] := rfl

@[simp] theorem outcome_nothing : nothing.outcome = .ok [] := rfl

@[simp] theorem outcome_event (e : Event) : (event e).outcome = .ok [] := rfl

@[simp] theorem outcome_concat_nil : (concat []).outcome = .ok [] := rfl

theorem outcome_concat_cons (r : Rendering) (rs : List Rendering) :
    (concat (r :: rs)).outcome =
      r.outcome.bind fun front => (concat rs).outcome.map (front ++ ·) := by
  have first : concat (r :: rs) = r >>= fun front => concat rs >>= fun back =>
    (pure (front ++ back) : Rendering) := rfl
  rw [first, Render.outcome_bind]
  cases r.outcome with
  | error fault => rfl
  | ok front =>
    change Render.outcome (_ >>= _) = _
    rw [Render.outcome_bind]
    cases (concat rs).outcome <;> rfl

/-- A part that is not stopped is in front of what follows it. -/
theorem outcome_concat_of_ok {r : Rendering} {front : List Piece} (given : r.outcome = .ok front)
    (rs : List Rendering) :
    (concat (r :: rs)).outcome = (concat rs).outcome.map (front ++ ·) := by
  rw [outcome_concat_cons, given]
  rfl

/-- What gives nothing can be left out. -/
theorem outcome_concat_of_nil {r : Rendering} (nothing : r.outcome = .ok [])
    (rs : List Rendering) : (concat (r :: rs)).outcome = (concat rs).outcome := by
  rw [outcome_concat_of_ok nothing]
  cases (concat rs).outcome <;> rfl

theorem outcome_concat_cons_congr (r : Rendering) {rs qs : List Rendering}
    (same : (concat rs).outcome = (concat qs).outcome) :
    (concat (r :: rs)).outcome = (concat (r :: qs)).outcome := by
  rw [outcome_concat_cons, outcome_concat_cons, same]

theorem outcome_concat_singleton (r : Rendering) : (concat [r]).outcome = r.outcome := by
  rw [outcome_concat_cons]
  cases r.outcome with
  | error fault => rfl
  | ok pieces => exact congrArg Except.ok (List.append_nil pieces)

theorem outcome_concat_append (rs qs : List Rendering) :
    (concat (rs ++ qs)).outcome =
      (concat rs).outcome.bind fun front => (concat qs).outcome.map (front ++ ·) := by
  induction rs with
  | nil =>
    rw [List.nil_append, outcome_concat_nil]
    cases (concat qs).outcome <;> rfl
  | cons r rs ih =>
    rw [List.cons_append, outcome_concat_cons, outcome_concat_cons, ih]
    cases r.outcome with
    | error fault => rfl
    | ok front =>
      cases (concat rs).outcome with
      | error fault => rfl
      | ok middle =>
        cases (concat qs).outcome with
        | error fault => rfl
        | ok back => exact congrArg Except.ok (List.append_assoc front middle back).symm

/-- Sequences one inside the other are one sequence. -/
theorem outcome_concat_concat (rs qs : List Rendering) :
    (concat (concat rs :: qs)).outcome = (concat (rs ++ qs)).outcome := by
  rw [outcome_concat_cons, outcome_concat_append]

/-- What gives nothing at the end of a sequence. -/
theorem outcome_concat_pair_of_nil (r : Rendering) {last : Rendering}
    (nothing : last.outcome = .ok []) : (concat [r, last]).outcome = r.outcome :=
  (outcome_concat_cons_congr r (outcome_concat_of_nil nothing [])).trans
    (outcome_concat_singleton r)

/-- Renderings of items are stopped where the first of them is, and give their pieces one behind
another. -/
theorem outcome_concat_map {α : Type} (f : α → Rendering) (items : List α) :
    (concat (items.map f)).outcome =
      (items.mapM fun item => (f item).outcome).map List.flatten := by
  induction items with
  | nil => rfl
  | cons item rest ih =>
    rw [List.map_cons, outcome_concat_cons, ih, List.mapM_cons]
    cases (f item).outcome with
    | error fault => rfl
    | ok pieces =>
      cases rest.mapM fun item => (f item).outcome with
      | error fault => rfl
      | ok lists => rfl

end Rendering

/-! ### The clauses of a statement -/

namespace Statement

/-- The clauses of a statement, rendered. -/
def clauses (target : Target) (s : Statement) : RenderedClauses where
  source := Column.renderTable target s.schema s.table
  columns := Column.renderList target s.columns
  joins := .concat (Join.renderList target s.schema s.joins)
  wheres := .conditionClause " where " (Term.renderList target s.wheres)
  groups := .clause " group by " (Column.renderList target s.groups)
  havings := .conditionClause " having " (Term.renderList target s.havings)
  orders := .clause " order by " (Order.renderList target s.orders)
  unions := .concat (UnionPart.renderList target s.unions)
  insert := InsertPayload.rendered target s.insert
  assignments := Operand.renderedPairs target s.assignments

/-- A statement is assembled from its clauses. -/
theorem render_eq (target : Target) (s : Statement) :
    s.render target = s.assemble target (s.clauses target) := by
  obtain ⟨settings, table, columns, joins, wheres, groups, havings, orders, unions, insert,
    assignments⟩ := s
  rw [render]
  rfl

/-- A statement with a fault is stopped by that fault. -/
theorem compile_of_fault {s : Statement} {fault : Fault} (own : s.fault = some fault)
    (target : Target) : (s.compile target).outcome = .error fault := by
  have refused : (s.render target).outcome = .error fault := by
    rw [render_eq, assemble, own]
    rfl
  exact compile_of_error refused

/-- A statement that compiles has no fault of its own. -/
theorem fault_eq_none_of_compile {s : Statement} {target : Target} {sql : Sql}
    (compiled : (s.compile target).outcome = .ok sql) : s.fault = none := by
  cases recorded : s.fault with
  | none => rfl
  | some fault =>
    rw [compile_of_fault recorded] at compiled
    cases compiled

theorem outcome_compile (target : Target) (s : Statement) :
    (s.compile target).outcome = (s.render target).outcome.map Sql.ofPieces := by
  cases rendered : (s.render target).outcome with
  | error fault => exact compile_of_error rendered
  | ok pieces => exact compile_of_ok rendered

end Statement

end PortableSql
