import PortableSql.Proofs.ConditionCalls
import PortableSql.Proofs.InsertedRows

/-!
Updates that are called repeatedly.

An update sets the columns whose last operand in its row is defined, and later updates merge into
earlier ones: a column stays where it was set first and takes the operand it was set to last. So the
assignments after any calls are those of one pass over what the rows of all updates define
(`Call.assignments_runAll`), and an update binds their values between those of its table with the
joins and those of its conditions (`Statement.bindings_of_update`).
-/

namespace PortableSql

/-! ### Setting entries one after another -/

namespace Keyed

variable {α β : Type} {key : String} {entries : Keyed α}

theorem get?_append (key : String) (front back : Keyed α) :
    get? key (front ++ back) = (get? key front).or (get? key back) := by
  induction front with
  | nil => rfl
  | cons entry rest ih =>
    obtain ⟨name, value⟩ := entry
    rw [List.cons_append, get?, get?]
    split
    · rfl
    · exact ih

theorem get?_flatMap (key : String) (f : β → Keyed α) (items : List β) :
    get? key (items.flatMap f) = items.findSome? fun item => get? key (f item) := by
  induction items with
  | nil => rfl
  | cons item rest ih =>
    rw [List.flatMap_cons, get?_append, ih, List.findSome?_cons]
    cases get? key (f item) <;> rfl

theorem get?_eq_none (absent : key ∉ keys entries) : get? key entries = none := by
  induction entries with
  | nil => rfl
  | cons entry rest ih =>
    obtain ⟨name, value⟩ := entry
    obtain ⟨other, later⟩ := not_or.mp (mt List.mem_cons.mpr absent)
    rw [get?, if_neg (Ne.symm other)]
    exact ih later

/-- Where no name occurs twice, it makes no difference from which end a name is looked for. -/
theorem get?_reverse (distinct : (keys entries).Nodup) :
    get? key entries.reverse = get? key entries := by
  induction entries with
  | nil => rfl
  | cons entry rest ih =>
    obtain ⟨name, value⟩ := entry
    obtain ⟨fresh, others⟩ := List.nodup_cons.mp distinct
    rw [List.reverse_cons, get?_append, ih others]
    by_cases same : name = key
    · subst same
      rw [get?_eq_none fresh, get?, if_pos rfl, get?, if_pos rfl]
      rfl
    · rw [get?, if_neg same, get?, get?, if_neg same, Option.or_none]

/-- Of the pairs that are set for a name the last one counts, and where there is none, the entry
that was there before. -/
theorem get?_insertAll (key : String) (entries : Keyed α) (pairs : List (String × α)) :
    get? key (insertAll entries pairs) = (get? key pairs.reverse).or (get? key entries) := by
  induction pairs generalizing entries with
  | nil => rfl
  | cons pair rest ih =>
    obtain ⟨name, value⟩ := pair
    have step : insertAll entries ((name, value) :: rest) =
        insertAll (insert name value entries) rest := rfl
    rw [step, ih, get?_insert, List.reverse_cons, get?_append, Option.or_assoc, get?]
    split <;> rfl

/-- Setting pairs keeps the names that are there and puts the new ones behind them, in the order in
which they come first. -/
theorem keys_insertAll (entries : Keyed α) (pairs : List (String × α)) :
    keys (insertAll entries pairs) =
      keys entries ++ ((keys pairs).filter (· ∉ keys entries)).eraseDups := by
  induction pairs generalizing entries with
  | nil => exact (List.append_nil _).symm
  | cons pair rest ih =>
    obtain ⟨name, value⟩ := pair
    have step : insertAll entries ((name, value) :: rest) =
        insertAll (insert name value entries) rest := rfl
    have first : keys ((name, value) :: rest) = name :: keys rest := rfl
    rw [step, ih, keys_insert, first]
    by_cases known : name ∈ keys entries
    · rw [if_pos known, List.filter_cons_of_neg (by simpa using known)]
    · rw [if_neg known, List.filter_cons_of_pos (by simpa using known), List.eraseDups_cons,
        List.filter_filter, List.append_assoc, List.singleton_append]
      congr 3
      refine List.filter_congr fun other _ => ?_
      by_cases same : other = name <;> simp [same]

theorem insertAll_append (entries : Keyed α) (front back : List (String × α)) :
    insertAll entries (front ++ back) = insertAll (insertAll entries front) back :=
  List.foldl_append

theorem get?_ofPairs (key : String) (pairs : List (String × α)) :
    get? key (ofPairs pairs) = get? key pairs.reverse := by
  rw [ofPairs, get?_insertAll]
  exact Option.or_none

theorem keys_ofPairs (pairs : List (String × α)) :
    keys (ofPairs pairs) = (keys pairs).eraseDups := by
  have every : (keys pairs).filter (· ∉ keys ([] : Keyed α)) = keys pairs :=
    List.filter_eq_self.mpr fun _ _ => rfl
  rw [ofPairs, keys_insertAll, every]
  rfl

/-- The entries whose values are kept, with what becomes of these. -/
def keep (f : α → Option β) : Keyed α → Keyed β
  | [] => []
  | (name, value) :: rest =>
    match f value with
    | some kept => (name, kept) :: keep f rest
    | none => keep f rest

theorem keep_map {γ : Type} (f : β → Option γ) (g : α → β) (entries : Keyed α) :
    keep f (entries.map fun (name, value) => (name, g value)) =
      keep (fun value => f (g value)) entries := by
  induction entries with
  | nil => rfl
  | cons entry rest ih =>
    obtain ⟨name, value⟩ := entry
    rw [List.map_cons, keep, keep, ih]

theorem get?_keep (f : α → Option β) (distinct : (keys entries).Nodup) :
    get? key (keep f entries) = (get? key entries).bind f := by
  induction entries with
  | nil => rfl
  | cons entry rest ih =>
    obtain ⟨name, value⟩ := entry
    obtain ⟨fresh, others⟩ := List.nodup_cons.mp distinct
    have later := ih others
    by_cases same : name = key
    · subst same
      rw [get?_eq_none fresh] at later
      cases found : f value <;> simp [keep, get?, found, later]
    · cases found : f value <;> simp [keep, get?, found, same, later]

theorem keys_keep (f : α → Option β) (distinct : (keys entries).Nodup) :
    keys (keep f entries) =
      (keys entries).filter fun name => ((get? name entries).bind f).isSome := by
  induction entries with
  | nil => rfl
  | cons entry rest ih =>
    obtain ⟨name, value⟩ := entry
    obtain ⟨fresh, others⟩ := List.nodup_cons.mp distinct
    have later : (keys rest).filter (fun other =>
        ((get? other ((name, value) :: rest)).bind f).isSome) = keys (keep f rest) := by
      rw [ih others]
      refine List.filter_congr fun other member => ?_
      have different : name ≠ other := fun same => fresh (same ▸ member)
      rw [get?, if_neg different]
    have first : keys ((name, value) :: rest) = name :: keys rest := rfl
    rw [first, List.filter_cons, later, get?, if_pos rfl, Option.bind_some]
    cases found : f value <;> simp [keep, found, keys]

end Keyed

/-! ### What a row defines -/

namespace Operand

/-- An operand, unless it is undefined. -/
def defined? {σ : Type} : Operand σ → Option (Operand σ)
  | .undefined => none
  | operand => some operand

/-- An operand as the statement holds it: a value as it is, and what is nested built. -/
def settled (operand : Operand Nested) : Operand Attached :=
  ((operand.attach {}).value.resolve {}).value

/-- The target that an argument is built and resolved for makes no difference. -/
theorem resolve_attach (target client : Target) (operand : Operand Nested) :
    ((operand.attach target).value.resolve client).value = operand.settled := by
  have given : Similar (· = ·) (Attached.Similar (· = ·)) (operand.attach target).value
      (operand.attach {}).value :=
    similar_attach Value.widens_eq (nested_refl (fun _ => rfl) operand)
  exact given.resolve.value.eq (fun _ _ => id) (fun _ _ => id)

end Operand

theorem Statement.definedCell_eq {σ : Type} (row : Keyed (Operand σ)) (column : String) :
    definedCell row column = (Keyed.get? column row).bind Operand.defined? := by
  unfold definedCell
  cases Keyed.get? column row with
  | none => rfl
  | some operand => cases operand <;> rfl

/-- What an update with a row sets: the columns whose last operand in the row is defined, in the
order in which they come first. -/
def definedRow (row : List (String × Operand Nested)) : Keyed (Operand Attached) :=
  Keyed.keep (fun operand => operand.defined?.map Operand.settled) (Keyed.ofPairs row)

/-- The columns that a row defines, in the order in which they come first. -/
def definedColumns (row : List (String × Operand Nested)) : List String :=
  (Keyed.keys row).eraseDups.filter fun column =>
    (Statement.definedCell row.reverse column).isSome

theorem keys_definedRow (row : List (String × Operand Nested)) :
    Keyed.keys (definedRow row) = definedColumns row := by
  rw [definedRow, Keyed.keys_keep _ (Keyed.nodup_keys_ofPairs row), Keyed.keys_ofPairs,
    definedColumns]
  refine List.filter_congr fun column _ => ?_
  rw [Keyed.get?_ofPairs, Statement.definedCell_eq]
  cases Keyed.get? column row.reverse with
  | none => rfl
  | some operand => exact Option.isSome_map

theorem get?_definedRow (column : String) (row : List (String × Operand Nested)) :
    Keyed.get? column (definedRow row).reverse =
      (Statement.definedCell row.reverse column).map Operand.settled := by
  have distinct : (Keyed.keys (definedRow row)).Nodup := by
    rw [definedRow, Keyed.keys_keep _ (Keyed.nodup_keys_ofPairs row)]
    exact (Keyed.nodup_keys_ofPairs row).filter _
  rw [Keyed.get?_reverse distinct, definedRow, Keyed.get?_keep _ (Keyed.nodup_keys_ofPairs row),
    Keyed.get?_ofPairs, Statement.definedCell_eq, Option.map_bind]
  rfl

namespace Builder

theorem value_definedPairs (target : Target) (row : List (String × Operand Attached)) :
    (definedPairs target row).value = Keyed.keep
      (fun operand => operand.defined?.map fun operand => (operand.resolve target).value) row := by
  induction row with
  | nil => rfl
  | cons pair rest ih =>
    obtain ⟨name, operand⟩ := pair
    rw [Keyed.keep, ← ih]
    cases operand <;> rfl

/-- What is set by a row as it is given. -/
theorem definedPairs_attachPairs (target client : Target)
    (row : List (String × Operand Nested)) :
    (definedPairs client (Keyed.ofPairs (Operand.attachPairs target row).value)).value =
      definedRow row := by
  rw [value_definedPairs, Operand.ofPairs_attachPairs, Operand.attachPairs_value]
  refine (Keyed.keep_map _ (fun operand => (Operand.attach target operand).value) _).trans ?_
  rw [definedRow]
  congr 1
  funext operand
  cases operand with
  | undefined => rfl
  | value | query | raw => exact congrArg some (Operand.resolve_attach target client _)

/-- An update sets what its row defines. -/
theorem assignments_update (b : Builder) (target : Target) (row : List (String × Operand Nested)) :
    (b.update (Keyed.ofPairs (Operand.attachPairs target row).value)).value.statement.assignments =
      Keyed.insertAll b.statement.assignments (definedRow row) :=
  congrArg (Keyed.insertAll _) (definedPairs_attachPairs target b.target row)

end Builder

/-! ### Descriptions -/

namespace Description

/-- What leaves the assignments alone. -/
def LeavesAssignments (f : Action) : Prop :=
  ∀ b : Builder, (f b).value.statement.assignments = b.statement.assignments

theorem leaves_orderByAll (orderings : List (String × String)) :
    LeavesAssignments (orderByAll orderings) := by
  induction orderings with
  | nil => exact fun _ => rfl
  | cons ordering rest ih => exact fun b => ih _

/-- Every clause but an update leaves the assignments alone. -/
theorem leaves_action {clause : String} (arg : Json) (other : clause ≠ "update") :
    Reads LeavesAssignments (action clause arg) := by
  unfold action
  split
  all_goals first
    | exact reads_comparison (fun _ _ _ => rfl) (fun _ _ _ _ => rfl) fun _ _ _ _ _ => rfl
    | exact reads_membership fun _ _ _ _ => rfl
    | exact reads_nullCheck fun _ _ _ => rfl
    | exact reads_range fun _ _ _ _ _ => rfl
    | exact reads_join (fun _ _ _ _ _ => rfl) fun _ _ _ _ _ _ => rfl
    | exact reads_order leaves_orderByAll
    | exact reads_distinct fun _ _ => rfl
    | exact reads_having fun _ _ _ _ _ => rfl
    | exact .bind fun _ _ => .ok fun _ => rfl
    | exact .ok fun _ => rfl
    | exact .error _
    | exact absurd rfl other

/-- The members of an object as the pairs of a row. -/
def pairsOf (members : List (String × Json)) : List (String × Operand Nested) :=
  members.map fun (name, value) => (name, .value (Value.ofJson value))

/-- The row of a clause that is an update. -/
def updateRow : String → Json → List (List (String × Operand Nested))
  | "update", .object members => [pairsOf members]
  | _, _ => []

/-- The rows of the updates among clauses, up to the first clause that cannot be read. -/
def updateRows : List (String × Json) → List (List (String × Operand Nested))
  | [] => []
  | (clause, arg) :: rest =>
    match action clause arg with
    | .ok _ => updateRow clause arg ++ updateRows rest
    | .error _ => []

theorem rowOf_eq (target : Target) (members : List (String × Json)) :
    rowOf members = Keyed.ofPairs (Operand.attachPairs target (pairsOf members)).value := by
  rw [Operand.attachPairs_value, pairsOf, List.map_map]
  rfl

theorem assignments_action {clause : String} {arg : Json} {apply : Action}
    (read : action clause arg = .ok apply) (b : Builder) :
    (apply b).value.statement.assignments =
      Keyed.insertAll b.statement.assignments ((updateRow clause arg).flatMap definedRow) := by
  by_cases update : clause = "update"
  · subst update
    have row : (readRow "update" arg).map (fun pairs b => b.update pairs) = .ok apply := read
    obtain ⟨pairs, given, rfl⟩ := map_ok.mp row
    cases arg with
    | object members =>
      cases given
      rw [rowOf_eq b.target, b.assignments_update, updateRow, List.flatMap_singleton]
    | _ => cases given
  · have none : updateRow clause arg = [] := by
      unfold updateRow
      split
      · exact absurd rfl update
      · rfl
    rw [leaves_action arg update apply read b, none]
    rfl

theorem assignments_applyClauses (clauses : List (String × Json)) (b : Builder) :
    (applyClauses clauses b).value.statement.assignments =
      Keyed.insertAll b.statement.assignments ((updateRows clauses).flatMap definedRow) := by
  induction clauses generalizing b with
  | nil => rfl
  | cons entry rest ih =>
    obtain ⟨clause, arg⟩ := entry
    rw [applyClauses, updateRows]
    cases read : action clause arg with
    | error fault => rfl
    | ok apply =>
      have later := ih (apply b).value
      rw [assignments_action read] at later
      rw [Logged.value_bind, later, List.flatMap_append, Keyed.insertAll_append]

end Description

/-! ### Runs -/

namespace Call

mutual

/-- The rows of the updates that a call makes on the builder that it is applied to. -/
def updateRows : Call → List (List (String × Operand Nested))
  | .update row _ => [row]
  | .modify calls => allUpdateRows calls
  | .describe (.object clauses) => Description.updateRows clauses
  | _ => []

/-- The rows of the updates that calls make, in order. -/
def allUpdateRows : List Call → List (List (String × Operand Nested))
  | [] => []
  | call :: rest => call.updateRows ++ allUpdateRows rest

end

mutual

/-- A call sets what the rows of its updates define, and leaves the assignments alone otherwise. -/
theorem assignments_run (b : Builder) : (call : Call) →
    (call.run b).value.statement.assignments =
      Keyed.insertAll b.statement.assignments (call.updateRows.flatMap definedRow)
  | .update row _ => by
    rw [updateRows, List.flatMap_singleton]
    exact b.assignments_update b.target row
  | .modify calls => assignments_runAll calls b
  | .describe description => by
    cases description with
    | object clauses => exact Description.assignments_applyClauses clauses b
    | _ => rfl
  | .filter clause _ _ | .group clause _ _ => by
    cases clause <;> rfl
  | .or | .and | .not | .select _ | .first _ | .aggregate _ | .distinct | .source _
  | .withSchema _ | .withAlias _ | .join _ _ _ | .joinRaw _ | .groupBy _ | .orderBy _ _
  | .orderByRaw _ | .limit _ | .offset _ | .union _ _ _ | .lock _ | .transacting | .insert _ _
  | .returning _ | .delete | .truncate | .fork _ | .withTarget _ => rfl

/-- Calls in a row set what the rows of all their updates define, in one pass. -/
theorem assignments_runAll : (calls : List Call) → (b : Builder) →
    (runAll calls b).value.statement.assignments =
      Keyed.insertAll b.statement.assignments ((allUpdateRows calls).flatMap definedRow)
  | [], _ => rfl
  | call :: rest, b => by
    rw [runAll, Logged.value_bind, assignments_runAll rest, assignments_run b call, allUpdateRows,
      List.flatMap_append, Keyed.insertAll_append]

end

end Call

/-! ### The merged assignments -/

/-- The columns that rows define, each once, in the order of the first row that defines them and,
within that row, in the order in which they come first. -/
def mergedColumns (rows : List (List (String × Operand Nested))) : List String :=
  (rows.flatMap definedColumns).eraseDups

/-- The operand of a column in the last row that defines it. -/
def mergedOperand (rows : List (List (String × Operand Nested))) (column : String) :
    Option (Operand Nested) :=
  rows.reverse.findSome? fun row => Statement.definedCell row.reverse column

section Merged

variable (rows : List (List (String × Operand Nested)))

theorem keys_merged :
    Keyed.keys (Keyed.ofPairs (rows.flatMap definedRow)) = mergedColumns rows := by
  have names : Keyed.keys (rows.flatMap definedRow) = rows.flatMap definedColumns := by
    rw [Keyed.keys, List.map_flatMap]
    exact congrArg (rows.flatMap ·) (funext keys_definedRow)
  rw [Keyed.keys_ofPairs, names, mergedColumns]

theorem get?_merged (column : String) :
    Keyed.get? column (Keyed.ofPairs (rows.flatMap definedRow)) =
      (mergedOperand rows column).map Operand.settled := by
  rw [Keyed.get?_ofPairs, List.reverse_flatMap, Keyed.get?_flatMap, mergedOperand,
    List.map_findSome?]
  congr 1
  funext row
  exact get?_definedRow column row

end Merged

/-! ### The values of an update -/

namespace Rendering

theorem values_of_bound {r : Rendering} {values : List Value} (given : r.bound = .ok values) :
    r.values = values :=
  (bound_ok_iff.mp given).2.symm

/-- A sequence that is not stopped binds the values of its parts, one after another. -/
theorem values_concat {rs : List Rendering} (renders : (concat rs).Renders) :
    (concat rs).values = rs.flatMap values := by
  have each (r) (member : r ∈ rs) : (id r).bound = .ok r.values :=
    (renders_of_concat renders r member).bound_eq
  have whole := bound_concat_map each
  rw [List.map_id] at whole
  exact values_of_bound whole

end Rendering

namespace Statement

/-- The values that the operands of the assignments bind, column by column. -/
def assignedValues (target : Target) (s : Statement) : List Value :=
  s.assignments.flatMap fun (_, operand) => (operand.rendered target).inValue.values

variable {s : Statement} {target : Target}

/-- The assignments bind the values of their operands, and are stopped where one of these is. -/
theorem renders_assignments
    (renders : (Rendering.commaSeparated ((s.clauses target).assignments.map
      fun (column, value) => assignment target column value)).Renders) :
    (∀ entry ∈ s.assignments, (entry.2.rendered target).inValue.Renders) ∧
      (Rendering.commaSeparated ((s.clauses target).assignments.map
        fun (column, value) => assignment target column value)).values =
          s.assignedValues target := by
  have each (entry : String × Operand Attached) :
      (assignment target entry.1 (entry.2.rendered target)).bound =
        (entry.2.rendered target).inValue.bound := by
    rw [assignment, Rendering.bound_concat_text, Rendering.bound_concat_text,
      Rendering.bound_concat_singleton]
  have same : (Rendering.commaSeparated ((s.clauses target).assignments.map
      fun (column, value) => assignment target column value)).bound =
        (Rendering.concat (s.assignments.map fun entry =>
          (entry.2.rendered target).inValue)).bound := by
    rw [Rendering.commaSeparated, Rendering.bound_separated, clauses,
      Operand.renderedPairs_eq_map, List.map_map]
    exact Rendering.bound_concat_map_congr fun entry _ => each entry
  rw [Rendering.Renders, same] at renders
  refine ⟨fun entry member => ?_, ?_⟩
  · exact Rendering.renders_of_concat renders _ (List.mem_map_of_mem member)
  · refine Rendering.values_of_bound (same.trans ?_)
    rw [Rendering.Renders.bound_eq renders, Rendering.values_concat renders, List.flatMap_map]
    rfl

/-- An update that compiles binds a limit ahead of the table, then the values of the table and of
the joins that are kept, then those of its assignments and then those of its conditions. What
follows are the values of an ordering and a limit, and the output slots. -/
theorem bindings_of_update {sql : Sql} (update : s.kind = .update)
    (compiled : (s.compile target).outcome = .ok sql) :
    let c := s.clauses target
    let joins := s.keptJoins target c target.grammar.updateJoins "update"
    (∀ part ∈ [s.mutationLimitAhead target, c.source, joins, c.wheres], part.Renders) ∧
      (∀ entry ∈ s.assignments, (entry.2.rendered target).inValue.Renders) ∧
      sql.bindings = (s.mutationLimitAhead target).values ++ c.source.values ++ joins.values ++
        s.assignedValues target ++ c.wheres.values ++
        ((s.mutationOrderAndLimit target c).values ++ s.outputSlots target) := by
  intro c joins
  have clean := fault_eq_none_of_compile compiled
  have given := bound_of_compile compiled
  rw [render_eq, assemble, clean] at given
  dsimp only at given
  rw [update] at given
  dsimp only at given
  rw [renderUpdate] at given
  split at given
  · cases given
  · obtain ⟨renders, whole⟩ := Rendering.bound_ok_iff.mp given
    have parts := Rendering.renders_of_concat renders
    simp only [List.forall_mem_cons] at parts
    obtain ⟨-, ahead, source, kept, -, assigned, -, wheres, -⟩ := parts
    obtain ⟨each, values⟩ := renders_assignments assigned
    refine ⟨?_, each, ?_⟩
    · simp only [List.forall_mem_cons]
      exact ⟨ahead, source, kept, wheres, nofun⟩
    · have output := Rendering.values_of_bound (bound_returningAhead target s "inserted")
      have slots := Rendering.values_of_bound (bound_returningAtEnd target s)
      have last : (s.mutationEnd target).values = [] := by
        unfold mutationEnd Rendering.guarded
        split <;> rfl
      have text (word : String) : (Rendering.text word).values = [] := rfl
      rw [whole, Rendering.values_concat renders]
      simp only [List.flatMap_cons, List.flatMap_nil, text, values, output, slots, last,
        List.nil_append, List.append_nil, List.append_assoc]
      rfl

end Statement

/-! ### Calls -/

namespace Call

/-- After any calls the assignments are an ordered map of what the rows of all updates define: the
columns are those that some row defines, each once, in the order of the first row that defines them
and of their first mention in it, and each has the operand of the last row that defines it, which is
the last one in that row. One more update moves and removes nothing, and changes no column but those
that its row defines. If the statement is an update and compiles, it binds the values of exactly
these operands in the order of the columns, behind those of a limit ahead of the table, of the table
and of the joins that are kept, and in front of those of its conditions. -/
theorem runAll_merges (calls : List Call) (start : Target) :
    let b := (runAll calls (.start start)).value
    let s := b.statement
    let rows := allUpdateRows calls
    (Keyed.keys s.assignments = mergedColumns rows ∧ (mergedColumns rows).Nodup ∧
      ∀ column, Keyed.get? column s.assignments =
        (mergedOperand rows column).map Operand.settled) ∧
    (∀ row returning,
      let after := ((update row returning).run b).value.statement
      Keyed.keys s.assignments <+: Keyed.keys after.assignments ∧
        ∀ column, Statement.definedCell row.reverse column = none →
          Keyed.get? column after.assignments = Keyed.get? column s.assignments) ∧
    ∀ target sql, s.kind = .update → (s.compile target).outcome = .ok sql →
      let c := s.clauses target
      let joins := s.keptJoins target c target.grammar.updateJoins "update"
      (∀ part ∈ [s.mutationLimitAhead target, c.source, joins, c.wheres], part.Renders) ∧
      (∀ entry ∈ s.assignments, (entry.2.rendered target).inValue.Renders) ∧
      sql.bindings = (s.mutationLimitAhead target).values ++ c.source.values ++ joins.values ++
        s.assignedValues target ++ c.wheres.values ++
        ((s.mutationOrderAndLimit target c).values ++ s.outputSlots target) := by
  intro b s rows
  have merged : s.assignments = Keyed.ofPairs (rows.flatMap definedRow) :=
    assignments_runAll calls (.start start)
  have names : Keyed.keys s.assignments = mergedColumns rows := by
    rw [merged, keys_merged]
  refine ⟨⟨names, ?_, fun column => ?_⟩, fun row returning => ?_, fun target sql kind compiled =>
    Statement.bindings_of_update kind compiled⟩
  · rw [← names, merged]
    exact Keyed.nodup_keys_ofPairs _
  · rw [merged, get?_merged]
  · intro after
    have set : after.assignments = Keyed.insertAll s.assignments (definedRow row) :=
      b.assignments_update b.target row
    refine ⟨?_, fun column undefined => ?_⟩
    · rw [set, Keyed.keys_insertAll]
      exact List.prefix_append _ _
    · rw [set, Keyed.get?_insertAll, get?_definedRow, undefined]
      rfl

/-- Three updates with other calls between them, one of them in a description: `a` is set twice in
its first row, `c` is undefined last in the first row and set in a later one, and `b` is undefined
where it comes first. A copy of the builder is updated as well. -/
theorem runAll_merges_interleaved :
    let calls : List Call := [.source (.name "t"), .limit (some 4),
      .update [("b", .undefined), ("a", .value (.int 1)), ("c", .value (.int 2)),
        ("a", .value (.int 3)), ("c", .undefined)] [],
      .filter .wheres {} (.between (.name "id") (.value (.int 8)) (.value (.int 9))),
      .fork [.update [("d", .value (.int 0))] []],
      .describe (.object [("update", .object [("c", .string "x")])]),
      .modify [.update [("b", .query (.callback [.source (.name "u"), .limit (some 6)])),
        ("a", .value (.int 7)), ("c", .undefined)] []]]
    let s := (runAll calls (.start { dialect := .mssql })).value.statement
    s.kind = .update ∧ Keyed.keys s.assignments = ["a", "c", "b"] ∧ ∃ sql,
      (s.compile { dialect := .mssql }).outcome = .ok sql ∧
      sql.text = "update top (?) [t] set [a] = ?, [c] = ?, [b] = (select top (?) * from [u]) " ++
        "where [id] between ? and ?;select @@rowcount" ∧
      sql.bindings = [.int 4] ++ [.int 7, .text "x", .int 6] ++ [.int 8, .int 9] := by
  intro calls s
  have compiled : (s.compile { dialect := .mssql }).outcome = .ok _ := rfl
  obtain ⟨⟨names, -, -⟩, -, binds⟩ := runAll_merges calls { dialect := .mssql }
  obtain ⟨-, -, whole⟩ := binds { dialect := .mssql } _ rfl compiled
  exact ⟨rfl, names.trans (by decide +kernel), _, compiled, by decide +kernel, whole⟩

end Call

end PortableSql
