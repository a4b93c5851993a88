import PortableSql.Proofs.FaultLog

/-!
Which clauses calls put conditions in.

Unless a fault is recorded, a clause has conditions after calls exactly if it had some before or if
one of the calls puts some there (`Call.fills_runAll`). Which calls do is read off the calls alone
(`Call.fills`): a condition does, unless it is an object without members, and so does a group that
has such a call inside. A call that fails may leave out its condition, so faults are excluded; a
builder without a fault had none before its last call either, which carries the induction.
-/

namespace PortableSql

open Builder (Operation)

/-- Terms as one term that groups them, unless there are none. -/
def Term.grouped {σ : Type} (connector : Connector) (negated : Bool) (terms : List (Term σ)) :
    List (Term σ) :=
  if terms.isEmpty then [] else [⟨connector, negated, .group terms⟩]

theorem Term.grouped_eq_nil_iff {σ : Type} {connector : Connector} {negated : Bool}
    {terms : List (Term σ)} : grouped connector negated terms = [] ↔ terms = [] := by
  unfold grouped
  split
  · rename_i none
    exact iff_of_true rfl (List.isEmpty_iff.mp none)
  · rename_i some
    exact iff_of_false (List.cons_ne_nil _ _) fun none => some (List.isEmpty_iff.mpr none)

namespace Keyed

variable {α : Type}

theorem insert_ne_nil (key : String) (value : α) (entries : Keyed α) :
    insert key value entries ≠ [] := by
  cases entries with
  | nil => exact List.cons_ne_nil _ _
  | cons entry rest =>
    unfold insert
    split <;> exact List.cons_ne_nil _ _

theorem insertAll_ne_nil {entries : Keyed α} (some : entries ≠ []) (pairs : List (String × α)) :
    insertAll entries pairs ≠ [] := by
  induction pairs generalizing entries with
  | nil => exact some
  | cons pair rest ih => exact ih (insert_ne_nil pair.1 pair.2 entries)

theorem ofPairs_ne_nil {pairs : List (String × α)} (some : pairs ≠ []) : ofPairs pairs ≠ [] := by
  cases pairs with
  | nil => exact absurd rfl some
  | cons pair rest => exact insertAll_ne_nil (insert_ne_nil pair.1 pair.2 []) rest

end Keyed

/-! ### The terms of conditions -/

namespace Filter

/-- Whether a condition asks for anything: an object without members does not. -/
def asks {σ : Type} : Filter σ → Bool
  | .object row => !row.isEmpty
  | _ => true

/-- However often an object gives its members, it asks for something if it has any. -/
theorem asks_ofPairs {σ : Type} (pairs : List (String × Operand σ)) :
    (object (Keyed.ofPairs pairs)).asks = !pairs.isEmpty := by
  cases pairs with
  | nil => rfl
  | cons pair rest =>
    have some := Keyed.ofPairs_ne_nil (List.cons_ne_nil pair rest)
    exact congrArg Bool.not (Bool.eq_false_iff.mpr fun none => some (List.isEmpty_iff.mp none))

theorem asks_attach (target : Target) (condition : Filter Nested) :
    (condition.attach target).value.asks = condition.asks := by
  cases condition with
  | object pairs =>
    refine (asks_ofPairs (Operand.attachPairs target pairs).value).trans ?_
    cases pairs <;> rfl
  | _ => rfl

variable {column : Column Attached} {value : Operand Attached}

theorem isSome_membership (fits : membershipFaults value = []) :
    (membership column value).value.isSome := by
  cases value with
  | value v => cases v <;> rfl
  | query | raw => rfl
  | undefined => cases fits

theorem isSome_range (fits : rangeFaults value = []) : (range column value).value.isSome := by
  unfold range
  split
  · rfl
  · rename_i unbounded
    rw [rangeFaults_eq unbounded] at fits
    cases fits

theorem isSome_comparison {operator : Operator} (fits : comparisonFaults operator value = []) :
    (comparison column operator value).value.isSome := by
  unfold comparisonFaults at fits
  unfold comparison
  dsimp only at fits ⊢
  split at fits
  · rename_i isMembership
    rw [if_pos isMembership]
    exact Option.isSome_map.trans (isSome_membership fits)
  · rename_i noMembership
    rw [if_neg noMembership]
    split at fits
    · rename_i isRange
      rw [if_pos isRange]
      exact Option.isSome_map.trans (isSome_range fits)
    · rename_i noRange
      rw [if_neg noRange]
      split <;> rfl

variable {target : Target} {connector : Connector} {negated : Bool}

theorem term_ne_nil {condition : Option (Bool × Condition Attached)} (given : condition.isSome) :
    term connector negated condition ≠ [] := by
  obtain ⟨found, rfl⟩ := Option.isSome_iff_exists.mp given
  exact List.cons_ne_nil _ _

theorem compared_ne_nil {operator : String}
    (fits : comparedFaults target column operator value = []) :
    term connector negated (compared target column operator value).value ≠ [] := by
  refine term_ne_nil ?_
  unfold comparedFaults at fits
  unfold compared
  cases parsed : Operator.parse operator with
  | error fault =>
    rw [parsed] at fits
    cases fits
  | ok operator =>
    rw [parsed] at fits
    have own := (List.append_eq_nil_iff.mp (List.append_eq_nil_iff.mp fits).2).2
    rw [← comparisonFaults_resolve target] at own
    exact isSome_comparison own

/-- A condition in which everything fits has terms, if it asks for anything. -/
theorem terms_eq_nil_iff {f : Filter Attached} (fits : f.faults target = []) :
    (f.terms target connector negated).value = [] ↔ f.asks = false := by
  cases f with
  | compare => exact iff_of_false (compared_ne_nil fits) Bool.noConfusion
  | isIn column values =>
    have own := (List.append_eq_nil_iff.mp (List.append_eq_nil_iff.mp fits).2).2
    rw [← membershipFaults_resolve target] at own
    exact iff_of_false (term_ne_nil (Option.isSome_map.trans (isSome_membership own)))
      Bool.noConfusion
  | null | between | raw | literal => exact iff_of_false (List.cons_ne_nil _ _) Bool.noConfusion
  | «exists» query =>
    have own := (List.append_eq_nil_iff.mp fits).2
    refine iff_of_false ?_ Bool.noConfusion
    rw [terms, Build.value_bind, Operand.isQuery_resolve]
    split
    · exact List.cons_ne_nil _ _
    · rename_i refused
      rw [if_neg refused] at own
      cases own
  | object row =>
    have pairs : (pairTerms target negated row).value = [] ↔ (object row).asks = false := by
      cases row with
      | nil => exact iff_of_true rfl rfl
      | cons pair rest =>
        have first : term .and negated (compared target (.name pair.1) "=" pair.2).value ≠ [] :=
          compared_ne_nil (List.append_eq_nil_iff.mp fits).1
        exact iff_of_false (fun none => first (List.append_eq_nil_iff.mp none).1) Bool.noConfusion
    cases connector with
    | and => exact pairs
    | or => exact Term.grouped_eq_nil_iff.trans pairs

end Filter

/-! ### Operations -/

namespace Builder

/-- The terms of a clause. -/
def terms (b : Builder) : FilterClause → List (Term Attached)
  | .wheres => b.statement.wheres
  | .havings => b.statement.havings

section

variable (b : Builder) (clause : FilterClause) (lead : Lead)

/-- What a condition adds is put behind the terms of its clause. -/
theorem terms_filter (f : Filter Attached) :
    (b.filter clause lead f).value.terms clause = b.terms clause ++
      (f.terms b.target (b.modifiers lead).1 (b.modifiers lead).2).value := by
  cases clause <;> rfl

/-- A group is the conditions of the builder that was made for it. -/
theorem terms_group (built : Logged Builder) :
    (b.group clause lead built).value.terms clause = b.terms clause ++
      Term.grouped (b.modifiers lead).1 (b.modifiers lead).2 built.value.groupConditions.value := by
  cases clause <;> rfl

end

/-- Unless a fault is recorded, the clauses with conditions are those that had some before and those
that are filled. -/
def Fills (filled : FilterClause → Bool) (b after : Builder) : Prop :=
  after.fault = none → b.fault = none ∧
    ∀ clause, after.terms clause = [] ↔ b.terms clause = [] ∧ filled clause = false

namespace Fills

variable {filled more : FilterClause → Bool} {b after last : Builder}

theorem refl (b : Builder) : Fills (fun _ => false) b b :=
  fun clean => ⟨clean, fun _ => (and_iff_left rfl).symm⟩

theorem trans (first : Fills filled b after) (second : Fills more after last) :
    Fills (fun clause => filled clause || more clause) b last := by
  intro clean
  obtain ⟨between, behind⟩ := second clean
  obtain ⟨before, ahead⟩ := first between
  refine ⟨before, fun clause => ?_⟩
  rw [behind, ahead, Bool.or_eq_false_iff, and_assoc]

theorem fail (b : Builder) (fault : Fault) : Fills filled b (b.fail fault) := by
  intro clean
  rw [(Operation.grows_fail b fault).fault, List.head?_eq_none_iff, List.append_eq_nil_iff] at clean
  exact absurd clean.2 (List.cons_ne_nil _ _)

theorem of_eq (fills : Fills filled b after) (same : ∀ clause, filled clause = more clause) :
    Fills more b after :=
  funext same ▸ fills

end Fills

/-- The conditions that can be a group are none only if neither clause has any. -/
theorem groupConditions_eq_nil_iff {built : Builder} (fits : groupFaults built = []) :
    built.groupConditions.value = [] ↔ built.terms .wheres = [] ∧ built.terms .havings = [] := by
  have mixed := (List.append_eq_nil_iff.mp fits).2
  unfold groupConditions
  rw [Build.value_bind]
  split
  · rename_i noHavings
    exact (and_iff_left noHavings).symm
  · rename_i noWheres _
    exact (and_iff_right noWheres).symm
  · rename_i someWheres someHavings
    unfold mixedFaults at mixed
    split at mixed
    · rename_i one
      rw [List.isEmpty_iff, List.isEmpty_iff] at one
      exact absurd one (not_or.mpr ⟨someWheres, someHavings⟩)
    · cases mixed

namespace Operation

/-- Whether an operation puts conditions in a clause. -/
def fills (clause : FilterClause) : Operation → Bool
  | .filter own _ condition => own = clause && condition.asks
  | .group own _ built => own = clause && !built.value.groupConditions.value.isEmpty
  | _ => false

/-- An operation after which there is no fault records none. -/
theorem faults_of_apply (op : Operation) {b : Builder} (clean : (op.apply b).fault = none) :
    b.fault = none ∧ op.faults b.target = [] := by
  have nothing := (grows op b).fault
  rw [clean, eq_comm, List.head?_eq_none_iff, List.append_eq_nil_iff] at nothing
  exact nothing.imp_left Option.toList_eq_nil_iff.mp

theorem fills_apply (op : Operation) (b : Builder) : Fills op.fills b (op.apply b) := by
  intro clean
  obtain ⟨before, fits⟩ := op.faults_of_apply clean
  refine ⟨before, fun clause => ?_⟩
  have still (elsewhere : (op.apply b).terms clause = b.terms clause)
      (nothing : op.fills clause = false) :
      (op.apply b).terms clause = [] ↔ b.terms clause = [] ∧ op.fills clause = false := by
    rw [elsewhere, nothing]
    exact (and_iff_left rfl).symm
  cases op with
  | filter own lead condition =>
    by_cases same : own = clause
    · subst same
      rw [apply, terms_filter, List.append_eq_nil_iff, Filter.terms_eq_nil_iff fits]
      simp [fills]
    · refine still ?_ (by simp [fills, same])
      cases own <;> cases clause <;> first | rfl | exact absurd rfl same
  | group own lead built =>
    by_cases same : own = clause
    · subst same
      rw [apply, terms_group, List.append_eq_nil_iff, Term.grouped_eq_nil_iff]
      simp [fills]
    · refine still ?_ (by simp [fills, same])
      cases own <;> cases clause <;> first | rfl | exact absurd rfl same
  | _ => exact still (by cases clause <;> rfl) rfl

end Operation

end Builder

/-! ### Descriptions -/

namespace Description

/-- The clauses that ask for conditions on rows. -/
def restricting : List String :=
  ["where", "andWhere", "orWhere", "whereNot", "orWhereNot", "whereIn", "whereNotIn", "orWhereIn",
    "orWhereNotIn", "whereNull", "whereNotNull", "orWhereNull", "orWhereNotNull", "whereBetween",
    "whereNotBetween", "whereRaw"]

/-- Whether the argument of such a clause asks for anything: an object without members does not. -/
def asks : Json → Bool
  | .object members => !members.isEmpty
  | _ => true

/-- Whether a clause of a description puts conditions in a clause of the statement, if it can be
read. -/
def clauseFills (name : String) (arg : Json) : FilterClause → Bool
  | .wheres => name ∈ restricting && asks arg
  | .havings => name = "having"

/-- Whether a description that can be read puts conditions in a clause. -/
def fills (clause : FilterClause) : Json → Bool
  | .object clauses => clauses.any fun (name, arg) => clauseFills name arg clause
  | _ => false

/-- What fills clauses, whatever builder it is applied to. -/
def Fills (filled : FilterClause → Bool) (f : Action) : Prop :=
  ∀ b : Builder, b.Fills filled (f b).value

theorem fills_filter (own : FilterClause) (lead : Lead) (condition : Filter Attached) :
    Fills (fun clause => own = clause && condition.asks) fun b => b.filter own lead condition :=
  Operation.fills_apply (.filter own lead condition)

section Readings

variable (name : String) (arg : Json)

theorem fills_comparison (lead : Lead) :
    Reads (Fills fun clause => .wheres = clause && asks arg) (comparison name arg lead) := by
  refine reads_comparison ?object ?equal ?compare
  case object =>
    rintro members rfl
    have same : (Filter.object (rowOf members)).asks = asks (.object members) := by
      rw [rowOf, Filter.asks_ofPairs, entriesOf, List.isEmpty_map]
      rfl
    exact same ▸ fills_filter .wheres lead _
  case equal =>
    rintro column value rfl
    exact fills_filter .wheres lead _
  case compare =>
    rintro column operator value rfl
    exact fills_filter .wheres lead _

theorem fills_membership (lead : Lead) :
    Reads (Fills fun clause => .wheres = clause && asks arg) (membership name arg lead) := by
  refine reads_membership ?_
  rintro column values rfl
  exact fills_filter .wheres lead _

theorem fills_nullCheck (lead : Lead) :
    Reads (Fills fun clause => .wheres = clause && asks arg) (nullCheck name arg lead) := by
  refine reads_nullCheck ?_
  rintro column rfl
  exact fills_filter .wheres lead _

theorem fills_range (lead : Lead) :
    Reads (Fills fun clause => .wheres = clause && asks arg) (range name arg lead) := by
  refine reads_range ?_
  rintro column low high rfl
  exact fills_filter .wheres lead _

theorem fills_fragment : Reads (Fills fun clause => .wheres = clause && asks arg) (do
    let raw ← readFragment name arg
    return filter {} (.raw raw)) := by
  refine .bind fun raw read => ?_
  have asked : asks arg = true := by
    cases arg with
    | object => cases read
    | null | bool | number | string | array => rfl
  rw [asked]
  exact .ok (fills_filter .wheres {} (.raw raw))

end Readings

theorem fills_having (column operator : String) (value : Json) :
    Fills (fun clause => .havings = clause) fun b =>
      b.filter .havings {} (.compare (.name column) operator (operandOf value)) :=
  fun b => (fills_filter .havings {} _ b).of_eq fun _ => Bool.and_true _

theorem fills_orderByAll (orderings : List (String × String)) :
    Fills (fun _ => false) (orderByAll orderings) := by
  induction orderings with
  | nil => exact .refl
  | cons ordering rest ih =>
    intro b
    let first : Operation := .orderBy (.name ordering.1) (Direction.parse ordering.2)
    exact (first.fills_apply b).trans (ih (first.apply b))

theorem fills_distinct (names : List String) :
    Fills (fun _ => false) fun b => b.distinct.select (columns names) :=
  fun b => (Operation.fills_apply .distinct b).trans
    (Operation.fills_apply (.select (columns names)) b.distinct)

theorem clauseFills_restricting {name : String} (arg : Json) (own : name ∈ restricting) :
    clauseFills name arg = fun clause => .wheres = clause && asks arg := by
  have noHaving : name ≠ "having" := fun same => absurd (same ▸ own) (by decide)
  funext clause
  cases clause with
  | wheres => simp [clauseFills, own]
  | havings => simp [clauseFills, noHaving]

theorem clauseFills_having (arg : Json) :
    clauseFills "having" arg = fun clause => decide (.havings = clause) := by
  have other : "having" ∉ restricting := by decide
  funext clause
  cases clause with
  | wheres => simp [clauseFills, other]
  | havings => simp [clauseFills]

theorem clauseFills_other {name : String} (arg : Json) (other : name ∉ "having" :: restricting) :
    clauseFills name arg = fun _ => false := by
  rw [List.mem_cons, not_or] at other
  obtain ⟨noHaving, notOwn⟩ := other
  funext clause
  cases clause with
  | wheres => simp [clauseFills, notOwn]
  | havings => simp [clauseFills, noHaving]

/-- Every clause that can be read fills what its name tells. -/
theorem fills_action (name : String) (arg : Json) :
    Reads (Fills (clauseFills name arg)) (action name arg) := by
  unfold action
  -- One goal for each name of a clause; the name tells which list of conditions is filled.
  split
  all_goals first
    | exact .error _
    | rw [clauseFills_restricting arg (by decide)]
    | rw [clauseFills_having]
    | rw [clauseFills_other arg (by decide)]
  all_goals first
    | exact fills_comparison _ _ _
    | exact fills_membership _ _ _
    | exact fills_nullCheck _ _ _
    | exact fills_range _ _ _
    | exact fills_fragment _ _
    | exact reads_having fun column operator value _ => fills_having column operator value
    | exact reads_join (fun _ _ _ _ => Operation.fills_apply (.join _))
        fun _ _ _ _ _ => Operation.fills_apply (.join _)
    | exact reads_order fills_orderByAll
    | exact reads_distinct fills_distinct
    | exact .bind fun names _ => .ok (Operation.fills_apply (.select (columns names)))
    | exact .bind fun table _ => .ok (Operation.fills_apply (.source (.name table)))
    | exact .bind fun table _ =>
        .ok (Operation.fills_apply (.join (.start .cross (.name table))))
    | exact .bind fun names _ => .ok (Operation.fills_apply (.groupBy (columns names)))
    | exact .bind fun rows _ => .ok (Operation.fills_apply (.insert (.rows rows)))
    | exact .bind fun row _ => .ok (Operation.fills_apply (.update row))
    | exact .bind fun _ _ => .ok .refl
    | exact .ok .refl

theorem fills_applyClauses (clauses : List (String × Json)) :
    Fills (fun clause => fills clause (.object clauses)) (applyClauses clauses) := by
  induction clauses with
  | nil => exact .refl
  | cons entry rest ih =>
    obtain ⟨name, arg⟩ := entry
    intro b
    rw [applyClauses]
    cases read : action name arg with
    | error fault => exact .fail b fault
    | ok apply => exact (fills_action name arg apply read b).trans (ih (apply b).value)

theorem fills_describe (description : Json) (b : Builder) :
    b.Fills (fun clause => fills clause description) (b.describe description).value := by
  cases description with
  | object clauses => exact fills_applyClauses clauses b
  | null | bool | number | string | array => exact .fail b .descriptionNotObject

end Description

/-! ### Calls -/

mutual

/-- Whether a call puts conditions in a clause, unless it records a fault. -/
def Call.fills (clause : FilterClause) : Call → Bool
  | .filter own _ condition => own = clause && condition.asks
  | .group own _ calls =>
    own = clause && (Call.fillsAll .wheres calls || Call.fillsAll .havings calls)
  | .modify calls => Call.fillsAll clause calls
  | .describe description => Description.fills clause description
  | _ => false

/-- Whether one of several calls does. -/
def Call.fillsAll (clause : FilterClause) : List Call → Bool
  | [] => false
  | call :: rest => call.fills clause || Call.fillsAll clause rest

end

mutual

/-- A call that records no fault fills the clauses that it is said to fill. -/
theorem Call.fills_run (b : Builder) : (call : Call) → b.Fills call.fills (call.run b).value
  | .filter own lead condition => by
    have fills := Operation.fills_apply (.filter own lead (condition.attach b.target).value) b
    refine fills.of_eq fun clause => ?_
    rw [Operation.fills, Filter.asks_attach, Call.fills]
  | .group own lead calls => by
    intro clean
    let made := Call.runAll calls (.start b.target)
    obtain ⟨before, each⟩ := Operation.fills_apply (.group own lead made) b clean
    have fits : Builder.groupFaults made.value = [] :=
      (Operation.faults_of_apply (.group own lead made) clean).2
    have noFault : made.value.fault = none :=
      Option.toList_eq_nil_iff.mp (List.append_eq_nil_iff.mp fits).1
    obtain ⟨-, inside⟩ := Call.fills_runAll calls (.start b.target) noFault
    have conditions : made.value.groupConditions.value = [] ↔
        (Call.fillsAll .wheres calls || Call.fillsAll .havings calls) = false := by
      rw [Builder.groupConditions_eq_nil_iff fits, inside, inside, Bool.or_eq_false_iff]
      exact and_congr (and_iff_right rfl) (and_iff_right rfl)
    refine ⟨before, fun clause => (each clause).trans (and_congr_right fun _ => ?_)⟩
    simp only [Operation.fills, Call.fills, Bool.and_eq_false_iff, Bool.not_eq_false',
      List.isEmpty_iff]
    rw [conditions]
  | .modify calls => Call.fills_runAll calls b
  | .describe description => Description.fills_describe description b
  | .select columns | .first columns => Operation.fills_apply (.select _) b
  | .source table => Operation.fills_apply (.source _) b
  | .join kind table conditions => Operation.fills_apply (.join _) b
  | .joinRaw fragment => Operation.fills_apply (.joinRaw _) b
  | .groupBy columns => Operation.fills_apply (.groupBy _) b
  | .orderBy column direction => Operation.fills_apply (.orderBy _ direction) b
  | .orderByRaw fragment => Operation.fills_apply (.orderByRaw _) b
  | .union queries all wrap => Operation.fills_apply (.union _ all wrap) b
  | .insert payload _ => Operation.fills_apply (.insert _) b
  | .update row _ => Operation.fills_apply (.update _) b
  | .or | .and | .not | .aggregate _ | .distinct | .withSchema _ | .withAlias _ | .limit _
  | .offset _ | .lock _ | .transacting | .returning _ | .delete | .truncate | .fork _
  | .withTarget _ => .refl b

/-- So do several calls. -/
theorem Call.fills_runAll : (calls : List Call) → (b : Builder) →
    b.Fills (fun clause => Call.fillsAll clause calls) (Call.runAll calls b).value
  | [], b => .refl b
  | call :: rest, b =>
    (Call.fills_run b call).trans (Call.fills_runAll rest (call.run b).value)

end

/-- Calls that put conditions in both clauses make no group. -/
theorem Call.mixedFaults_runAll {calls : List Call} {target : Target}
    (clean : (Call.runAll calls (.start target)).value.fault = none) :
    Builder.mixedFaults (Call.runAll calls (.start target)).value.statement =
      if fillsAll .wheres calls && fillsAll .havings calls then [.mixedGroup] else [] := by
  obtain ⟨-, inside⟩ := Call.fills_runAll calls (.start target) clean
  have wheres := (inside .wheres).trans (and_iff_right rfl)
  have havings := (inside .havings).trans (and_iff_right rfl)
  unfold Builder.terms at wheres havings
  unfold Builder.mixedFaults
  simp only [List.isEmpty_iff, wheres, havings]
  cases fillsAll .wheres calls <;> cases fillsAll .havings calls <;> rfl

end PortableSql
