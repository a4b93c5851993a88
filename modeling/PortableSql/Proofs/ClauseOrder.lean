import PortableSql.Proofs.LateBinding
import PortableSql.Proofs.SettledTrees

/-!
Clauses may be called in any order.

A `Part` of a builder is what calls of one group set, and `Call.part?` says which part a call sets.
A call leaves the content of every other part alone, and what it makes of its own part depends on
that part only. So the content of a part after a run is decided by the calls of that part in their
order (`Link.content_runAll`), and two runs that agree on these for every part build the same
statement (`Link.runAll_rearranged`).

The modifiers `or`, `and` and `not` wait for the next condition, so a `Link` is a call with the
modifiers in front of it; only a call that adds a condition takes any.
-/

namespace PortableSql

/-! ### Parts -/

/-- What calls of one group set. -/
inductive Part where
  | target
  | columns
  | distinct
  | table
  | schema
  | aliasName
  | joins
  | wheres
  | groups
  | havings
  | orders
  | limit
  | offset
  | unions
  /-- What the statement does, with what it writes. -/
  | kind
  | returning
  | lock
  | transacting
deriving DecidableEq

/-- What a part of a builder holds. -/
def Part.Content : Part → Type
  | .target => Target
  | .columns | .groups => List (Column Attached)
  | .distinct | .transacting => Bool
  | .table => Option (Column Attached)
  | .schema | .aliasName => Option String
  | .joins => List (Join Attached)
  | .wheres | .havings => List (Term Attached)
  | .orders => List (Order Attached)
  | .limit | .offset => Option UInt64
  | .unions => List (UnionPart Attached)
  | .kind =>
    StatementKind × Option (InsertPayload Attached) × List (String × Operand Attached)
  | .returning => List String
  | .lock => Option Lock

/-- The part that conditions of a clause stand in. -/
def FilterClause.part : FilterClause → Part
  | .wheres => .wheres
  | .havings => .havings

namespace Builder

/-- What a part holds. -/
def content (b : Builder) : (part : Part) → part.Content
  | .target => b.target
  | .columns => b.statement.columns
  | .distinct => b.statement.distinct
  | .table => b.statement.table
  | .schema => b.statement.schema
  | .aliasName => b.statement.aliasName
  | .joins => b.statement.joins
  | .wheres => b.statement.wheres
  | .groups => b.statement.groups
  | .havings => b.statement.havings
  | .orders => b.statement.orders
  | .limit => b.statement.limit
  | .offset => b.statement.offset
  | .unions => b.statement.unions
  | .kind => (b.statement.kind, b.statement.insert, b.statement.assignments)
  | .returning => b.statement.returning
  | .lock => b.statement.lock
  | .transacting => b.statement.transacting

/-- No modifier is waiting. -/
structure Rested (b : Builder) : Prop where
  connector : b.connector = .and
  negated : b.negated = false

/-- Nothing is waiting: no modifier for a condition, and no callback to be run. -/
structure Idle (b : Builder) : Prop extends b.Rested where
  settled : b.statement.All Statement.Settled

theorem idle_start (target : Target) : (start target).Idle where
  connector := rfl
  negated := rfl
  settled := invariant_settled.start target

theorem content_kind_eq_iff {b b' : Builder} :
    b.content .kind = b'.content .kind ↔ b.statement.kind = b'.statement.kind ∧
      b.statement.insert = b'.statement.insert ∧
      b.statement.assignments = b'.statement.assignments := by
  rw [← Prod.mk.injEq, ← Prod.mk.injEq]
  exact Iff.rfl

/-- The parts, the fault and the waiting modifiers are all there is to a builder. -/
theorem eq_of_content {b b' : Builder} (same : ∀ part, b.content part = b'.content part)
    (fault : b.fault = b'.fault) (rested : b.Rested) (rested' : b'.Rested) : b = b' := by
  obtain ⟨kind, insert, assignments⟩ := content_kind_eq_iff.mp (same .kind)
  have statement : b.statement = b'.statement :=
    Statement.ext kind (same .schema) (same .aliasName) (same .distinct) (same .limit)
      (same .offset) (same .returning) (same .lock) (same .transacting) fault (same .table)
      (same .columns) (same .joins) (same .wheres) (same .groups) (same .havings) (same .orders)
      (same .unions) insert assignments
  have connector := rested.connector.trans rested'.connector.symm
  have negated := rested.negated.trans rested'.negated.symm
  cases b
  cases b'
  rw [Builder.mk.injEq]
  exact ⟨same .target, statement, connector, negated⟩

end Builder

namespace Call

open Builder (content_kind_eq_iff)

/-- The part that a call sets. A call that sets several has none, and neither have the modifiers and
the calls that apply other calls. -/
def part? : Call → Option Part
  | .filter clause _ _ | .group clause _ _ => some clause.part
  | .select _ | .aggregate _ => some .columns
  | .distinct => some .distinct
  | .source _ => some .table
  | .withSchema _ => some .schema
  | .withAlias _ => some .aliasName
  | .join _ _ _ | .joinRaw _ => some .joins
  | .groupBy _ => some .groups
  | .orderBy _ _ | .orderByRaw _ => some .orders
  | .limit _ => some .limit
  | .offset _ => some .offset
  | .union _ _ _ => some .unions
  | .insert _ [] | .update _ [] | .delete | .truncate => some .kind
  | .returning _ => some .returning
  | .lock _ => some .lock
  | .transacting => some .transacting
  | .withTarget _ => some .target
  | .or | .and | .not | .first _ | .insert _ (_ :: _) | .update _ (_ :: _) | .modify _ | .fork _
  | .describe _ => none

variable {call : Call} {part other : Part}

/-- A call leaves every part but its own alone. -/
theorem content_run_of_ne (own : call.part? = some part) (different : other ≠ part) (b : Builder) :
    (call.run b).value.content other = b.content other := by
  cases call with
  | or | and | not | first | modify | fork | describe => cases own
  | filter clause | group clause =>
    cases own
    cases clause <;> cases other <;> first | rfl | exact absurd rfl different
  | insert source columns | update row columns =>
    cases columns with
    | cons => cases own
    | nil =>
      cases own
      cases other <;> first | rfl | exact absurd rfl different | exact List.append_nil _
  | _ => cases own; cases other <;> first | rfl | exact absurd rfl different

theorem content_withTarget (b : Builder) (target : Target) {part : Part}
    (different : part ≠ .target) : (b.withTarget target).content part = b.content part := by
  cases part <;> first | rfl | exact absurd rfl different

/-- What a call makes of its own part depends on what the part holds and on the modifiers that are
waiting. -/
theorem content_run_congr (own : call.part? = some part) {b b' : Builder}
    (same : b.content part = b'.content part) (target : b.target = b'.target)
    (connector : b.connector = b'.connector) (negated : b.negated = b'.negated) :
    (call.run b).value.content part = (call.run b').value.content part := by
  obtain ⟨t, s, c, n⟩ := b
  obtain ⟨t', s', c', n'⟩ := b'
  dsimp only at target connector negated
  subst target connector negated
  cases call with
  | or | and | not | first | modify | fork | describe => cases own
  | filter clause | group clause =>
    cases own
    cases clause <;> exact congrArg (· ++ _) same
  | select | join | joinRaw | groupBy | orderBy | orderByRaw | union | returning | aggregate =>
    cases own
    exact congrArg (· ++ _) same
  | insert source columns =>
    cases columns with
    | cons => cases own
    | nil =>
      cases own
      exact content_kind_eq_iff.mpr ⟨rfl, rfl, (content_kind_eq_iff.mp same).2.2⟩
  | update row columns =>
    cases columns with
    | cons => cases own
    | nil =>
      cases own
      obtain ⟨-, payload, pairs⟩ := content_kind_eq_iff.mp same
      exact content_kind_eq_iff.mpr ⟨rfl, payload, congrArg (Keyed.insertAll · _) pairs⟩
  | delete | truncate =>
    cases own
    exact content_kind_eq_iff.mpr ⟨rfl, (content_kind_eq_iff.mp same).2⟩
  | _ => cases own; rfl

/-- Whether a call adds a condition and so takes the modifiers that are waiting. -/
def addsCondition : Call → Bool
  | .filter _ _ _ | .group _ _ _ => true
  | _ => false

/-- After a call that sets a part no modifier waits, unless one waited before and was not taken. -/
theorem rested_run (own : call.part? = some part) {b : Builder}
    (rested : call.addsCondition = false → b.Rested) : (call.run b).value.Rested := by
  cases call with
  | or | and | not | first | modify | fork | describe => cases own
  | filter | group => exact ⟨rfl, rfl⟩
  | _ => exact ⟨(rested rfl).connector, (rested rfl).negated⟩

theorem runAll_append (front back : List Call) (b : Builder) :
    (runAll (front ++ back) b).value = (runAll back (runAll front b).value).value := by
  induction front generalizing b with
  | nil => rfl
  | cons call rest ih => exact ih _

/-! ### Faults -/

theorem fault_of_runAll {calls : List Call} {b : Builder}
    (clean : (runAll calls b).value.fault = none) : b.fault = none := by
  rw [fault_runAll, List.head?_eq_none_iff, List.append_eq_nil_iff] at clean
  exact Option.toList_eq_nil_iff.mp clean.1

end Call

/-! ### Calls with their modifiers -/

/-- A modifier of the next condition. -/
inductive Modifier where
  | or
  | and
  | not
deriving DecidableEq

namespace Modifier

/-- The call that sets a modifier. -/
def call : Modifier → Call
  | .or => .or
  | .and => .and
  | .not => .not

/-- A builder on which a modifier waits as well. -/
def apply (b : Builder) : Modifier → Builder
  | .or => b.or
  | .and => b.and
  | .not => b.not

end Modifier

/-- A call with the modifiers directly in front of it. -/
structure Link where
  modifiers : List Modifier := []
  call : Call

namespace Link

/-- The calls of a link. -/
def calls (link : Link) : List Call :=
  link.modifiers.map Modifier.call ++ [link.call]

/-- The part that a link sets. Modifiers may only stand in front of a condition. -/
def part? (link : Link) : Option Part :=
  if link.modifiers = [] ∨ link.call.addsCondition = true then link.call.part? else none

/-- The builder after a link. -/
def run (b : Builder) (link : Link) : Builder :=
  (Call.runAll link.calls b).value

/-- The builder after links in order. -/
def runAll (links : List Link) (b : Builder) : Builder :=
  (Call.runAll (links.flatMap calls) b).value

/-- The builder to which the call of a link is applied. -/
def ready (b : Builder) (link : Link) : Builder :=
  link.modifiers.foldl Modifier.apply b

theorem runAll_cons (link : Link) (rest : List Link) (b : Builder) :
    runAll (link :: rest) b = runAll rest (link.run b) := by
  rw [runAll, List.flatMap_cons, Call.runAll_append]
  rfl

variable {link : Link} {part other : Part}

theorem run_eq (b : Builder) : link.run b = (link.call.run (link.ready b)).value := by
  obtain ⟨modifiers, call⟩ := link
  induction modifiers generalizing b with
  | nil => rfl
  | cons modifier rest ih => cases modifier <;> exact ih _

theorem call_part (own : link.part? = some part) : link.call.part? = some part := by
  unfold part? at own
  split at own
  · exact own
  · cases own

/-- Modifiers change nothing else. -/
theorem ready_still (b : Builder) :
    (link.ready b).statement = b.statement ∧ (link.ready b).target = b.target := by
  obtain ⟨modifiers, call⟩ := link
  induction modifiers generalizing b with
  | nil => exact ⟨rfl, rfl⟩
  | cons modifier rest ih => cases modifier <;> exact ih _

theorem ready_waiting {b b' : Builder} (connector : b.connector = b'.connector)
    (negated : b.negated = b'.negated) : (link.ready b).connector = (link.ready b').connector ∧
      (link.ready b).negated = (link.ready b').negated := by
  obtain ⟨modifiers, call⟩ := link
  induction modifiers generalizing b b' with
  | nil => exact ⟨connector, negated⟩
  | cons modifier rest ih =>
    cases modifier with
    | or | and => exact ih rfl negated
    | not => exact ih connector rfl

theorem content_ready (b : Builder) (part : Part) :
    (link.ready b).content part = b.content part := by
  obtain ⟨statement, target⟩ := link.ready_still b
  unfold Builder.content
  rw [statement, target]

theorem content_run_of_ne (own : link.part? = some part) (different : other ≠ part) (b : Builder) :
    (link.run b).content other = b.content other := by
  rw [run_eq, Call.content_run_of_ne (call_part own) different, content_ready]

/-- What a link makes of its own part depends on what the part holds, also for other targets. -/
theorem content_run_congr (own : link.part? = some part) {b b' : Builder} (idle : b.Idle)
    (rested' : b'.Rested) (same : b.content part = b'.content part) :
    (link.run b).content part = (link.run b').content part := by
  obtain ⟨connector, negated⟩ := link.ready_waiting
    (idle.connector.trans rested'.connector.symm) (idle.negated.trans rested'.negated.symm)
  have held : (link.ready b).content part = (link.ready b').content part := by
    rw [content_ready, content_ready, same]
  rw [run_eq, run_eq]
  by_cases isTarget : part = .target
  · subst isTarget
    exact Call.content_run_congr (call_part own) held held connector negated
  · -- The two builders may have different targets, so the first one is moved to the second's.
    have resolved : (link.ready b).statement.All Statement.Resolved := by
      rw [(link.ready_still b).1]
      exact idle.settled.mono fun s => (·.resolved)
    have moved := Call.run_withTarget link.call resolved (link.ready b').target
      (link.ready b').target
    have placed := congrArg (·.content part) moved
    rw [Call.content_withTarget _ _ isTarget, Call.content_withTarget _ _ isTarget] at placed
    rw [← placed]
    refine Call.content_run_congr (call_part own) ?_ rfl connector negated
    rw [Call.content_withTarget _ _ isTarget, held]

theorem rested_run (own : link.part? = some part) {b : Builder} (rested : b.Rested) :
    (link.run b).Rested := by
  rw [run_eq]
  refine Call.rested_run (call_part own) fun plain => ?_
  obtain ⟨modifiers, call⟩ := link
  cases modifiers with
  | nil => exact rested
  | cons modifier rest =>
    have taken : (⟨modifier :: rest, call⟩ : Link).part? = none := by
      rw [part?, plain]
      rfl
    cases taken.symm.trans own

theorem idle_run (own : link.part? = some part) {b : Builder} (idle : b.Idle) :
    (link.run b).Idle :=
  { rested_run own idle.toRested with settled := Call.settled_runAll link.calls idle.settled }

/-! ### Runs -/

/-- What a part holds after a run is decided by the links of that part in their order. -/
theorem content_runAll {links : List Link} (owned : ∀ link ∈ links, link.part?.isSome = true)
    (part : Part) {b b' : Builder} (idle : b.Idle) (rested' : b'.Rested)
    (same : b.content part = b'.content part) :
    (runAll links b).content part =
      (runAll (links.filter (·.part? = some part)) b').content part := by
  induction links generalizing b b' with
  | nil => exact same
  | cons link rest ih =>
    obtain ⟨own, isOwn⟩ := Option.isSome_iff_exists.mp (owned link List.mem_cons_self)
    have later := fun other member => owned other (List.mem_cons_of_mem _ member)
    rw [runAll_cons]
    by_cases mine : link.part? = some part
    · rw [List.filter_cons_of_pos (by simpa using mine), runAll_cons]
      exact ih later (idle_run mine idle) (rested_run mine rested')
        (content_run_congr mine idle rested' same)
    · rw [List.filter_cons_of_neg (by simpa using mine)]
      have different : part ≠ own := by
        rintro rfl
        exact mine isOwn
      refine ih later (idle_run isOwn idle) rested' ?_
      rw [content_run_of_ne isOwn different, same]

theorem rested_runAll {links : List Link} (owned : ∀ link ∈ links, link.part?.isSome = true)
    {b : Builder} (rested : b.Rested) : (runAll links b).Rested := by
  induction links generalizing b with
  | nil => exact rested
  | cons link rest ih =>
    obtain ⟨own, isOwn⟩ := Option.isSome_iff_exists.mp (owned link List.mem_cons_self)
    rw [runAll_cons]
    exact ih (fun other member => owned other (List.mem_cons_of_mem _ member))
      (rested_run isOwn rested)

theorem fault_run_eq_none_iff (link : Link) {b : Builder} (clean : b.fault = none) :
    (link.run b).fault = none ↔ link.call.faults = [] := by
  have ready : (link.ready b).fault = none := by
    rw [Builder.fault, (link.ready_still b).1]
    exact clean
  rw [run_eq, Call.fault_run, ready, List.head?_eq_none_iff]
  rfl

/-- A run records no fault exactly if none of its calls has one. -/
theorem fault_runAll_eq_none_iff {links : List Link} {b : Builder} (clean : b.fault = none) :
    (runAll links b).fault = none ↔ ∀ link ∈ links, link.call.faults = [] := by
  induction links generalizing b with
  | nil => exact ⟨fun _ _ member => absurd member List.not_mem_nil, fun _ => clean⟩
  | cons link rest ih =>
    rw [runAll_cons, List.forall_mem_cons, ← fault_run_eq_none_iff link clean]
    constructor
    · intro whole
      have first : (link.run b).fault = none := Call.fault_of_runAll whole
      exact ⟨first, (ih first).mp whole⟩
    · exact fun ⟨first, silent⟩ => (ih first).mpr silent

/-! ### Rearranging -/

/-- The same links in another order in which those of one part follow each other as before. -/
structure Rearranged (links links' : List Link) : Prop where
  perm : links.Perm links'
  order : ∀ part, links.filter (·.part? = some part) = links'.filter (·.part? = some part)

/-- Links may be rearranged across parts: if the calls record no fault, then they build the same
in both orders, and so they render the same for every client. -/
theorem runAll_rearranged {links links' : List Link} (target : Target)
    (owned : ∀ link ∈ links, link.part?.isSome = true) (rearranged : Rearranged links links')
    (clean : (runAll links (.start target)).fault = none) :
    runAll links' (.start target) = runAll links (.start target) ∧
      ∀ client, (runAll links' (.start target)).statement.compile client =
        (runAll links (.start target)).statement.compile client := by
  have owned' : ∀ link ∈ links', link.part?.isSome = true :=
    fun link member => owned link (rearranged.perm.mem_iff.mpr member)
  have fresh := Builder.idle_start target
  have silent := (fault_runAll_eq_none_iff rfl).mp clean
  have clean' : (runAll links' (.start target)).fault = none := by
    refine (fault_runAll_eq_none_iff rfl).mpr fun link member => ?_
    exact silent link (rearranged.perm.mem_iff.mpr member)
  have same : runAll links' (.start target) = runAll links (.start target) := by
    refine Builder.eq_of_content (fun part => ?_) (clean'.trans clean.symm)
      (rested_runAll owned' fresh.toRested) (rested_runAll owned fresh.toRested)
    rw [content_runAll owned' part fresh fresh.toRested rfl,
      content_runAll owned part fresh fresh.toRested rfl,
      rearranged.order part]
  refine ⟨same, fun client => ?_⟩
  rw [same]

/-- Conditions, one of them a negated group joined by `or`, moved behind a table and a limit. -/
theorem runAll_rearranged_conditions :
    let conditions : List Link := [
      { call := .filter .wheres {} (.compare (.name "a") "in" (.value (.int 1))) },
      { modifiers := [.or, .not]
        call := .group .wheres {} [.filter .wheres {} (.null (.name "b"))] }]
    let others : List Link := [{ call := .source (.name "t") }, { call := .limit (some 5) }]
    let before := runAll (conditions ++ others) (.start {})
    let after := runAll (others ++ conditions) (.start {})
    ((∀ link ∈ conditions ++ others, link.part?.isSome = true) ∧
      Rearranged (conditions ++ others) (others ++ conditions) ∧ before.fault = none) ∧
      after = before ∧
        ∀ client, after.statement.compile client = before.statement.compile client := by
  intro conditions others before after
  have owned : ∀ link ∈ conditions ++ others, link.part?.isSome = true := by
    simp [conditions, others, part?, Call.addsCondition, Call.part?]
  have rearranged : Rearranged (conditions ++ others) (others ++ conditions) :=
    ⟨List.perm_append_comm, fun part => by cases part <;> rfl⟩
  have clean : before.fault = none := by decide +kernel
  exact ⟨⟨owned, rearranged, clean⟩, runAll_rearranged {} owned rearranged clean⟩

end Link

end PortableSql
