import PortableSql.Proofs.Operations

/-!
What holds of every builder that calls can make.

A property of builders is an invariant if fresh builders have it and every operation keeps it, once
the builders that made its nested statements have it. Calls follow each other and nest in arguments,
so the two halves go together: what an argument holds was made by builders with the property, and a
call keeps the property. The recursion is that of the calls themselves.
-/

namespace PortableSql

/-- A property of fresh builders that every operation keeps. -/
structure Builder.Invariant (P : Builder → Prop) : Prop where
  start : ∀ target, P (.start target)
  step : ∀ {b : Builder} (op : Operation), P b → op.Admits P → P (op.apply b)

namespace Builder.Invariant

variable {P : Builder → Prop} (inv : Builder.Invariant P)

include inv

theorem describe {b : Builder} (holds : P b) (description : Json) :
    P (b.describe description).value :=
  describe_induction (fun op _ plain holds => inv.step op holds (plain.admits P)) holds description

end Builder.Invariant

section Attaching

variable {P : Builder → Prop}

theorem MadeBy.add {draft : JoinDraft} (made : MadeBy P draft.operands) (connector : Connector)
    {condition : Condition Attached} (also : MadeBy P condition.operands) :
    MadeBy P (draft.add connector condition).operands := by
  refine (made.append also).mono fun a member => ?_
  simpa [JoinDraft.add, JoinDraft.operands, Term.operandsList_eq_flatMap, or_assoc] using member

theorem MadeBy.on {draft : JoinDraft} (made : MadeBy P draft.operands) (connector : Connector)
    {first second : Column Attached} (operator : String) (inFirst : MadeBy P first.operands)
    (inSecond : MadeBy P second.operands) :
    MadeBy P (draft.on connector first operator second).operands := by
  unfold JoinDraft.on
  split
  · exact made.add connector (inFirst.append inSecond)
  · exact made

theorem MadeBy.onGroup {draft built : JoinDraft} (made : MadeBy P draft.operands)
    (connector : Connector) (inner : MadeBy P built.operands) :
    MadeBy P (draft.onGroup connector built).operands := by
  unfold JoinDraft.onGroup
  dsimp only
  split
  · exact made
  · refine MadeBy.add made connector (inner.mono fun a member => ?_)
    exact List.mem_append_right _ member

theorem MadeBy.ofPairs {pairs : List (String × Operand Attached)}
    (all : MadeBy P (Operand.operandsPairs pairs)) :
    MadeBy P (Operand.operandsPairs (Keyed.ofPairs pairs)) := by
  refine all.mono fun a member => ?_
  rcases Operand.mem_operandsPairs_insertAll member with inNone | inPairs
  · simp [Operand.operandsPairs] at inNone
  · exact inPairs

-- A prepared builder may have a target of its own, so the invariant has to hold for every start.
mutual

theorem Nested.made_attach (inv : Builder.Invariant P) (target : Target) : (nested : Nested) →
    ∀ client, ∃ maker, P maker ∧
      (nested.attach target).value.statement client = maker.statement
  | .callback calls, client => ⟨_, Call.invariant_runAll inv calls (inv.start client), rfl⟩
  | .builder calls (some dialect), _ =>
    ⟨_, Call.invariant_runAll inv calls (inv.start (Target.ofDialect dialect)), rfl⟩
  | .builder calls none, _ => ⟨_, Call.invariant_runAll inv calls (inv.start target), rfl⟩

theorem Operand.made_attach (inv : Builder.Invariant P) (target : Target) :
    (operand : Operand Nested) →
    MadeBy P (operand.attach target).value.operands
  | .value _ | .undefined => fun a member => by
    simp [Operand.attach, Operand.operands] at member
  | .query nested => fun a member => by
    obtain rfl : a = (nested.attach target).value := by
      simpa [Operand.attach, Operand.operands] using member
    exact Nested.made_attach inv target nested
  | .raw fragment => .raw (Fragment.made_attach inv target fragment)

theorem Fragment.made_attach (inv : Builder.Invariant P) (target : Target) :
    (fragment : Fragment (Operand Nested)) →
    MadeBy P (Fragment.operands (Fragment.attach target fragment).value)
  | ⟨_, bindings, _⟩ => Bindings.made_attach inv target bindings

theorem Bindings.made_attach (inv : Builder.Invariant P) (target : Target) :
    (bindings : Bindings (Operand Nested)) →
    MadeBy P (Bindings.operands (Bindings.attach target bindings).value)
  | .none => .nil
  | .positional values => Operand.made_attachList inv target values
  | .named pairs => Operand.made_attachPairs inv target pairs

theorem Operand.made_attachList (inv : Builder.Invariant P) (target : Target) :
    (values : List (Operand Nested)) →
    MadeBy P (Operand.operandsList (Operand.attachList target values).value)
  | [] => .nil
  | operand :: rest =>
    (Operand.made_attach inv target operand).append (Operand.made_attachList inv target rest)

theorem Operand.made_attachPairs (inv : Builder.Invariant P) (target : Target) :
    (pairs : List (String × Operand Nested)) →
    MadeBy P (Operand.operandsPairs (Operand.attachPairs target pairs).value)
  | [] => .nil
  | (_, operand) :: rest =>
    (Operand.made_attach inv target operand).append (Operand.made_attachPairs inv target rest)

theorem Operand.made_attachRows (inv : Builder.Invariant P) (target : Target) :
    (rows : List (List (String × Operand Nested))) →
    MadeBy P ((Operand.attachRows target rows).value.flatMap Operand.operandsPairs)
  | [] => .nil
  | row :: rest =>
    (Operand.made_attachPairs inv target row).ofPairs.append
      (Operand.made_attachRows inv target rest)

theorem Column.made_attach (inv : Builder.Invariant P) (target : Target) :
    (column : Column Nested) →
    MadeBy P (column.attach target).value.operands
  | .name _ | .numeral _ | .aggregate _ => .nil
  | .query nested => fun a member => by
    obtain rfl : a = (nested.attach target).value := by
      simpa [Column.attach, Column.operands] using member
    exact Nested.made_attach inv target nested
  | .raw fragment => .raw (Fragment.made_attach inv target fragment)

theorem Column.made_attachList (inv : Builder.Invariant P) (target : Target) :
    (columns : List (Column Nested)) →
    MadeBy P ((Column.attachList target columns).value.flatMap Column.operands)
  | [] => .nil
  | column :: rest =>
    (Column.made_attach inv target column).append (Column.made_attachList inv target rest)

theorem Filter.made_attach (inv : Builder.Invariant P) (target : Target) :
    (condition : Filter Nested) →
    MadeBy P (condition.attach target).value.operands
  | .compare column _ operand =>
    (Column.made_attach inv target column).append (Operand.made_attach inv target operand)
  | .isIn column operand =>
    (Column.made_attach inv target column).append (Operand.made_attach inv target operand)
  | .null column => Column.made_attach inv target column
  | .between column low high =>
    ((Column.made_attach inv target column).append (Operand.made_attach inv target low)).append
      (Operand.made_attach inv target high)
  | .exists query => Operand.made_attach inv target query
  | .object pairs => (Operand.made_attachPairs inv target pairs).ofPairs
  | .raw fragment => .raw (Fragment.made_attach inv target fragment)
  | .literal _ => .nil

theorem InsertPayload.made_attach (inv : Builder.Invariant P) (target : Target) :
    (payload : InsertPayload Nested) →
    MadeBy P (payload.attach target).value.operands
  | .rows rows => Operand.made_attachRows inv target rows
  | .query query => Operand.made_attach inv target query

theorem JoinCall.made_run (inv : Builder.Invariant P) (target : Target) {draft : JoinDraft}
    (made : MadeBy P draft.operands) :
    (call : JoinCall) → MadeBy P (call.run target draft).value.operands
  | .on connector first operator second =>
    made.on connector operator (Column.made_attach inv target first)
      (Column.made_attach inv target second)
  | .onRaw connector fragment => made.add connector
    (.raw (Fragment.made_attach inv target fragment))
  | .onGroup connector calls => by
    refine made.onGroup connector (JoinCall.made_runAll inv target calls ?_)
    refine made.mono fun a member => List.mem_append_left _ ?_
    simpa [JoinDraft.start, JoinDraft.operands, Term.operandsList] using member
  | .onShared _ => made

theorem JoinCall.made_runAll (inv : Builder.Invariant P) (target : Target) :
    (calls : List JoinCall) → {draft : JoinDraft} →
    MadeBy P draft.operands → MadeBy P (JoinCall.runAll target calls draft).value.operands
  | [], _, made => made
  | call :: rest, _, made => JoinCall.made_runAll inv target rest
    (JoinCall.made_run inv target made call)

theorem Call.invariant_run (inv : Builder.Invariant P) {b : Builder} (holds : P b) :
    (call : Call) → P (call.run b).value
  | .or => inv.step .or holds ⟨.nil, nofun, trivial⟩
  | .and => inv.step .and holds ⟨.nil, nofun, trivial⟩
  | .not => inv.step .not holds ⟨.nil, nofun, trivial⟩
  | .filter clause lead condition =>
    inv.step (.filter clause lead _) holds
      ⟨Filter.made_attach inv b.target condition, nofun, trivial⟩
  | .group clause lead calls => by
    refine inv.step (.group clause lead _) holds ⟨.nil, ?_, trivial⟩
    rintro built ⟨⟩
    exact Call.invariant_runAll inv calls (inv.start b.target)
  | .select columns =>
    inv.step (.select _) holds ⟨Column.made_attachList inv b.target columns, nofun, trivial⟩
  | .first columns =>
    inv.step (.limit (some 1))
      (inv.step (.select _) holds ⟨Column.made_attachList inv b.target columns, nofun, trivial⟩)
      ⟨.nil, nofun, trivial⟩
  | .aggregate a => inv.step (.aggregate a) holds ⟨.nil, nofun, trivial⟩
  | .distinct => inv.step .distinct holds ⟨.nil, nofun, trivial⟩
  | .source table => inv.step (.source _) holds
    ⟨Column.made_attach inv b.target table, nofun, trivial⟩
  | .withSchema schema => inv.step (.withSchema schema) holds ⟨.nil, nofun, trivial⟩
  | .withAlias name => inv.step (.withAlias name) holds ⟨.nil, nofun, trivial⟩
  | .join kind table conditions => by
    refine inv.step (.join _) holds ⟨JoinCall.made_runAll inv b.target conditions ?_, nofun,
      JoinCall.shaped_runAll b.target conditions .nil⟩
    exact (Column.made_attach inv b.target table).append .nil
  | .joinRaw fragment =>
    inv.step (.joinRaw _) holds ⟨.raw (Fragment.made_attach inv b.target fragment), nofun, trivial⟩
  | .groupBy columns =>
    inv.step (.groupBy _) holds ⟨Column.made_attachList inv b.target columns, nofun, trivial⟩
  | .orderBy column direction =>
    inv.step (.orderBy _ direction) holds ⟨Column.made_attach inv b.target column, nofun, trivial⟩
  | .orderByRaw fragment =>
    inv.step (.orderByRaw _) holds ⟨.raw (Fragment.made_attach inv b.target fragment), nofun,
      trivial⟩
  | .limit n => inv.step (.limit n) holds ⟨.nil, nofun, trivial⟩
  | .offset n => inv.step (.offset n) holds ⟨.nil, nofun, trivial⟩
  | .union queries all wrap => by
    refine inv.step (.union _ all wrap) holds ⟨?_, nofun, trivial⟩
    rw [Builder.Operation.operands, ← Operand.operandsList_eq_flatMap]
    exact Operand.made_attachList inv b.target queries
  | .lock kind => inv.step (.lock kind) holds ⟨.nil, nofun, trivial⟩
  | .transacting => inv.step .transacting holds ⟨.nil, nofun, trivial⟩
  | .insert payload columns =>
    inv.step (.returning columns)
      (inv.step (.insert _) holds ⟨InsertPayload.made_attach inv b.target payload, nofun,
        payload.distinct_attach b.target⟩)
      ⟨.nil, nofun, trivial⟩
  | .update pairs columns =>
    inv.step (.returning columns)
      (inv.step (.update _) holds
        ⟨(Operand.made_attachPairs inv b.target pairs).ofPairs, nofun, trivial⟩)
      ⟨.nil, nofun, trivial⟩
  | .returning columns => inv.step (.returning columns) holds ⟨.nil, nofun, trivial⟩
  | .delete => inv.step .delete holds ⟨.nil, nofun, trivial⟩
  | .truncate => inv.step .truncate holds ⟨.nil, nofun, trivial⟩
  | .modify calls => Call.invariant_runAll inv calls holds
  | .fork _ => holds
  | .withTarget target => inv.step (.withTarget target) holds ⟨.nil, nofun, trivial⟩
  | .describe description => inv.describe holds description

theorem Call.invariant_runAll (inv : Builder.Invariant P) :
    (calls : List Call) → {b : Builder} → P b →
    P (Call.runAll calls b).value
  | [], _, holds => holds
  | call :: rest, _, holds => Call.invariant_runAll inv rest (Call.invariant_run inv holds call)

end

end Attaching

end PortableSql
