import PortableSql.Proofs.Operations
import PortableSql.Proofs.SimilarBuilders

/-!
Sequences of calls that differ in values only.

Two sequences are similar if their calls are the same one by one, but for values that may differ
within `V`, also in the calls of callbacks, groups and prepared builders. Running them keeps
builders similar. A call without an argument that can hold a value stands for itself.
-/

namespace PortableSql

/-- Whether a call has no argument that can hold a value: its arguments are names, numbers and
settings. A description counts, since it is the same document in both sequences. -/
def Call.isBare : Call → Bool
  | .or | .and | .not | .aggregate _ | .distinct | .withSchema _ | .withAlias _ | .limit _
  | .offset _ | .lock _ | .transacting | .returning _ | .delete | .truncate | .withTarget _
  | .describe _ => true
  | _ => false

mutual

/-- Nested statements as given whose calls differ in values only. -/
inductive Nested.Similar (V : Value → Value → Prop) : Nested → Nested → Prop where
  | callback {xs ys : List Call} (calls : Paired (Call.Similar V) xs ys) :
      Nested.Similar V (.callback xs) (.callback ys)
  | builder {xs ys : List Call} (dialect : Option Dialect) (calls : Paired (Call.Similar V) xs ys) :
      Nested.Similar V (.builder xs dialect) (.builder ys dialect)

/-- Calls that differ in values only. -/
inductive Call.Similar (V : Value → Value → Prop) : Call → Call → Prop where
  | bare {call : Call} (bare : call.isBare = true) : Call.Similar V call call
  | filter (clause : FilterClause) (lead : Lead) {f g : Filter Nested}
      (condition : Filter.Similar V (Nested.Similar V) f g) :
      Call.Similar V (.filter clause lead f) (.filter clause lead g)
  | group (clause : FilterClause) (lead : Lead) {xs ys : List Call}
      (calls : Paired (Call.Similar V) xs ys) :
      Call.Similar V (.group clause lead xs) (.group clause lead ys)
  | select {cs ds : List (Column Nested)}
      (columns : Paired (Column.Similar V (Nested.Similar V)) cs ds) :
      Call.Similar V (.select cs) (.select ds)
  | first {cs ds : List (Column Nested)}
      (columns : Paired (Column.Similar V (Nested.Similar V)) cs ds) :
      Call.Similar V (.first cs) (.first ds)
  | source {c d : Column Nested} (table : Column.Similar V (Nested.Similar V) c d) :
      Call.Similar V (.source c) (.source d)
  | join (kind : JoinKind) {c d : Column Nested} {xs ys : List JoinCall}
      (table : Column.Similar V (Nested.Similar V) c d)
      (conditions : Paired (JoinCall.Similar V) xs ys) :
      Call.Similar V (.join kind c xs) (.join kind d ys)
  | joinRaw {f g : Fragment (Operand Nested)}
      (fragment : Fragment.Similar V (Nested.Similar V) f g) :
      Call.Similar V (.joinRaw f) (.joinRaw g)
  | groupBy {cs ds : List (Column Nested)}
      (columns : Paired (Column.Similar V (Nested.Similar V)) cs ds) :
      Call.Similar V (.groupBy cs) (.groupBy ds)
  | orderBy (direction : Direction) {c d : Column Nested}
      (column : Column.Similar V (Nested.Similar V) c d) :
      Call.Similar V (.orderBy c direction) (.orderBy d direction)
  | orderByRaw {f g : Fragment (Operand Nested)}
      (fragment : Fragment.Similar V (Nested.Similar V) f g) :
      Call.Similar V (.orderByRaw f) (.orderByRaw g)
  | union (all wrap : Bool) {vs ws : List (Operand Nested)}
      (queries : Paired (Operand.Similar V (Nested.Similar V)) vs ws) :
      Call.Similar V (.union vs all wrap) (.union ws all wrap)
  | insert (returning : List String) {x y : InsertPayload Nested}
      (payload : InsertPayload.Similar V (Nested.Similar V) x y) :
      Call.Similar V (.insert x returning) (.insert y returning)
  | update (returning : List String) {xs ys : List (String × Operand Nested)}
      (row : PairedEntries (Operand.Similar V (Nested.Similar V)) xs ys) :
      Call.Similar V (.update xs returning) (.update ys returning)
  | modify {xs ys : List Call} (calls : Paired (Call.Similar V) xs ys) :
      Call.Similar V (.modify xs) (.modify ys)
  | fork {xs ys : List Call} (calls : Paired (Call.Similar V) xs ys) :
      Call.Similar V (.fork xs) (.fork ys)

/-- Calls on joins under construction that differ in values only. -/
inductive JoinCall.Similar (V : Value → Value → Prop) : JoinCall → JoinCall → Prop where
  | on (connector : Connector) (operator : String) {a b c d : Column Nested}
      (first : Column.Similar V (Nested.Similar V) a b)
      (second : Column.Similar V (Nested.Similar V) c d) :
      JoinCall.Similar V (.on connector a operator c) (.on connector b operator d)
  | onRaw (connector : Connector) {f g : Fragment (Operand Nested)}
      (fragment : Fragment.Similar V (Nested.Similar V) f g) :
      JoinCall.Similar V (.onRaw connector f) (.onRaw connector g)
  | onGroup (connector : Connector) {xs ys : List JoinCall}
      (calls : Paired (JoinCall.Similar V) xs ys) :
      JoinCall.Similar V (.onGroup connector xs) (.onGroup connector ys)
  | onShared (columns : List String) : JoinCall.Similar V (.onShared columns) (.onShared columns)

end

/-! ### Giving arguments keeps their values -/

section Lists

variable (target : Target)

theorem Operand.attachList_value (values : List (Operand Nested)) :
    (Operand.attachList target values).value =
      values.map fun operand => (operand.attach target).value := by
  induction values with
  | nil => rfl
  | cons operand rest ih => simp [Operand.attachList, ih]

theorem Operand.attachPairs_value (pairs : List (String × Operand Nested)) :
    (Operand.attachPairs target pairs).value =
      pairs.map fun (name, operand) => (name, (operand.attach target).value) := by
  induction pairs with
  | nil => rfl
  | cons pair rest ih => simp [Operand.attachPairs, ih]

theorem Operand.value?_attach (operand : Operand Nested) :
    (operand.attach target).value.value? = operand.value? := by
  cases operand <;> rfl

theorem Bindings.identifierValues_attach (template : String)
    (bindings : Bindings (Operand Nested)) :
    (Bindings.attach target bindings).value.identifierValues template =
      bindings.identifierValues template := by
  cases bindings with
  | none => rfl
  | positional values =>
    simp only [Bindings.attach, Logged.value_bind, Logged.value_pure, Bindings.identifierValues,
      Operand.attachList_value]
    rw [Operand.map_value?_map (Operand.value?_attach target)]
  | named pairs =>
    simp only [Bindings.attach, Logged.value_bind, Logged.value_pure, Bindings.identifierValues,
      Operand.attachPairs_value]
    refine List.map_congr_left fun name _ => ?_
    exact Operand.bind_value?_map (Operand.value?_attach target) name pairs

end Lists

/-! ### Plain operations -/

section Reflexive

variable {V W : Value → Value → Prop}

theorem Filter.Similar.refl {σ : Type} {S : σ → σ → Prop} (reflexive : ∀ v, V v v) (f : Filter σ)
    (nested : ∀ s, .query s ∈ f.operands → S s s) : Filter.Similar V S f f := by
  cases f with
  | compare column operator value =>
    refine .compare operator (Column.Similar.refl reflexive column fun s member => nested s ?_)
      (Operand.Similar.refl reflexive value fun s member => nested s ?_)
    · exact List.mem_append_left _ member
    · exact List.mem_append_right _ member
  | isIn column values =>
    refine .isIn (Column.Similar.refl reflexive column fun s member => nested s ?_)
      (Operand.Similar.refl reflexive values fun s member => nested s ?_)
    · exact List.mem_append_left _ member
    · exact List.mem_append_right _ member
  | null column => exact .null (Column.Similar.refl reflexive column nested)
  | between column low high =>
    simp only [Filter.operands, List.append_assoc] at nested
    refine .between (Column.Similar.refl reflexive column fun s member => nested s ?_)
      (Operand.Similar.refl reflexive low fun s member => nested s ?_)
      (Operand.Similar.refl reflexive high fun s member => nested s ?_)
    · exact List.mem_append_left _ member
    · exact List.mem_append_right _ (List.mem_append_left _ member)
    · exact List.mem_append_right _ (List.mem_append_right _ member)
  | «exists» query => exact .exists (Operand.Similar.refl reflexive query nested)
  | object row => exact .object (Operand.similar_pairs_refl reflexive row nested)
  | raw fragment =>
    exact .raw (Fragment.Similar.refl reflexive fragment fun s member =>
      nested s (List.mem_cons_of_mem _ member))
  | literal b => exact .literal b

theorem JoinDraft.Similar.refl (reflexive : ∀ v, V v v) (draft : JoinDraft)
    (nested : ∀ a, .query a ∈ draft.operands → Attached.Similar W a a) :
    JoinDraft.Similar V W draft draft where
  kind := rfl
  table := Column.Similar.refl reflexive draft.table fun a member =>
    nested a (List.mem_append_left _ member)
  conditions := Term.similar_list_refl reflexive draft.conditions fun a member =>
    nested a (List.mem_append_right _ member)
  shared := rfl
  fault := rfl

end Reflexive

namespace Builder.Similar

variable {V W : Value → Value → Prop} {b b' : Builder} (similar : Builder.Similar W b b')
  (widens : Value.Widens V W)

include similar widens

/-- An operation that takes nothing from other builders keeps builders similar. -/
theorem apply {op : Operation} (plain : op.Plain) :
    Builder.Similar W (op.apply b) (op.apply b') := by
  have vacuous : ∀ a, .query a ∈ op.operands → Attached.Similar W a a :=
    fun a member => (plain.nested a member).elim
  cases op with
  | or | and => exact { similar with connector := rfl }
  | not => exact { similar with negated := rfl }
  | filter clause lead condition =>
    exact similar.filter widens clause lead (.refl widens.refl condition vacuous)
  | group => cases plain.group
  | select columns =>
    exact similar.select widens (.refl_of_operands (Column.Similar.refl widens.refl) vacuous)
  | aggregate a => exact similar.aggregate a
  | distinct => exact similar.settings fun settings => { settings with distinct := true }
  | source table => exact similar.source widens (.refl widens.refl table vacuous)
  | withSchema schema => exact similar.settings fun settings => { settings with schema }
  | withAlias name =>
    exact similar.settings fun settings => { settings with aliasName := some name }
  | join draft => exact similar.join widens (.refl widens.refl draft vacuous)
  | joinRaw fragment =>
    exact similar.joinRaw widens (.refl widens.refl fragment fun a member =>
      vacuous a (List.mem_cons_of_mem _ member))
  | groupBy columns =>
    exact similar.groupBy widens (.refl_of_operands (Column.Similar.refl widens.refl) vacuous)
  | orderBy column direction =>
    exact similar.orderBy widens direction (.refl widens.refl column vacuous)
  | orderByRaw fragment =>
    exact similar.orderByRaw widens (.refl widens.refl fragment fun a member =>
      vacuous a (List.mem_cons_of_mem _ member))
  | limit n => exact similar.settings fun settings => { settings with limit := n }
  | offset n => exact similar.settings fun settings => { settings with offset := n }
  | union queries all wrap =>
    exact similar.union widens all wrap
      (.refl_of_operands (Operand.Similar.refl widens.refl) vacuous)
  | lock kind => exact similar.settings fun settings => { settings with lock := some kind }
  | transacting => exact similar.settings fun settings => { settings with transacting := true }
  | insert payload => exact similar.insert widens (.refl widens.refl payload vacuous)
  | update row => exact similar.update widens (Operand.similar_pairs_refl widens.refl row vacuous)
  | returning columns =>
    exact similar.settings fun settings =>
      { settings with returning := settings.returning ++ columns }
  | delete => exact similar.settings fun settings => { settings with kind := .delete }
  | truncate => exact similar.settings fun settings => { settings with kind := .truncate }
  | withTarget target => exact ⟨similar.statement, similar.connector, similar.negated⟩
  | fail fault => exact similar.fail fault

theorem describe (description : Json) :
    Builder.Similar W (b.describe description).value (b'.describe description).value := by
  obtain ⟨ops, plain, -, same⟩ := Description.makes_describe description
  rw [same, same]
  clear same
  induction ops generalizing b b' with
  | nil => exact similar
  | cons op rest ih =>
    have next := similar.apply widens (plain op List.mem_cons_self)
    exact ih next fun other member => plain other (List.mem_cons_of_mem _ member)

theorem bare {call : Call} (bare : call.isBare = true) :
    Builder.Similar W (call.run b).value (call.run b').value := by
  have plainly (op : Operation) (nothing : op.operands = []) (group : op.built? = none)
      (formed : op.Formed) (target : op.target? = none) :
      Builder.Similar W (op.apply b) (op.apply b') :=
    similar.apply widens (.bare nothing group formed target)
  cases call with
  | or => exact plainly .or rfl rfl trivial rfl
  | and => exact plainly .and rfl rfl trivial rfl
  | not => exact plainly .not rfl rfl trivial rfl
  | aggregate a => exact plainly (.aggregate a) rfl rfl trivial rfl
  | distinct => exact plainly .distinct rfl rfl trivial rfl
  | withSchema schema => exact plainly (.withSchema schema) rfl rfl trivial rfl
  | withAlias name => exact plainly (.withAlias name) rfl rfl trivial rfl
  | limit n => exact plainly (.limit n) rfl rfl trivial rfl
  | offset n => exact plainly (.offset n) rfl rfl trivial rfl
  | lock kind => exact plainly (.lock kind) rfl rfl trivial rfl
  | transacting => exact plainly .transacting rfl rfl trivial rfl
  | returning columns => exact plainly (.returning columns) rfl rfl trivial rfl
  | delete => exact plainly .delete rfl rfl trivial rfl
  | truncate => exact plainly .truncate rfl rfl trivial rfl
  | withTarget target => exact ⟨similar.statement, similar.connector, similar.negated⟩
  | describe description => exact similar.describe widens description
  | filter | group | select | first | source | join | joinRaw | groupBy | orderBy | orderByRaw
  | union | insert | update | modify | fork => cases bare

end Builder.Similar

/-! ### Running similar calls -/

section Running

variable {V W : Value → Value → Prop}

theorem JoinDraft.Similar.add {x y : JoinDraft} (similar : JoinDraft.Similar V W x y)
    (connector : Connector) {c d : Condition Attached}
    (condition : Condition.Similar V (Attached.Similar W) c d) :
    JoinDraft.Similar V W (x.add connector c) (y.add connector d) :=
  { similar with
    conditions := similar.conditions.append (.cons (.intro connector false condition) .nil) }

theorem JoinDraft.Similar.record {x y : JoinDraft} (similar : JoinDraft.Similar V W x y)
    (fault : Option Fault) : JoinDraft.Similar V W (x.record fault) (y.record fault) :=
  { similar with fault := congrArg (· <|> fault) similar.fault }

theorem JoinDraft.Similar.on {x y : JoinDraft} (similar : JoinDraft.Similar V W x y)
    (connector : Connector) (operator : String) {a b c d : Column Attached}
    (first : Column.Similar V (Attached.Similar W) a b)
    (second : Column.Similar V (Attached.Similar W) c d) :
    JoinDraft.Similar V W (x.on connector a operator c) (y.on connector b operator d) := by
  unfold JoinDraft.on
  split
  · exact similar.add connector (.columns _ first second)
  · exact similar.record _

theorem JoinDraft.Similar.onGroup {x y u v : JoinDraft} (similar : JoinDraft.Similar V W x y)
    (connector : Connector) (built : JoinDraft.Similar V W u v) :
    JoinDraft.Similar V W (x.onGroup connector u) (y.onGroup connector v) := by
  unfold JoinDraft.onGroup
  dsimp only
  rw [built.fault, built.conditions.isEmpty_eq]
  split
  · exact similar.record _
  · exact (similar.record _).add connector (.group built.conditions)

-- The recursion is on the derivations of similarity, which have the shape of both sequences. The
-- two runs may be for different targets, since no operation puts anything of them into a statement.
mutual

theorem Nested.Similar.attach (widens : Value.Widens V W) {t u : Target} {x y : Nested} :
    Nested.Similar V x y → Attached.Similar W (x.attach t).value (y.attach u).value
  | .callback calls =>
    .callback fun target _ => (Call.similar_runAll widens calls (.start target)).statement
  | .builder none calls => .prepared (Call.similar_runAll widens calls (.start t)).statement
  | .builder (some dialect) calls =>
    .prepared (Call.similar_runAll widens calls (.start (Target.ofDialect dialect))).statement

theorem Operand.similar_attach (widens : Value.Widens V W) {t u : Target} {x y : Operand Nested} :
    Operand.Similar V (Nested.Similar V) x y →
      Operand.Similar V (Attached.Similar W) (x.attach t).value (y.attach u).value
  | .value related => .value related
  | .undefined => .undefined
  | .query nested => .query (nested.attach widens)
  | .raw fragment => .raw (Fragment.similar_attach widens fragment)

theorem Fragment.similar_attach (widens : Value.Widens V W) {t u : Target} :
    {f g : Fragment (Operand Nested)} → Fragment.Similar V (Nested.Similar V) f g →
      Fragment.Similar V (Attached.Similar W) (Fragment.attach t f).value
        (Fragment.attach u g).value
  | ⟨_, _, _⟩, _, .intro bindings identifiers => by
    refine .intro (Bindings.similar_attach widens bindings) ?_
    rw [Bindings.identifierValues_attach, Bindings.identifierValues_attach, identifiers]

theorem Bindings.similar_attach (widens : Value.Widens V W) {t u : Target}
    {b d : Bindings (Operand Nested)} :
    Bindings.Similar V (Nested.Similar V) b d →
      Bindings.Similar V (Attached.Similar W) (Bindings.attach t b).value
        (Bindings.attach u d).value
  | .none => .none
  | .positional values => .positional (Operand.similar_attachList widens values)
  | .named pairs => .named (Operand.similar_attachPairs widens pairs)

theorem Operand.similar_attachList (widens : Value.Widens V W) {t u : Target}
    {xs ys : List (Operand Nested)} :
    Paired (Operand.Similar V (Nested.Similar V)) xs ys →
      Paired (Operand.Similar V (Attached.Similar W)) (Operand.attachList t xs).value
        (Operand.attachList u ys).value
  | .nil => .nil
  | .cons first rest =>
    .cons (Operand.similar_attach widens first) (Operand.similar_attachList widens rest)

theorem Operand.similar_attachPairs (widens : Value.Widens V W) {t u : Target}
    {xs ys : List (String × Operand Nested)} :
    PairedEntries (Operand.Similar V (Nested.Similar V)) xs ys →
      PairedEntries (Operand.Similar V (Attached.Similar W)) (Operand.attachPairs t xs).value
        (Operand.attachPairs u ys).value
  | .nil => .nil
  | .cons first rest =>
    .cons (Operand.similar_attach widens first) (Operand.similar_attachPairs widens rest)

theorem Operand.similar_attachRows (widens : Value.Widens V W) {t u : Target}
    {xs ys : List (List (String × Operand Nested))} :
    Paired (PairedEntries (Operand.Similar V (Nested.Similar V))) xs ys →
      Paired (PairedEntries (Operand.Similar V (Attached.Similar W)))
        (Operand.attachRows t xs).value (Operand.attachRows u ys).value
  | .nil => .nil
  | .cons first rest =>
    .cons (PairedEntries.nil.insertAll (Operand.similar_attachPairs widens first))
      (Operand.similar_attachRows widens rest)

theorem Column.similar_attach (widens : Value.Widens V W) {t u : Target} {x y : Column Nested} :
    Column.Similar V (Nested.Similar V) x y →
      Column.Similar V (Attached.Similar W) (x.attach t).value (y.attach u).value
  | .name text => .name text
  | .numeral text => .numeral text
  | .aggregate a => .aggregate a
  | .query nested => .query (nested.attach widens)
  | .raw fragment => .raw (Fragment.similar_attach widens fragment)

theorem Column.similar_attachList (widens : Value.Widens V W) {t u : Target}
    {xs ys : List (Column Nested)} :
    Paired (Column.Similar V (Nested.Similar V)) xs ys →
      Paired (Column.Similar V (Attached.Similar W)) (Column.attachList t xs).value
        (Column.attachList u ys).value
  | .nil => .nil
  | .cons first rest =>
    .cons (Column.similar_attach widens first) (Column.similar_attachList widens rest)

theorem Filter.similar_attach (widens : Value.Widens V W) {t u : Target} {f g : Filter Nested} :
    Filter.Similar V (Nested.Similar V) f g →
      Filter.Similar V (Attached.Similar W) (f.attach t).value (g.attach u).value
  | .compare operator column value =>
    .compare operator (Column.similar_attach widens column) (Operand.similar_attach widens value)
  | .isIn column values =>
    .isIn (Column.similar_attach widens column) (Operand.similar_attach widens values)
  | .null column => .null (Column.similar_attach widens column)
  | .between column low high =>
    .between (Column.similar_attach widens column) (Operand.similar_attach widens low)
      (Operand.similar_attach widens high)
  | .exists query => .exists (Operand.similar_attach widens query)
  | .object row => .object (PairedEntries.nil.insertAll (Operand.similar_attachPairs widens row))
  | .raw fragment => .raw (Fragment.similar_attach widens fragment)
  | .literal b => .literal b

theorem InsertPayload.similar_attach (widens : Value.Widens V W) {t u : Target}
    {x y : InsertPayload Nested} :
    InsertPayload.Similar V (Nested.Similar V) x y →
      InsertPayload.Similar V (Attached.Similar W) (x.attach t).value (y.attach u).value
  | .rows table => .rows (Operand.similar_attachRows widens table)
  | .query source => .query (Operand.similar_attach widens source)

theorem JoinCall.similar_run (widens : Value.Widens V W) {t u : Target} {x y : JoinDraft}
    (drafts : JoinDraft.Similar V W x y) {c d : JoinCall} :
    JoinCall.Similar V c d → JoinDraft.Similar V W (c.run t x).value (d.run u y).value
  | .on connector operator first second =>
    drafts.on connector operator (Column.similar_attach widens first)
      (Column.similar_attach widens second)
  | .onRaw connector fragment =>
    drafts.add connector (.raw (Fragment.similar_attach widens fragment))
  | .onGroup connector calls => by
    refine drafts.onGroup connector (JoinCall.similar_runAll widens calls ?_)
    exact { drafts with conditions := .nil, shared := rfl, fault := rfl }
  | .onShared columns => { drafts with shared := congrArg (· ++ columns) drafts.shared }

theorem JoinCall.similar_runAll (widens : Value.Widens V W) {t u : Target} {cs ds : List JoinCall} :
    Paired (JoinCall.Similar V) cs ds → {x y : JoinDraft} → JoinDraft.Similar V W x y →
      JoinDraft.Similar V W (JoinCall.runAll t cs x).value (JoinCall.runAll u ds y).value
  | .nil, _, _, drafts => drafts
  | .cons first rest, _, _, drafts =>
    JoinCall.similar_runAll widens rest (JoinCall.similar_run widens drafts first)

theorem Call.similar_run (widens : Value.Widens V W) {b b' : Builder}
    (builders : Builder.Similar W b b') {c d : Call} :
    Call.Similar V c d → Builder.Similar W (c.run b).value (d.run b').value
  | .bare bare => builders.bare widens bare
  | .filter clause lead condition =>
    builders.filter widens clause lead (Filter.similar_attach widens condition)
  | .group clause lead calls =>
    builders.group clause lead (Call.similar_runAll widens calls (.start b.target))
  | .select columns => builders.select widens (Column.similar_attachList widens columns)
  | .first columns =>
    (builders.select widens (Column.similar_attachList widens columns)).settings
      fun settings => { settings with limit := some 1 }
  | .source table => builders.source widens (Column.similar_attach widens table)
  | .join kind table conditions => by
    refine builders.join widens (JoinCall.similar_runAll widens conditions ?_)
    exact ⟨rfl, Column.similar_attach widens table, .nil, rfl, rfl⟩
  | .joinRaw fragment => builders.joinRaw widens (Fragment.similar_attach widens fragment)
  | .groupBy columns => builders.groupBy widens (Column.similar_attachList widens columns)
  | .orderBy direction column =>
    builders.orderBy widens direction (Column.similar_attach widens column)
  | .orderByRaw fragment =>
    builders.orderByRaw widens (Fragment.similar_attach widens fragment)
  | .union all wrap queries =>
    builders.union widens all wrap (Operand.similar_attachList widens queries)
  | .insert columns payload =>
    (builders.insert widens (InsertPayload.similar_attach widens payload)).settings
      fun settings => { settings with returning := settings.returning ++ columns }
  | .update columns row =>
    (builders.update widens (PairedEntries.nil.insertAll
      (Operand.similar_attachPairs widens row))).settings
      fun settings => { settings with returning := settings.returning ++ columns }
  | .modify calls => Call.similar_runAll widens calls builders
  | .fork _ => builders

theorem Call.similar_runAll (widens : Value.Widens V W) {cs ds : List Call} :
    Paired (Call.Similar V) cs ds → {b b' : Builder} → Builder.Similar W b b' →
      Builder.Similar W (Call.runAll cs b).value (Call.runAll ds b').value
  | .nil, _, _, builders => builders
  | .cons first rest, _, _, builders =>
    Call.similar_runAll widens rest (Call.similar_run widens builders first)

end

end Running

end PortableSql
