import PortableSql.Proofs.SimilarCalls

/-!
Builders are bound late to their target.

The target is read when a statement is rendered and nowhere before: two runs of the same calls, for
whatever targets, end in the same statement with the same modifiers waiting (`Call.runAll_start`).
The two runs are compared by `Builder.Similar` for equal values; `Statement.Similar.eq` says that
statements which differ in equal values only are equal.
-/

namespace PortableSql

/-! ### Calls are similar to themselves -/

section Reflexive

variable {V : Value → Value → Prop}

mutual

theorem Nested.Similar.refl (reflexive : ∀ v, V v v) :
    (nested : Nested) → Nested.Similar V nested nested
  | .callback calls => .callback (Call.similar_all_refl reflexive calls)
  | .builder calls dialect => .builder dialect (Call.similar_all_refl reflexive calls)

theorem Operand.nested_refl (reflexive : ∀ v, V v v) : (operand : Operand Nested) →
    Operand.Similar V (Nested.Similar V) operand operand
  | .value v => .value (reflexive v)
  | .undefined => .undefined
  | .query nested => .query (Nested.Similar.refl reflexive nested)
  | .raw fragment => .raw (Fragment.nested_refl reflexive fragment)

theorem Fragment.nested_refl (reflexive : ∀ v, V v v) : (fragment : Fragment (Operand Nested)) →
    Fragment.Similar V (Nested.Similar V) fragment fragment
  | ⟨_, bindings, _⟩ => .intro (Bindings.nested_refl reflexive bindings) rfl

theorem Bindings.nested_refl (reflexive : ∀ v, V v v) : (bindings : Bindings (Operand Nested)) →
    Bindings.Similar V (Nested.Similar V) bindings bindings
  | .none => .none
  | .positional values => .positional (Operand.nested_list_refl reflexive values)
  | .named pairs => .named (Operand.nested_pairs_refl reflexive pairs)

theorem Operand.nested_list_refl (reflexive : ∀ v, V v v) : (values : List (Operand Nested)) →
    Paired (Operand.Similar V (Nested.Similar V)) values values
  | [] => .nil
  | operand :: rest =>
    .cons (Operand.nested_refl reflexive operand) (Operand.nested_list_refl reflexive rest)

theorem Operand.nested_pairs_refl (reflexive : ∀ v, V v v) :
    (pairs : List (String × Operand Nested)) →
    PairedEntries (Operand.Similar V (Nested.Similar V)) pairs pairs
  | [] => .nil
  | (_, operand) :: rest =>
    .cons (Operand.nested_refl reflexive operand) (Operand.nested_pairs_refl reflexive rest)

theorem Operand.nested_rows_refl (reflexive : ∀ v, V v v) :
    (rows : List (List (String × Operand Nested))) →
    Paired (PairedEntries (Operand.Similar V (Nested.Similar V))) rows rows
  | [] => .nil
  | row :: rest =>
    .cons (Operand.nested_pairs_refl reflexive row) (Operand.nested_rows_refl reflexive rest)

theorem Column.nested_refl (reflexive : ∀ v, V v v) : (column : Column Nested) →
    Column.Similar V (Nested.Similar V) column column
  | .name text => .name text
  | .numeral text => .numeral text
  | .aggregate a => .aggregate a
  | .query nested => .query (Nested.Similar.refl reflexive nested)
  | .raw fragment => .raw (Fragment.nested_refl reflexive fragment)

theorem Column.nested_list_refl (reflexive : ∀ v, V v v) : (columns : List (Column Nested)) →
    Paired (Column.Similar V (Nested.Similar V)) columns columns
  | [] => .nil
  | column :: rest =>
    .cons (Column.nested_refl reflexive column) (Column.nested_list_refl reflexive rest)

theorem Filter.nested_refl (reflexive : ∀ v, V v v) : (condition : Filter Nested) →
    Filter.Similar V (Nested.Similar V) condition condition
  | .compare column operator value =>
    .compare operator (Column.nested_refl reflexive column) (Operand.nested_refl reflexive value)
  | .isIn column values =>
    .isIn (Column.nested_refl reflexive column) (Operand.nested_refl reflexive values)
  | .null column => .null (Column.nested_refl reflexive column)
  | .between column low high =>
    .between (Column.nested_refl reflexive column) (Operand.nested_refl reflexive low)
      (Operand.nested_refl reflexive high)
  | .exists query => .exists (Operand.nested_refl reflexive query)
  | .object row => .object (Operand.nested_pairs_refl reflexive row)
  | .raw fragment => .raw (Fragment.nested_refl reflexive fragment)
  | .literal b => .literal b

theorem InsertPayload.nested_refl (reflexive : ∀ v, V v v) : (payload : InsertPayload Nested) →
    InsertPayload.Similar V (Nested.Similar V) payload payload
  | .rows table => .rows (Operand.nested_rows_refl reflexive table)
  | .query source => .query (Operand.nested_refl reflexive source)

theorem JoinCall.Similar.refl (reflexive : ∀ v, V v v) :
    (call : JoinCall) → JoinCall.Similar V call call
  | .on connector first operator second =>
    .on connector operator (Column.nested_refl reflexive first)
      (Column.nested_refl reflexive second)
  | .onRaw connector fragment => .onRaw connector (Fragment.nested_refl reflexive fragment)
  | .onGroup connector calls => .onGroup connector (JoinCall.similar_all_refl reflexive calls)
  | .onShared columns => .onShared columns

theorem JoinCall.similar_all_refl (reflexive : ∀ v, V v v) : (calls : List JoinCall) →
    Paired (JoinCall.Similar V) calls calls
  | [] => .nil
  | call :: rest =>
    .cons (JoinCall.Similar.refl reflexive call) (JoinCall.similar_all_refl reflexive rest)

theorem Call.Similar.refl (reflexive : ∀ v, V v v) : (call : Call) → Call.Similar V call call
  | .filter clause lead condition => .filter clause lead (Filter.nested_refl reflexive condition)
  | .group clause lead calls => .group clause lead (Call.similar_all_refl reflexive calls)
  | .select columns => .select (Column.nested_list_refl reflexive columns)
  | .first columns => .first (Column.nested_list_refl reflexive columns)
  | .source table => .source (Column.nested_refl reflexive table)
  | .join kind table conditions =>
    .join kind (Column.nested_refl reflexive table) (JoinCall.similar_all_refl reflexive conditions)
  | .joinRaw fragment => .joinRaw (Fragment.nested_refl reflexive fragment)
  | .groupBy columns => .groupBy (Column.nested_list_refl reflexive columns)
  | .orderBy column direction => .orderBy direction (Column.nested_refl reflexive column)
  | .orderByRaw fragment => .orderByRaw (Fragment.nested_refl reflexive fragment)
  | .union queries all wrap => .union all wrap (Operand.nested_list_refl reflexive queries)
  | .insert payload returning => .insert returning (InsertPayload.nested_refl reflexive payload)
  | .update row returning => .update returning (Operand.nested_pairs_refl reflexive row)
  | .modify calls => .modify (Call.similar_all_refl reflexive calls)
  | .fork calls => .fork (Call.similar_all_refl reflexive calls)
  | .or | .and | .not | .aggregate _ | .distinct | .withSchema _ | .withAlias _ | .limit _
  | .offset _ | .lock _ | .transacting | .returning _ | .delete | .truncate | .withTarget _
  | .describe _ => .bare rfl

theorem Call.similar_all_refl (reflexive : ∀ v, V v v) :
    (calls : List Call) → Paired (Call.Similar V) calls calls
  | [] => .nil
  | call :: rest => .cons (Call.Similar.refl reflexive call) (Call.similar_all_refl reflexive rest)

end

end Reflexive

/-! ### Statements that differ in equal values only are equal -/

theorem Paired.eq_of {α : Type} {R : α → α → Prop} {xs ys : List α}
    (same : ∀ x y, R x y → x = y) (paired : Paired R xs ys) : xs = ys := by
  simpa using paired.map_eq (f := id) same

private theorem eq_of_toList {α : Type} {x y : Option α} (same : x.toList = y.toList) : x = y := by
  have heads := congrArg List.head? same
  rwa [Option.head?_toList, Option.head?_toList] at heads

/-- Statements with equal settings and equal parts are equal. -/
theorem Statement.eq_of_parts {s t : Statement} (settings : s.toSettings = t.toSettings)
    (table : s.table = t.table) (columns : s.columns = t.columns) (joins : s.joins = t.joins)
    (wheres : s.wheres = t.wheres) (groups : s.groups = t.groups) (havings : s.havings = t.havings)
    (orders : s.orders = t.orders) (unions : s.unions = t.unions) (insert : s.insert = t.insert)
    (assignments : s.assignments = t.assignments) : s = t := by
  cases s
  cases t
  simp_all

section Equal

variable {V : Value → Value → Prop} {N : Settings → Settings → Prop}

mutual

theorem Attached.Related.eq (values : ∀ v w, V v w → v = w)
    (settled : ∀ m n, N m n → m = n) {a b : Attached} : Attached.Congruent V N a b → a = b
  | .prepared similar => congrArg _ (Statement.Similar.eq values settled similar)

theorem Operand.Similar.eq (values : ∀ v w, V v w → v = w)
    (settled : ∀ m n, N m n → m = n) {x y : Operand Attached} :
    Operand.Similar V (Attached.Congruent V N) x y → x = y
  | .value related => congrArg _ (values _ _ related)
  | .undefined => rfl
  | .query similar => congrArg _ (similar.eq values settled)
  | .raw similar => congrArg _ (Fragment.Similar.eq values settled similar)

theorem Fragment.Similar.eq (values : ∀ v w, V v w → v = w)
    (settled : ∀ m n, N m n → m = n) {f g : Fragment (Operand Attached)} :
    Fragment.Similar V (Attached.Congruent V N) f g → f = g
  | .intro bindings _ => congrArg (Fragment.mk _ · _) (Bindings.Similar.eq values settled bindings)

theorem Bindings.Similar.eq (values : ∀ v w, V v w → v = w)
    (settled : ∀ m n, N m n → m = n) {b c : Bindings (Operand Attached)} :
    Bindings.Similar V (Attached.Congruent V N) b c → b = c
  | .none => rfl
  | .positional operands => congrArg _ (Operand.list_eq values settled operands)
  | .named pairs => congrArg _ (Operand.pairs_eq values settled pairs)

theorem Operand.list_eq (values : ∀ v w, V v w → v = w)
    (settled : ∀ m n, N m n → m = n) {xs ys : List (Operand Attached)} :
    Paired (Operand.Similar V (Attached.Congruent V N)) xs ys → xs = ys
  | .nil => rfl
  | .cons first rest =>
    congr (congrArg _ (first.eq values settled)) (Operand.list_eq values settled rest)

theorem Operand.pairs_eq (values : ∀ v w, V v w → v = w)
    (settled : ∀ m n, N m n → m = n) {xs ys : List (String × Operand Attached)} :
    PairedEntries (Operand.Similar V (Attached.Congruent V N)) xs ys → xs = ys
  | .nil => rfl
  | .cons first rest =>
    congr (congrArg _ (congrArg _ (first.eq values settled))) (Operand.pairs_eq values settled rest)

theorem Operand.rows_eq (values : ∀ v w, V v w → v = w)
    (settled : ∀ m n, N m n → m = n) {xs ys : List (List (String × Operand Attached))} :
    Paired (PairedEntries (Operand.Similar V (Attached.Congruent V N))) xs ys → xs = ys
  | .nil => rfl
  | .cons first rest =>
    congr (congrArg _ (Operand.pairs_eq values settled first)) (Operand.rows_eq values settled rest)

theorem Column.Similar.eq (values : ∀ v w, V v w → v = w)
    (settled : ∀ m n, N m n → m = n) {c d : Column Attached} :
    Column.Similar V (Attached.Congruent V N) c d → c = d
  | .name _ | .numeral _ | .aggregate _ => rfl
  | .query similar => congrArg _ (similar.eq values settled)
  | .raw similar => congrArg _ (Fragment.Similar.eq values settled similar)

theorem Column.list_eq (values : ∀ v w, V v w → v = w)
    (settled : ∀ m n, N m n → m = n) {cs ds : List (Column Attached)} :
    Paired (Column.Similar V (Attached.Congruent V N)) cs ds → cs = ds
  | .nil => rfl
  | .cons first rest =>
    congr (congrArg _ (first.eq values settled)) (Column.list_eq values settled rest)

theorem Condition.Similar.eq (values : ∀ v w, V v w → v = w)
    (settled : ∀ m n, N m n → m = n) {c d : Condition Attached} :
    Condition.Similar V (Attached.Congruent V N) c d → c = d
  | .compare _ column value _ => by rw [column.eq values settled, value.eq values settled]
  | .columns _ first second => by rw [first.eq values settled, second.eq values settled]
  | .among column items => by rw [column.eq values settled, items.eq_of values]
  | .isIn column collection _ _ => by rw [column.eq values settled, collection.eq values settled]
  | .null column => by rw [column.eq values settled]
  | .between column low high => by
    rw [column.eq values settled, low.eq values settled, high.eq values settled]
  | .exists query => by rw [query.eq values settled]
  | .group terms => congrArg _ (Term.list_eq values settled terms)
  | .raw similar => congrArg _ (Fragment.Similar.eq values settled similar)
  | .literal _ => rfl

theorem Term.list_eq (values : ∀ v w, V v w → v = w)
    (settled : ∀ m n, N m n → m = n) {ts us : List (Term Attached)} :
    Paired (Term.Similar V (Attached.Congruent V N)) ts us → ts = us
  | .nil => rfl
  | .cons (.intro _ _ condition) rest => by
    rw [condition.eq values settled, Term.list_eq values settled rest]

theorem Join.Similar.eq (values : ∀ v w, V v w → v = w)
    (settled : ∀ m n, N m n → m = n) {x y : Join Attached} :
    Join.Similar V (Attached.Congruent V N) x y → x = y
  | .clause _ _ _ table conditions => by
    rw [table.eq values settled, Term.list_eq values settled conditions]
  | .raw similar => congrArg _ (Fragment.Similar.eq values settled similar)

theorem Join.list_eq (values : ∀ v w, V v w → v = w)
    (settled : ∀ m n, N m n → m = n) {xs ys : List (Join Attached)} :
    Paired (Join.Similar V (Attached.Congruent V N)) xs ys → xs = ys
  | .nil => rfl
  | .cons first rest =>
    congr (congrArg _ (first.eq values settled)) (Join.list_eq values settled rest)

theorem Order.list_eq (values : ∀ v w, V v w → v = w)
    (settled : ∀ m n, N m n → m = n) {xs ys : List (Order Attached)} :
    Paired (Order.Similar V (Attached.Congruent V N)) xs ys → xs = ys
  | .nil => rfl
  | .cons (.column _ ordered) rest => by
    rw [ordered.eq values settled, Order.list_eq values settled rest]
  | .cons (.raw similar) rest => by
    rw [Fragment.Similar.eq values settled similar, Order.list_eq values settled rest]

theorem UnionPart.list_eq (values : ∀ v w, V v w → v = w)
    (settled : ∀ m n, N m n → m = n) {xs ys : List (UnionPart Attached)} :
    Paired (UnionPart.Similar V (Attached.Congruent V N)) xs ys → xs = ys
  | .nil => rfl
  | .cons (.intro _ _ query) rest => by
    rw [query.eq values settled, UnionPart.list_eq values settled rest]

theorem InsertPayload.list_eq (values : ∀ v w, V v w → v = w)
    (settled : ∀ m n, N m n → m = n) {xs ys : List (InsertPayload Attached)} :
    Paired (InsertPayload.Similar V (Attached.Congruent V N)) xs ys → xs = ys
  | .nil => rfl
  | .cons (.rows table) rest => by
    rw [Operand.rows_eq values settled table, InsertPayload.list_eq values settled rest]
  | .cons (.query source) rest => by
    rw [source.eq values settled, InsertPayload.list_eq values settled rest]

/-- Statements that differ in equal values and equal settings only are equal. -/
theorem Statement.Similar.eq (values : ∀ v w, V v w → v = w) (settled : ∀ m n, N m n → m = n)
    {s t : Statement} : Statement.Similar V N s t → s = t
  | .intro related table columns joins wheres groups havings orders unions insert assignments =>
    Statement.eq_of_parts (settled _ _ related) (eq_of_toList (Column.list_eq values settled table))
      (Column.list_eq values settled columns) (Join.list_eq values settled joins)
      (Term.list_eq values settled wheres) (Column.list_eq values settled groups)
      (Term.list_eq values settled havings) (Order.list_eq values settled orders)
      (UnionPart.list_eq values settled unions)
      (eq_of_toList (InsertPayload.list_eq values settled insert))
      (Operand.pairs_eq values settled assignments)

end

end Equal

/-! ### Builders that differ in their target -/

/-- Exchanging no value is nothing that a builder tells apart. -/
theorem Value.widens_eq : Widens (· = ·) (· = ·) where
  refl := fun _ => rfl
  wider := id
  null := congrArg isNull
  items := fun same => ⟨_, same.symm, .refl fun _ _ => rfl⟩
  itemsBack := fun same => ⟨_, same⟩

namespace Builder

variable {b b' : Builder}

theorem similar_withTarget (resolved : b.statement.All Statement.Resolved) (target : Target) :
    Builder.Similar (· = ·) (b.withTarget target) b where
  statement := .refl (fun _ => rfl) (resolved.mono fun _ here => ⟨here, rfl⟩)
  connector := rfl
  negated := rfl

theorem Similar.withTarget_eq (similar : Builder.Similar (· = ·) b b')
    (target : Target) : b.withTarget target = b'.withTarget target := by
  simp only [withTarget, similar.statement.eq (fun _ _ => id) fun _ _ => id, similar.connector,
    similar.negated]

end Builder

namespace Call

variable {b : Builder}

/-- One call does the same whatever the target, on a builder in which no callback is left. -/
theorem run_withTarget (call : Call) (resolved : b.statement.All Statement.Resolved)
    (target other : Target) :
    (call.run (b.withTarget target)).value.withTarget other =
      (call.run b).value.withTarget other := by
  have similar := similar_run Value.widens_eq (Builder.similar_withTarget resolved target)
    (Call.Similar.refl (fun _ => rfl) call)
  exact similar.withTarget_eq other

/-- Calls build the same statement whatever the target. -/
theorem runAll_start (calls : List Call) (target other : Target) :
    (runAll calls (.start target)).value.withTarget other =
      (runAll calls (.start other)).value.withTarget other := by
  have started : Builder.Similar (· = ·) (.start target) (.start other) := .start target
  have similar := similar_runAll Value.widens_eq (similar_all_refl (fun _ => rfl) calls) started
  exact similar.withTarget_eq other

mutual

/-- Whether a call leaves the target of the builder that it is applied to alone. What is nested in
its arguments is built on builders of their own, which may have any target. -/
def keepsTarget : Call → Bool
  | .withTarget _ => false
  | .modify calls => allKeepTarget calls
  | _ => true

/-- Whether calls in a row leave the target alone. -/
def allKeepTarget : List Call → Bool
  | [] => true
  | call :: rest => call.keepsTarget && allKeepTarget rest

end

mutual

theorem target_run (b : Builder) : (call : Call) → call.keepsTarget = true →
    (call.run b).value.target = b.target
  | .modify calls, keeps => target_runAll calls b keeps
  | .describe description, _ => b.target_describe description
  | .withTarget _, keeps => by cases keeps
  | .or, _ | .and, _ | .not, _ | .filter _ _ _, _ | .group _ _ _, _ | .select _, _ | .first _, _
  | .aggregate _, _ | .distinct, _ | .source _, _ | .withSchema _, _ | .withAlias _, _
  | .join _ _ _, _ | .joinRaw _, _ | .groupBy _, _ | .orderBy _ _, _ | .orderByRaw _, _
  | .limit _, _ | .offset _, _ | .union _ _ _, _ | .lock _, _ | .transacting, _ | .insert _ _, _
  | .update _ _, _ | .returning _, _ | .delete, _ | .truncate, _ | .fork _, _ => rfl

theorem target_runAll : (calls : List Call) → (b : Builder) → allKeepTarget calls = true →
    (runAll calls b).value.target = b.target
  | [], _, _ => rfl
  | call :: rest, b, keeps => by
    rw [allKeepTarget, Bool.and_eq_true] at keeps
    rw [runAll, Logged.value_bind, target_runAll rest _ keeps.2, target_run b call keeps.1]

end

/-- Calls that keep the target can be made first and the target set afterwards: the statement is the
one that they make for that target, and it renders the same in both forms. -/
theorem rebind_runAll (calls : List Call) (keeps : allKeepTarget calls = true)
    (first second : Target) :
    let rebound := (runAll calls (.start first)).value.withTarget second
    let built := (runAll calls (.start second)).value
    rebound.statement = built.statement ∧ rebound.toSql = built.toSql ∧
      rebound.toQuery = built.toQuery := by
  intro rebound built
  have kept : built.target = second := target_runAll calls (.start second) keeps
  have own : built.withTarget second = built := by
    rw [← kept]
    rfl
  have same : rebound = built := by
    rw [← own]
    exact runAll_start calls first second
  rw [same]
  exact ⟨rfl, rfl, rfl⟩

/-- A limit, a nested statement and a raw fragment made for one dialect and rendered for another. -/
theorem rebind_runAll_limited :
    let calls : List Call := [.source (.name "t"), .limit (some 5),
      .filter .wheres {} (.isIn (.name "id") (.query (.callback [.withTarget { dialect := .mysql },
        .select [.name "n"], .source (.name "u")]))),
      .filter .wheres {} (.raw
        ⟨"?? > ?", .positional [.value (.text "t.n"), .value (.int 3)], none⟩)]
    let rebound := (runAll calls (.start { dialect := .oracle })).value.withTarget
      { dialect := .mssql }
    let built := (runAll calls (.start { dialect := .mssql })).value
    allKeepTarget calls = true ∧ (rebound.statement = built.statement ∧
      rebound.toSql = built.toSql ∧ rebound.toQuery = built.toQuery) ∧
      built.toQuery.value.toOption = some
        "select top (5) * from [t] where [id] in (select [n] from [u]) and [t].[n] > 3" :=
  ⟨rfl, rebind_runAll _ rfl { dialect := .oracle } { dialect := .mssql }, by decide +kernel⟩

end Call

end PortableSql
