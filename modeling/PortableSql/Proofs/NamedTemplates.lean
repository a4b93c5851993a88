import PortableSql.Proofs.Compiled
import PortableSql.Proofs.PositionalTemplates
import PortableSql.Proofs.Traversal

/-!
Templates with bindings by name.

A template is filled token by token: text stands as it is, each placeholder becomes what the operand
of its name becomes there, and the first that cannot be stops the rendering (`Template.Expands`).
Whatever the names stand for, a fragment is filled by the tokens of the reading of its template
exactly if no value stands directly in front of a cast (`Fragment.expands_named_iff`).
-/

namespace PortableSql

namespace Template

section Filling

variable (target : Target) (template : String) (pairs : List (String × Operand Attached))

/-- What a name becomes in the place of a placeholder: what the operand of its first pair does. -/
def expandName (placeholder : Placeholder) (name : String) : Except Fault (List Piece) :=
  match Keyed.get? name pairs with
  | some operand => (placeholder.rendering target.grammar (operand.rendered target)).outcome
  | none => .error (.missingName name template)

/-- What a token becomes. -/
def Token.expansion : Token String → Except Fault (List Piece)
  | .text chars => .ok [.text (String.ofList chars)]
  | .value name => expandName target template pairs .value name
  | .identifier name => expandName target template pairs .identifier name

/-- The result of filling tokens: what they become, one behind another, or the fault of the first
that is stopped. -/
def Expands (expansion : Token String → Except Fault (List Piece)) (tokens : List (Token String)) :
    Except Fault (List Piece) → Prop
  | .ok pieces => ∃ written : Token String → List Piece,
      (∀ token ∈ tokens, expansion token = .ok (written token)) ∧ pieces = tokens.flatMap written
  | .error fault => ∃ front token back, tokens = front ++ token :: back ∧
      (∀ other ∈ front, ∃ pieces, expansion other = .ok pieces) ∧ expansion token = .error fault

theorem expands_iff {expansion : Token String → Except Fault (List Piece)}
    {tokens : List (Token String)} {result : Except Fault (List Piece)} :
    Expands expansion tokens result ↔ (tokens.mapM expansion).map List.flatten = result := by
  cases result with
  | ok pieces =>
    rw [map_ok]
    simp only [mapM_ok_iff_map, Expands, List.flatMap_def]
    constructor
    · rintro ⟨written, each, rfl⟩
      exact ⟨_, ⟨written, each, rfl⟩, rfl⟩
    · rintro ⟨_, ⟨written, each, rfl⟩, rfl⟩
      exact ⟨written, each, rfl⟩
  | error fault =>
    change (∃ front token back, _) ↔ _
    rw [← mapM_error_iff]
    cases tokens.mapM expansion with
    | ok lists => exact iff_of_false nofun nofun
    | error other => simp only [Except.map, Except.error.injEq]

theorem outcome_lookup (name : String) (placeholder : Placeholder) :
    (lookup template name (Operand.renderedPairs target pairs) >>=
        placeholder.rendering target.grammar).outcome =
      expandName target template pairs placeholder name := by
  unfold lookup expandName
  rw [Render.outcome_bind, Operand.renderedPairs_eq_map, Keyed.get?_map]
  cases Keyed.get? name pairs <;> rfl

theorem outcome_fillNamed (tokens : List (Token String)) :
    (fillNamed target.grammar template (Operand.renderedPairs target pairs) tokens).outcome =
      (tokens.mapM (Token.expansion target template pairs)).map List.flatten := by
  induction tokens with
  | nil => rfl
  | cons token tokens ih =>
    have step (r : Rendering) (own : r.outcome = token.expansion target template pairs) :
        (Rendering.concat [r, fillNamed target.grammar template
          (Operand.renderedPairs target pairs) tokens]).outcome =
        ((token :: tokens).mapM (Token.expansion target template pairs)).map List.flatten := by
      rw [Rendering.outcome_concat_cons, own, Rendering.outcome_concat_cons, ih, List.mapM_cons]
      cases token.expansion target template pairs with
      | error fault => rfl
      | ok first =>
        cases tokens.mapM (Token.expansion target template pairs) with
        | error fault => rfl
        | ok others =>
          change Except.ok (first ++ (others.flatten ++ [])) = _
          rw [List.append_nil]
          rfl
    cases token with
    | text chars => exact step _ rfl
    | value name => exact step _ (outcome_lookup target template pairs name .value)
    | identifier name => exact step _ (outcome_lookup target template pairs name .identifier)

end Filling

/-! ### Names that stand for themselves -/

section Names

variable (target : Target) (template : String)

/-- The name of the placeholder that a token is. -/
def Token.name? : Token String → Option String
  | .text _ => none
  | .value name | .identifier name => some name

/-- The pairs in which each name is bound to its own text. -/
def themselves (names : List String) : List (String × Operand Attached) :=
  names.map fun name => (name, .value (.text name))

theorem get?_themselves {name : String} {names : List String} (member : name ∈ names) :
    Keyed.get? name (themselves names) = some (.value (.text name)) := by
  induction names with
  | nil => cases member
  | cons other names ih =>
    change (if other = name then _ else Keyed.get? name (themselves names)) = _
    split
    · rename_i same
      rw [same]
    · rename_i different
      exact ih ((List.mem_cons.mp member).resolve_left fun same => different same.symm)

/-- Where each name stands for its own text, values are bound and identifiers are written. -/
theorem expandName_themselves {name : String} {names : List String} (member : name ∈ names) :
    expandName target template (themselves names) .value name = .ok [.slot (.text name)] ∧
      expandName target template (themselves names) .identifier name =
        .ok [.text (Identifier.renderList target.grammar "" [name])] := by
  unfold expandName
  rw [get?_themselves member]
  exact ⟨rfl, rfl⟩

theorem exists_expansion {tokens : List (Token String)} {names : List String}
    (known : ∀ name ∈ tokens.filterMap Token.name?, name ∈ names) :
    ∀ token ∈ tokens, ∃ pieces,
      token.expansion target template (themselves names) = .ok pieces := by
  intro token member
  cases token with
  | text chars => exact ⟨_, rfl⟩
  | value name =>
    have found := known name (List.mem_filterMap.mpr ⟨_, member, rfl⟩)
    exact ⟨_, (expandName_themselves target template found).1⟩
  | identifier name =>
    have found := known name (List.mem_filterMap.mpr ⟨_, member, rfl⟩)
    exact ⟨_, (expandName_themselves target template found).2⟩

/-- Where each name stands for its own text, tokens that have a value where other tokens have an
identifier do not expand to the same. -/
theorem not_expands_of_identifier {front back others : List (Token String)} {name : String}
    {names : List String} {result : Except Fault (List Piece)}
    (known : ∀ other ∈ (front ++ .value name :: others).filterMap Token.name?, other ∈ names)
    (filled : Expands (Token.expansion target template (themselves names))
      (front ++ .identifier name :: back) result) :
    ¬Expands (Token.expansion target template (themselves names))
      (front ++ .value name :: others) result := by
  intro claimed
  have each := exists_expansion target template known
  cases result with
  | error fault =>
    obtain ⟨before, token, after, whole, -, stopped⟩ := claimed
    obtain ⟨pieces, given⟩ := each token (whole ▸ List.mem_append_cons_self)
    cases given.symm.trans stopped
  | ok pieces =>
    obtain ⟨written, own, rfl⟩ := filled
    obtain ⟨bound, own', same⟩ := claimed
    have member : name ∈ names := known name (by simp [Token.name?])
    obtain ⟨asValue, asIdentifier⟩ := expandName_themselves target template member
    have first : written (.identifier name) =
        [.text (Identifier.renderList target.grammar "" [name])] :=
      Except.ok.inj ((own _ List.mem_append_cons_self).symm.trans asIdentifier)
    have second : bound (.value name) = [.slot (.text name)] :=
      Except.ok.inj ((own' _ List.mem_append_cons_self).symm.trans asValue)
    have ahead : front.flatMap written = front.flatMap bound := by
      rw [List.flatMap_def, List.flatMap_def]
      refine congrArg List.flatten (List.map_congr_left fun token inside => ?_)
      exact Except.ok.inj ((own token (List.mem_append_left _ inside)).symm.trans
        (own' token (List.mem_append_left _ inside)))
    rw [List.flatMap_append, List.flatMap_append, List.flatMap_cons, List.flatMap_cons, first,
      second, ahead] at same
    cases List.append_cancel_left same

end Names

end Template

open Template in
/-- A template with bindings by name has one reading. Whatever its names stand for, it is filled by
the tokens of the reading exactly if no value stands directly in front of a cast. -/
theorem Fragment.expands_named_iff (target : Target) (template : String) :
    ∃ parts, (∀ others, Reading NamedPart.lexicon template.toList others ↔ others = parts) ∧
      ((∀ pairs, Expands (Token.expansion target template pairs) (NamedPart.tokens parts)
          (Fragment.rendered target ⟨template, .named pairs, none⟩).outcome) ↔
        ∀ name, ¬[NamedPart.placeholder .value name, .cast] <:+: parts) := by
  obtain ⟨parts, unique⟩ := NamedPart.exact_lexicon.exists_unique template.toList
  have reading := (unique parts).mpr rfl
  have filled (pairs : List (String × Operand Attached)) :
      Expands (Token.expansion target template pairs) (named template.toList)
        (Fragment.rendered target ⟨template, .named pairs, none⟩).outcome :=
    expands_iff.mpr (outcome_fillNamed target template pairs _).symm
  refine ⟨parts, unique, fun all => ?_, fun spaced pairs => ?_⟩
  · refine Classical.not_not.mp fun mixed => ?_
    obtain ⟨front, name, back, others, scanned, read⟩ := NamedPart.exists_identifier reading mixed
    let names := (NamedPart.tokens parts).filterMap Token.name?
    have own := filled (themselves names)
    rw [scanned] at own
    refine not_expands_of_identifier target template (fun other member => ?_) own
      (read ▸ all (themselves names))
    rwa [← read] at member
  · rw [← NamedPart.named_eq_tokens reading spaced]
    exact filled pairs

open Template in
/-- With a value directly in front of a cast, the name is taken for an identifier. -/
theorem Fragment.not_expands_named :
    let pairs : List (String × Operand Attached) := [("id", .value (.int 1))]
    let parts : List NamedPart :=
      [.placeholder .value "id", .cast, .char 'i', .char 'n', .char 't']
    let outcome := (Fragment.rendered {} ⟨":id::int", .named pairs, none⟩).outcome
    Reading NamedPart.lexicon ":id::int".toList parts ∧
      Expands (Token.expansion {} ":id::int" pairs) (NamedPart.tokens parts)
        (.ok [.slot (.int 1), .text "::int"]) ∧
      outcome = .error (.identifierNotText "Int(1)") ∧
      ¬Expands (Token.expansion {} ":id::int" pairs) (NamedPart.tokens parts) outcome := by
  intro pairs parts outcome
  have plain {c : Char} {rest : List Char} (neither : c ≠ '\\' ∧ c ≠ ':') :
      NamedPart.lexicon.Fits (.char c) rest :=
    ⟨fun same => absurd same neither.1, fun same => absurd same neither.2⟩
  have word : Reading NamedPart.lexicon ['i', 'n', 't'] [.char 'i', .char 'n', .char 't'] :=
    .cons (plain (by decide)) (.cons (plain (by decide)) (.cons (plain (by decide)) .nil))
  have isName : IsName "id" := ⟨by decide, List.all_eq_true.mp (by decide)⟩
  have front : NamedPart.lexicon.Fits (.placeholder .value "id") "::int".toList :=
    ⟨isName, NamedPart.endsName_colon _, fun _ => rfl⟩
  have anywhere : NamedPart.lexicon.Fits .cast "int".toList := trivial
  have scanned : named ":id::int".toList = [.identifier "id", .value "int"] := by decide +kernel
  have stopped : outcome = .error (.identifierNotText "Int(1)") := by
    change (fillNamed _ _ _ (named ":id::int".toList)).outcome = _
    rw [scanned]
    rfl
  refine ⟨.cons front (.cons anywhere word), expands_iff.mpr rfl, stopped, ?_⟩
  rw [stopped, expands_iff]
  exact nofun

end PortableSql
