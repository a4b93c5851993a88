import PortableSql.Proofs.Rendering
import PortableSql.Proofs.Template
import PortableSql.Proofs.Traversal
import PortableSql.Proofs.Tree

/-!
Operands and fragments keep the promise of their renderings.

Every function that renders a part keeps a promise where its rendered parts keep it. The promise is
about faults, which come from rendering itself or are recorded in the tree, and about values behind
a backslash, which only a raw fragment can write. A guarded fragment writes none there. Neither does
one that stands alone and binds values only: no run of text in front of a placeholder ends with a
backslash, and no rendered name does.
-/

namespace PortableSql

/-- Whether a fragment keeps backslashes away from its values: the text in front of it does not end
with one, and no placeholder of its template is directly behind another. -/
def Fragment.guarded {α : Type} (fragment : Fragment α) : Bool :=
  (match fragment.around with
    | some (before, _) => !Sql.endsBehind false before.toList
    | none => true) &&
  match fragment.bindings with
  | .none => true
  | .positional _ => Template.spaced (Template.positional fragment.template.toList)
  | .named _ => Template.spaced (Template.named fragment.template.toList)

/-! ### Identifiers -/

theorem Dialect.closeQuote_ne (d : Dialect) : d.grammar.closeQuote ≠ '\\' := by
  cases d <;> decide

namespace Sql

theorem endsBehind_of_getLast? {cs : List Char} {c : Char} (last : cs.getLast? = some c)
    (behind : Bool) : endsBehind behind cs = (c == '\\') := by
  rw [endsBehind, last]
  rfl

/-- Of texts between separators the last one counts, if there is any. -/
theorem endsBehind_intercalate {separator : List Char} {items : List (List Char)}
    (each : ∀ item ∈ items, ∀ behind, endsBehind behind item = false) (some : items ≠ [])
    (behind : Bool) : endsBehind behind (separator.intercalate items) = false := by
  induction items generalizing behind with
  | nil => exact absurd rfl some
  | cons first rest ih =>
    cases rest with
    | nil =>
      rw [List.intercalate_singleton]
      exact each first (by simp) behind
    | cons second rest =>
      rw [List.intercalate_cons_cons, endsBehind_append]
      exact ih (fun item member => each item (List.mem_cons_of_mem _ member)) (by simp) _

end Sql

/-! A rendered name ends with a closing quote, a subscript or a star. -/

namespace Identifier

variable {grammar : Grammar}

theorem splitDots_ne_nil (depth : Nat) (read cs : List Char) : splitDots depth read cs ≠ [] := by
  fun_induction splitDots depth read cs with
  | case1 => exact List.cons_ne_nil _ _
  | case2 _ _ _ ih => exact ih
  | case3 _ _ _ _ ih => exact ih
  | case4 => exact List.cons_ne_nil _ _
  | case5 _ _ _ _ _ _ _ ih => exact ih

theorem getLast?_of_splitSubscript? {segment column subscript : List Char}
    (found : splitSubscript? segment = some (column, subscript)) :
    subscript.getLast? = some ']' := by
  unfold splitSubscript? at found
  dsimp only at found
  split at found
  · rename_i fits
    cases found
    exact fits.2.2.1
  · cases found

section

variable (quotes : grammar.closeQuote ≠ '\\')

include quotes

theorem endsBehind_quoteChars (name : List Char) (behind : Bool) :
    Sql.endsBehind behind (quoteChars grammar name) = false := by
  rw [quoteChars, Sql.endsBehind_append, Sql.endsBehind_cons, Sql.endsBehind_nil]
  simpa using quotes

theorem endsBehind_renderSegment (segment : List Char) (behind : Bool) :
    Sql.endsBehind behind (renderSegment grammar segment) = false := by
  unfold renderSegment
  split
  · rename_i star
    rw [star]
    rfl
  · split
    · rename_i column subscript found
      have bracket : splitSubscript? segment = some (column, subscript) := by
        split at found
        · exact found
        · cases found
      rw [Sql.endsBehind_append,
        Sql.endsBehind_of_getLast? (getLast?_of_splitSubscript? bracket)]
      decide
    · exact endsBehind_quoteChars quotes segment behind

theorem endsBehind_renderPath (expr : String) (behind : Bool) :
    Sql.endsBehind behind (renderPath grammar expr).toList = false := by
  rw [renderPath, String.toList_ofList]
  refine Sql.endsBehind_intercalate (fun item member => ?_) ?_ behind
  · obtain ⟨segment, -, rfl⟩ := List.mem_map.mp member
    exact endsBehind_renderSegment quotes segment
  · rw [Ne, List.map_eq_nil_iff]
    exact splitDots_ne_nil 0 [] expr.toList

theorem endsBehind_render (name : String) (behind : Bool) :
    Sql.endsBehind behind (render grammar name).toList = false := by
  unfold render
  split
  · rw [renderAlias, String.toList_append, String.toList_append, Sql.endsBehind_append,
      Sql.endsBehind_append, quote, String.toList_ofList]
    exact endsBehind_quoteChars quotes _ _
  · exact endsBehind_renderPath quotes _ behind

/-- No names at all leave what is in front last. -/
theorem endsBehind_renderList (names : List String) :
    Sql.endsBehind false (renderList grammar "" names).toList = false := by
  rw [renderList, String.toList_intercalate]
  cases names with
  | nil => rfl
  | cons name rest =>
    refine Sql.endsBehind_intercalate (fun item member => ?_) (by simp) false
    obtain ⟨text, inTexts, rfl⟩ := List.mem_map.mp member
    obtain ⟨name, -, rfl⟩ := List.mem_map.mp inTexts
    rw [String.empty_append]
    exact endsBehind_render quotes name

end

end Identifier

variable {p : Promise} {before after : Bool}

open Rendering (Safe)

/-! ### Operands -/

namespace Rendered

/-- A rendered operand keeps a promise in the places of a value, and a backslash may be last in it
if `after`. -/
def Ends (p : Promise) (after : Bool) : Rendered → Prop
  | .value _ | .undefined => True
  | .query body | .raw body => Safe p false after body

/-- A rendered operand keeps a promise in the places of a value. -/
def Keeps (p : Promise) (rendered : Rendered) : Prop :=
  rendered.Ends p true

theorem safe_inValue {rendered : Rendered} (keeps : rendered.Keeps p) :
    Safe p false true rendered.inValue := by
  cases rendered with
  | value v => exact .slot v
  | undefined => exact .refuse rfl
  | query body => exact .between (by decide) keeps
  | raw body => exact keeps

theorem safe_bare {rendered : Rendered} (ends : rendered.Ends p after) :
    Safe p false after rendered.bare := by
  cases rendered with
  | value v => exact .slot v
  | undefined => exact .refuse rfl
  | query | raw => exact ends

theorem safe_enclosed {rendered : Rendered} (keeps : rendered.Keeps p) :
    Safe p false true rendered.enclosed := by
  cases rendered with
  | raw body => exact .between (by decide) keeps
  | value | undefined | query => exact safe_inValue keeps

theorem safe_compared {rendered : Rendered} (keeps : rendered.Keeps p) :
    Safe p false true rendered.compared := by
  unfold compared
  split
  · exact .text _
  · exact safe_inValue keeps

theorem safe_inCell (marker : Option String) (column : String) {rendered : Option Rendered}
    (keeps : ∀ r, rendered = some r → r.Keeps p) :
    Safe p false true (inCell marker column rendered) := by
  have filler : Safe p false true (inCell marker column none) := by
    cases marker with
    | none => exact .refuse rfl
    | some text => exact .text text
  unfold inCell
  split
  · exact filler
  · exact filler
  · exact safe_inValue (keeps _ rfl)

theorem ofRendering_of_names {value : Value} {fault : Fault}
    (refused : names value = .error fault) : fault.ofRendering = true := by
  unfold names at refused
  split at refused
  · cases refused
  · obtain ⟨item, _, found⟩ := exists_of_mapM_error refused
    split at found
    · cases found
    · cases found
      rfl
  · cases refused
    rfl

theorem safe_asIdentifier {grammar : Grammar} (quotes : grammar.closeQuote ≠ '\\')
    {rendered : Rendered} (ends : rendered.Ends p after) :
    Safe p false after (rendered.asIdentifier grammar) := by
  cases rendered with
  | value v =>
    have named : Render.Ensures (ExceptT.mk (pure (names v))) (fun _ => True) p.faults := by
      cases found : names v with
      | ok list => trivial
      | error fault => exact p.ofRendering _ (ofRendering_of_names found)
    refine named.bind fun list _ => .pure (.clean fun _ => ?_)
    exact Identifier.endsBehind_renderList quotes list
  | query | raw | undefined => exact safe_bare ends

end Rendered

/-! ### Fragments -/

/-- Rendered bindings keep a promise, and a backslash may be last in one if `after`. -/
def Bindings.Ends (p : Promise) (after : Bool) : Bindings Rendered → Prop
  | .none => True
  | .positional values => ∀ rendered ∈ values, rendered.Ends p after
  | .named pairs => ∀ pair ∈ pairs, pair.2.Ends p after

theorem Keyed.exists_mem_of_get? {α : Type} {name : String} {entries : Keyed α} {entry : α}
    (found : Keyed.get? name entries = some entry) : ∃ key, (key, entry) ∈ entries := by
  induction entries with
  | nil => simp [Keyed.get?] at found
  | cons head rest ih =>
    obtain ⟨key, value⟩ := head
    unfold Keyed.get? at found
    split at found
    · cases found
      exact ⟨key, by simp⟩
    · obtain ⟨other, member⟩ := ih found
      exact ⟨other, by simp [member]⟩

namespace Template

variable {κ : Type} {tokens : List (Token κ)} {body rest : Rendering}

/-- Tokens do not begin with a placeholder. -/
def Opened (tokens : List (Token κ)) : Prop :=
  ∀ token ∈ tokens.head?, token.isPlaceholder = false

/-- A run of text and what follows it: either nothing does, or the text does not end with a
backslash. -/
theorem safe_textToken {chars : List Char} (parted : Parted (.text chars :: tokens))
    (follows : ∀ start, (start = true → Opened tokens) → Safe p start true rest) :
    Safe p before true (.concat [.text (String.ofList chars), rest]) := by
  cases tokens with
  | nil => exact .leads (.text _) (.last (follows true fun _ => by simp [Opened]))
  | cons next tokens =>
    have clean : Sql.endsBehind true (String.ofList chars).toList = false := by
      simpa using parted.2.1
    exact .clear clean (.last (follows false nofun))

/-- A placeholder and what follows it: in an unguarded template another placeholder may, and then
the first must not end with a backslash. -/
theorem safe_placeholderToken {token : Token κ} (placeholder : token.isPlaceholder = true)
    (apart : p.guarded → after = true → spaced (token :: tokens) = true)
    (opened : before = true → p.guarded → Opened (token :: tokens)) (safe : Safe p false after body)
    (follows : (after = true → p.guarded → Opened tokens) → Safe p after true rest) :
    Safe p before true (.concat [body, rest]) := by
  refine Safe.cons (safe.behind fun holds => ?_) (.last (follows fun last holds => ?_))
  · cases before with
    | false => rfl
    | true =>
      have first := opened rfl holds token rfl
      simp [placeholder] at first
  · cases tokens with
    | nil => simp [Opened]
    | cons next tokens =>
      have different := apart holds last
      simp only [spaced, placeholder] at different
      simpa [Opened] using (Bool.and_eq_true_iff.mp different).1

theorem spaced_tail {token : Token κ} (apart : spaced (token :: tokens) = true) :
    spaced tokens = true := by
  cases tokens with
  | nil => rfl
  | cons next tokens => exact (Bool.and_eq_true_iff.mp apart).2

section Filling

variable {grammar : Grammar} (quotes : grammar.closeQuote ≠ '\\') (template : String)

include quotes

theorem safe_fillPositional (given : Nat) {tokens : List (Token Unit)} {bindings : List Rendered}
    (parted : Parted tokens) (apart : p.guarded → after = true → spaced tokens = true)
    (ends : ∀ rendered ∈ bindings, rendered.Ends p after)
    (opened : before = true → p.guarded → Opened tokens) :
    Safe p before true (fillPositional grammar template given tokens bindings) := by
  have tail {token : Token Unit} {tokens : List (Token Unit)}
      (apart : p.guarded → after = true → spaced (token :: tokens) = true) :
      p.guarded → after = true → spaced tokens = true :=
    fun holds last => spaced_tail (apart holds last)
  fun_induction fillPositional grammar template given tokens bindings generalizing before with
  | case1 => exact .anywhere .nothing
  | case2 => exact .refuse rfl
  | case3 bindings chars tokens ih =>
    exact safe_textToken parted fun _ opened =>
      ih parted.tail (tail apart) ends fun start _ => opened start
  | case4 tokens binding bindings ih =>
    refine safe_placeholderToken rfl apart opened
      (Rendered.safe_bare (ends _ (by simp))) fun next => ?_
    exact ih parted.tail (tail apart) (fun r member => ends r (by simp [member])) next
  | case5 tokens binding bindings ih =>
    refine safe_placeholderToken rfl apart opened
      (Rendered.safe_asIdentifier quotes (ends _ (by simp))) fun next => ?_
    exact ih parted.tail (tail apart) (fun r member => ends r (by simp [member])) next
  | case6 => exact .refuse rfl
  | case7 => exact .refuse rfl

omit quotes in
theorem ensures_lookup {P : Rendered → Prop} {Q : Fault → Prop} (name : String)
    {bindings : Keyed Rendered} (each : ∀ pair ∈ bindings, P pair.2)
    (missing : Q (.missingName name template)) :
    (lookup template name bindings).Ensures P Q := by
  unfold lookup
  split
  · rename_i binding found
    obtain ⟨key, member⟩ := Keyed.exists_mem_of_get? found
    exact .pure (each _ member)
  · exact .throw missing

theorem safe_fillNamed {bindings : Keyed Rendered} {tokens : List (Token String)}
    (parted : Parted tokens) (apart : p.guarded → after = true → spaced tokens = true)
    (ends : ∀ pair ∈ bindings, pair.2.Ends p after)
    (opened : before = true → p.guarded → Opened tokens) :
    Safe p before true (fillNamed grammar template bindings tokens) := by
  have tail {token : Token String} {tokens : List (Token String)}
      (apart : p.guarded → after = true → spaced (token :: tokens) = true) :
      p.guarded → after = true → spaced tokens = true :=
    fun holds last => spaced_tail (apart holds last)
  fun_induction fillNamed grammar template bindings tokens generalizing before with
  | case1 => exact .anywhere .nothing
  | case2 chars tokens ih =>
    exact safe_textToken parted fun _ opened =>
      ih parted.tail (tail apart) fun start _ => opened start
  | case3 name tokens ih =>
    refine safe_placeholderToken rfl apart opened ?_ fun next =>
      ih parted.tail (tail apart) next
    exact (ensures_lookup template name ends (p.ofRendering _ rfl)).bind fun _ found =>
      Rendered.safe_bare found
  | case4 name tokens ih =>
    refine safe_placeholderToken rfl apart opened ?_ fun next =>
      ih parted.tail (tail apart) next
    exact (ensures_lookup template name ends (p.ofRendering _ rfl)).bind fun _ found =>
      Rendered.safe_asIdentifier quotes found

theorem safe_fill {bindings : Bindings Rendered} (ends : bindings.Ends p after)
    (guarded : p.guarded → after = true → Fragment.guarded ⟨template, bindings, none⟩ = true) :
    Safe p false true (fill grammar template bindings) := by
  cases bindings with
  | none => exact .text template
  | positional values =>
    exact safe_fillPositional quotes template _ (parted_positional _) guarded ends nofun
  | named pairs =>
    exact safe_fillNamed quotes template (parted_named _) guarded ends nofun

end Filling

end Template

/-- A fragment keeps a promise if it is guarded, or stands alone and none of its bindings ends with
a backslash. -/
theorem Fragment.safe_render {grammar : Grammar} (quotes : grammar.closeQuote ≠ '\\')
    {fragment : Fragment Rendered} (ends : fragment.bindings.Ends p true)
    (guarded : p.guarded → fragment.guarded = true ∨
      fragment.around = none ∧ fragment.bindings.Ends p false) :
    Safe p false true (fragment.render grammar) := by
  obtain ⟨template, bindings, around⟩ := fragment
  cases around with
  | none =>
    by_cases lone : bindings.Ends p false
    · exact Template.safe_fill quotes template lone nofun
    · refine Template.safe_fill quotes template ends fun holds _ => ?_
      rcases guarded holds with parts | ⟨-, clear⟩
      · exact parts
      · exact absurd clear lone
  | some around =>
    obtain ⟨front, back⟩ := around
    have parts (holds : p.guarded) := Bool.and_eq_true_iff.mp <| (guarded holds).resolve_right
      fun ⟨alone, _⟩ => by cases alone
    have clean : p.guarded → Sql.endsBehind false front.toList = false := fun holds => by
      simpa using (parts holds).1
    exact .cons (.clean clean) (.leads
      (Template.safe_fill quotes template ends fun holds _ => (parts holds).2) (.last (.text back)))

end PortableSql
