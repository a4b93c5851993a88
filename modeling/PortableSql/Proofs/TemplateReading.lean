import PortableSql.Template

/-!
Readings of templates.

A template is read from the left as parts. Each part has a text and has to fit what follows it, so
that `???` begins with an identifier and `a::b` holds no name. `Reading` says so for any kind of
parts; where some part fits everywhere and no two parts do in one place, a template has exactly one
reading (`Lexicon.Exact.exists_unique`).

The scan of templates with bindings by position finds the placeholders of this reading. The scan of
templates with bindings by name finds the tokens of it (`NamedPart.named_eq_tokens`), unless a value
stands directly in front of a cast: there, the scan takes the first colon of the cast for the end of
an identifier (`NamedPart.exists_identifier`).
-/

namespace PortableSql.Template

/-! ### Readings -/

/-- The texts of the parts of a template, and what may follow a part. -/
structure Lexicon (π : Type) where
  source : π → List Char
  Fits : π → List Char → Prop

/-- A text is the parts of a list one after another, each of which fits what follows it. -/
inductive Reading {π : Type} (lexicon : Lexicon π) : List Char → List π → Prop where
  | nil : Reading lexicon [] []
  | cons {part : π} {rest : List Char} {parts : List π} (fits : lexicon.Fits part rest)
      (behind : Reading lexicon rest parts) :
      Reading lexicon (lexicon.source part ++ rest) (part :: parts)

/-- Some part fits everywhere and no two parts fit in one place. -/
structure Lexicon.Exact {π : Type} (lexicon : Lexicon π) : Prop where
  nonempty : ∀ part, lexicon.source part ≠ []
  first : ∀ c cs, ∃ part rest, lexicon.source part ++ rest = c :: cs ∧ lexicon.Fits part rest
  same : ∀ {part other rest more}, lexicon.source part ++ rest = lexicon.source other ++ more →
    lexicon.Fits part rest → lexicon.Fits other more → part = other

section

variable {π : Type} {lexicon : Lexicon π} (exact : lexicon.Exact)

include exact

theorem Lexicon.Exact.unique {cs : List Char} {parts others : List π}
    (reading : Reading lexicon cs parts) (other : Reading lexicon cs others) : parts = others := by
  induction reading generalizing others with
  | nil =>
    generalize empty : [] = cs at other
    cases other with
    | nil => rfl
    | cons fits behind => exact absurd (List.append_eq_nil_iff.mp empty.symm).1 (exact.nonempty _)
  | @cons part rest parts fits behind ih =>
    generalize whole : lexicon.source part ++ rest = cs at other
    cases other with
    | nil => exact absurd (List.append_eq_nil_iff.mp whole).1 (exact.nonempty _)
    | cons fits' behind' =>
      obtain rfl := exact.same whole fits fits'
      obtain rfl := List.append_cancel_left whole
      rw [ih behind']

theorem Lexicon.Exact.exists_reading (cs : List Char) : ∃ parts, Reading lexicon cs parts := by
  induction size : cs.length using Nat.strongRecOn generalizing cs with
  | ind n ih =>
    cases cs with
    | nil => exact ⟨[], .nil⟩
    | cons c cs =>
      obtain ⟨part, rest, whole, fits⟩ := exact.first c cs
      have shorter : rest.length < n := by
        have some := List.length_pos_iff.mpr (exact.nonempty part)
        rw [← size, ← whole, List.length_append]
        omega
      obtain ⟨parts, behind⟩ := ih _ shorter rest rfl
      rw [← whole]
      exact ⟨part :: parts, .cons fits behind⟩

/-- A text has exactly one reading. -/
theorem Lexicon.Exact.exists_unique (cs : List Char) :
    ∃ parts, ∀ others, Reading lexicon cs others ↔ others = parts := by
  obtain ⟨parts, reading⟩ := exact.exists_reading cs
  refine ⟨parts, fun others => ⟨fun other => exact.unique other reading, ?_⟩⟩
  rintro rfl
  exact reading

end

/-! ### Placeholders -/

/-- The two kinds of placeholders. -/
inductive Placeholder where
  | value
  | identifier
deriving DecidableEq

/-- The placeholder that a token is. -/
def Token.placeholder? {κ : Type} : Token κ → Option Placeholder
  | .text _ => none
  | .value _ => some .value
  | .identifier _ => some .identifier

/-- Text that joins other text is no placeholder. -/
theorem placeholders_consText {κ : Type} (chars : List Char) (tokens : List (Token κ)) :
    (consText chars tokens).filterMap Token.placeholder? =
      tokens.filterMap Token.placeholder? := by
  unfold consText
  split <;> rfl

/-! ### Templates with bindings by position -/

/-- A part of a template with bindings by position. -/
inductive PositionalPart where
  /-- A question mark behind a backslash. -/
  | escape
  /-- One question mark for a value, two for an identifier. -/
  | placeholder (kind : Placeholder)
  | char (c : Char)

namespace PositionalPart

/-- A question mark is text directly behind a backslash, and two question marks are never two
values. -/
def lexicon : Lexicon PositionalPart where
  source
    | escape => ['\\', '?']
    | placeholder .value => ['?']
    | placeholder .identifier => ['?', '?']
    | char c => [c]
  Fits
    | escape, _ | placeholder .identifier, _ => True
    | placeholder .value, rest => rest.head? ≠ some '?'
    | char c, rest => c ≠ '?' ∧ (c = '\\' → rest.head? ≠ some '?')

/-- The placeholder that a part is. -/
def placeholder? : PositionalPart → Option Placeholder
  | placeholder kind => some kind
  | _ => none

theorem exact_lexicon : lexicon.Exact where
  nonempty part := by
    rcases part with _ | (_ | _) | _ <;> exact List.cons_ne_nil _ _
  first c cs := by
    by_cases mark : c = '?'
    · by_cases second : cs.head? = some '?'
      · obtain ⟨rest, rfl⟩ := List.head?_eq_some_iff.mp second
        exact ⟨.placeholder .identifier, rest, by rw [mark]; rfl, trivial⟩
      · exact ⟨.placeholder .value, cs, by rw [mark]; rfl, second⟩
    · by_cases escaped : c = '\\' ∧ cs.head? = some '?'
      · obtain ⟨rest, rfl⟩ := List.head?_eq_some_iff.mp escaped.2
        exact ⟨.escape, rest, by rw [escaped.1]; rfl, trivial⟩
      · exact ⟨.char c, cs, rfl, mark, not_and.mp escaped⟩
  same {part other rest more} whole fits fits' := by
    rcases part with _ | (_ | _) | _ <;> rcases other with _ | (_ | _) | _ <;>
      simp only [lexicon, List.cons_append, List.nil_append, List.cons.injEq]
        at whole fits fits' <;>
      grind

/-- The scan finds the placeholders of the reading. -/
theorem placeholders_positional {cs : List Char} {parts : List PositionalPart}
    (reading : Reading lexicon cs parts) :
    (positional cs).filterMap Token.placeholder? = parts.filterMap placeholder? := by
  induction reading with
  | nil => rfl
  | @cons part rest parts fits behind ih =>
    rcases part with _ | (_ | _) | c
    · exact (placeholders_consText _ _).trans ih
    · have scanned : positional ('?' :: rest) = .value () :: positional rest :=
        positional.eq_4 rest fun more double => fits (by rw [double]; rfl)
      change (positional ('?' :: rest)).filterMap _ = _
      rw [scanned, List.filterMap_cons, List.filterMap_cons, ih]
      rfl
    · change ((.identifier () :: positional rest).filterMap _) = _
      rw [List.filterMap_cons, List.filterMap_cons, ih]
      rfl
    · obtain ⟨plain, lone⟩ := fits
      have scanned : positional (c :: rest) = consText [c] (positional rest) := by
        refine positional.eq_5 c rest ?_ (fun _ mark _ => plain mark) plain
        intro more backslash mark
        exact lone backslash (by rw [mark]; rfl)
      change (positional (c :: rest)).filterMap _ = _
      rw [scanned, placeholders_consText, ih]
      rfl

end PositionalPart

/-! ### Templates with bindings by name -/

/-- A part of a template with bindings by name. -/
inductive NamedPart where
  /-- A colon behind a backslash. -/
  | escape
  /-- Two colons. -/
  | cast
  /-- A name behind a colon, between two colons for an identifier. -/
  | placeholder (kind : Placeholder) (name : String)
  | char (c : Char)

/-- A binding name is one or more characters of names. -/
def IsName (name : String) : Prop :=
  name.toList ≠ [] ∧ ∀ c ∈ name.toList, isNameChar c = true

/-- A text does not go on with a character of names. -/
def EndsName (rest : List Char) : Prop :=
  ∀ c ∈ rest.head?, isNameChar c = false

namespace NamedPart

/-- Two colons are a cast wherever they stand, also behind a name: the colon that ends an identifier
is not the first of two, and a name is as long as it can be. -/
def lexicon : Lexicon NamedPart where
  source
    | escape => ['\\', ':']
    | cast => [':', ':']
    | placeholder .value name => ':' :: name.toList
    | placeholder .identifier name => ':' :: (name.toList ++ [':'])
    | char c => [c]
  Fits
    | escape, _ | cast, _ => True
    | placeholder .value name, rest =>
      IsName name ∧ EndsName rest ∧ (rest.head? = some ':' → rest.tail.head? = some ':')
    | placeholder .identifier name, rest => IsName name ∧ rest.head? ≠ some ':'
    | char c, rest =>
      (c = '\\' → rest.head? ≠ some ':') ∧ (c = ':' → rest.head? ≠ some ':' ∧ EndsName rest)

/-- The text of a name is as long as it can be where no character of names follows it. -/
theorem span_name {name : String} (isName : IsName name) {rest : List Char}
    (ends : EndsName rest) :
    (name.toList ++ rest).takeWhile isNameChar = name.toList ∧
      (name.toList ++ rest).dropWhile isNameChar = rest := by
  have stops : rest.takeWhile isNameChar = [] ∧ rest.dropWhile isNameChar = rest := by
    cases rest with
    | nil => exact ⟨rfl, rfl⟩
    | cons c rest =>
      have other : isNameChar c = false := ends c rfl
      simp [other]
  rw [List.takeWhile_append_of_pos isName.2, List.dropWhile_append_of_pos isName.2, stops.1,
    stops.2, List.append_nil]
  exact ⟨rfl, rfl⟩

theorem name_eq_of_append {name other : String} (isName : IsName name) (isOther : IsName other)
    {rest more : List Char} (ends : EndsName rest) (ends' : EndsName more)
    (whole : name.toList ++ rest = other.toList ++ more) : name = other ∧ rest = more := by
  have first := congrArg (List.takeWhile isNameChar) whole
  rw [(span_name isName ends).1, (span_name isOther ends').1] at first
  obtain rfl := String.toList_injective first
  exact ⟨rfl, List.append_cancel_left whole⟩

theorem endsName_colon (rest : List Char) : EndsName (':' :: rest) := by
  rintro c ⟨rfl⟩
  decide

/-- Behind the colon of a placeholder stands a character of names. -/
theorem exists_name_char {kind : Placeholder} {name : String} {rest : List Char}
    (fits : lexicon.Fits (.placeholder kind name) rest) :
    ∃ c more, lexicon.source (.placeholder kind name) ++ rest = ':' :: c :: more ∧
      isNameChar c = true := by
  obtain ⟨c, others, found, own⟩ : ∃ c others, name.toList = c :: others ∧ isNameChar c = true := by
    have isName : IsName name := by
      cases kind <;> exact fits.1
    cases found : name.toList with
    | nil => exact absurd found isName.1
    | cons c others => exact ⟨c, others, rfl, isName.2 c (by simp [found])⟩
  cases kind with
  | value => exact ⟨c, others ++ rest, by simp [lexicon, found], own⟩
  | identifier => exact ⟨c, others ++ ':' :: rest, by simp [lexicon, found], own⟩

/-- Of two placeholders in one place, the colon behind a name decides which it is. -/
theorem placeholder_eq {kind other : Placeholder} {name name' : String} {rest more : List Char}
    (whole : lexicon.source (.placeholder kind name) ++ rest =
      lexicon.source (.placeholder other name') ++ more)
    (fits : lexicon.Fits (.placeholder kind name) rest)
    (fits' : lexicon.Fits (.placeholder other name') more) : kind = other ∧ name = name' := by
  cases kind <;> cases other <;>
    simp only [lexicon, List.cons_append, List.append_assoc, List.nil_append,
      List.cons.injEq, true_and] at whole fits fits'
  · exact ⟨rfl, (name_eq_of_append fits.1 fits'.1 fits.2.1 fits'.2.1 whole).1⟩
  · obtain ⟨-, rfl⟩ := name_eq_of_append fits.1 fits'.1 fits.2.1 (endsName_colon _) whole
    exact absurd (fits.2.2 rfl) fits'.2
  · obtain ⟨-, rfl⟩ := name_eq_of_append fits.1 fits'.1 (endsName_colon _) fits'.2.1 whole
    exact absurd (fits'.2.2 rfl) fits.2
  · exact ⟨rfl, (name_eq_of_append fits.1 fits'.1 (endsName_colon _) (endsName_colon _) whole).1⟩

/-- In the place of a placeholder nothing else fits. -/
theorem exists_placeholder_eq {kind : Placeholder} {name : String} {rest more : List Char}
    {part : NamedPart} (whole : lexicon.source (.placeholder kind name) ++ rest =
      lexicon.source part ++ more)
    (fits : lexicon.Fits (.placeholder kind name) rest) (fits' : lexicon.Fits part more) :
    ∃ other name', part = .placeholder other name' := by
  obtain ⟨c, tail, begun, own⟩ := exists_name_char fits
  rw [begun] at whole
  cases part with
  | placeholder other name' => exact ⟨other, name', rfl⟩
  | escape => cases whole
  | cast =>
    cases whole
    exact absurd own (by decide)
  | char d =>
    cases whole
    have other := (fits'.2 rfl).2 c rfl
    rw [own] at other
    cases other

/-- Where a character of names follows a colon, a placeholder fits. -/
theorem exists_placeholder {c : Char} (own : isNameChar c = true) (cs : List Char) :
    ∃ part rest, lexicon.source part ++ rest = ':' :: c :: cs ∧ lexicon.Fits part rest := by
  let name := String.ofList (c :: cs.takeWhile isNameChar)
  let behind := cs.dropWhile isNameChar
  have isName : IsName name := by
    refine ⟨by simp [name], ?_⟩
    simp only [name, String.toList_ofList, List.mem_cons, forall_eq_or_imp]
    exact ⟨own, fun d member => List.all_eq_true.mp List.all_takeWhile d member⟩
  have ends : EndsName behind := by
    intro d found
    have stops := List.head?_dropWhile_not isNameChar cs
    rw [show (cs.dropWhile isNameChar).head? = some d from found] at stops
    simpa using stops
  have whole : name.toList ++ behind = c :: cs := by
    simp [name, behind]
  by_cases closed : behind.head? = some ':' ∧ behind.tail.head? ≠ some ':'
  · obtain ⟨rest, found⟩ := List.head?_eq_some_iff.mp closed.1
    rw [found] at closed whole
    refine ⟨.placeholder .identifier name, rest, ?_, isName, closed.2⟩
    rw [← whole]
    simp [lexicon]
  · refine ⟨.placeholder .value name, behind, ?_, isName, ends, ?_⟩
    · rw [← whole]
      rfl
    · intro colon
      exact Classical.not_not.mp fun other => closed ⟨colon, other⟩

theorem exact_lexicon : lexicon.Exact where
  nonempty part := by
    rcases part with _ | _ | ⟨_ | _, _⟩ | _ <;> exact List.cons_ne_nil _ _
  first c cs := by
    by_cases colon : c = ':'
    · subst colon
      by_cases second : cs.head? = some ':'
      · obtain ⟨rest, rfl⟩ := List.head?_eq_some_iff.mp second
        exact ⟨.cast, rest, rfl, trivial⟩
      · by_cases ends : EndsName cs
        · exact ⟨.char ':', cs, rfl, by simp, fun _ => ⟨second, ends⟩⟩
        · obtain ⟨d, found, own⟩ : ∃ d ∈ cs.head?, isNameChar d = true := by
            simpa [EndsName] using ends
          obtain ⟨rest, rfl⟩ := List.head?_eq_some_iff.mp found
          exact exists_placeholder own rest
    · by_cases escaped : c = '\\' ∧ cs.head? = some ':'
      · obtain ⟨rest, rfl⟩ := List.head?_eq_some_iff.mp escaped.2
        exact ⟨.escape, rest, by rw [escaped.1]; rfl, trivial⟩
      · exact ⟨.char c, cs, rfl, not_and.mp escaped, fun is => absurd is colon⟩
  same {part other rest more} whole fits fits' := by
    cases part with
    | placeholder kind name =>
      obtain ⟨kind', name', rfl⟩ := exists_placeholder_eq whole fits fits'
      obtain ⟨rfl, rfl⟩ := placeholder_eq whole fits fits'
      rfl
    | escape | cast | char =>
      cases other with
      | placeholder kind' name' =>
        obtain ⟨_, _, same⟩ := exists_placeholder_eq whole.symm fits' fits
        cases same
      | escape | cast | char =>
        simp only [lexicon, List.cons_append, List.nil_append, List.cons.injEq] at whole fits fits'
        grind

/-! ### The scan by name -/

/-- A part in front of tokens; text joins the text that they begin with. -/
def write : NamedPart → List (Token String) → List (Token String)
  | escape, tokens => consText [':'] tokens
  | cast, tokens => consText [':', ':'] tokens
  | placeholder .value name, tokens => .value name :: tokens
  | placeholder .identifier name, tokens => .identifier name :: tokens
  | char c, tokens => consText [c] tokens

/-- The runs of text and the placeholders of a template. -/
def tokens (parts : List NamedPart) : List (Token String) :=
  parts.foldr write []

/-- No value stands directly in front of a cast. -/
def Spaced (parts : List NamedPart) : Prop :=
  ∀ name, ¬[placeholder .value name, cast] <:+: parts

theorem consText_append (chars : List Char) (front : List (Token String)) {token : Token String}
    (marks : token.placeholder? ≠ none) {back : List (Token String)} :
    consText chars (front ++ token :: back) = consText chars front ++ token :: back := by
  cases front with
  | nil =>
    cases token with
    | text => exact absurd rfl marks
    | value | identifier => rfl
  | cons first front => cases first <;> rfl

/-- Text does not join text behind a placeholder. -/
theorem write_append (part : NamedPart) (front : List (Token String)) {token : Token String}
    (marks : token.placeholder? ≠ none) {back : List (Token String)} :
    part.write (front ++ token :: back) = part.write front ++ token :: back := by
  rcases part with _ | _ | ⟨_ | _, name⟩ | c
  case placeholder.value | placeholder.identifier => rfl
  all_goals exact consText_append _ front marks

/-- A name is a value, or an identifier where a colon is behind it, whatever follows that. -/
theorem named_name {name : String} (isName : IsName name) {behind : List Char}
    (ends : EndsName behind) :
    (behind.head? ≠ some ':' →
      named (':' :: (name.toList ++ behind)) = .value name :: named behind) ∧
      ∀ after, behind = ':' :: after →
        named (':' :: (name.toList ++ behind)) = .identifier name :: named after := by
  obtain ⟨span, drop⟩ := span_name isName ends
  cases found : name.toList with
  | nil => exact absurd found isName.1
  | cons c others =>
    have own : isNameChar c = true := isName.2 c (by simp [found])
    have noColon : c = ':' → False := by
      rintro rfl
      exact absurd own (by decide)
    rw [found, List.cons_append, List.takeWhile_cons, if_pos own] at span
    rw [found, List.cons_append, List.dropWhile_cons, if_pos own] at drop
    have whole : String.ofList (c :: (others ++ behind).takeWhile isNameChar) = name := by
      rw [span, ← found, String.ofList_toList]
    rw [List.cons_append, named.eq_4 c _ noColon, if_pos own]
    dsimp only
    rw [whole]
    split
    · rename_i after left
      obtain rfl := drop.symm.trans left
      refine ⟨fun other => absurd rfl other, ?_⟩
      rintro _ ⟨⟩
      rfl
    · rename_i other
      rw [drop] at other ⊢
      exact ⟨fun _ => rfl, fun after colon => (other after colon).elim⟩

theorem named_char {c : Char} {rest : List Char} (fits : lexicon.Fits (char c) rest) :
    named (c :: rest) = consText [c] (named rest) := by
  obtain ⟨lone, plain⟩ := fits
  by_cases colon : c = ':' ∧ rest ≠ []
  · obtain ⟨rfl, nonempty⟩ := colon
    obtain ⟨d, more, rfl⟩ := List.exists_cons_of_ne_nil nonempty
    obtain ⟨second, ends⟩ := plain rfl
    have other : ¬isNameChar d = true := by
      simp [ends d rfl]
    rw [named.eq_4 d more fun same => second (by rw [same]; rfl), if_neg other]
  · refine named.eq_5 c rest ?_ ?_ ?_
    · intro more backslash found
      exact lone backslash (by rw [found]; rfl)
    · intro more same found
      exact colon ⟨same, by simp [found]⟩
    · intro d more same found
      exact colon ⟨same, by simp [found]⟩

/-- A value in front of a colon is in front of a cast. -/
theorem exists_cast {name : String} {rest : List Char} {parts : List NamedPart}
    (fits : lexicon.Fits (placeholder .value name) rest) (behind : Reading lexicon rest parts)
    (colon : rest.head? = some ':') : ∃ others, parts = cast :: others := by
  obtain ⟨more, rfl⟩ := List.head?_eq_some_iff.mp colon
  obtain ⟨more, rfl⟩ := List.head?_eq_some_iff.mp (fits.2.2 rfl)
  obtain ⟨others, later⟩ := exact_lexicon.exists_reading more
  have anywhere : lexicon.Fits cast more := trivial
  exact ⟨others, exact_lexicon.unique behind (.cons anywhere later)⟩

/-- The scan goes past a part as the reading does, unless it is a value in front of a colon. -/
theorem named_source {part : NamedPart} {rest : List Char} (fits : lexicon.Fits part rest)
    (clear : ∀ name, part = placeholder .value name → rest.head? ≠ some ':') :
    named (lexicon.source part ++ rest) = part.write (named rest) := by
  rcases part with _ | _ | ⟨_ | _, name⟩ | c
  · exact named.eq_2 rest
  · exact named.eq_3 rest
  · exact (named_name fits.1 fits.2.1).1 (clear name rfl)
  · have text : lexicon.source (placeholder .identifier name) ++ rest =
        ':' :: (name.toList ++ ':' :: rest) := by simp [lexicon]
    rw [text]
    exact (named_name fits.1 (endsName_colon rest)).2 rest rfl
  · exact named_char fits

theorem spaced_cons_iff {part : NamedPart} {parts : List NamedPart} :
    Spaced (part :: parts) ↔
      (∀ name, part = placeholder .value name → ∀ others, parts ≠ cast :: others) ∧
        Spaced parts := by
  unfold Spaced
  constructor
  · intro spaced
    refine ⟨?_, fun name inside => spaced name (List.infix_cons inside)⟩
    rintro name rfl others rfl
    exact spaced name ⟨[], others, rfl⟩
  · rintro ⟨clear, spaced⟩ name inside
    rcases List.infix_cons_iff.mp inside with ⟨others, front⟩ | inside
    · obtain ⟨rfl, rfl⟩ := List.cons.inj front
      exact clear name rfl others rfl
    · exact spaced name inside

/-- The scan of a template finds the tokens of its reading if no value stands directly in front of a
cast. -/
theorem named_eq_tokens {cs : List Char} {parts : List NamedPart}
    (reading : Reading lexicon cs parts) (spaced : Spaced parts) : named cs = tokens parts := by
  induction reading with
  | nil =>
    rw [named]
    rfl
  | @cons part rest parts fits behind ih =>
    obtain ⟨clear, spaced⟩ := spaced_cons_iff.mp spaced
    have noColon : ∀ name, part = placeholder .value name → rest.head? ≠ some ':' := by
      rintro name rfl colon
      obtain ⟨others, cast⟩ := exists_cast fits behind colon
      exact clear name rfl others cast
    rw [named_source fits noColon, ih spaced]
    rfl

/-- The scan takes the first value in front of a cast for an identifier. -/
theorem exists_identifier {cs : List Char} {parts : List NamedPart}
    (reading : Reading lexicon cs parts) (mixed : ¬Spaced parts) :
    ∃ front name back others, named cs = front ++ .identifier name :: back ∧
      tokens parts = front ++ .value name :: others := by
  induction reading with
  | nil => exact absurd (fun name => by simp) mixed
  | @cons part rest parts fits behind ih =>
    by_cases colon : ∃ name, part = placeholder .value name ∧ rest.head? = some ':'
    · obtain ⟨name, rfl, colon⟩ := colon
      obtain ⟨more, rfl⟩ := List.head?_eq_some_iff.mp colon
      exact ⟨[], name, named more, tokens parts, (named_name fits.1 fits.2.1).2 more rfl, rfl⟩
    · have clear : ∀ name, part = placeholder .value name → rest.head? ≠ some ':' :=
        fun name value found => colon ⟨name, value, found⟩
      have later : ¬Spaced parts := by
        refine fun spaced => mixed (spaced_cons_iff.mpr ⟨?_, spaced⟩)
        rintro name rfl others rfl
        cases behind
        exact clear name rfl rfl
      obtain ⟨front, name, back, others, scanned, read⟩ := ih later
      refine ⟨part.write front, name, back, others, ?_, ?_⟩
      · rw [named_source fits clear, scanned]
        exact write_append part front (by simp [Token.placeholder?])
      · change part.write (tokens parts) = _
        rw [read]
        exact write_append part front (by simp [Token.placeholder?])

end NamedPart

end PortableSql.Template
