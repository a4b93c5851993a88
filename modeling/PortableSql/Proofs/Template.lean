import PortableSql.Proofs.Placeholders
import PortableSql.Template

/-!
The tokens of templates.

A run of text ends where a placeholder begins, and it never ends with a backslash there, because a
backslash in front of the mark of a placeholder makes the mark text. What a template can do is to
have one placeholder directly behind another.
-/

namespace PortableSql.Template

variable {κ : Type}

/-- Whether a token is a placeholder. -/
def Token.isPlaceholder : Token κ → Bool
  | .text _ => false
  | .value _ | .identifier _ => true

/-- Whether no placeholder is directly behind another. -/
def spaced : List (Token κ) → Bool
  | first :: second :: rest =>
    !(first.isPlaceholder && second.isPlaceholder) && spaced (second :: rest)
  | _ => true

/-- Every run of text is the last token or stands in front of a placeholder and does not end with a
backslash. -/
def Parted : List (Token κ) → Prop
  | .text chars :: next :: rest =>
    next.isPlaceholder = true ∧ Sql.endsBehind true chars = false ∧ Parted (next :: rest)
  | _ :: rest => Parted rest
  | [] => True

theorem Parted.tail {token : Token κ} {tokens : List (Token κ)}
    (parted : Parted (token :: tokens)) : Parted tokens := by
  cases token with
  | text chars =>
    cases tokens with
    | nil => trivial
    | cons next rest => exact parted.2.2
  | value key => exact parted
  | identifier key => exact parted

/-- Text in front of tokens joins the text that they begin with. -/
theorem Parted.consText {chars : List Char} {tokens : List (Token κ)} (parted : Parted tokens)
    (clean : (∃ token rest, tokens = token :: rest ∧ token.isPlaceholder = true) →
      Sql.endsBehind true chars = false) : Parted (consText chars tokens) := by
  cases tokens with
  | nil => trivial
  | cons token rest =>
    cases token with
    | text more =>
      cases rest with
      | nil => trivial
      | cons next rest =>
        obtain ⟨placeholder, last, tail⟩ := parted
        refine ⟨placeholder, ?_, tail⟩
        rw [Sql.endsBehind_append]
        cases more with
        | nil => simp at last
        | cons c more => simpa using last
    | value key => exact ⟨rfl, clean ⟨_, _, rfl, rfl⟩, parted⟩
    | identifier key => exact ⟨rfl, clean ⟨_, _, rfl, rfl⟩, parted⟩

theorem isPlaceholder_of_consText {chars : List Char} {tokens rest : List (Token κ)}
    {token : Token κ} (first : consText chars tokens = token :: rest) :
    token.isPlaceholder = false := by
  unfold consText at first
  split at first <;> (cases first; rfl)

/-- Tokens begin with a placeholder by position only where the template begins with its mark. -/
theorem positional_eq_placeholder {cs : List Char} {token : Token Unit} {tokens : List (Token Unit)}
    (first : positional cs = token :: tokens) (placeholder : token.isPlaceholder = true) :
    ∃ rest, cs = '?' :: rest := by
  fun_cases positional cs with
  | case1 => simp [positional] at first
  | case2 rest =>
    rw [positional] at first
    simp [isPlaceholder_of_consText first] at placeholder
  | case3 rest => exact ⟨_, rfl⟩
  | case4 rest => exact ⟨_, rfl⟩
  | case5 c rest escaped double single =>
    rw [positional.eq_5 _ _ escaped double single] at first
    simp [isPlaceholder_of_consText first] at placeholder

theorem parted_positional (cs : List Char) : Parted (positional cs) := by
  fun_induction positional cs with
  | case1 => trivial
  | case2 rest ih => exact ih.consText fun _ => by decide
  | case3 rest ih => exact ih
  | case4 rest _ ih => exact ih
  | case5 c rest escaped double single ih =>
    refine ih.consText ?_
    rintro ⟨token, tokens, first, placeholder⟩
    obtain ⟨more, rfl⟩ := positional_eq_placeholder first placeholder
    have different : c ≠ '\\' := by
      rintro rfl
      exact escaped more rfl rfl
    simp [different]

/-- Tokens begin with a placeholder by name only where the template begins with a colon. -/
theorem named_eq_placeholder {cs : List Char} {token : Token String} {tokens : List (Token String)}
    (first : named cs = token :: tokens) (placeholder : token.isPlaceholder = true) :
    ∃ rest, cs = ':' :: rest := by
  fun_cases named cs with
  | case1 => simp [named] at first
  | case2 rest =>
    rw [named] at first
    simp [isPlaceholder_of_consText first] at placeholder
  | case3 rest => exact ⟨_, rfl⟩
  | case4 => exact ⟨_, rfl⟩
  | case5 => exact ⟨_, rfl⟩
  | case6 => exact ⟨_, rfl⟩
  | case7 c rest escaped double single =>
    rw [named.eq_5 _ _ escaped double single] at first
    simp [isPlaceholder_of_consText first] at placeholder

theorem parted_named (cs : List Char) : Parted (named cs) := by
  fun_induction named cs with
  | case1 => trivial
  | case2 rest ih => exact ih.consText fun _ => by decide
  | case3 rest ih => exact ih.consText fun _ => by decide
  | case4 _ _ _ _ _ _ _ ih => exact ih
  | case5 _ _ _ _ _ _ ih => exact ih
  | case6 _ _ _ _ ih => exact ih.consText fun _ => by decide
  | case7 c rest escaped _ _ ih =>
    refine ih.consText ?_
    rintro ⟨token, tokens, first, placeholder⟩
    obtain ⟨more, rfl⟩ := named_eq_placeholder first placeholder
    have different : c ≠ '\\' := by
      rintro rfl
      exact escaped more rfl rfl
    simp [different]

end PortableSql.Template
