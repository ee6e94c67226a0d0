import DerivedQuery.Text.Affix

/-!
# Occurrences of a token

## Main definitions

* `behindFirst?`, `behindLast?`: the text behind the first or the last occurrence
* `contains`: whether there is one

## Main results

* `contains_eq_true_iff`: `contains token text = true ↔ token <:+: text`
-/

namespace DerivedQuery.Text

/-- The text behind the first occurrence of a token. -/
def behindFirst? (token : List Char) : List Char → Option (List Char)
  | [] => dropPrefix? token []
  | c :: rest => dropPrefix? token (c :: rest) <|> behindFirst? token rest

/-- The text behind the last occurrence of a token. -/
def behindLast? (token : List Char) : List Char → Option (List Char)
  | [] => dropPrefix? token []
  | c :: rest => behindLast? token rest <|> dropPrefix? token (c :: rest)

/-- Whether a token occurs in a text. -/
def contains (token text : List Char) : Bool :=
  (behindFirst? token text).isSome

theorem contains_eq_true_iff {token text : List Char} :
    contains token text = true ↔ token <:+: text := by
  unfold contains
  induction text with
  | nil =>
      rw [behindFirst?, List.infix_nil, Option.isSome_iff_exists]
      simp only [dropPrefix?_eq_some_iff]
      constructor
      · rintro ⟨rest, hText⟩
        exact (List.append_eq_nil_iff.mp hText.symm).1
      · rintro rfl
        exact ⟨[], rfl⟩
  | cons c rest ih =>
      rw [behindFirst?, List.infix_cons_iff, ← ih]
      cases hDrop : dropPrefix? token (c :: rest) with
      | none =>
          have hPrefix : ¬token <+: c :: rest := by
            rintro ⟨behind, hText⟩
            rw [dropPrefix?_eq_some_iff.mpr hText.symm] at hDrop
            simp at hDrop
          simp [hPrefix]
      | some behind =>
          have hPrefix : token <+: c :: rest := ⟨behind, (dropPrefix?_eq_some_iff.mp hDrop).symm⟩
          simp [hPrefix]

end DerivedQuery.Text
