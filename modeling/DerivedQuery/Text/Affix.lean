/-!
# Dropping a known beginning or end

Keyword tokens, ordering directions and case markers are recognised at the end of a fragment,
introducers and connectors at its beginning. Both operations return what is left of the text, and
the two lemmas say that they are exactly the inverses of concatenation.

## Main results

* `dropPrefix?_eq_some_iff`: `dropPrefix? token text = some rest ↔ text = token ++ rest`
* `dropSuffix?_eq_some_iff`: `dropSuffix? token text = some rest ↔ text = rest ++ token`
-/

namespace DerivedQuery.Text

/-- The text after `token`, if the text starts with it. -/
def dropPrefix? : (token text : List Char) → Option (List Char)
  | [], text => some text
  | _ :: _, [] => none
  | t :: token, c :: text => if t = c then dropPrefix? token text else none

/-- The text before `token`, if the text ends with it. -/
def dropSuffix? (token text : List Char) : Option (List Char) :=
  (dropPrefix? token.reverse text.reverse).map List.reverse

theorem dropPrefix?_eq_some_iff {token text rest : List Char} :
    dropPrefix? token text = some rest ↔ text = token ++ rest := by
  fun_induction dropPrefix? token text with
  | case1 text => simp
  | case2 t token => simp
  | case3 t token text ih => simp [ih]
  | case4 t token c text hne =>
      simp only [reduceCtorEq, List.cons_append, List.cons.injEq, false_iff, not_and]
      exact fun h => absurd h.symm hne

theorem dropSuffix?_eq_some_iff {token text rest : List Char} :
    dropSuffix? token text = some rest ↔ text = rest ++ token := by
  simp only [dropSuffix?, Option.map_eq_some_iff, dropPrefix?_eq_some_iff]
  constructor
  · rintro ⟨tail, hText, rfl⟩
    simpa using congrArg List.reverse hText
  · rintro rfl
    exact ⟨rest.reverse, by simp, by simp⟩

/-- Whether a text ends with `token`. -/
def endsWith (token text : List Char) : Bool :=
  (dropSuffix? token text).isSome

end DerivedQuery.Text
