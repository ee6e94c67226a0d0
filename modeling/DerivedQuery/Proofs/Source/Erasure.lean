import DerivedQuery.Source.Erasure
import Mathlib.Data.List.Basic

/-!
# What erasure keeps of nameless types

Erasure drops most of a written type: the arguments of an unknown path, all but the first arguments
of a container, lifetimes and lengths. A nameless type counts only if it is not dropped on the way,
and then it stands in the declared type under the name that it is given. So two ways to name
nameless types lead to the same declared type if and only if they agree on those that show.

## Main results

* `erasePath_eq_iff`: a path keeps as many of its arguments as show
* `SourceType.erase_eq_iff`: the declared type determines the names of all nameless types that show
-/

namespace DerivedQuery.Source

/-- How many type arguments of a path show in its declared type. -/
def shownArguments (name : String) (count : Nat) : Nat :=
  if wrappers.contains name then 1
  else if collections.contains name then 1
  else if maps.contains name then (if 2 ≤ count then 2 else 0)
  else 0

mutual

/-- The nameless types that show in the declared type, from left to right. -/
def SourceType.nameless : SourceType → List (List Tree)
  | .path _ name arguments =>
      ((namelessArguments arguments).take
        (shownArguments name (namelessArguments arguments).length)).flatten
  | .reference target => target.nameless
  | .parenthesized inner => inner.nameless
  | .slice element => element.nameless
  | .array element _ => element.nameless
  | .other trees => [trees]

/-- The nameless types that show in each of the arguments that are types. -/
def namelessArguments : List Argument → List (List (List Tree))
  | [] => []
  | .type type :: rest => type.nameless :: namelessArguments rest
  | .other _ :: rest => namelessArguments rest

end

variable {first second : List Tree → String}

private theorem length_eraseArguments (nameless : List Tree → String) (arguments : List Argument) :
    (eraseArguments nameless arguments).length = (namelessArguments arguments).length := by
  induction arguments with
  | nil => rfl
  | cons argument rest ih =>
      cases argument with
      | type type => simp only [eraseArguments, namelessArguments, List.length_cons, ih]
      | other trees => simp only [eraseArguments, namelessArguments, ih]

/-- A path keeps as many of its arguments as show, and no others. -/
theorem erasePath_eq_iff (name : String) {one other : List TypeRef}
    (hLength : one.length = other.length) :
    erasePath name one = erasePath name other ↔
      one.take (shownArguments name one.length) = other.take (shownArguments name one.length) := by
  unfold erasePath shownArguments
  split
  · cases one with
    | nil => simp [List.length_eq_zero_iff.mp hLength.symm]
    | cons head rest =>
        cases other with
        | nil => simp at hLength
        | cons otherHead others => simp
  · split
    · cases one with
      | nil => simp [List.length_eq_zero_iff.mp hLength.symm]
      | cons head rest =>
          cases other with
          | nil => simp at hLength
          | cons otherHead others => simp
    · split
      · match one, other, hLength with
        | [], [], _ => simp
        | [_], [_], _ => simp
        | key :: value :: rest, otherKey :: otherValue :: others, _ => simp
      · simp

mutual

/-- **Two ways to name nameless types lead to the same declared type** if and only if they agree on
those that show. -/
theorem SourceType.erase_eq_iff : (type : SourceType) →
    (type.erase first = type.erase second ↔ ∀ trees ∈ type.nameless, first trees = second trees)
  | .path _ name arguments => by
      have hLength : (eraseArguments first arguments).length =
          (eraseArguments second arguments).length := by
        rw [length_eraseArguments, length_eraseArguments]
      rw [SourceType.erase, SourceType.erase, erasePath_eq_iff name hLength,
        length_eraseArguments, SourceType.nameless]
      exact take_eraseArguments_eq_iff arguments _
  | .reference target => by
      rw [SourceType.erase, SourceType.erase, SourceType.nameless]
      exact target.erase_eq_iff
  | .parenthesized inner => by
      rw [SourceType.erase, SourceType.erase, SourceType.nameless]
      exact inner.erase_eq_iff
  | .slice element => by
      rw [SourceType.erase, SourceType.erase, SourceType.nameless, TypeRef.collection.injEq]
      exact element.erase_eq_iff
  | .array element _ => by
      rw [SourceType.erase, SourceType.erase, SourceType.nameless, TypeRef.collection.injEq]
      exact element.erase_eq_iff
  | .other trees => by
      rw [SourceType.erase, SourceType.erase, SourceType.nameless, TypeRef.named.injEq]
      simp

/-- The same for the first arguments of a path. -/
theorem take_eraseArguments_eq_iff : (arguments : List Argument) → (count : Nat) →
    ((eraseArguments first arguments).take count = (eraseArguments second arguments).take count ↔
      ∀ trees ∈ ((namelessArguments arguments).take count).flatten, first trees = second trees)
  | [], count => by simp [eraseArguments, namelessArguments]
  | .other _ :: rest, count => by
      rw [eraseArguments, eraseArguments, namelessArguments]
      exact take_eraseArguments_eq_iff rest count
  | .type type :: rest, 0 => by simp
  | .type type :: rest, count + 1 => by
      have hType := type.erase_eq_iff
      have hRest := take_eraseArguments_eq_iff rest count
      simp only [eraseArguments, namelessArguments, List.take_succ_cons, List.cons.injEq,
        List.flatten_cons, List.mem_append, or_imp, forall_and, hType, hRest]

end

end DerivedQuery.Source
