import DerivedQuery.Text.Affix
import Mathlib.Data.List.TakeWhile

/-!
# Patterns

A pattern says what a piece of a text may look like and which parts of the piece are of interest. It
may match in several ways, and then the order of preference decides: the first alternative before the
second one, and a longer run before a shorter one. A search takes the leftmost place where the
pattern matches, and there the way that is preferred.

A run gives characters back if what follows it does not match otherwise. This makes a search hard to
predict, but it never happens if what follows cannot begin within the run: the run then takes all it
can.

## Main definitions

* `Pattern`, `Pattern.matchesOf`, `Pattern.search?`

## Main results

* `Pattern.greedy_eq`: the longest run is preferred, and every other one leaves a character behind
* `Pattern.matchesOf_run`: a run that gives nothing back
-/

namespace DerivedQuery.Text

/-- What a piece of a text may look like. -/
inductive Pattern where
  | word (text : List Char)
  /-- One character of a class. -/
  | one (test : Char → Bool)
  /-- A run of characters of a class, as long as possible. -/
  | many (test : Char → Bool)
  /-- The end of the text. -/
  | finish
  | both (first second : Pattern)
  | either (first second : Pattern)
  /-- The piece that the pattern matches is of interest. -/
  | group (inner : Pattern)

namespace Pattern

/-- A piece of a text that a pattern matches, the parts that are of interest, and what follows. -/
structure Match where
  taken : List Char
  groups : List (List Char)
  rest : List Char
deriving DecidableEq, Repr

/-- The runs at the beginning of a text, the longest one first. -/
def greedy (test : Char → Bool) : List Char → List Match
  | [] => [⟨[], [], []⟩]
  | c :: rest =>
      if test c then
        (greedy test rest).map (fun found => ⟨c :: found.taken, [], found.rest⟩) ++
          [⟨[], [], c :: rest⟩]
      else
        [⟨[], [], c :: rest⟩]

/-- The ways in which a pattern matches at the beginning of a text, in order of preference. -/
def matchesOf : Pattern → List Char → List Match
  | word token, text => ((dropPrefix? token text).map fun rest => ⟨token, [], rest⟩).toList
  | one _, [] => []
  | one test, c :: rest => if test c then [⟨[c], [], rest⟩] else []
  | many test, text => greedy test text
  | finish, [] => [⟨[], [], []⟩]
  | finish, _ :: _ => []
  | both first second, text =>
      (first.matchesOf text).flatMap fun left =>
        (second.matchesOf left.rest).map fun right =>
          ⟨left.taken ++ right.taken, left.groups ++ right.groups, right.rest⟩
  | either first second, text => first.matchesOf text ++ second.matchesOf text
  | group inner, text =>
      (inner.matchesOf text).map fun found => { found with groups := found.taken :: found.groups }

/-- The leftmost place where a pattern matches: the text before it, and the parts of interest. -/
def search? (pattern : Pattern) : List Char → Option (List Char × List (List Char))
  | [] => (pattern.matchesOf []).head?.map fun found => ([], found.groups)
  | c :: rest =>
      match (pattern.matchesOf (c :: rest)).head? with
      | some found => some ([], found.groups)
      | none => (pattern.search? rest).map fun (front, groups) => (c :: front, groups)

/-! ## Runs -/

/-- The longest run is preferred. Every other one leaves a character of its class behind. -/
theorem greedy_eq (test : Char → Bool) (text : List Char) :
    ∃ shorter, greedy test text = ⟨text.takeWhile test, [], text.dropWhile test⟩ :: shorter ∧
      ∀ found ∈ shorter, ∃ c rest, found.rest = c :: rest ∧ test c = true := by
  induction text with
  | nil => exact ⟨[], rfl, by simp⟩
  | cons c rest ih =>
      obtain ⟨shorter, hRuns, hShorter⟩ := ih
      rw [greedy, List.takeWhile_cons, List.dropWhile_cons]
      cases hTest : test c with
      | false => exact ⟨[], rfl, by simp⟩
      | true =>
          refine ⟨shorter.map (fun found => ⟨c :: found.taken, [], found.rest⟩) ++
            [⟨[], [], c :: rest⟩], by simp [hRuns], ?_⟩
          intro found hFound
          rcases List.mem_append.mp hFound with hLonger | hNone
          · obtain ⟨other, hOther, rfl⟩ := List.mem_map.mp hLonger
            exact hShorter other hOther
          · obtain rfl := List.mem_singleton.mp hNone
            exact ⟨c, rest, rfl, hTest⟩

/-- **A run gives nothing back** if what follows it does not begin with a character of its class. -/
theorem matchesOf_run {test : Char → Bool} {next : Pattern}
    (hNext : ∀ c rest, test c = true → next.matchesOf (c :: rest) = []) (text : List Char) :
    (both (group (many test)) next).matchesOf text =
      (next.matchesOf (text.dropWhile test)).map fun right =>
        ⟨text.takeWhile test ++ right.taken, text.takeWhile test :: right.groups, right.rest⟩ := by
  obtain ⟨shorter, hRuns, hShorter⟩ := greedy_eq test text
  have hGivenBack : ∀ found ∈ shorter, next.matchesOf found.rest = [] := by
    intro found hFound
    obtain ⟨c, rest, hRest, hTest⟩ := hShorter found hFound
    rw [hRest, hNext c rest hTest]
  simp only [matchesOf, hRuns, List.map_cons, List.flatMap_cons, List.flatMap_map]
  rw [List.flatMap_eq_nil_iff.mpr, List.append_nil]
  · rfl
  · intro found hFound
    rw [hGivenBack found hFound, List.map_nil]

end Pattern

end DerivedQuery.Text
