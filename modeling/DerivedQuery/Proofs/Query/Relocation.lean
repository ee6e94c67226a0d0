import DerivedQuery.Proofs.Except
import DerivedQuery.Query.Ordering

/-!
# Reading a fragment elsewhere

A fragment carries its position, and the position of every fragment that is cut from it is counted
from there. The readers of criteria and orderings look at texts alone: which cuts are tried, which
of them succeed, which errors are met and which of these is reported does not depend on where the
fragment stands. So a fragment that stands further on is read as the same entries, with the same
effect on the metadata, and its errors stand further on by the same number of bytes.

## Main definitions

* `Fragment.moved`, `SyntaxError.moved`: further on in the method name
* `Relocates`: a reader that does not depend on positions

## Main results

* `relocates_parseJoined`: lists are read alike everywhere if their entries are
* `relocates_parseCriteria`, `relocates_parseOrdering`: criteria and ordering clauses
-/

namespace DerivedQuery

open Text

variable {σ β : Type}

/-! ## Further on in the method name -/

/-- The error, if what it quotes stands further on. -/
def SyntaxError.moved (distance : Nat) (error : SyntaxError) : SyntaxError :=
  { error with position := error.position + distance }

namespace Fragment

/-- The fragment, if it stands further on. -/
def moved (distance : Nat) (fragment : Fragment) : Fragment :=
  { fragment with position := fragment.position + distance }

variable (distance : Nat) (fragment : Fragment)

@[simp] theorem text_moved : (fragment.moved distance).text = fragment.text :=
  rfl

theorem upTo_moved (text : List Char) :
    (fragment.moved distance).upTo text = (fragment.upTo text).moved distance :=
  rfl

theorem behind_moved (before text : List Char) :
    (fragment.moved distance).behind before text = (fragment.behind before text).moved distance := by
  simp only [behind, moved, Nat.add_right_comm]

private theorem right_moved (cut : Cut fragment.text) :
    (fragment.moved distance).right cut = (fragment.right cut).moved distance := by
  simp only [right, moved, Nat.add_right_comm]

end Fragment

/-- Where the fragment stands matters only to what the errors of the reader say. -/
def Relocates (reader : Fragment → σ → Except SyntaxError β × σ) : Prop :=
  ∀ distance fragment state,
    reader (fragment.moved distance) state = mapErrors (.moved distance) (reader fragment state)

/-! ## Joined lists -/

namespace Failure

def moved (distance : Nat) : Failure → Failure
  | behind error => behind (error.moved distance)
  | before error => before (error.moved distance)
  | whole error => whole (error.moved distance)

variable (distance : Nat)

private theorem error_moved (failure : Failure) :
    (failure.moved distance).error = failure.error.moved distance := by
  cases failure <;> rfl

private theorem rank_moved (failure : Failure) : (failure.moved distance).rank = failure.rank := by
  cases failure <;> rfl

private theorem orLater_moved {γ : Type} (failure : Failure) (outcome : Except Failure γ × σ) :
    (failure.moved distance).orLater (mapErrors (.moved distance) outcome) =
      mapErrors (.moved distance) (failure.orLater outcome) := by
  obtain ⟨result, after⟩ := outcome
  cases result with
  | ok value => rfl
  | error later =>
      simp only [mapErrors_error, orLater, prefer, rank_moved]
      split <;> rfl

end Failure

/-- The failures of a division stand further on if those of its parts do. -/
theorem firstDivision_moved {γ : Type} {distance : Nat}
    {before before' : γ → σ → Except SyntaxError β × σ}
    {behind behind' : γ → σ → Except SyntaxError (List β) × σ}
    {whole whole' : σ → Except SyntaxError β × σ}
    (hBefore : ∀ cut state, before' cut state = mapErrors (.moved distance) (before cut state))
    (hBehind : ∀ cut state, behind' cut state = mapErrors (.moved distance) (behind cut state))
    (hWhole : ∀ state, whole' state = mapErrors (.moved distance) (whole state)) (cuts : List γ)
    (state : σ) :
    firstDivision before' behind' whole' cuts state =
      mapErrors (.moved distance) (firstDivision before behind whole cuts state) := by
  induction cuts generalizing state with
  | nil =>
      rw [firstDivision, firstDivision, hWhole]
      obtain ⟨result, after⟩ := whole state
      cases result <;> rfl
  | cons cut rest ih =>
      rw [firstDivision, firstDivision, hBefore]
      obtain ⟨first, between⟩ := before cut state
      cases first with
      | error error =>
          dsimp only [mapErrors_error]
          rw [ih between]
          exact Failure.orLater_moved distance (.before error) _
      | ok entry =>
          dsimp only [mapErrors_ok]
          rw [hBehind]
          obtain ⟨others, final⟩ := behind cut between
          cases others with
          | ok entries => rfl
          | error error =>
              dsimp only [mapErrors_error]
              rw [ih final]
              exact Failure.orLater_moved distance (.behind error) _

private theorem danglingConnector?_moved (connector : List Char) (distance : Nat)
    (fragment : Fragment) :
    danglingConnector? connector (fragment.moved distance) =
      (danglingConnector? connector fragment).map (.moved distance) := by
  unfold danglingConnector?
  rw [Fragment.text_moved]
  split
  · rw [Fragment.behind_moved]
    rfl
  · split <;> rfl

/-- **A joined list is read alike wherever it stands**, if its entries are. -/
theorem relocates_parseJoined {entry : Fragment → σ → Except SyntaxError β × σ}
    (hEntry : Relocates entry) (gaps : List Char → List (List Char)) (connector : List Char) :
    Relocates (parseJoined entry gaps connector) := by
  intro distance fragment state
  induction hLength : fragment.text.length using Nat.strongRecOn generalizing fragment state with
  | ind length ih =>
      -- the cuts of a fragment and of the moved one are the same
      have hDivision : firstDivision (fun cut => entry ((fragment.moved distance).left cut))
          (fun cut => parseJoined entry gaps connector ((fragment.moved distance).right cut))
          (entry (fragment.moved distance)) (cuts gaps fragment.text) state = _ :=
        firstDivision_moved (fun cut between => hEntry distance (fragment.left cut) between)
          (fun cut between => by
            have hRight := ih _ (hLength ▸ cut.right_length_lt) (fragment.right cut) between rfl
            rw [← Fragment.right_moved] at hRight
            exact hRight)
          (hEntry distance fragment) (cuts gaps fragment.text) state
      rw [parseJoined, parseJoined]
      dsimp only [Fragment.text_moved] at hDivision ⊢
      rw [hDivision]
      obtain ⟨result, after⟩ := firstDivision (fun cut => entry (fragment.left cut))
        (fun cut => parseJoined entry gaps connector (fragment.right cut)) (entry fragment)
        (cuts gaps fragment.text) state
      cases result with
      | ok entries => rfl
      | error failure =>
          dsimp only [mapErrors_error]
          rw [danglingConnector?_moved, Failure.error_moved]
          cases danglingConnector? connector fragment <;> rfl

/-! ## Criteria and ordering -/

section Clauses

variable (scope : Scope σ)

private theorem relocates_parsePartAs (caseMode : CaseMode) (path : List Char) (keyword : Keyword) :
    Relocates fun fragment => parsePartAs scope fragment caseMode path keyword := by
  intro distance fragment state
  unfold parsePartAs
  dsimp only
  obtain ⟨result, after⟩ := scope.resolve path state
  cases result <;> rfl

private theorem relocates_parseComparison (caseMode : CaseMode) :
    Relocates fun fragment => parseComparison scope fragment caseMode := by
  intro distance fragment state
  exact firstSuccess_mapErrors
    (relocates_parsePartAs scope caseMode fragment.text .default distance fragment) _
    (fun (candidate : List Char × Keyword) =>
      relocates_parsePartAs scope caseMode candidate.1 candidate.2 distance fragment)
    state

private theorem relocates_parsePart : Relocates (parsePart scope) := by
  intro distance fragment state
  unfold parsePart
  rw [Fragment.text_moved]
  split
  · rename_i text _
    exact relocates_parseComparison scope .ignored distance (fragment.upTo text) state
  · split
    · rfl
    · exact relocates_parseComparison scope scope.defaultCaseMode distance fragment state

theorem relocates_parseCriteria : Relocates (parseCriteria scope) :=
  relocates_parseJoined (relocates_parseJoined (relocates_parsePart scope) _ _) _ _

private theorem relocates_parseOrderAs (path : List Char) (direction : Direction) :
    Relocates fun fragment => parseOrderAs scope fragment path direction := by
  intro distance fragment state
  unfold parseOrderAs
  dsimp only
  obtain ⟨result, after⟩ := scope.resolve path state
  cases result <;> rfl

private theorem relocates_parseOrder : Relocates (parseOrder scope) := by
  intro distance fragment state
  have hAlone := relocates_parseOrderAs scope fragment.text .ascending distance fragment
  unfold parseOrder
  rw [Fragment.text_moved]
  split
  · rfl
  · rename_i front direction _ _
    exact firstSuccess_mapErrors hAlone [()]
      (fun _ => relocates_parseOrderAs scope front direction distance fragment) state
  · split
    · rfl
    · exact hAlone state

theorem relocates_parseOrdering : Relocates (parseOrdering scope) :=
  relocates_parseJoined (relocates_parseOrder scope) _ _

end Clauses

end DerivedQuery
