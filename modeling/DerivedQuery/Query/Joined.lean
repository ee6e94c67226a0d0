import DerivedQuery.Query.Fragment

/-!
# Entries joined without delimiters

Criteria and ordering clauses are lists of entries whose joints are found only by trying: a
connector word may equally be part of a property name. `parseJoined` reads such a list. It cuts the
text at each allowed place, the nearest first, reads the left part as one entry and the right part
as the rest of the list, and takes the first place where both succeed. If there is none, the whole
text must be a single entry.

When everything fails there is one error per place, and the most telling one is reported: a
connector that dangles at an end of the text first of all, then a failure behind an entry that had
been read, then a failure in front of a joint, then the failure of the text as a single entry.
Among failures of one sort the first one counts.

## Main definitions

* `Failure`, `Failure.prefer`
* `parseJoined`
-/

namespace DerivedQuery

open Text

variable {σ β : Type}

/-- A failed reading of a joined list, by the side on which it failed. -/
inductive Failure where
  /-- The rest of the list failed, after an entry had been read before it. -/
  | behind (error : SyntaxError)
  /-- The entry before a joint failed. -/
  | before (error : SyntaxError)
  /-- The text failed as a single entry. -/
  | whole (error : SyntaxError)
deriving DecidableEq, Repr

namespace Failure

def error : Failure → SyntaxError
  | behind error => error
  | before error => error
  | whole error => error

/-- How much a failure tells. -/
def rank : Failure → Nat
  | behind _ => 2
  | before _ => 1
  | whole _ => 0

/-- The more telling failure, the earlier one of equals. -/
def prefer (earlier later : Failure) : Failure :=
  if earlier.rank < later.rank then later else earlier

end Failure

/-- A later result, or the more telling of two failures. -/
def Failure.orLater {γ : Type} (failure : Failure) :
    Except Failure γ × σ → Except Failure γ × σ
  | (.ok result, state) => (.ok result, state)
  | (.error later, state) => (.error (failure.prefer later), state)

/-- Tries the cuts in order and then the whole text as a single entry. -/
def firstDivision {γ : Type} (before : γ → σ → Except SyntaxError β × σ)
    (behind : γ → σ → Except SyntaxError (List β) × σ) (whole : σ → Except SyntaxError β × σ) :
    List γ → σ → Except Failure (List β) × σ
  | [], state =>
      match whole state with
      | (.ok entry, after) => (.ok [entry], after)
      | (.error error, after) => (.error (.whole error), after)
  | cut :: cuts, state =>
      match before cut state with
      | (.error error, after) =>
          (Failure.before error).orLater (firstDivision before behind whole cuts after)
      | (.ok entry, after) =>
          match behind cut after with
          | (.ok entries, final) => (.ok (entry :: entries), final)
          | (.error error, final) =>
              (Failure.behind error).orLater (firstDivision before behind whole cuts final)

/-- A connector at the end of a fragment, or at its beginning before a new word. -/
def danglingConnector? (connector : List Char) (fragment : Fragment) : Option SyntaxError :=
  match dropSuffix? connector fragment.text with
  | some front => some (.about .invalidSplit (fragment.behind front connector))
  | none =>
      if (dropPrefix? connector fragment.text).any opensWord then
        some (.about .invalidSplit (fragment.upTo connector))
      else
        none

/-- Reads entries that are joined where `gaps` allows it. -/
def parseJoined (entry : Fragment → σ → Except SyntaxError β × σ)
    (gaps : List Char → List (List Char)) (connector : List Char) (fragment : Fragment)
    (state : σ) : Except SyntaxError (List β) × σ :=
  match firstDivision
      (fun (cut : Cut fragment.text) => entry (fragment.left cut))
      (fun (cut : Cut fragment.text) => parseJoined entry gaps connector (fragment.right cut))
      (entry fragment)
      (cuts gaps fragment.text) state with
  | (.ok entries, after) => (.ok entries, after)
  | (.error failure, after) =>
      (.error ((danglingConnector? connector fragment).getD failure.error), after)
termination_by fragment.text.length
decreasing_by exact cut.right_length_lt

end DerivedQuery
