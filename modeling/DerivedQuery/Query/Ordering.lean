import DerivedQuery.Query.Criteria

/-!
# Ordering clauses

An ordering clause is a list of property paths, each with a direction behind it or without one. It
may be cut behind a direction word, where nothing separates it from the next entry, and at the
connector `And`. A direction word may also be the end of a property name, so an entry that ends
with one is read as a path with a direction first and as a path alone, ascending, if that fails.

## Main definitions

* `orderGaps`, `parseOrder`, `parseOrdering`
-/

namespace DerivedQuery

open Text

/-- The direction word at the end of a text, with the text before it. -/
def dropDirection? (text : List Char) : Option (List Char × Direction) :=
  [Direction.descending, Direction.ascending].findSome? fun direction =>
    (dropSuffix? direction.token.toList text).map fun front => (front, direction)

/-- Nothing is dropped behind a direction word; the connector may be dropped everywhere. -/
def orderGaps (left : List Char) : List (List Char) :=
  if (dropDirection? left).isSome then [[], andConnector] else [andConnector]

variable {σ : Type}

/-- Reads a path and orders by it. -/
def parseOrderAs (scope : Scope σ) (fragment : Fragment) (path : List Char) (direction : Direction)
    (state : σ) : Except SyntaxError Order × σ :=
  match scope.resolve path state with
  | (.ok path, after) => (.ok { path, direction, ignoreCase := scope.ignoreAllCase }, after)
  | (.error cause, after) => (.error (.unresolved (fragment.upTo path) cause), after)

/-- Reads one entry of an ordering clause. -/
def parseOrder (scope : Scope σ) (fragment : Fragment) (state : σ) : Except SyntaxError Order × σ :=
  match dropDirection? fragment.text with
  | some ([], _) => (.error (.about .invalidOrderDirection fragment), state)
  | some (front, direction) =>
      firstSuccess (fun (_ : Unit) => parseOrderAs scope fragment front direction)
        (parseOrderAs scope fragment fragment.text .ascending) [()] state
  | none =>
      if fragment.text.isEmpty then
        (.error (.about .invalidOrderDirection fragment), state)
      else
        parseOrderAs scope fragment fragment.text .ascending state

/-- Reads the entries of an ordering clause. -/
def parseOrdering (scope : Scope σ) : Fragment → σ → Except SyntaxError (List Order) × σ :=
  parseJoined (parseOrder scope) orderGaps andConnector

end DerivedQuery
