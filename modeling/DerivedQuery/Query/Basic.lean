import DerivedQuery.Keyword
import DerivedQuery.Path.Basic

/-!
# Queries

A query is what a method name says: what is done with the selected records (the *intent*), whether
they are distinct and how many at most, the criteria that select them, and their order. Criteria
are groups joined by `Or`; a group is a list of parts joined by `And`; a part compares one property
path by one keyword.

## Main definitions

* `Intent`, `CaseMode`, `Direction`
* `Part`, `Order`, `Query`
* `Query.argumentCount?`
-/

namespace DerivedQuery

/-- What a method does with the selected records. -/
inductive Intent where
  | find
  | count
  | exists
  | delete
  | stream
deriving DecidableEq, Repr, Inhabited

namespace Intent

/-- The word that introduces a method of this intent when a query is written back. -/
def introducer : Intent → String
  | find => "find"
  | count => "count"
  | «exists» => "exists"
  | delete => "delete"
  | stream => "stream"

def all : List Intent :=
  [find, count, «exists», delete, stream]

/-- The intent of a given name. -/
def ofName? (name : String) : Option Intent :=
  all.find? (·.introducer == name)

end Intent

/-- How a part compares letters. -/
inductive CaseMode where
  | sensitive
  /-- The part itself asks to ignore case. -/
  | ignored
  /-- The whole method asks to ignore case wherever the property type allows it. -/
  | ignoredIfPossible
deriving DecidableEq, Repr, Inhabited

/-- The direction of an ordering. -/
inductive Direction where
  | ascending
  | descending
deriving DecidableEq, Repr, Inhabited

namespace Direction

/-- The word that ends an ordering of this direction. -/
def token : Direction → String
  | ascending => "Asc"
  | descending => "Desc"

end Direction

/-- One criterion: a property compared by a keyword. -/
structure Part where
  path : PropertyPath
  keyword : Keyword
  caseMode : CaseMode
deriving DecidableEq, Repr, Inhabited

/-- One entry of the ordering. -/
structure Order where
  path : PropertyPath
  direction : Direction
  ignoreCase : Bool
deriving DecidableEq, Repr, Inhabited

/-- The meaning of a method name. -/
structure Query where
  intent : Intent
  distinct : Bool
  /-- The largest number of records, if there is a limit. -/
  limit : Option Nat
  /-- Parts joined by `And` within a group, groups joined by `Or`. -/
  groups : List (List Part)
  ordering : List Order
  /-- The type whose records are queried. -/
  rootType : String
  /-- The separator with which the paths were read, and will be written. -/
  separator : Char
deriving DecidableEq, Repr, Inhabited

namespace Query

/-- Every part of every group in the order of the method name. -/
def parts (query : Query) : List Part :=
  query.groups.flatten

def hasPredicate (query : Query) : Bool :=
  !query.parts.isEmpty

/-- The number of arguments that a method of this name binds, counted part by part. There is none if
a sum on the way is no 64-bit number. -/
def argumentCount? (query : Query) : Option Nat :=
  query.parts.foldlM (fun count part => checkedAdd? count part.keyword.arity) 0
where
  /-- The sum of two 64-bit numbers, if it is one, too. -/
  checkedAdd? (m n : Nat) : Option Nat :=
    if m + n < UInt64.size then some (m + n) else none

/-- Some part or ordering ignores case because the whole method asks for it. -/
def ignoresAllCase (query : Query) : Bool :=
  query.parts.any (·.caseMode == .ignoredIfPossible) || query.ordering.any (·.ignoreCase)

end Query

end DerivedQuery
