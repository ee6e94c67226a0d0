import DerivedQuery.Query.Basic
import DerivedQuery.Vocabulary

/-!
# The canonical method name of a query

A query is written back as a method name with one spelling for each thing that it holds: the
introducer of its intent, `Distinct`, `First` or `Top` with the number, the criteria with canonical
keyword tokens, the marker for ignoring case everywhere, and the ordering with every direction
spelled out.

## Main definitions

* `Part.canonical`, `Order.canonical`, `Query.canonical`
-/

namespace DerivedQuery

/-- The spelling of a part: its path, the token of its keyword, and its own case marker. -/
def Part.canonical (part : Part) (vocabulary : Vocabulary) (separator : Char) : String :=
  part.path.canonical separator
    ++ (vocabulary.tokenFor? part.keyword).getD ""
    ++ (if part.caseMode = .ignored then "IgnoreCase" else "")

/-- The spelling of one entry of an ordering. -/
def Order.canonical (order : Order) (separator : Char) : String :=
  order.path.canonical separator ++ order.direction.token

namespace Query

/-- The spelling of a limit. -/
def canonicalLimit : Option Nat → String
  | none => ""
  | some 1 => "First"
  | some limit => "Top" ++ toString limit

/-- The spelling of the criteria. -/
def canonicalCriteria (query : Query) (vocabulary : Vocabulary) : String :=
  "Or".intercalate <| query.groups.map fun group =>
    "And".intercalate <| group.map (·.canonical vocabulary query.separator)

/-- The spelling of the ordering, which is left out if there is none. -/
def canonicalOrdering (query : Query) : String :=
  if query.ordering.isEmpty then ""
  else "OrderBy" ++ String.join (query.ordering.map (·.canonical query.separator))

/-- The text before the criteria. -/
def canonicalSubject (query : Query) : String :=
  query.intent.introducer ++ (if query.distinct then "Distinct" else "") ++ canonicalLimit query.limit

/-- The canonical method name. A query that selects everything in any order ends with its
subject. -/
def canonical (query : Query) (vocabulary : Vocabulary) : String :=
  if !query.hasPredicate && query.ordering.isEmpty && !query.ignoresAllCase then
    query.canonicalSubject
  else
    query.canonicalSubject ++ "By" ++ query.canonicalCriteria vocabulary
      ++ (if query.ignoresAllCase then "AllIgnoreCase" else "")
      ++ query.canonicalOrdering

end Query

end DerivedQuery
