import DerivedQuery.Command.Workspace
import DerivedQuery.Query.Canonical

/-!
# Reading method names

The command reads each method name against the root type. Names that cannot be read are reported at
once, with a caret below the fragment at fault; what the others mean is written at the end. As a
table every query stands under a heading of its own; in the other formats several queries form one
list.

## Main definitions

* `runParse`
-/

namespace DerivedQuery

open Report

/-! ## Queries in reports -/

/-- The name of a case mode in a JSON report. -/
def CaseMode.key : CaseMode → String
  | sensitive => "never"
  | ignored => "always"
  | ignoredIfPossible => "when_possible"

/-- The name of a case mode in a table. -/
def CaseMode.title : CaseMode → String
  | sensitive => "Never"
  | ignored => "Always"
  | ignoredIfPossible => "WhenPossible"

/-- The name of a direction in a JSON report. -/
def Direction.key : Direction → String
  | ascending => "asc"
  | descending => "desc"

def Part.toJson (part : Part) : JsonValue :=
  .object
    [("path", .text part.path.dotPath), ("keyword", .text part.keyword.name),
      ("arguments", .number part.keyword.arity), ("ignore_case", .text part.caseMode.key)]

def Order.toJson (order : Order) : JsonValue :=
  .object
    [("path", .text order.path.dotPath), ("direction", .text order.direction.key),
      ("ignore_case", .boolean order.ignoreCase)]

namespace Command

/-- A method name and the query that it stands for. -/
structure ParsedMethod where
  method : String
  query : Query
  argumentCount : Nat
  canonical : String
deriving DecidableEq, Repr

namespace ParsedMethod

def toJson (parsed : ParsedMethod) : JsonValue :=
  let query := parsed.query
  .object
    [("method", .text parsed.method), ("root_type", .text query.rootType),
      ("intent", .text query.intent.introducer), ("distinct", .boolean query.distinct),
      ("limit", .optional .number query.limit),
      ("or_groups", .array (query.groups.map fun group => .array (group.map (·.toJson)))),
      ("ordering", .array (query.ordering.map (·.toJson))),
      ("argument_count", .number parsed.argumentCount), ("canonical", .text parsed.canonical)]

/-- One row for each part, with the number of its group. -/
def toTable (parsed : ParsedMethod) : Table where
  header := ["Group", "Property", "Keyword", "Arguments", "Ignore case"]
  rows :=
    if parsed.query.groups.isEmpty then [["-", "(no criteria)"]]
    else parsed.query.groups.zipIdx.flatMap fun (group, i) =>
      group.map fun part =>
        [toString (i + 1), part.path.dotPath, part.keyword.name, toString part.keyword.arity,
          part.caseMode.title]

def toCompact (parsed : ParsedMethod) : String :=
  parsed.method ++ " => " ++ parsed.canonical ++ " (" ++ toString parsed.argumentCount
    ++ " argument(s))"

/-- The ordering in one line. -/
def orderingSummary (parsed : ParsedMethod) : String :=
  if parsed.query.ordering.isEmpty then "-"
  else ", ".intercalate <| parsed.query.ordering.map fun order =>
    order.path.dotPath ++ " " ++ order.direction.token

/-- Writes a query under a heading of its own. -/
def describe (parsed : ParsedMethod) : Console Unit := do
  let query := parsed.query
  Console.heading parsed.method
  Console.keyValue "Root" query.rootType
  Console.keyValue "Intent" query.intent.introducer
  if query.distinct then
    Console.keyValue "Distinct" "yes"
  if let some limit := query.limit then
    Console.keyValue "Limit" (toString limit)
  Console.keyValue "Order by" parsed.orderingSummary
  Console.keyValue "Canonical" parsed.canonical
  Console.display parsed.toJson parsed.toTable parsed.toCompact

end ParsedMethod

/-- A table with one row for each query. -/
def queryTable (queries : List ParsedMethod) : Table where
  header := ["Method", "Canonical", "Arguments"]
  rows := queries.map fun parsed =>
    [parsed.method, parsed.canonical, toString parsed.argumentCount]

/-! ## The command -/

/-- Reports a method name that cannot be read. -/
def reportSyntaxError (method : String) (error : SyntaxError) : Console Unit := do
  Console.error (method ++ ": " ++ error.message)
  if !method.isEmpty then
    Console.pointer method error.position
  if let some cause := error.cause then
    Console.indented Symbol.arrow cause.message
    if let some metadata := cause.cause then
      Console.indented Symbol.arrow metadata.rootCause.message

/-- What the reports say about a query. Its arguments are counted here, and more than can be counted
abort the program. -/
def reportQuery (vocabulary : Vocabulary) (method : String) (query : Query) :
    Console ParsedMethod := do
  match query.argumentCount? with
  | none => throw .overflow
  | some argumentCount =>
      return { method, query, argumentCount, canonical := query.canonical vocabulary }

/-- Reads method names one after the other. The registry keeps what it has built. -/
def readMethods (reader : Reader) (root : String) :
    List String → Registry.State → Console (List ParsedMethod)
  | [], _ => return []
  | method :: rest, state => do
      let (result, state) := reader.parse method root state
      match result with
      | .error error =>
          reportSyntaxError method error
          readMethods reader root rest state
      | .ok query =>
          let parsed ← reportQuery reader.parser.vocabulary method query
          return parsed :: (← readMethods reader root rest state)

/-- Writes the queries of several method names. -/
def writeQueries (queries : List ParsedMethod) : Console Unit := do
  match (← read).options.format, queries with
  | .table, queries => queries.forM (·.describe)
  | _, [] => return ()
  | _, [parsed] => Console.display parsed.toJson parsed.toTable parsed.toCompact
  | _, queries =>
      Console.display (.array (queries.map (·.toJson))) (queryTable queries)
        ("\n".intercalate (queries.map (·.toCompact)))

/-- Reads method names against a root type. -/
def runParse (surroundings : Surroundings) (methods : List String) (root : String)
    (sources : List Files.Location) : Console Unit := do
  let workspace ← openWorkspace surroundings sources
  let queries ← readMethods workspace.reader root methods {}
  writeQueries queries
  let failed := methods.length - queries.length
  if 0 < failed then
    throw (.methods failed methods.length)

end Command

end DerivedQuery
