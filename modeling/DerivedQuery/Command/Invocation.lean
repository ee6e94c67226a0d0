import DerivedQuery.Files.Location

/-!
# Invocations

What the user asks for: one of three commands, and the options that all of them share.

## Main definitions

* `OutputFormat`, `Options`, `Command`, `Invocation`
-/

namespace DerivedQuery.Command

open Files

/-- How results are printed. -/
inductive OutputFormat where
  | table
  | json
  | compact
deriving DecidableEq, Repr, Inhabited

namespace OutputFormat

def name : OutputFormat → String
  | table => "table"
  | json => "json"
  | compact => "compact"

/-- The format of a given name. -/
def ofName? (name : String) : Option OutputFormat :=
  [table, json, compact].find? fun format => format.name == name

end OutputFormat

/-- The options that all commands share. -/
structure Options where
  format : OutputFormat := .table
  /-- Print nothing but errors. -/
  quiet : Bool := false
  verbose : Bool := false
  /-- Use neither colors nor box drawing characters. -/
  plain : Bool := false
  /-- The settings file, if it is not that of the project. -/
  settings : Option Location := none
deriving DecidableEq, Repr, Inhabited

/-- What is to be done. -/
inductive Task where
  /-- Read method names against a root type. -/
  | parse (methods : List String) (root : String) (sources : List Location)
  /-- Build and show the metadata of entities. -/
  | entities (root : Option String) (properties : Bool) (sources : List Location)
  /-- List the vocabulary. -/
  | keywords (introducers : Bool)
deriving DecidableEq, Repr, Inhabited

/-- A task and the options for it. -/
structure Invocation where
  options : Options
  task : Task
deriving DecidableEq, Repr, Inhabited

end DerivedQuery.Command
