import DerivedQuery.Command.Arguments
import DerivedQuery.Report.Color

/-!
# Help

The long help on a command ends with examples, and the long help on the program with the environment
variables that it heeds. Colors are used wherever the terminal has them; the option against colors
is not looked at, as help may be asked for before it.

## Main definitions

* `helpText`
-/

namespace DerivedQuery.Command

open Report

/-- Invocations under a title. -/
structure ExampleGroup where
  title : String
  invocations : List String
deriving DecidableEq, Repr

/-- The examples for each command. -/
def CommandName.examples : CommandName → List ExampleGroup
  | parse =>
      [⟨"Parse Method Names",
          ["repoquery parse findByLastnameAndAgeGreaterThan --root Person",
            "repoquery parse findTop3ByAddress_CityOrderByAgeDesc --root Person",
            "repoquery parse countDistinctByStatus existsByEmailIgnoreCase --root Customer"]⟩,
        ⟨"Scripting",
          ["repoquery --output json parse findByAddressZipCode --root Person",
            "repoquery --output compact parse findByNameIn --root Person -s crates/domain/src"]⟩]
  | entities =>
      [⟨"Entity Metadata",
          ["repoquery entities                        # Every type deriving Entity and what it reaches",
            "repoquery entities --root Person -p       # Person's graph with property details"]⟩,
        ⟨"Scripting", ["repoquery --output json entities -s crates/domain/src"]⟩]
  | keywords =>
      [⟨"Vocabulary",
          ["repoquery keywords                    # Keywords, tokens and arities",
            "repoquery keywords --introducers      # Also list method prefixes",
            "repoquery --config ci.toml keywords   # Vocabulary with another configuration"]⟩]

/-- The environment variables and what they do. -/
def environmentVariables : List (String × String) :=
  [("RUST_LOG", "Log filter, e.g. repoquery=debug to trace registry and parser decisions"),
    ("NO_COLOR", "Disable colored output")]

/-- The lines of a group of examples. -/
def groupLines (colored : Bool) (group : ExampleGroup) : String :=
  "  " ++ Style.heading.paint colored group.title ++ "\n"
    ++ String.join (group.invocations.map fun invocation =>
      "    " ++ Style.sample.paint colored Symbol.arrow ++ " " ++ Style.sample.paint colored invocation
        ++ "\n")

/-- The examples for a command. -/
def examplesText (colored : Bool) (command : CommandName) : String :=
  Style.helpHeading.paint colored "Examples:" ++ "\n"
    ++ "\n".intercalate (command.examples.map (groupLines colored))

/-- The environment variables, and where to read on. -/
def environmentText (colored : Bool) : String :=
  Style.helpHeading.paint colored "Environment Variables:" ++ "\n"
    ++ String.join (environmentVariables.map fun (name, description) =>
      "  " ++ Style.key.paint colored name ++ "  " ++ Style.value.paint colored description ++ "\n")
    ++ "\n" ++ Style.helpHeading.paint colored "Tip:" ++ " "
    ++ Style.sample.paint colored
      "Use 'repoquery <command> --help' to view examples for each command."
    ++ "\n"

/-- What is said about a command, or about the program. -/
def summaryText : Option CommandName → String
  | none =>
      "Inspect repository query method names against your entity types\n\n"
        ++ "Usage: repoquery [OPTIONS] <parse|entities|keywords>\n"
  | some .parse =>
      "Parse query method names into predicate trees\n\n"
        ++ "Usage: repoquery parse [OPTIONS] --root <TYPE> <METHOD>...\n"
  | some .entities =>
      "Build and show entity metadata for the scanned structs\n\n"
        ++ "Usage: repoquery entities [OPTIONS]\n"
  | some .keywords =>
      "List keywords, their tokens and argument counts\n\n"
        ++ "Usage: repoquery keywords [OPTIONS]\n"

/-- The help on a command, or on the program. -/
def helpText (colored long : Bool) (command : Option CommandName) : String :=
  summaryText command
    ++ (if long then
      "\n" ++ (match command with
        | some command => examplesText colored command
        | none => environmentText colored)
    else "")

end DerivedQuery.Command
