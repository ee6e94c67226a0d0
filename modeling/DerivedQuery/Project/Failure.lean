import DerivedQuery.Convention
import DerivedQuery.Files.Location
import DerivedQuery.Source.Scan

/-!
# Why a project cannot be opened

## Main definitions

* `Failure`, `Failure.message`
-/

namespace DerivedQuery.Project

open Files

/-- Why a project cannot be opened. -/
inductive Failure where
  /-- The settings file that was asked for does not exist. -/
  | missingSettings (location : Location)
  | unreadableSettings (location : Location)
  | malformedSettings (location : Location)
  | invalidConvention (error : ConventionError)
  | unreadableSource (location : Location)
  | malformedSource (location : Location)
  | invalidDirective (location : Location) (structName : String) (error : Source.DirectiveError)
deriving DecidableEq, Repr

namespace Failure

/-- What the system says about a directory in the place of a file. -/
def isDirectory : String :=
  "Is a directory (os error 21)"

def message : Failure → String
  | missingSettings location =>
      "Configuration file " ++ location.toString ++ " does not exist"
  | unreadableSettings location =>
      "Failed to read " ++ location.toString ++ ": " ++ isDirectory
  | malformedSettings location => "Failed to parse " ++ location.toString
  | invalidConvention error => error.message
  | unreadableSource location =>
      "Failed to read file: " ++ location.toString ++ ": " ++ isDirectory
  | malformedSource location => "Failed to parse Rust file: " ++ location.toString
  | invalidDirective location structName error =>
      "Failed to parse Rust file: " ++ location.toString ++ ": "
        ++ Source.directiveContext structName ++ ": " ++ error.message .lenient

end Failure

end DerivedQuery.Project
