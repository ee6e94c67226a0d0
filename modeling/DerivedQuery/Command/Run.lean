import DerivedQuery.Command.Entities
import DerivedQuery.Command.Help
import DerivedQuery.Command.Keywords
import DerivedQuery.Command.Parse

/-!
# Running the program

The program is a function from its surroundings and its arguments to what it writes and the code
with which it ends: 0 if all went well, 1 if the command failed, 2 if the arguments cannot be
understood, and 101 if a sum overflows. Whatever a command writes to the output stands between two
blank lines, but an aborted one does not come to write the second.

## Main definitions

* `Result`, `run`
-/

namespace DerivedQuery.Command

/-- What the program has written, and its exit code. -/
structure Result where
  transcript : Transcript
  exitCode : Nat
  failure : Option Failure := none
deriving DecidableEq, Repr

/-- The version of the program. -/
def versionText : String :=
  "repoquery 0.1.0"

/-- Does a task. -/
def runTask (surroundings : Surroundings) : Task → Console Unit
  | .parse methods root sources => runParse surroundings methods root sources
  | .entities root properties sources => runEntities surroundings root properties sources
  | .keywords introducers => runKeywords surroundings introducers

/-- Runs an invocation. -/
def runInvocation (surroundings : Surroundings) (hasColors : Bool) (invocation : Invocation) :
    Result :=
  let terminal : Terminal := { options := invocation.options, hasColors }
  let (result, transcript) :=
    (runTask surroundings invocation.task).run terminal |>.run |>.run { output := "\n" }
  match result with
  | .ok () => { transcript := { transcript with output := transcript.output ++ "\n" }, exitCode := 0 }
  | .error .overflow =>
      { transcript :=
          { transcript with errors := transcript.errors ++ Failure.overflow.message ++ "\n" }
        exitCode := 101
        failure := some .overflow }
  | .error failure =>
      { transcript :=
          { output := transcript.output ++ "\n"
            errors := transcript.errors ++ "Error: " ++ failure.message ++ "\n" }
        exitCode := 1
        failure := some failure }

/-- What is written in the place of running an invocation. -/
def interrupt (hasColors : Bool) : Interruption → Result
  | .misuse =>
      { transcript := { errors := "\nerror: the arguments are not understood; try --help\n\n" }
        exitCode := 2 }
  | .help long command =>
      { transcript := { output := "\n" ++ helpText hasColors long command ++ "\n" }, exitCode := 0 }
  | .version => { transcript := { output := "\n" ++ versionText ++ "\n\n" }, exitCode := 0 }

/-- Runs the program. -/
def run (surroundings : Surroundings) (hasColors : Bool) (arguments : List String) : Result :=
  match readInvocation arguments with
  | .ok invocation => runInvocation surroundings hasColors invocation
  | .error interruption => interrupt hasColors interruption

end DerivedQuery.Command
