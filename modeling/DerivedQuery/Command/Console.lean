import DerivedQuery.Command.Invocation
import DerivedQuery.Project.Failure
import DerivedQuery.Report.Color
import DerivedQuery.Report.Json
import DerivedQuery.Report.Table

/-!
# The console

A command writes results to the output and messages to the error output. Both are texts that grow
line by line, so running a command is a function to a transcript, and a failure keeps what has been
written before it.

The options decide what is written and how. Quiet commands write nothing but errors; JSON output is
not mixed with other lines; colors appear only where the terminal has them and the user does not
object.

## Main definitions

* `Transcript`, `Failure`, `Console`
* `Console.display`, `Console.error`, `Console.warning`, and the other kinds of lines
-/

namespace DerivedQuery.Command

open Report

/-- What a command has written. -/
structure Transcript where
  output : String := ""
  errors : String := ""
deriving DecidableEq, Repr, Inhabited

/-- Why a command fails. -/
inductive Failure where
  | project (failure : Project.Failure)
  /-- Some method names cannot be read. -/
  | methods (failed total : Nat)
  /-- Some entities cannot be built. -/
  | entities (failed total : Nat)
  /-- A sum is too large to be counted, and the program is aborted. -/
  | overflow
deriving DecidableEq, Repr

namespace Failure

def message : Failure → String
  | project failure => failure.message
  | methods failed total =>
      toString failed ++ " of " ++ toString total ++ " method name(s) could not be parsed"
  | entities failed total =>
      "metadata could not be built for " ++ toString failed ++ " of " ++ toString total ++ " type(s)"
  | overflow => "attempt to add with overflow"

end Failure

/-- Where a command writes to. -/
structure Terminal where
  options : Options
  /-- The terminal can show colors. -/
  hasColors : Bool
deriving DecidableEq, Repr

namespace Terminal

def colored (terminal : Terminal) : Bool :=
  terminal.hasColors && !terminal.options.plain

/-- Lines for a reader are written, and not only results for a program. -/
def talks (terminal : Terminal) : Bool :=
  !terminal.options.quiet && terminal.options.format != .json

/-- The border of tables. -/
def border (terminal : Terminal) : Border :=
  if terminal.options.plain then .plain else .box

/-- A symbol and a message of the same color. -/
def decorate (terminal : Terminal) (symbol message : String) (style : Style) : String :=
  style.paint terminal.colored symbol ++ " " ++ style.paint terminal.colored message

/-- The lines of a heading, the first of which is empty. -/
def headingText (terminal : Terminal) (text : String) : String :=
  if terminal.options.plain then
    "\n" ++ text ++ "\n" ++ String.ofList (List.replicate text.length '=')
  else
    "\n" ++ Style.heading.paint terminal.colored text

/-- A text, and below it a caret under the character at a position in bytes. -/
def pointerText (terminal : Terminal) (text : String) (position : Nat) : String :=
  "    " ++ text ++ "\n    " ++ String.ofList (List.replicate (column text.toList 0) ' ')
    ++ Style.error.paint terminal.colored Symbol.caret
where
  /-- The number of characters that start before the position. -/
  column : List Char → (offset : Nat) → Nat
    | [], _ => 0
    | c :: rest, offset =>
        if offset < position then column rest (offset + c.utf8Size) + 1 else 0

end Terminal

/-- A command that writes to a terminal and may fail. -/
abbrev Console :=
  ReaderT Terminal (ExceptT Failure (StateM Transcript))

namespace Console

/-- Writes a line to the output. -/
def line (text : String) : Console Unit :=
  modify fun transcript => { transcript with output := transcript.output ++ text ++ "\n" }

/-- Writes a line to the error output. -/
def errorLine (text : String) : Console Unit :=
  modify fun transcript => { transcript with errors := transcript.errors ++ text ++ "\n" }

/-- Writes a line for a reader. -/
def talk (text : Terminal → String) : Console Unit := do
  let terminal ← read
  if terminal.talks then
    line (text terminal)

/-- Writes a result in the chosen format. -/
def display (json : JsonValue) (table : Table) (compact : String) : Console Unit := do
  let terminal ← read
  if !terminal.options.quiet then
    line <| match terminal.options.format with
      | .json => json.pretty
      | .table => table.render terminal.border
      | .compact => compact

def success (message : String) : Console Unit :=
  talk (·.decorate Symbol.success message .success)

def info (message : String) : Console Unit :=
  talk (·.decorate Symbol.info message .info)

def heading (text : String) : Console Unit :=
  talk (·.headingText text)

def keyValue (key value : String) : Console Unit :=
  talk fun terminal =>
    Style.key.paint terminal.colored key ++ ": " ++ Style.value.paint terminal.colored value

/-- A line behind a symbol. -/
def indented (symbol text : String) : Console Unit :=
  talk fun terminal => "  " ++ Style.muted.paint terminal.colored symbol ++ " " ++ text

/-- An error is reported even if nothing else is. -/
def error (message : String) : Console Unit := do
  errorLine ((← read).decorate Symbol.error message .error)

def warning (message : String) : Console Unit := do
  let terminal ← read
  if !terminal.options.quiet then
    errorLine (terminal.decorate Symbol.warning message .warning)

/-- Writes what only a curious user wants to know. -/
def detail (message : String) : Console Unit := do
  let terminal ← read
  if terminal.options.verbose && !terminal.options.quiet then
    errorLine (terminal.decorate Symbol.arrow message .muted)

/-- Points at a position in a text. -/
def pointer (text : String) (position : Nat) : Console Unit := do
  errorLine ((← read).pointerText text position)

end Console

end DerivedQuery.Command
