import DerivedQuery.Command.Invocation

/-!
# Reading the arguments of an invocation

Arguments are options, positional texts and the name of a command; behind the name only options of
that command and the shared ones are known. An option is written `--name value`, `--name=value`,
`-n value`, `-nvalue` or `-n=value`, and several flags may share one dash. A lone `--` ends the
options. Options and flags may be given once, except for source directories.

Two points decide what happens on arguments with several faults. A request for help or for the
version takes effect as soon as it is met, so faults before it are reported and faults behind it are
not. And a value that stands apart from its option is checked when the next option of the same level
begins, or at the end; what a command's own arguments ask for comes before that.

Shared options may be given on both sides of the command's name; then the inner value counts.

## Main definitions

* `Interruption`: why there is no invocation
* `readInvocation`
-/

namespace DerivedQuery.Command

open Files

/-! ## Names -/

/-- The commands by name. -/
inductive CommandName where
  | parse
  | entities
  | keywords
deriving DecidableEq, Repr, Inhabited

namespace CommandName

def text : CommandName → String
  | parse => "parse"
  | entities => "entities"
  | keywords => "keywords"

/-- The command of a given name. -/
def ofText? (text : String) : Option CommandName :=
  [parse, entities, keywords].find? fun command => command.text == text

end CommandName

/-- Why there is no invocation. -/
inductive Interruption where
  /-- The arguments cannot be understood. -/
  | misuse
  /-- Help is asked for, on one command or on all of them. -/
  | help (long : Bool) (command : Option CommandName)
  | version
deriving DecidableEq, Repr

/-- The options. -/
inductive OptionName where
  | output
  | quiet
  | verbose
  | noColor
  | settings
  | help
  | version
  | root
  | source
  | properties
  | introducers
deriving DecidableEq, Repr

namespace OptionName

/-- The letter behind a single dash. -/
def letter? : OptionName → Option Char
  | output => none
  | quiet => some 'q'
  | verbose => some 'v'
  | noColor => none
  | settings => some 'c'
  | help => some 'h'
  | version => some 'V'
  | root => some 'r'
  | source => some 's'
  | properties => some 'p'
  | introducers => some 'i'

/-- The word behind two dashes. -/
def word : OptionName → String
  | output => "output"
  | quiet => "quiet"
  | verbose => "verbose"
  | noColor => "no-color"
  | settings => "config"
  | help => "help"
  | version => "version"
  | root => "root"
  | source => "source"
  | properties => "properties"
  | introducers => "introducers"

def takesValue : OptionName → Bool
  | output | settings | root | source => true
  | _ => false

def isRepeatable : OptionName → Bool
  | source => true
  | _ => false

/-- Whether an option can have a value; a location must not be empty. -/
def accepts (name : OptionName) (value : String) : Bool :=
  match name with
  | output => (OutputFormat.ofName? value).isSome
  | settings | source => !value.isEmpty
  | _ => true

/-- The options of all levels. -/
def shared : List OptionName :=
  [output, quiet, verbose, noColor, settings, help]

/-- The options that are known within a command, or outside of all of them. -/
def knownIn : Option CommandName → List OptionName
  | none => shared ++ [version]
  | some .parse => shared ++ [root, source]
  | some .entities => shared ++ [root, properties, source]
  | some .keywords => shared ++ [introducers]

end OptionName

/-! ## Levels -/

/-- What has been read at one level. -/
structure Given where
  values : List (OptionName × String) := []
  texts : List String := []
  /-- An option that stands before its value, or whose separate value has not been checked. -/
  pending : Option (OptionName × Option String) := none
deriving Repr, Inhabited

namespace Given

/-- The values of an option, in order. -/
def valuesOf (given : Given) (name : OptionName) : List String :=
  (given.values.filter (·.1 == name)).map (·.2)

def has (given : Given) (name : OptionName) : Bool :=
  !(given.valuesOf name).isEmpty

/-- Records an option with a value. -/
def record (given : Given) (name : OptionName) (value : String) : Except Interruption Given :=
  if (given.has name && !name.isRepeatable) || !name.accepts value then throw .misuse
  else return { given with values := given.values ++ [(name, value)] }

/-- Records the pending option. -/
def settle (given : Given) : Except Interruption Given :=
  match given.pending with
  | none => return given
  | some (_, none) => throw .misuse
  | some (name, some value) => record { given with pending := none } name value

end Given

/-- Takes up an option without a value. -/
def takeFlag (command : Option CommandName) (long : Bool) (given : Given) (name : OptionName) :
    Except Interruption Given := do
  let given ← given.settle
  match name with
  | .help => throw (.help long command)
  | .version => throw .version
  | name => given.record name ""

/-- Takes up an option with a value, which may still have to come. -/
def takeOption (given : Given) (name : OptionName) (value : Option String) :
    Except Interruption Given := do
  let given ← given.settle
  match value with
  | some value => given.record name value
  | none => return { given with pending := some (name, none) }

/-- Reads an argument behind two dashes. -/
def readLong (command : Option CommandName) (given : Given) (text : List Char) :
    Except Interruption Given :=
  let word := String.ofList (text.takeWhile (· != '='))
  let value := match text.dropWhile (· != '=') with
    | _ :: value => some (String.ofList value)
    | [] => none
  match (OptionName.knownIn command).find? (·.word == word) with
  | none => throw .misuse
  | some name =>
      if name.takesValue then takeOption given name value
      else if value.isSome then throw .misuse
      else takeFlag command true given name

/-- Reads the letters behind a single dash. -/
def readLetters (command : Option CommandName) (given : Given) :
    List Char → Except Interruption Given
  | [] => return given
  | letter :: rest =>
      match (OptionName.knownIn command).find? (·.letter? == some letter) with
      | none => throw .misuse
      | some name =>
          if name.takesValue then
            takeOption given name <| match rest with
              | [] => none
              | '=' :: value => some (String.ofList value)
              | value => some (String.ofList value)
          else do
            readLetters command (← takeFlag command false given name) rest

/-- Reads the arguments of one level. Outside of commands, reading ends behind the name of one, and
a word that is no name of a command is not understood; within a command, words are texts. -/
def readLevel (command : Option CommandName) :
    (ended : Bool) → Given → List String → Except Interruption (Given × List String)
  | _, given, [] => return (given, [])
  | ended, given, argument :: rest => do
      let awaits := match given.pending with
        | some (name, none) => some name
        | _ => none
      match ended, awaits, argument.toList with
      | false, none, ['-', '-'] => readLevel command true given rest
      | false, some _, ['-', '-'] => throw .misuse
      | false, _, '-' :: '-' :: text => readLevel command false (← readLong command given text) rest
      | false, awaits, '-' :: letter :: letters =>
          let _ := awaits
          readLevel command false (← readLetters command given (letter :: letters)) rest
      | false, some name, _ =>
          readLevel command false { given with pending := some (name, some argument) } rest
      | ended, awaits, _ =>
          if awaits.isSome then
            throw .misuse
          else if command.isNone then
            if ended then throw .misuse else return (given, argument :: rest)
          else
            readLevel command ended { given with texts := given.texts ++ [argument] } rest

/-! ## Invocations -/

/-- Help that is asked for as a command of its own. -/
def readHelpTopic : List String → Interruption
  | [] => .help true none
  | [topic] =>
      match CommandName.ofText? topic with
      | some command => .help true (some command)
      | none => .misuse
  | _ => .misuse

/-- The task of a command. -/
def readTask (command : CommandName) (given : Given) : Except Interruption Task :=
  let sources := (given.valuesOf .source).map Location.ofString
  let root? := (given.valuesOf .root).head?
  match command, root?, given.texts with
  | .parse, some root, methods@(_ :: _) => return .parse methods root sources
  | .entities, root?, [] => return .entities root? (given.has .properties) sources
  | .keywords, _, [] => return .keywords (given.has .introducers)
  | _, _, _ => throw .misuse

/-- The shared options; those of the inner level come first. -/
def readOptions (inner outer : Given) : Options :=
  let value? := fun name => (inner.valuesOf name ++ outer.valuesOf name).head?
  { format := ((value? .output).bind OutputFormat.ofName?).getD .table
    quiet := (value? .quiet).isSome
    verbose := (value? .verbose).isSome
    plain := (value? .noColor).isSome
    settings := (value? .settings).map Location.ofString }

/-- Reads all arguments. -/
def readInvocation (arguments : List String) : Except Interruption Invocation := do
  let (outer, rest) ← readLevel none false {} arguments
  match rest with
  | [] => throw .misuse
  | name :: rest =>
      if name = "help" then
        throw (readHelpTopic rest)
      match CommandName.ofText? name with
      | none => throw .misuse
      | some command => do
          let (inner, _) ← readLevel (some command) false {} rest
          let inner ← inner.settle
          let task ← readTask command inner
          let outer ← outer.settle
          return { options := readOptions inner outer, task }

end DerivedQuery.Command
