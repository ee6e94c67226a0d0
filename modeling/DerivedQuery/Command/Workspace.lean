import DerivedQuery.Command.Console
import DerivedQuery.Project.Declarations
import DerivedQuery.Query.Reader

/-!
# Workspaces

A workspace is an opened project: its declarations, and a reader of method names over them. Opening
it reports what is found on the way: the project's root, the settings file, the number of sources,
and declarations that replace others.

## Main definitions

* `Surroundings`: where a command runs
* `Workspace`, `openProject`, `openWorkspace`
-/

namespace DerivedQuery.Command

open Files

/-- The files that a command can see, and the directory from which it is called. -/
structure Surroundings where
  files : Node
  directory : Location
deriving Repr, Inhabited

/-- The declarations of a project and a reader over them. -/
structure Workspace where
  declarations : Project.Declarations
  reader : Reader

/-- Fails for a defect of the project. -/
def orFail {α : Type} : Except Project.Failure α → Console α
  | .ok value => return value
  | .error failure => throw (.project failure)

/-- Opens the project of the working directory. -/
def openProject (surroundings : Surroundings) : Console Project := do
  orFail (Project.locate surroundings.files surroundings.directory (← read).options.settings)

/-- Reports where the settings come from. -/
def reportSettings (project : Project) : Console Unit :=
  Console.detail ("configuration: " ++ project.settingsSource)

/-- Scans the sources of a project. -/
def scanProject (files : Node) (project : Project) (explicit : List Location) :
    Console Project.Declarations := do
  let sources ← orFail (Project.discover files project.root (project.sourceDirectories explicit))
  Console.detail ("scanning " ++ toString sources.length ++ " file(s)")
  let (types, failure) := Project.scanSources sources
  for repetition in Project.Declarations.repetitions {} types do
    Console.warning repetition.message
  match failure with
  | some failure => throw (.project failure)
  | none => return .ofScans types

/-- Opens the project of the working directory and scans its sources. -/
def openWorkspace (surroundings : Surroundings) (explicit : List Location) : Console Workspace := do
  let project ← openProject surroundings
  Console.detail ("project root: " ++ project.root.toString)
  reportSettings project
  let declarations ← scanProject surroundings.files project explicit
  if declarations.types.isEmpty then
    Console.warning "No structs with named fields found in the scanned sources."
  match Reader.ofConvention (.ofCatalog declarations.catalog) project.settings.convention with
  | .error error => throw (.project (.invalidConvention error))
  | .ok reader => return { declarations, reader }

end DerivedQuery.Command
