import DerivedQuery.Files.Tree
import DerivedQuery.Project.Failure
import DerivedQuery.Project.Settings

/-!
# Projects

A project is a directory with a manifest. Looking from the working directory upwards, the first one
is the project's root; without any, the working directory itself is. The settings are in a file at a
fixed place below the root, or in a file that the user names, which must then exist.

## Main definitions

* `Project`, `Project.locate`
* `Project.sourceDirectories`
-/

namespace DerivedQuery

open Files

/-- A project with its settings and the file that they come from, if there is one. -/
structure Project where
  root : Location
  settingsFile : Option Location
  settings : Project.Settings
deriving DecidableEq, Repr, Inhabited

namespace Project

/-- The name of a project's manifest. -/
def manifest : Location :=
  .ofString "Cargo.toml"

/-- The place of the settings file below the root. -/
def defaultSettings : Location :=
  .ofString ".repoquery/config.toml"

/-- The directories above a place that is given by its names, itself included, the lowest first. -/
def ancestors (names : List (List Char)) : List Location :=
  (List.range (names.length + 1)).reverse.map fun depth =>
    ⟨'/' :: List.intercalate ['/'] (names.take depth)⟩

/-- The root of the project to which a directory belongs. -/
def findRoot (files : Node) (directory : Location) : Location :=
  ((ancestors directory.names).find? fun above => files.hasNode (above.join manifest)).getD directory

/-- The settings in a file that exists. -/
def loadSettings (files : Node) (shown location : Location) : Except Failure Settings := do
  match files.readText? location with
  | none => throw (.unreadableSettings shown)
  | some document =>
      match Settings.ofDocument? document with
      | none => throw (.malformedSettings shown)
      | some settings =>
          settings.convention.validate.mapError .invalidConvention
          return settings

/-- The project of a working directory. A settings file may be given, relative to the working
directory. -/
def locate (files : Node) (directory : Location) (given : Option Location) :
    Except Failure Project := do
  let root := findRoot files directory
  let shown := given.getD (root.join defaultSettings)
  let location := directory.join shown
  if files.hasNode location then
    return { root, settingsFile := some shown, settings := ← loadSettings files shown location }
  else if given.isSome then
    throw (.missingSettings shown)
  else
    return { root, settingsFile := none, settings := {} }

/-- Where the settings come from, as it is shown to the user. -/
def settingsSource (project : Project) : String :=
  match project.settingsFile with
  | some location => location.toString
  | none => "built-in defaults"

/-- The directories that are scanned; explicit ones replace the configured ones. -/
def sourceDirectories (project : Project) (explicit : List Location) : List Location :=
  if explicit.isEmpty then
    project.settings.sources.map fun source => project.root.join (.ofString source)
  else
    explicit.map project.root.join

end Project

end DerivedQuery
