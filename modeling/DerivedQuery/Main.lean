import DerivedQuery.Command.Run

/-!
# The program

The outer layer takes a snapshot of the files that the program may look at, finds out whether the
terminal shows colors, and writes the result. Everything else is `Command.run`.

The snapshot holds the manifests and settings files of the directories above the working directory,
the settings file that is named in the arguments, and the sources below the project's root and below
its source directories. Links are followed.
-/

namespace DerivedQuery

open Command Files

/-- An entry of the file system, given by an absolute location. -/
def entryAt (location : Location) : IO.FS.DirEntry :=
  { root := "/", fileName := String.ofList (location.text.dropWhile (· == '/')) }

/-- The content of a text file, if it can be read. -/
def contentOf? (entry : IO.FS.DirEntry) : IO (Option String) := do
  try
    return some (← IO.FS.readFile entry.path)
  catch _ =>
    return none

/-- Adds a single file or directory to a tree. -/
def addFile (tree : Node) (location : Location) : IO Node := do
  let entry := entryAt location
  if ← entry.path.isDir then
    return tree.insert location.names (.directory [])
  match ← contentOf? entry with
  | some content => return tree.insert location.names (.file content)
  | none => return tree

/-- The sources below an entry. Directories whose name starts with a dot are left out. -/
partial def snapshot (entry : IO.FS.DirEntry) : IO (Option Node) := do
  if ← entry.path.isDir then
    let mut entries : List (List Char × Node) := []
    for child in ← entry.path.readDir do
      if !Location.isHiddenName child.fileName.toList then
        if let some node ← snapshot child then
          entries := (child.fileName.toList, node) :: entries
    return some (.directory entries)
  if Project.hasSourceExtension (.ofString entry.fileName) then
    return (← contentOf? entry).map .file
  return none

/-- Adds everything below a location to a tree. -/
def addSources (tree : Node) (location : Location) : IO Node := do
  match ← snapshot (entryAt location) with
  | some node => return tree.insert location.names node
  | none => return tree

/-- The files that the program may look at. -/
def readFiles (directory : Location) (invocation : Invocation) : IO Node := do
  let mut tree : Node := .insert (.directory []) directory.names (.directory [])
  for above in Project.ancestors directory.names do
    tree ← addFile tree (above.join Project.manifest)
    tree ← addFile tree (above.join Project.defaultSettings)
  if let some settings := invocation.options.settings then
    tree ← addFile tree (directory.join settings)
  let explicit := match invocation.task with
    | .parse _ _ sources => sources
    | .entities _ _ sources => sources
    | .keywords _ => []
  if let .ok project := Project.locate tree directory invocation.options.settings then
    for source in project.sourceDirectories explicit do
      tree ← addSources tree source
  return tree

/-- Whether an environment variable is set to something but zero. -/
def isSet (name : String) : IO (Option Bool) := do
  return (← IO.getEnv name).map (· != "0")

/-- Whether texts are colored: if that is forced, or else if nothing speaks against it. -/
def showsColors : IO Bool := do
  if (← isSet "CLICOLOR_FORCE") == some true then
    return true
  if (← isSet "NO_COLOR").isSome then
    return false
  return (← isSet "CLICOLOR").getD true && (← (← IO.getStdout).isTty)

end DerivedQuery

/-- Runs the program on its arguments. -/
def main (arguments : List String) : IO UInt32 := do
  let directory := DerivedQuery.Files.Location.ofString (← IO.currentDir).toString
  let files ← match DerivedQuery.Command.readInvocation arguments with
    | .ok invocation => DerivedQuery.readFiles directory invocation
    | .error _ => pure (.directory [])
  let result := DerivedQuery.Command.run { files, directory } (← DerivedQuery.showsColors) arguments
  IO.print result.transcript.output
  IO.eprint result.transcript.errors
  return result.exitCode.toUInt32
