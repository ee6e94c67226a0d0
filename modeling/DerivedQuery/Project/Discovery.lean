import DerivedQuery.Project.Basic
import DerivedQuery.Text.Occurrence

/-!
# Discovering sources

The sources of a project are the files below its source directories whose name has the extension of
a source file and whose text declares a struct, as far as a look at the text can tell. A file counts
only if no name of its location, seen from the project's root, starts with a dot — which includes
the two dots that lead back to the directory above.

Sources are visited in the order of their relative locations. Directories may overlap, so the same
file may be found twice; one of two neighbours in that order is dropped if both lead through the
same names.

## Main definitions

* `SourceFile`, `discover`
-/

namespace DerivedQuery.Project

open Files

/-- A file with source text. -/
structure SourceFile where
  location : Location
  /-- The location as seen from the project's root. -/
  relative : Location
  content : String
deriving DecidableEq, Repr, Inhabited

/-- Whether the extension of a location is that of a source file. -/
def hasSourceExtension (location : Location) : Bool :=
  location.extension? = some ['r', 's']

/-- Whether some name of a location starts with a dot. -/
def isHidden (location : Location) : Bool :=
  location.names.any Location.isHiddenName

/-- Whether a text may declare a struct. -/
def mayDeclare (content : String) : Bool :=
  Text.contains "struct ".toList content.toList

/-- The source that a visited node is, if it is one. A directory that is named like a source cannot
be read. -/
def sourceFile? (root : Location) : Location × Node → Except Failure (Option SourceFile)
  | (location, node) =>
      let relative := root.relativeTo location
      if !hasSourceExtension location || isHidden relative then
        return none
      else
        match node with
        | .directory _ => throw (.unreadableSource location)
        | .file content =>
            return if mayDeclare content then some { location, relative, content } else none

/-- Drops a source if the one before it has the same names. -/
def dropRepeated : List SourceFile → List SourceFile
  | [] => []
  | source :: rest =>
      match dropRepeated rest with
      | [] => [source]
      | next :: rest =>
          if next.location.names = source.location.names then source :: rest
          else source :: next :: rest

/-- The nodes below the directories that exist. -/
def visited (files : Node) (directories : List Location) : List (Location × Node) :=
  directories.flatMap fun directory =>
    match files.find? directory with
    | some node => node.walk directory
    | none => []

/-- The sources below some directories, in the order of their relative locations. -/
def discover (files : Node) (root : Location) (directories : List Location) :
    Except Failure (List SourceFile) := do
  let found ← (visited files directories).mapM (sourceFile? root)
  return dropRepeated <| found.reduceOption.mergeSort fun first second =>
    decide (first.relative.toString ≤ second.relative.toString)

end DerivedQuery.Project
