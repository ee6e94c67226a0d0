import DerivedQuery.Files.Location

/-!
# File trees

The files that a command can see are a value: a tree of directories with text files. There are no
links and no permissions, so a location leads to at most one node, and walking through a directory
visits each file below it once.

A location is followed from the root, name by name. Whatever follows a name, even a slash alone,
needs a directory there; two dots lead back to the directory above.

## Main definitions

* `Node`, `Node.find?`, `Node.readText?`
* `Node.walk`: every node below a location, with its location
-/

namespace DerivedQuery.Files

/-- A text file or a directory. -/
inductive Node where
  | file (content : String)
  | directory (entries : List (List Char × Node))
deriving Repr, Inhabited

namespace Node

/-- Follows the pieces of a location. The nodes on the way are kept, the latest first, for the way
back. -/
def follow? : List Node → (pieces : List (List Char)) → Option (List Node)
  | way, [] => some way
  | .directory entries :: above, piece :: rest =>
      if piece = [] || piece = ['.'] then
        follow? (.directory entries :: above) rest
      else if piece = ['.', '.'] then
        follow? (if above.isEmpty then [.directory entries] else above) rest
      else
        (entries.lookup piece).bind fun node => follow? (node :: .directory entries :: above) rest
  | _, _ :: _ => none

/-- The node to which an absolute location leads. -/
def find? (root : Node) (location : Location) : Option Node :=
  (follow? [root] location.pieces).bind (·.head?)

/-- Whether a location leads somewhere. -/
def hasNode (root : Node) (location : Location) : Bool :=
  (root.find? location).isSome

/-- The content of a file. -/
def readText? (root : Node) (location : Location) : Option String :=
  match root.find? location with
  | some (.file content) => some content
  | _ => none

mutual

/-- A node that is at a location and every node below it, each with its location. -/
def walk (location : Location) : Node → List (Location × Node)
  | .file content => [(location, .file content)]
  | .directory entries => (location, .directory entries) :: walkEntries location entries

/-- Every node below a directory. -/
def walkEntries (location : Location) : List (List Char × Node) → List (Location × Node)
  | [] => []
  | (name, node) :: rest => walk (location.join ⟨name⟩) node ++ walkEntries location rest

end

/-! ## Building -/

/-- Puts a node at the place that names lead to, with all directories on the way. An empty directory
leaves a directory as it is. -/
def insert : Node → (names : List (List Char)) → Node → Node
  | .directory entries, [], .directory [] => .directory entries
  | _, [], node => node
  | .file _, name :: names, node => .directory [(name, insert (.directory []) names node)]
  | .directory entries, name :: names, node =>
      .directory <|
        if entries.any (·.1 == name) then
          entries.map fun entry =>
            if entry.1 == name then (name, insert entry.2 names node) else entry
        else
          entries ++ [(name, insert (.directory []) names node)]

end Node

end DerivedQuery.Files
