import DerivedQuery.Source.Type
import DerivedQuery.TypeRef

/-!
# From written types to declared types

A property path only sees a named type, a collection or a map. Erasure maps every written type to
one of these: it goes through references, parentheses and the wrappers that do not change what a
value is, and it recognises the standard containers by the last segment of their path, whatever
leads to it. A path to anything else is a named type, its arguments are dropped.

Types that have no name at all, such as tuples, are named by a function of their trees.

## Main definitions

* `SourceType.erase`
-/

namespace DerivedQuery.Source

/-- The paths whose first argument is the type of the value itself. -/
def wrappers : List String :=
  ["Option", "Box", "Arc", "Rc"]

/-- The paths whose first argument is the type of their elements. -/
def collections : List String :=
  ["Vec", "VecDeque", "LinkedList", "HashSet", "BTreeSet", "BinaryHeap", "IndexSet"]

/-- The paths whose first two arguments are the types of their keys and values. -/
def maps : List String :=
  ["HashMap", "BTreeMap", "IndexMap"]

/-- The declared type of a path, given those of its type arguments. -/
def erasePath (name : String) (arguments : List TypeRef) : TypeRef :=
  if wrappers.contains name then
    arguments.headD (.named name)
  else if collections.contains name then
    match arguments with
    | element :: _ => .collection element
    | [] => .named name
  else if maps.contains name then
    match arguments with
    | key :: value :: _ => .map key value
    | _ => .named name
  else
    .named name

mutual

/-- The declared type of a written type. -/
def SourceType.erase (nameless : List Tree → String) : SourceType → TypeRef
  | .path _ name arguments => erasePath name (eraseArguments nameless arguments)
  | .reference target => target.erase nameless
  | .parenthesized inner => inner.erase nameless
  | .slice element => .collection (element.erase nameless)
  | .array element _ => .collection (element.erase nameless)
  | .other trees => .named (nameless trees)

/-- The declared types of the arguments that are types. -/
def eraseArguments (nameless : List Tree → String) : List Argument → List TypeRef
  | [] => []
  | .type type :: rest => type.erase nameless :: eraseArguments nameless rest
  | .other _ :: rest => eraseArguments nameless rest

end

/-! ## Names for the types that have none -/

/-- All nameless types are the same, as far as a reader of sources knows. -/
def unknownName (_ : List Tree) : String :=
  "unknown"

/-- A nameless type is told apart by its tokens. -/
def writtenName (trees : List Tree) : String :=
  String.ofList ((Tree.print trees).toList.filter (· != ' '))

end DerivedQuery.Source
