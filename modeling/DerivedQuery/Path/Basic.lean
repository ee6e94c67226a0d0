import DerivedQuery.Entity
import DerivedQuery.Path.Spelling

/-!
# Property paths

A property path is a non-empty chain of properties: each node holds a property, the type in which
it was found and the part of the source text that was read as its name. The next node continues in
the actual type of the property before it.

A path is shown with dots (`address.city`) and written in method names with capitals and a
separator (`Address_City`), its canonical spelling.

## Main definitions

* `PathNode`, `PropertyPath`
* `PropertyPath.dotPath`, `PropertyPath.canonical`
* `PathError`
-/

namespace DerivedQuery

/-- One step of a path. -/
structure PathNode where
  property : Property
  /-- The part of the source that was read as this step. -/
  segment : String
  /-- The type in which the property was found. -/
  rootType : String
deriving DecidableEq, Repr, Inhabited

/-- A non-empty chain of steps. -/
structure PropertyPath where
  head : PathNode
  tail : List PathNode
deriving DecidableEq, Repr, Inhabited

namespace PropertyPath

/-- The path of one step. -/
def single (node : PathNode) : PropertyPath :=
  ⟨node, []⟩

/-- All steps, head first. -/
def nodes (path : PropertyPath) : List PathNode :=
  path.head :: path.tail

/-- A step before a path. -/
def cons (node : PathNode) (path : PropertyPath) : PropertyPath :=
  ⟨node, path.nodes⟩

/-- One path after another. -/
def append (first second : PropertyPath) : PropertyPath :=
  ⟨first.head, first.tail ++ second.nodes⟩

/-- The property at the end of the chain. -/
def leaf (path : PropertyPath) : Property :=
  (path.tail.getLastD path.head).property

/-- The type in which a longer path would continue. -/
def leafType (path : PropertyPath) : String :=
  path.leaf.actualType

/-- The number of steps. -/
def length (path : PropertyPath) : Nat :=
  path.nodes.length

/-- Whether some step leads through a collection. -/
def isCollection (path : PropertyPath) : Bool :=
  path.nodes.any (·.property.isCollection)

/-- The properties of the steps. -/
def properties (path : PropertyPath) : List Property :=
  path.nodes.map (·.property)

/-- Property names joined by dots. -/
def dotPath (path : PropertyPath) : String :=
  ".".intercalate (path.properties.map (·.name))

/-- The spelling of a path in a method name: capitalized property names joined by the
separator. -/
def canonicalText (separator : Char) (path : PropertyPath) : List Char :=
  [separator].intercalate (path.properties.map fun property => Spelling.pascalCase property.name.toList)

/-- The spelling of a path in a method name, as a string. -/
def canonical (path : PropertyPath) (separator : Char) : String :=
  String.ofList (path.canonicalText separator)

@[simp]
theorem nodes_cons (node : PathNode) (path : PropertyPath) :
    (path.cons node).nodes = node :: path.nodes :=
  rfl

@[simp]
theorem nodes_append (first second : PropertyPath) :
    (first.append second).nodes = first.nodes ++ second.nodes :=
  rfl

end PropertyPath

/-- No reading of a source text as a path exists. -/
structure PathError where
  /-- The whole source text. -/
  sourcePath : String
  /-- The rest of the source that no property matches. -/
  unresolved : String
  /-- The type in which the rest was looked up. -/
  typeName : String
  /-- Why that type has no entity, if that is the reason. -/
  cause : Option MetadataError := none
deriving DecidableEq, Repr, Inhabited

/-- The text of a path error. -/
def PathError.message (error : PathError) : String :=
  s!"no property `{error.unresolved}` found on type `{error.typeName}` while resolving `{error.sourcePath}`"

end DerivedQuery
