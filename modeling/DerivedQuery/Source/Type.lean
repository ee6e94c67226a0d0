import DerivedQuery.Source.Grammar

/-!
# Types as they are written

A declaration names the types of its fields in the notation of the language. Of this notation only
the parts count that a property path can step through: paths with their arguments, references,
parentheses, slices and arrays. Everything else, such as a tuple or a function type, is kept as the
trees that it consists of.

Reading starts from trees that the grammar has already accepted as a type, so it only has to tell
the forms apart.

## Main definitions

* `SourceType`, `Argument`
* `SourceType.ofTrees`: the type that accepted trees denote
-/

namespace DerivedQuery.Source

open Rule

mutual

/-- A type in a declaration. Of a path, the last segment with its arguments is told apart from what
leads to it. -/
inductive SourceType where
  | path (qualifier : List Tree) (name : String) (arguments : List Argument)
  | reference (target : SourceType)
  | parenthesized (inner : SourceType)
  | slice (element : SourceType)
  | array (element : SourceType) (length : List Tree)
  | other (trees : List Tree)

/-- An argument of a path segment: a type, or a lifetime, a constant or a binding. -/
inductive Argument where
  | type (type : SourceType)
  | other (trees : List Tree)

end

instance : Inhabited SourceType :=
  ⟨.other []⟩

/-! ## Reading -/

/-- What precedes the first segment of a path: a double colon, or a type in angle brackets. -/
def pathStart : Rule Name :=
  either
    (all [op "<", type, maybe (both (word "as") (call .path)), op ">", op "::"])
    (maybe (op "::"))

/-- A segment that another one follows. -/
def innerSegment : Rule Name :=
  all [typeSegment, maybe parenthesizedArguments, op "::", absent (one fun
    | .group .parenthesis _ => true
    | _ => false)]

/-- The segments before the last one, and the last one. The fuel is the number of trees. -/
def splitLastSegment : (fuel : Nat) → (before : List Tree) → List Tree → List Tree × List Tree
  | 0, before, trees => (before, trees)
  | fuel + 1, before, trees =>
      match take? grammar innerSegment trees with
      | some (segment, rest@(_ :: _)) => splitLastSegment fuel (before ++ segment) rest
      | _ => (before, trees)

/-- The trees of each argument behind an opening angle bracket. The fuel is the number of trees. -/
def splitArguments : (fuel : Nat) → List Tree → List (List Tree)
  | 0, _ => []
  | fuel + 1, trees =>
      match take? grammar genericArgument trees with
      | some (argument, .mark ',' _ :: rest) => argument :: splitArguments fuel rest
      | some (argument, _) => [argument]
      | none => []

/-- The arguments of a path segment behind its name. -/
def segmentArguments (trees : List Tree) : List (List Tree) :=
  match take? grammar (both (maybe (op "::")) (op "<")) trees with
  | some (_, inside) => splitArguments inside.length inside
  | none => []

/-- The trees of a path before its last segment, and the name and the arguments of that segment. -/
def pathParts? (trees : List Tree) : Option (List Tree × String × List (List Tree)) := do
  let isPath := both (either (qualifiedPath typeSegment) (call .path)) atEnd
  if !accepts grammar isPath trees then
    none
  let (start, rest) ← take? grammar pathStart trees
  let (qualifier, segment) := splitLastSegment rest.length start rest
  match segment with
  | .word name :: behind => some (qualifier, name, segmentArguments behind)
  | _ => none

/-- Accepted trees behind `&`, without a lifetime and the mark of mutability. -/
def referenceTarget (trees : List Tree) : List Tree :=
  match take? grammar (both (maybe lifetime) (maybe (word "mut"))) trees with
  | some (_, target) => target
  | none => trees

namespace SourceType

/-- The type that accepted trees denote. The fuel bounds the depth of the type. -/
def ofTreesWithin : (fuel : Nat) → List Tree → SourceType
  | 0, trees => other trees
  | fuel + 1, trees =>
      match trees with
      | [.group .parenthesis inner] =>
          if accepts grammar type inner then parenthesized (ofTreesWithin fuel inner)
          else other trees
      | [.group .bracket inner] =>
          match take? grammar type inner with
          | some (element, []) => slice (ofTreesWithin fuel element)
          | some (element, _ :: length) => array (ofTreesWithin fuel element) length
          | none => other trees
      | .mark '&' _ :: rest => reference (ofTreesWithin fuel (referenceTarget rest))
      | trees =>
          match pathParts? trees with
          | some (qualifier, name, arguments) =>
              path qualifier name (arguments.map fun argument =>
                if !accepts grammar plainArgument argument && accepts grammar type argument then
                  .type (ofTreesWithin fuel argument)
                else
                  .other argument)
          | none => other trees

/-- The type that accepted trees denote. -/
def ofTrees (trees : List Tree) : SourceType :=
  ofTreesWithin (weight trees) trees

end SourceType

end DerivedQuery.Source
