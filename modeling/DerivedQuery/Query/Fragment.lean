import DerivedQuery.Path.Basic
import DerivedQuery.Text.Cut

/-!
# Fragments and syntax errors

A fragment is a piece of a method name that knows where it stands: its position is the number of
UTF-8 bytes before it. A syntax error quotes the fragment at fault and gives its position.

## Main definitions

* `Fragment`, and its `left` and `right` parts at a cut
* `SyntaxError`, `SyntaxError.Kind`
-/

namespace DerivedQuery

open Text

/-- A piece of a method name and the number of bytes before it. -/
structure Fragment where
  text : List Char
  position : Nat
deriving DecidableEq, Repr, Inhabited

namespace Fragment

/-- The part before a cut. -/
def left (fragment : Fragment) (cut : Cut fragment.text) : Fragment :=
  ⟨cut.left, fragment.position⟩

/-- The part after a cut and its gap. -/
def right (fragment : Fragment) (cut : Cut fragment.text) : Fragment :=
  ⟨cut.right, fragment.position + byteLength cut.left + byteLength cut.gap⟩

/-- The fragment of `text` that stands behind `before`, which starts where `fragment` does. -/
def behind (fragment : Fragment) (before text : List Char) : Fragment :=
  ⟨text, fragment.position + byteLength before⟩

/-- The beginning of a fragment. -/
def upTo (fragment : Fragment) (text : List Char) : Fragment :=
  ⟨text, fragment.position⟩

end Fragment

/-! ## Syntax errors -/

/-- The kinds of syntax errors. -/
inductive SyntaxError.Kind where
  | emptyMethodName
  /-- A criterion or an ordering names no property path. -/
  | unresolvedSegment
  /-- A connector has nothing on one side. -/
  | invalidSplit
  | emptyOrderBy
  | repeatedOrderBy
  /-- An ordering consists of a direction alone. -/
  | invalidOrderDirection
  /-- A limit is zero, too large, or not written in ASCII digits. -/
  | invalidLimit
deriving DecidableEq, Repr, Inhabited

namespace SyntaxError.Kind

/-- The text of a kind of error. -/
def message : SyntaxError.Kind → String
  | emptyMethodName => "empty method name"
  | unresolvedSegment => "unresolved property segment"
  | invalidSplit => "invalid Or/And split"
  | emptyOrderBy => "OrderBy clause without properties"
  | repeatedOrderBy => "OrderBy used more than once"
  | invalidOrderDirection => "ordering direction without property"
  | invalidLimit => "limit must be a positive number"

end SyntaxError.Kind

/-- Why a method name has no meaning. -/
structure SyntaxError where
  kind : SyntaxError.Kind
  /-- The part of the method name at fault. -/
  fragment : String
  /-- The number of bytes before the fragment. -/
  position : Nat
  cause : Option PathError := none
deriving DecidableEq, Repr, Inhabited

namespace SyntaxError

/-- An error about a fragment. -/
def about (kind : Kind) (fragment : Fragment) : SyntaxError :=
  { kind, fragment := String.ofList fragment.text, position := fragment.position }

/-- The error of a fragment that names no property path. -/
def unresolved (fragment : Fragment) (cause : PathError) : SyntaxError :=
  { SyntaxError.about .unresolvedSegment fragment with cause := some cause }

/-- The text of a syntax error. -/
def message (error : SyntaxError) : String :=
  s!"{error.kind.message} at position {error.position}: `{error.fragment}`"

end SyntaxError

end DerivedQuery
