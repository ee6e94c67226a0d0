import DerivedQuery.Text.Quoted

/-!
# Metadata errors

The reasons why a type has no entity. Each one names the type that it is attributed to. A failure
below a type is wrapped once for every association on the way down, so an error is a path through
the type graph (`association` steps) that ends in a defect of one type, its root cause.

## Main definitions

* `MetadataError`, its `typeName`, its `rootCause` and its `message`
-/

namespace DerivedQuery

/-- Why the entity of a type could not be built. -/
inductive MetadataError where
  /-- The inspector does not know the type. -/
  | undescribable (typeName : String)
  /-- The type has no members. -/
  | noProperties (typeName : String)
  /-- Several members are marked as the identifier. -/
  | ambiguousIdentifier (typeName : String) (candidates : List String)
  /-- Two members have the same name. -/
  | duplicateProperty (typeName property : String)
  /-- The inspector answered with the description of another type. -/
  | typeMismatch (requested described : String)
  /-- The type is a leaf value. -/
  | terminalType (typeName : String)
  /-- The type was requested while it is itself being built. -/
  | cycle (typeName : String)
  /-- The target of an association has no entity. -/
  | association (typeName property : String) (source : MetadataError)
deriving DecidableEq, Repr, Inhabited

namespace MetadataError

/-- The type that the failure is attributed to. -/
def typeName : MetadataError → String
  | undescribable typeName => typeName
  | noProperties typeName => typeName
  | ambiguousIdentifier typeName _ => typeName
  | duplicateProperty typeName _ => typeName
  | typeMismatch requested _ => requested
  | terminalType typeName => typeName
  | cycle typeName => typeName
  | association typeName _ _ => typeName

/-- The defect at the end of a chain of associations. -/
def rootCause : MetadataError → MetadataError
  | association _ _ source => source.rootCause
  | error => error

/-- The text of an error. The text of an association leaves its source to the reader of the
chain. -/
def message : MetadataError → String
  | undescribable type => s!"type `{type}` cannot be described by the member inspector"
  | noProperties type => s!"type `{type}` has no usable properties"
  | ambiguousIdentifier type candidates =>
      s!"type `{type}` declares more than one identifier: " ++ Text.quoteList candidates
  | duplicateProperty type property => s!"type `{type}` declares property `{property}` more than once"
  | typeMismatch requested described =>
      s!"member inspector described `{described}` when asked for `{requested}`"
  | terminalType type => s!"type `{type}` is terminal and carries no metadata"
  | cycle type => s!"type `{type}` is already under construction on this thread"
  | association type property _ => s!"association `{type}.{property}` could not be registered"

/-- The errors of a chain, outermost first. -/
def chain : MetadataError → List MetadataError
  | error@(association _ _ source) => error :: source.chain
  | error => [error]

end MetadataError

end DerivedQuery
