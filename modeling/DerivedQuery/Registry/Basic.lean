import DerivedQuery.Inspector
import DerivedQuery.Metadata
import DerivedQuery.Registry.Slots
import DerivedQuery.TerminalTypes

/-!
# The entity registry

The registry builds entities on demand and keeps them. Asking for a type builds the type and,
depth first, every type that its associations reach. A type that already has a slot is skipped on
the way: it is either built or under construction further up, which is how cyclic type graphs end.
A failure is fatal for the types on the way down only; their slots are released and the same types
may be tried again, while entities published meanwhile stay.

A source may request entities while it describes a type. Such a request finds the types under
construction pending and is refused for them with a `cycle` error; for other types it is an
ordinary request.

The walk recurses on a *budget*. Each construction claims a slot that did not exist, and apart
from the first one it is for a type that the source mentions. A registry has an inspector, which
mentions finitely many types, so a budget of one more than their number is never used up.

## Main definitions

* `Registry.State`, `Registry.Call`
* `TypeSource.construct`, `TypeSource.entityFor`: the walk over any source
* `Registry`, `Registry.entityFor`, `Registry.prepare`
* `Registry.metadata`: the registry as a source of metadata for path resolution
-/

namespace DerivedQuery

/-- An inspector together with the configured terminal types. -/
structure Registry where
  inspector : Inspector
  terminal : TerminalTypes := .defaults
deriving DecidableEq, Repr, Inhabited

namespace Registry

/-! ## State -/

/-- One event at the inspector: it was asked to describe a type, or a request that it made while
describing one came back. -/
inductive Call where
  | describe (name : String)
  | request (inside asked : String) (got : Except MetadataError String)

/-- The slots, and what the inspector was asked so far. -/
structure State where
  slots : Slots := []
  calls : List Call := []
deriving Inhabited

namespace State

/-- Appends an event. -/
def record (state : State) (call : Call) : State :=
  { state with calls := state.calls ++ [call] }

/-- Changes the slots. -/
def onSlots (state : State) (change : Slots → Slots) : State :=
  { state with slots := change state.slots }

end State

/-- A request for the entity of a type in a given state. -/
abbrev Request := String → State → Except MetadataError Entity × State

/-- The builder of a registry that is used by one client at a time. -/
def soleBuilder : Nat :=
  0

end Registry

/-! ## Construction -/

namespace TypeSource

open Registry

/-- A request from outside or from the inspector: a terminal type is refused, a published entity
is returned, a type under construction is a cycle, and any other type is constructed. -/
def requestWith (source : TypeSource) (construct : Request) : Request := fun name state =>
  if source.isTerminal name then
    (.error (.terminalType name), state)
  else
    match state.slots.get? name with
    | some (.ready entity) => (.ok entity, state)
    | some (.pending _) => (.error (.cycle name), state)
    | none => construct name (state.onSlots (·.claim name soleBuilder))

/-- The requests that the source makes while it describes `inside`, one after the other. -/
def requestAll (request : Request) (inside : String) : List String → State → State
  | [], state => state
  | asked :: rest, state =>
      let (got, after) := request asked state
      requestAll request inside rest
        (after.record (.request inside asked (got.map (·.typeName))))

/-- Constructs the targets of associations that have no slot yet, stopping at the first failure,
which is attributed to the association. -/
def registerTargets (construct : Request) (owner : String) :
    List Property → State → Except MetadataError Unit × State
  | [], state => (.ok (), state)
  | property :: rest, state =>
      if (state.slots.get? property.actualType).isSome then
        registerTargets construct owner rest state
      else
        match construct property.actualType
            (state.onSlots (·.claim property.actualType soleBuilder)) with
        | (.error source, after) => (.error (.association owner property.name source), after)
        | (.ok _, after) => registerTargets construct owner rest after

/-- Asks the source for a description; its own requests come before its answer. -/
def describe (source : TypeSource) (construct : Request) (name : String) (state : State) :
    Option TypeDescriptor × State :=
  (source.describe? name,
    requestAll (source.requestWith construct) name (source.asksWhile name)
      (state.record (.describe name)))

/-- The entity that a description stands for, provided that it describes the requested type. -/
def check (source : TypeSource) (name : String) : Option TypeDescriptor → Except MetadataError Entity
  | none => .error (.undescribable name)
  | some type =>
      if type.name = name then
        Entity.ofDescriptor type source.isTerminal
      else
        .error (.typeMismatch name type.name)

/-- Describes a type, checks the description and constructs what its associations reach. -/
def build (source : TypeSource) (construct : Request) : Request := fun name state =>
  let (description, described) := source.describe construct name state
  match source.check name description with
  | .error error => (.error error, described)
  | .ok entity =>
      match registerTargets construct name entity.associations described with
      | (.error error, after) => (.error error, after)
      | (.ok (), after) => (.ok entity, after)

/-- Constructs a type whose slot has just been claimed: the slot is published with the entity, or
released if the construction fails. -/
def construct (source : TypeSource) : (budget : Nat) → Request
  | 0, name, state => (.error (.undescribable name), state.onSlots (·.release name))
  | budget + 1, name, state =>
      match source.build (source.construct budget) name state with
      | (.error error, after) => (.error error, after.onSlots (·.release name))
      | (.ok entity, after) => (.ok entity, after.onSlots (·.publish name entity))

/-- The entity of a type; on the first request it is built together with everything that is
reachable from it. At most `budget` constructions can be under way at once. -/
def entityFor (source : TypeSource) (budget : Nat) : Request :=
  source.requestWith (source.construct budget)

/-- The registry of a source as a source of metadata. -/
def metadata (source : TypeSource) (budget : Nat) : Metadata State :=
  { isTerminal := source.isTerminal, entityFor := source.entityFor budget }

end TypeSource

/-! ## Requests -/

namespace Registry

/-- What the registry knows about types: the answers of its inspector, and which types are leaf
values by configuration or by the inspector's word. -/
def source (registry : Registry) : TypeSource :=
  { describe? := registry.inspector.describe?
    isTerminal := fun name =>
      registry.terminal.contains name || registry.inspector.isTerminal name
    asksWhile := registry.inspector.asksWhile }

/-- A leaf value, by configuration or by the inspector's word. -/
def isTerminal (registry : Registry) (name : String) : Bool :=
  registry.source.isTerminal name

/-- Enough for every chain of constructions under way at once. -/
def budget (registry : Registry) : Nat :=
  registry.inspector.mentioned.length + 1

/-- The entity of a type; on the first request it is built together with everything that is
reachable from it. -/
def entityFor (registry : Registry) : Request :=
  registry.source.entityFor registry.budget

/-- Builds several types in order, stopping at the first failure. -/
def prepare (registry : Registry) : List String → State → Except MetadataError Unit × State
  | [], state => (.ok (), state)
  | root :: rest, state =>
      match registry.entityFor root state with
      | (.error error, after) => (.error error, after)
      | (.ok _, after) => registry.prepare rest after

/-- The registry as a source of metadata. -/
def metadata (registry : Registry) : Metadata State :=
  registry.source.metadata registry.budget

/-- A one-line summary: the number of configured terminal types and of published entities. -/
def summary (registry : Registry) (state : State) : String :=
  "EntityRegistry \x7b terminal: " ++ toString registry.terminal.size ++ ", entities: "
    ++ toString state.slots.entities.length ++ ", .. \x7d"

end Registry

end DerivedQuery
