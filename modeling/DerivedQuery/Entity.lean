import DerivedQuery.Descriptor
import DerivedQuery.MetadataError

/-!
# Entities

An entity is the checked metadata of one type: its properties in declaration order, each knowing
whether it leads to another entity (an *association*) and whether it is the identifier of its
owner. `Entity.ofDescriptor` is the only way in. It refuses a descriptor without members, with a
repeated member name or with several explicit identifiers, in this order of precedence; so the
properties of an entity have distinct names and at most one of them is the identifier.

The identifier is the explicitly marked member. If none is marked, a member called `id` serves by
convention.

## Main definitions

* `Property`, `Entity`, `Entity.ofDescriptor`
* `Entity.property?`, `Entity.identifier?`, `Entity.associations`
-/

namespace DerivedQuery

/-! ## Properties -/

/-- One property of an entity. -/
structure Property where
  name : String
  /-- The name of the type that declares the property. -/
  owner : String
  declared : TypeRef
  /-- The property leads to another entity rather than to a terminal value. -/
  association : Bool
  identifier : Bool
deriving DecidableEq, Repr, Inhabited

namespace Property

/-- The name of the type in which a path continues after this property. -/
def actualType (property : Property) : String :=
  property.declared.actualName

def isCollection (property : Property) : Bool :=
  property.declared.isCollection

def isMap (property : Property) : Bool :=
  property.declared.isMap

end Property

/-! ## Entities -/

/-- The checked metadata of one type. -/
structure Entity where
  typeName : String
  properties : List Property
deriving DecidableEq, Repr, Inhabited

/-- The property name that serves as identifier when no member is marked. -/
def conventionalId : String :=
  "id"

namespace Entity

/-- The first member whose name occurred earlier in the list. -/
def firstRepeated? : List MemberDescriptor → Option MemberDescriptor
  | members => go [] members
where
  go (seen : List String) : List MemberDescriptor → Option MemberDescriptor
    | [] => none
    | member :: rest => if seen.contains member.name then some member else go (member.name :: seen) rest

/-- The names of the explicitly marked members in declaration order. -/
def explicitIds (members : List MemberDescriptor) : List String :=
  (members.filter (·.explicitId)).map (·.name)

/-- The name of the member that identifies a type, given its marked members. -/
def identifierName : (explicit : List String) → String
  | [] => conventionalId
  | name :: _ => name

/-- The property of one member of `owner`. -/
def propertyOf (owner : String) (isTerminal : String → Bool) (identifier : String)
    (member : MemberDescriptor) : Property :=
  { name := member.name
    owner
    declared := member.declared
    association := !isTerminal member.declared.actualName
    identifier := member.name == identifier }

/-- Checks a descriptor and classifies each member with `isTerminal`. -/
def ofDescriptor (type : TypeDescriptor) (isTerminal : String → Bool) :
    Except MetadataError Entity :=
  if type.members.isEmpty then
    .error (.noProperties type.name)
  else
    match firstRepeated? type.members, explicitIds type.members with
    | some member, _ => .error (.duplicateProperty type.name member.name)
    | none, first :: second :: more =>
        .error (.ambiguousIdentifier type.name (first :: second :: more))
    | none, explicit =>
        .ok
          { typeName := type.name
            properties := type.members.map
              (propertyOf type.name isTerminal (identifierName explicit)) }

/-- The property of a given name. -/
def property? (entity : Entity) (name : String) : Option Property :=
  entity.properties.find? (·.name == name)

/-- The property that identifies an entity. -/
def identifier? (entity : Entity) : Option Property :=
  entity.properties.find? (·.identifier)

/-- The properties that lead to another entity. -/
def associations (entity : Entity) : List Property :=
  entity.properties.filter (·.association)

/-- The number of properties. -/
def size (entity : Entity) : Nat :=
  entity.properties.length

end Entity

end DerivedQuery
