import DerivedQuery.Proofs.Entity.Indexed
import DerivedQuery.Proofs.Tables
import Mathlib.Data.List.Forall2

/-!
# What an entity tells of its descriptor

A descriptor without members, with a repeated name or with several marked members is refused. Each
reason is described by the members alone, and the reasons exclude each other: a repeated name counts
before several marked members do, and of several repetitions the first one counts.

Of every other descriptor an entity is made. Its properties are the members in their order. Each of
them is found by its name and knows whether it leads to another entity, which depends on the type
that is left when all containers around it are taken off. At most one property is the identifier:
that of the marked member, or else the one that is called `id`.

## Main definitions

* `TypeRef.Contains`: a container and what a path finds in it
* `Entity.Rejection`: why a descriptor is refused
* `Entity.Describes`: an entity tells what its descriptor does

## Main results

* `Entity.ofDescriptor_eq_error_iff`: which descriptor is refused for which reason
* `Entity.describes_of_ofDescriptor`: what the entity of a descriptor tells
* `Entity.ofDescriptor_exact`: both of them, for the check of the whole and for the single pass
-/

namespace DerivedQuery

/-! ## Containers -/

/-- The inner type is the element type of a collection or the value type of a map. -/
def TypeRef.Contains (outer inner : TypeRef) : Prop :=
  outer.element? = some inner ∨ outer.mapValue? = some inner

/-- A path continues in the named type that is inside of all containers. -/
theorem TypeRef.actualName_eq_iff {type : TypeRef} {name : String} :
    type.actualName = name ↔ Relation.ReflTransGen Contains type (.named name) := by
  constructor
  · rintro rfl
    induction type with
    | named name => exact .refl
    | collection element ih => exact .head (Or.inl rfl) ih
    | map key value _ ih => exact .head (Or.inr rfl) ih
  · intro hInside
    induction hInside using Relation.ReflTransGen.head_induction_on with
    | refl => rfl
    | @head outer inner hContains _ ih =>
        cases outer <;> simp_all [Contains, element?, mapValue?, actualName]

namespace Entity

variable {type : TypeDescriptor} {isTerminal : String → Bool}

/-! ## Descriptors that are refused -/

/-- Why a descriptor is refused: it has no members; or a member repeats a name, and no name is
repeated before it; or no name is repeated, but several members are marked. -/
inductive Rejection (type : TypeDescriptor) : MetadataError → Prop
  | noProperties (hMembers : type.members = []) : Rejection type (.noProperties type.name)
  | duplicateProperty {before after : List MemberDescriptor} {member : MemberDescriptor}
      (hMembers : type.members = before ++ member :: after)
      (hBefore : (before.map (·.name)).Nodup) (hMember : member.name ∈ before.map (·.name)) :
      Rejection type (.duplicateProperty type.name member.name)
  | ambiguousIdentifier (hNames : (type.members.map (·.name)).Nodup)
      (hIds : 2 ≤ (explicitIds type.members).length) :
      Rejection type (.ambiguousIdentifier type.name (explicitIds type.members))

/-- The source that gives one description whatever it is asked for. -/
def sourceOf (type : TypeDescriptor) (isTerminal : String → Bool) : TypeSource where
  describe? _ := some type
  isTerminal := isTerminal
  asksWhile _ := []

/-- These reasons are the defects that a type has by its description alone. -/
theorem defect_sourceOf_iff {error : MetadataError} :
    (sourceOf type isTerminal).Defect type.name error ↔ Rejection type error := by
  constructor
  · intro hDefect
    cases hDefect with
    | undescribable hNone => simp [sourceOf] at hNone
    | typeMismatch hType hName =>
        obtain rfl := Option.some.inj hType
        exact absurd rfl hName
    | noProperties hType _ hMembers =>
        obtain rfl := Option.some.inj hType
        exact .noProperties hMembers
    | duplicateProperty hType _ hMembers hBefore hMember =>
        obtain rfl := Option.some.inj hType
        exact .duplicateProperty hMembers hBefore hMember
    | ambiguousIdentifier hType _ hNames hIds =>
        obtain rfl := Option.some.inj hType
        exact .ambiguousIdentifier hNames hIds
  · intro hRejection
    cases hRejection with
    | noProperties hMembers => exact .noProperties rfl rfl hMembers
    | duplicateProperty hMembers hBefore hMember =>
        exact .duplicateProperty rfl rfl hMembers hBefore hMember
    | ambiguousIdentifier hNames hIds => exact .ambiguousIdentifier rfl rfl hNames hIds

/-- **The check refuses a descriptor for one of these reasons**, and for no other. -/
theorem ofDescriptor_eq_error_iff {error : MetadataError} :
    ofDescriptor type isTerminal = .error error ↔ Rejection type error := by
  have hCheck : (sourceOf type isTerminal).check type.name
      ((sourceOf type isTerminal).describe? type.name) = ofDescriptor type isTerminal :=
    if_pos rfl
  rw [← hCheck, TypeSource.check_eq_error_iff, defect_sourceOf_iff]

/-! ## The identifying member -/

/-- The member that identifies: the first marked one, or else the first one with the conventional
name. -/
def identifyingMember? (members : List MemberDescriptor) : Option MemberDescriptor :=
  (members.find? (·.explicitId)).or (members.find? (·.name == conventionalId))

/-- If no name is repeated and no more than one member is marked, the member with the name of the
identifier is the one that identifies. -/
theorem find?_identifierName {members : List MemberDescriptor}
    (hNames : (members.map (·.name)).Nodup) (hIds : (explicitIds members).length ≤ 1) :
    members.find? (·.name == identifierName (explicitIds members)) =
      identifyingMember? members := by
  cases hMarked : members.find? (·.explicitId) with
  | none =>
      have hNone : explicitIds members = [] := by
        rw [explicitIds, List.map_eq_nil_iff, List.filter_eq_nil_iff]
        exact List.find?_eq_none.mp hMarked
      rw [identifyingMember?, hMarked, hNone]
      rfl
  | some member =>
      have hMember := List.mem_of_find?_eq_some hMarked
      have hMark : member.explicitId = true := List.find?_some hMarked
      rw [← Draft.name_eq_identifierName rfl hIds hMember hMark, find?_of_nodup_map hNames hMember,
        identifyingMember?, hMarked]
      rfl

/-! ## What an entity tells -/

/-- The property tells what the member of a type does. -/
structure Tells (type : TypeDescriptor) (isTerminal : String → Bool) (member : MemberDescriptor)
    (property : Property) : Prop where
  name : property.name = member.name
  owner : property.owner = type.name
  declared : property.declared = member.declared
  association : ∃ inner, Relation.ReflTransGen TypeRef.Contains member.declared (.named inner) ∧
    property.association = !isTerminal inner

/-- The entity tells what the descriptor does: of each member, in order, and which of them
identifies. -/
structure Describes (type : TypeDescriptor) (isTerminal : String → Bool) (entity : Entity) :
    Prop where
  typeName : entity.typeName = type.name
  properties : List.Forall₂ (Tells type isTerminal) type.members entity.properties
  /-- Each property is found by its name. -/
  named : ∀ property ∈ entity.properties, entity.property? property.name = some property
  /-- Nothing is found by another name. -/
  unnamed : ∀ name, name ∉ type.members.map (·.name) → entity.property? name = none
  identifier : entity.identifier?.map (·.name) = (identifyingMember? type.members).map (·.name)
  /-- The identifier is the only property that says to be it. -/
  flagged : ∀ property ∈ entity.properties,
    property.identifier = true ↔ entity.identifier? = some property

private theorem tells_propertyOf (identifier : String) (member : MemberDescriptor) :
    Tells type isTerminal member (propertyOf type.name isTerminal identifier member) :=
  ⟨rfl, rfl, rfl, member.declared.actualName, TypeRef.actualName_eq_iff.mp rfl, rfl⟩

/-- **What the entity of a descriptor tells.** -/
theorem describes_of_ofDescriptor {entity : Entity}
    (hEntity : ofDescriptor type isTerminal = .ok entity) : Describes type isTerminal entity := by
  obtain ⟨_, hNames, hIds⟩ := (ofDescriptor_isOk_iff type isTerminal).mp ⟨entity, hEntity⟩
  have hProperties := TypeSource.eq_of_ofDescriptor hEntity
  generalize hIdentifier : identifierName (explicitIds type.members) = identifier at hProperties
  have hDistinct : (entity.properties.map (·.name)).Nodup := by
    rw [hProperties, List.map_map]
    exact hNames
  have hFlag : ∀ property ∈ entity.properties,
      property.identifier = (property.name == identifier) := by
    rw [hProperties]
    intro property hProperty
    obtain ⟨member, _, rfl⟩ := List.mem_map.mp hProperty
    rfl
  have hFound : entity.identifier? = entity.property? identifier := by
    rw [identifier?, ← List.head?_filter, List.filter_congr hFlag, List.head?_filter, property?]
  refine ⟨by rw [hProperties], ?_, fun property => find?_of_nodup_map hDistinct, ?_, ?_, ?_⟩
  · rw [hProperties, List.forall₂_map_right_iff, List.forall₂_same]
    exact fun member _ => tells_propertyOf identifier member
  · intro name hName
    rw [property?, List.find?_eq_none, hProperties]
    intro property hProperty hSame
    obtain ⟨member, hMember, rfl⟩ := List.mem_map.mp hProperty
    exact hName (List.mem_map.mpr ⟨member, hMember, beq_iff_eq.mp hSame⟩)
  · rw [← find?_identifierName hNames hIds, hIdentifier, hFound, hProperties, property?,
      List.find?_map, Option.map_map]
    rfl
  · intro property hProperty
    rw [hFlag property hProperty, hFound]
    constructor
    · intro hName
      rw [← beq_iff_eq.mp hName]
      exact find?_of_nodup_map hDistinct hProperty
    · intro hSome
      simpa using List.find?_some hSome

/-! ## The check of a descriptor -/

/-- **The check of a descriptor is exact.** An entity is made of a descriptor if it has members, no
name is repeated and no more than one member is marked, and this entity tells what the descriptor
does. Any other descriptor is refused for the first of its defects. A single pass over the members
gives the same entities and errors, and the positions that it keeps lead to the same properties. -/
theorem ofDescriptor_exact (type : TypeDescriptor) (isTerminal : String → Bool) :
    ((∃ entity, ofDescriptor type isTerminal = .ok entity) ↔
        type.members ≠ [] ∧ (type.members.map (·.name)).Nodup ∧
          (explicitIds type.members).length ≤ 1) ∧
      (∀ error, ofDescriptor type isTerminal = .error error ↔ Rejection type error) ∧
      (∀ entity, ofDescriptor type isTerminal = .ok entity → Describes type isTerminal entity) ∧
      (IndexedEntity.ofDescriptor type isTerminal).map (·.entity) = ofDescriptor type isTerminal ∧
      ∀ indexed, IndexedEntity.ofDescriptor type isTerminal = .ok indexed →
        (∀ name, indexed.property? name = indexed.entity.property? name) ∧
          indexed.identifier? = indexed.entity.identifier? := by
  refine ⟨ofDescriptor_isOk_iff type isTerminal, fun _ => ofDescriptor_eq_error_iff,
    fun _ => describes_of_ofDescriptor, IndexedEntity.map_entity_ofDescriptor type isTerminal, ?_⟩
  intro indexed hIndexed
  have hIndexes := IndexedEntity.indexes_of_ofDescriptor hIndexed
  exact ⟨hIndexes.property?_eq, hIndexes.identifier?_eq⟩

/-- An account with a marked number, next to a member that would identify it by convention. -/
def account : TypeDescriptor where
  name := "Account"
  members :=
    [{ name := "id", declared := .named "u64" },
      { name := "number", declared := .named "String", explicitId := true },
      { name := "owners", declared := .collection (.map (.named "String") (.named "Person")) }]

/-- The marked number identifies an account, and the conventional member does not. If all members are
given twice, the first one that repeats a name counts, although two members are marked now. -/
theorem ofDescriptor_exact_account :
    (∃ entity, ofDescriptor account (fun name => name != "Person") = .ok entity ∧
        entity.identifier?.map (·.name) = some "number" ∧
        Describes account (fun name => name != "Person") entity) ∧
      ofDescriptor ⟨"Account", account.members ++ account.members⟩ (fun name => name != "Person") =
        .error (.duplicateProperty "Account" "id") := by
  obtain ⟨hOk, _, hDescribes, _⟩ := ofDescriptor_exact account fun name => name != "Person"
  obtain ⟨entity, hEntity⟩ := hOk.mpr (by decide)
  have hTells := hDescribes entity hEntity
  obtain ⟨_, hErrors, _⟩ := ofDescriptor_exact ⟨"Account", account.members ++ account.members⟩
    fun name => name != "Person"
  refine ⟨⟨entity, hEntity, hTells.identifier.trans (by decide), hTells⟩, ?_⟩
  apply (hErrors _).mpr
  exact @Rejection.duplicateProperty _ account.members account.members.tail
    ⟨"id", .named "u64", false⟩ rfl (by decide) (by decide)

end Entity

end DerivedQuery
