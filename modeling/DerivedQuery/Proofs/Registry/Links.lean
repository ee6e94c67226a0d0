import DerivedQuery.Proofs.Registry.Metadata
import Mathlib.Data.List.Basic
import Mathlib.Logic.Relation

/-!
# The graph of described types

A type is linked to the types of its members, terminal types aside. It is *locally valid* if its
description can be made into an entity: it answers under the requested name, it has members, their
names are distinct, and at most one of them is marked as the identifier. Whether an entity can be
built from a type depends on every type that it reaches: a type is *doomed* if it reaches one that
is not locally valid.

## Main results

* `locallyValid_iff`: local validity is what the check of a description asks for
* `links_iff`: the links of a checked type are the associations of its entity
-/

namespace DerivedQuery

/-! ## What a description must satisfy -/

theorem firstRepeated?_go_eq_none_iff (seen : List String) (members : List MemberDescriptor) :
    Entity.firstRepeated?.go seen members = none ↔
      (members.map (·.name)).Nodup ∧ ∀ member ∈ members, member.name ∉ seen := by
  induction members generalizing seen with
  | nil => simp [Entity.firstRepeated?.go]
  | cons member rest ih =>
      rw [Entity.firstRepeated?.go]
      by_cases hSeen : member.name ∈ seen
      · simp [hSeen]
      · have hContains : seen.contains member.name = false := by simpa using hSeen
        rw [hContains]
        simp only [Bool.false_eq_true, if_false, ih, List.map_cons, List.nodup_cons, List.mem_map,
          List.mem_cons, not_or, forall_eq_or_imp]
        constructor
        · rintro ⟨hRest, hNames⟩
          refine ⟨⟨?_, hRest⟩, hSeen, fun other hOther => (hNames other hOther).2⟩
          rintro ⟨other, hOther, hSame⟩
          exact (hNames other hOther).1 hSame
        · rintro ⟨⟨hFirst, hRest⟩, _, hNames⟩
          exact ⟨hRest, fun other hOther =>
            ⟨fun hSame => hFirst ⟨other, hOther, hSame⟩, hNames other hOther⟩⟩

theorem firstRepeated?_eq_none_iff (members : List MemberDescriptor) :
    Entity.firstRepeated? members = none ↔ (members.map (·.name)).Nodup := by
  rw [Entity.firstRepeated?, firstRepeated?_go_eq_none_iff]
  simp

/-- The descriptions that an entity can be made of. -/
theorem ofDescriptor_isOk_iff (type : TypeDescriptor) (isTerminal : String → Bool) :
    (∃ entity, Entity.ofDescriptor type isTerminal = .ok entity) ↔
      type.members ≠ [] ∧ (type.members.map (·.name)).Nodup ∧
        (Entity.explicitIds type.members).length ≤ 1 := by
  rw [← firstRepeated?_eq_none_iff]
  unfold Entity.ofDescriptor
  by_cases hMembers : type.members = []
  · simp [hMembers]
  · have hSome : type.members.isEmpty = false := by simpa using hMembers
    rw [hSome]
    cases Entity.firstRepeated? type.members with
    | some member => simp
    | none =>
        cases Entity.explicitIds type.members with
        | nil => simp [hMembers]
        | cons first more =>
            cases more with
            | nil => simp [hMembers]
            | cons second others => simp

namespace TypeSource

variable {source : TypeSource}

/-- The description answers under the requested name, and an entity can be made of it. -/
def LocallyValid (source : TypeSource) (name : String) : Prop :=
  ∃ type, source.describe? name = some type ∧ type.name = name ∧ type.members ≠ [] ∧
    (type.members.map (·.name)).Nodup ∧ (Entity.explicitIds type.members).length ≤ 1

/-- Local validity is what the check of a description asks for. -/
theorem locallyValid_iff {name : String} :
    source.LocallyValid name ↔ ∃ entity, source.check name (source.describe? name) = .ok entity := by
  constructor
  · rintro ⟨type, hType, hName, hRest⟩
    obtain ⟨entity, hEntity⟩ := (ofDescriptor_isOk_iff type source.isTerminal).mpr hRest
    exact ⟨entity, by rw [hType, check, if_pos hName, hEntity]⟩
  · rintro ⟨entity, hCheck⟩
    obtain ⟨type, hType, hName, hEntity⟩ := ofDescriptor_of_check hCheck
    exact ⟨type, hType, hName, (ofDescriptor_isOk_iff type source.isTerminal).mp ⟨entity, hEntity⟩⟩

/-! ## Links -/

/-- A member of the first type leads to the second one, which is no leaf value. -/
def Links (source : TypeSource) (first second : String) : Prop :=
  ∃ type, source.describe? first = some type ∧
    ∃ member ∈ type.members, member.declared.actualName = second ∧ source.isTerminal second = false

/-- The second type can be reached from the first one. -/
def Reaches (source : TypeSource) : String → String → Prop :=
  Relation.ReflTransGen source.Links

/-- The type reaches one of which no entity can be made. -/
def Doomed (source : TypeSource) (name : String) : Prop :=
  ∃ other, source.Reaches name other ∧ ¬source.LocallyValid other

theorem doomed_of_not_locallyValid {name : String} (hName : ¬source.LocallyValid name) :
    source.Doomed name :=
  ⟨name, .refl, hName⟩

theorem doomed_of_links {first second : String} (hLinks : source.Links first second)
    (hSecond : source.Doomed second) : source.Doomed first := by
  obtain ⟨other, hReaches, hOther⟩ := hSecond
  exact ⟨other, .head hLinks hReaches, hOther⟩

private theorem associations_of_ofDescriptor {type : TypeDescriptor} {isTerminal : String → Bool}
    {entity : Entity} (hEntity : Entity.ofDescriptor type isTerminal = .ok entity) {target : String} :
    (∃ property ∈ entity.associations, property.actualType = target) ↔
      ∃ member ∈ type.members, member.declared.actualName = target ∧ isTerminal target = false := by
  rw [eq_of_ofDescriptor hEntity, Entity.associations]
  simp only [List.mem_filter, List.mem_map]
  constructor
  · rintro ⟨property, ⟨⟨member, hMember, rfl⟩, hAssociation⟩, rfl⟩
    exact ⟨member, hMember, rfl, by
      simpa [Entity.propertyOf, Property.actualType] using hAssociation⟩
  · rintro ⟨member, hMember, rfl, hTerminal⟩
    exact ⟨_, ⟨⟨member, hMember, rfl⟩, by simpa [Entity.propertyOf] using hTerminal⟩, rfl⟩

/-- The links of a checked type are the associations of its entity. -/
theorem links_iff {name : String} {entity : Entity}
    (hCheck : source.check name (source.describe? name) = .ok entity) {target : String} :
    source.Links name target ↔ ∃ property ∈ entity.associations, property.actualType = target := by
  obtain ⟨type, hType, _, hEntity⟩ := ofDescriptor_of_check hCheck
  rw [associations_of_ofDescriptor hEntity, Links]
  constructor
  · rintro ⟨other, hOther, hMember⟩
    rw [hType, Option.some.injEq] at hOther
    rw [hOther]
    exact hMember
  · intro hMember
    exact ⟨type, hType, hMember⟩

end TypeSource

end DerivedQuery
