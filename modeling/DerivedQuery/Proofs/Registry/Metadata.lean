import DerivedQuery.Proofs.Metadata
import DerivedQuery.Proofs.Registry.Growth

/-!
# The registry as a source of metadata

Readers rely on one thing only: an entity that they were given once is given again. A registry
keeps this promise, since a published entity is neither removed nor replaced, and whatever it gives
is the entity that the description of the type stands for.

## Main results

* `remembers`: an entity that the registry has given once is given again
* `sourced_of_leads`, `sourced_stateAfter`: in every state that requests lead to, the published
  entities are those of the source
* `member_of_knows`: the properties of known entities are members of described types
-/

namespace DerivedQuery.TypeSource

open Registry

variable {source : TypeSource} {budget : Nat}

/-- What a registry knows is what it has published. -/
theorem knows_iff {state : State} {type : String} {entity : Entity} :
    (source.metadata budget).Knows state type entity ↔
      source.isTerminal type = false ∧ state.slots.get? type = some (.ready entity) := by
  constructor
  · rintro ⟨_, hEntity⟩
    exact entityFor_learns hEntity
  · rintro ⟨hTerminal, hReady⟩
    exact ⟨hTerminal, entityFor_of_ready hTerminal hReady⟩

/-- An entity that the registry has given once is given again. -/
theorem remembers (source : TypeSource) (budget : Nat) : (source.metadata budget).Remembers where
  learns _ hEntity := knows_iff.mpr (entityFor_learns hEntity)
  keeps name hKnows := by
    obtain ⟨hTerminal, hReady⟩ := knows_iff.mp hKnows
    exact knows_iff.mpr ⟨hTerminal, (entityFor_grows budget name _).slots _ _ hReady⟩

theorem sourced_of_leads {before after : State}
    (hLeads : (source.metadata budget).Leads before after) (hSourced : source.Sourced before.slots) :
    source.Sourced after.slots :=
  hLeads.preserves (P := fun state => source.Sourced state.slots)
    (fun name state => (entityFor_grows budget name state).sourced) hSourced

/-! ## States of a registry -/

/-- The state of a registry that started empty, after some requests in order. -/
def stateAfter (source : TypeSource) (budget : Nat) (requests : List String) : State :=
  requests.foldl (fun state name => (source.entityFor budget name state).2) {}

theorem leads_foldl (requests : List String) (state : State) :
    (source.metadata budget).Leads state
      (requests.foldl (fun state name => (source.entityFor budget name state).2) state) := by
  induction requests generalizing state with
  | nil => exact .refl state
  | cons name rest ih => exact (Metadata.Leads.entityFor name state).trans (ih _)

theorem sourced_nil (source : TypeSource) : source.Sourced [] := by
  intro name entity hReady
  simp [Slots.get?] at hReady

theorem sourced_stateAfter (source : TypeSource) (budget : Nat) (requests : List String) :
    source.Sourced (source.stateAfter budget requests).slots :=
  sourced_of_leads (leads_foldl requests {}) (sourced_nil source)

/-! ## Described members -/

/-- What an entity is made of. -/
theorem eq_of_ofDescriptor {type : TypeDescriptor} {isTerminal : String → Bool} {entity : Entity}
    (hEntity : Entity.ofDescriptor type isTerminal = .ok entity) :
    entity =
      { typeName := type.name
        properties := type.members.map (Entity.propertyOf type.name isTerminal
          (Entity.identifierName (Entity.explicitIds type.members))) } := by
  unfold Entity.ofDescriptor at hEntity
  split at hEntity
  · simp at hEntity
  · split at hEntity
    · simp at hEntity
    · simp at hEntity
    · exact (Except.ok.inj hEntity).symm

private theorem member_of_ofDescriptor {type : TypeDescriptor} {isTerminal : String → Bool}
    {entity : Entity}
    (hEntity : Entity.ofDescriptor type isTerminal = .ok entity) {property : Property}
    (hProperty : property ∈ entity.properties) :
    ∃ member ∈ type.members, property.name = member.name := by
  rw [eq_of_ofDescriptor hEntity] at hProperty
  obtain ⟨member, hMember, rfl⟩ := List.mem_map.mp hProperty
  exact ⟨member, hMember, rfl⟩

/-- A property leads to another entity exactly if the type it ends in is no leaf value. -/
theorem association_of_ofDescriptor {type : TypeDescriptor} {isTerminal : String → Bool}
    {entity : Entity} (hEntity : Entity.ofDescriptor type isTerminal = .ok entity)
    {property : Property} (hProperty : property ∈ entity.properties) :
    property.association = !isTerminal property.actualType := by
  rw [eq_of_ofDescriptor hEntity] at hProperty
  obtain ⟨member, _, rfl⟩ := List.mem_map.mp hProperty
  rfl

/-- A description that passes the check is the one of the type. -/
theorem ofDescriptor_of_check {name : String} {description : Option TypeDescriptor} {entity : Entity}
    (hCheck : source.check name description = .ok entity) :
    ∃ type, description = some type ∧ type.name = name ∧
      Entity.ofDescriptor type source.isTerminal = .ok entity := by
  unfold check at hCheck
  split at hCheck
  · simp at hCheck
  · split at hCheck
    · exact ⟨_, rfl, ‹_›, hCheck⟩
    · simp at hCheck

/-- What can be wrong with one type: it is not described, or described under another name, or no
entity can be made of its members. -/
theorem check_error_cases {name : String} {description : Option TypeDescriptor}
    {error : MetadataError} (hCheck : source.check name description = .error error) :
    error = .undescribable name ∨ (∃ described, error = .typeMismatch name described) ∨
      error = .noProperties name ∨ (∃ property, error = .duplicateProperty name property) ∨
      ∃ candidates, error = .ambiguousIdentifier name candidates := by
  unfold check at hCheck
  split at hCheck
  · simp only [Except.error.injEq] at hCheck
    exact Or.inl hCheck.symm
  · split at hCheck
    · rename_i hName
      rw [← hName]
      unfold Entity.ofDescriptor at hCheck
      split at hCheck
      · simp only [Except.error.injEq] at hCheck
        exact Or.inr (Or.inr (Or.inl hCheck.symm))
      · split at hCheck
        · simp only [Except.error.injEq] at hCheck
          exact Or.inr (Or.inr (Or.inr (Or.inl ⟨_, hCheck.symm⟩)))
        · simp only [Except.error.injEq] at hCheck
          exact Or.inr (Or.inr (Or.inr (Or.inr ⟨_, hCheck.symm⟩)))
        · simp at hCheck
    · simp only [Except.error.injEq] at hCheck
      exact Or.inr (Or.inl ⟨_, hCheck.symm⟩)

/-- A defect is attributed to the type that was checked. -/
theorem typeName_of_check_error {name : String} {description : Option TypeDescriptor}
    {error : MetadataError} (hCheck : source.check name description = .error error) :
    error.typeName = name := by
  rcases check_error_cases hCheck with rfl | ⟨_, rfl⟩ | rfl | ⟨_, rfl⟩ | ⟨_, rfl⟩ <;> rfl

/-- The properties of known entities are members of described types. -/
theorem member_of_knows {state : State} (hSourced : source.Sourced state.slots) {name : String}
    {entity : Entity} (hKnows : (source.metadata budget).Knows state name entity)
    {property : Property} (hProperty : property ∈ entity.properties) :
    ∃ type, source.describe? name = some type ∧
      ∃ member ∈ type.members, property.name = member.name := by
  obtain ⟨type, hDescribed, _, hEntity⟩ :=
    ofDescriptor_of_check (hSourced name entity (knows_iff.mp hKnows).2)
  exact ⟨type, hDescribed, member_of_ofDescriptor hEntity hProperty⟩

end DerivedQuery.TypeSource
