import DerivedQuery.Proofs.Registry.Blame
import Mathlib.Data.List.Basic

/-!
# Entities in one pass

`Entity.ofDescriptor` looks at the members of a type several times: for a repeated name, for the
marked members and for the properties. One pass is enough. It appends a property for each member,
keeps the position of each name, so that a repeated one is found as soon as it is met, and collects
the names of the marked members. The identifier is known only at the end of the pass. A marked
property already says that it is the identifier; a property that serves by convention is told so
afterwards, at its position.

What the pass has gathered from the members so far is the same as what they give when they are looked
at as a whole, and one more member keeps this. So the pass refuses the same types for the same
reasons, and gives the same entities. With the positions at hand, properties are found by name
without a search.

## Main definitions

* `Draft`, `Draft.add`, `Draft.addAll`: what the pass has gathered
* `IndexedEntity`, `IndexedEntity.ofDescriptor`: an entity with the positions of its properties

## Main results

* `Draft.Gathers.add`, `Draft.addAll_cases`: one more member, and all of them
* `IndexedEntity.map_entity_ofDescriptor`: the pass gives the entity of the descriptor
* `IndexedEntity.Indexes.property?_eq`, `IndexedEntity.Indexes.identifier?_eq`: positions lead to
  what a search finds
-/

namespace DerivedQuery

/-! ## The pass -/

/-- What has been gathered from some members: their properties in order, the position of each name,
and the names of the marked ones. -/
structure Draft where
  properties : List Property := []
  positions : List (String × Nat) := []
  marked : List String := []
deriving Repr

namespace Draft

/-- The property of a member, as long as only marked members identify their owner. -/
def propertyOf (owner : String) (isTerminal : String → Bool) (member : MemberDescriptor) :
    Property :=
  { name := member.name
    owner
    declared := member.declared
    association := !isTerminal member.declared.actualName
    identifier := member.explicitId }

def position? (draft : Draft) (name : String) : Option Nat :=
  draft.positions.lookup name

/-- Adds a member, unless its name has a position already. -/
def add (owner : String) (isTerminal : String → Bool) (draft : Draft) (member : MemberDescriptor) :
    Except MetadataError Draft :=
  if (draft.position? member.name).isSome then
    .error (.duplicateProperty owner member.name)
  else
    .ok
      { properties := draft.properties ++ [propertyOf owner isTerminal member]
        positions := (member.name, draft.properties.length) :: draft.positions
        marked := if member.explicitId then draft.marked ++ [member.name] else draft.marked }

/-- Adds members one after the other. -/
def addAll (owner : String) (isTerminal : String → Bool) :
    Draft → List MemberDescriptor → Except MetadataError Draft
  | draft, [] => .ok draft
  | draft, member :: rest => do
      let next ← draft.add owner isTerminal member
      next.addAll owner isTerminal rest

/-- The position of the identifier. -/
def identify (owner : String) (draft : Draft) : Except MetadataError (Option Nat) :=
  match draft.marked with
  | [] => .ok (draft.position? conventionalId)
  | [name] => .ok (draft.position? name)
  | candidates => .error (.ambiguousIdentifier owner candidates)

/-- Tells the property at a position that it is the identifier. -/
def markAt (position : Option Nat) (properties : List Property) : List Property :=
  match position with
  | none => properties
  | some position =>
      properties.modify position fun property => { property with identifier := true }

end Draft

/-- An entity with the positions of its properties and of its identifier. -/
structure IndexedEntity where
  entity : Entity
  positions : List (String × Nat)
  identifier : Option Nat
deriving Repr

namespace IndexedEntity

/-- Checks a descriptor and classifies its members in one pass. -/
def ofDescriptor (type : TypeDescriptor) (isTerminal : String → Bool) :
    Except MetadataError IndexedEntity :=
  if type.members.isEmpty then
    .error (.noProperties type.name)
  else do
    let draft ← Draft.addAll type.name isTerminal {} type.members
    let identifier ← draft.identify type.name
    return ⟨⟨type.name, Draft.markAt identifier draft.properties⟩, draft.positions, identifier⟩

/-- The property at the position of a name. -/
def property? (indexed : IndexedEntity) (name : String) : Option Property :=
  (indexed.positions.lookup name).bind (indexed.entity.properties[·]?)

/-- The property at the position of the identifier. -/
def identifier? (indexed : IndexedEntity) : Option Property :=
  indexed.identifier.bind (indexed.entity.properties[·]?)

end IndexedEntity

/-! ## What the pass has gathered -/

namespace Draft

variable {owner : String} {isTerminal : String → Bool} {draft : Draft}
  {members : List MemberDescriptor}

/-- The draft holds what these members give when they are looked at as a whole. -/
structure Gathers (owner : String) (isTerminal : String → Bool) (members : List MemberDescriptor)
    (draft : Draft) : Prop where
  properties : draft.properties = members.map (propertyOf owner isTerminal)
  position? : ∀ name, draft.position? name = members.findIdx? (·.name == name)
  marked : draft.marked = Entity.explicitIds members

private theorem gathers_nil (owner : String) (isTerminal : String → Bool) :
    Gathers owner isTerminal [] {} :=
  ⟨rfl, fun _ => rfl, rfl⟩

/-- Exactly the names of the members have positions. -/
theorem Gathers.isSome_position? (hDraft : Gathers owner isTerminal members draft) {name : String} :
    (draft.position? name).isSome = true ↔ name ∈ members.map (·.name) := by
  rw [hDraft.position?, List.findIdx?_isSome, List.any_eq_true, List.mem_map]
  simp

/-- **One more member** with a name of its own. -/
theorem Gathers.add (hDraft : Gathers owner isTerminal members draft) {member : MemberDescriptor}
    (hFresh : member.name ∉ members.map (·.name)) :
    ∃ next, draft.add owner isTerminal member = .ok next ∧
      Gathers owner isTerminal (members ++ [member]) next := by
  have hNone : ¬(draft.position? member.name).isSome = true :=
    fun hSome => hFresh (hDraft.isSome_position?.mp hSome)
  rw [Draft.add, if_neg hNone]
  refine ⟨_, rfl, ?_, fun name => ?_, ?_⟩
  · rw [hDraft.properties, List.map_append, List.map_singleton]
  · have hLength : draft.properties.length = members.length := by
      rw [hDraft.properties, List.length_map]
    have hPosition := hDraft.position? name
    rw [Draft.position?] at hPosition
    rw [Draft.position?, List.lookup_cons, hPosition, List.findIdx?_append, List.findIdx?_singleton,
      hLength]
    cases hSame : name == member.name with
    | true =>
        -- no member before has this name
        have hBefore : members.findIdx? (·.name == name) = none := by
          rw [List.findIdx?_eq_none_iff, beq_iff_eq.mp hSame]
          intro other hOther
          rw [beq_eq_false_iff_ne]
          exact fun hName => hFresh (List.mem_map.mpr ⟨other, hOther, hName⟩)
        rw [hBefore, beq_iff_eq.mp hSame]
        simp
    | false =>
        have hOther : (member.name == name) = false := by
          rw [beq_eq_false_iff_ne] at hSame ⊢
          exact hSame.symm
        rw [hOther]
        simp
  · rw [hDraft.marked, Entity.explicitIds, Entity.explicitIds, List.filter_append, List.map_append,
      List.filter_cons, List.filter_nil]
    cases member.explicitId <;> simp

/-- A member whose name has a position is refused. -/
theorem Gathers.add_repeated (hDraft : Gathers owner isTerminal members draft)
    {member : MemberDescriptor} (hRepeated : member.name ∈ members.map (·.name)) :
    draft.add owner isTerminal member = .error (.duplicateProperty owner member.name) := by
  rw [Draft.add, if_pos (hDraft.isSome_position?.mpr hRepeated)]

/-- **All members**: the pass stops at the first one that repeats a name, and gathers everything if
there is none. -/
theorem addAll_cases (hDraft : Gathers owner isTerminal members draft) {seen : List String}
    (hSeen : ∀ name, name ∈ seen ↔ name ∈ members.map (·.name)) (rest : List MemberDescriptor) :
    (∃ member, Entity.firstRepeated?.go seen rest = some member ∧
      draft.addAll owner isTerminal rest = .error (.duplicateProperty owner member.name)) ∨
    (Entity.firstRepeated?.go seen rest = none ∧
      ∃ next, draft.addAll owner isTerminal rest = .ok next ∧
        Gathers owner isTerminal (members ++ rest) next) := by
  induction rest generalizing members draft seen with
  | nil => exact Or.inr ⟨rfl, draft, rfl, by rw [List.append_nil]; exact hDraft⟩
  | cons member rest ih =>
      rw [Entity.firstRepeated?.go, addAll]
      by_cases hRepeated : member.name ∈ members.map (·.name)
      · have hContains : seen.contains member.name = true := by
          simpa using (hSeen member.name).mpr hRepeated
        rw [hContains, hDraft.add_repeated hRepeated]
        exact Or.inl ⟨member, rfl, rfl⟩
      · have hContains : seen.contains member.name = false := by
          simpa using mt (hSeen member.name).mp hRepeated
        obtain ⟨next, hAdd, hNext⟩ := hDraft.add hRepeated
        have hNames : ∀ name, name ∈ member.name :: seen ↔
            name ∈ (members ++ [member]).map (·.name) := by
          intro name
          rw [List.mem_cons, hSeen, List.map_append, List.mem_append, List.map_singleton,
            List.mem_singleton, or_comm]
        have hRest := ih hNext hNames
        rw [List.append_assoc, List.singleton_append] at hRest
        rw [hContains, hAdd]
        exact hRest

end Draft

/-! ## The identifier -/

namespace Draft

variable {owner : String} {isTerminal : String → Bool} {members : List MemberDescriptor}

/-- Once the property at the position of the identifier is told so, the properties are those of the
entity, provided that no other member is marked. -/
theorem markAt_eq {identifier : String} (hNames : (members.map (·.name)).Nodup)
    (hMarked : ∀ member ∈ members, member.explicitId = true → member.name = identifier) :
    markAt (members.findIdx? (·.name == identifier)) (members.map (propertyOf owner isTerminal)) =
      members.map (Entity.propertyOf owner isTerminal identifier) := by
  induction members with
  | nil => rfl
  | cons member rest ih =>
      obtain ⟨hFirst, hRest⟩ := List.nodup_cons.mp hNames
      have hLater : ∀ other ∈ rest, other.explicitId = true → other.name = identifier :=
        fun other hOther => hMarked other (List.mem_cons_of_mem member hOther)
      have hBehind := ih hRest hLater
      rw [List.findIdx?_cons, List.map_cons, List.map_cons]
      cases hHere : member.name == identifier with
      | true =>
          -- the others have other names, so none of them is marked
          have hUnmarked : ∀ other ∈ rest, propertyOf owner isTerminal other =
              Entity.propertyOf owner isTerminal identifier other := by
            intro other hOther
            have hName : other.name ≠ identifier := by
              rw [← beq_iff_eq.mp hHere]
              exact fun hSame => hFirst (List.mem_map.mpr ⟨other, hOther, hSame⟩)
            have hMark : other.explicitId = false := by
              rw [Bool.eq_false_iff]
              exact fun hMark => hName (hLater other hOther hMark)
            rw [propertyOf, Entity.propertyOf, hMark, beq_eq_false_iff_ne.mpr hName]
          rw [if_pos rfl, markAt, List.modify_zero_cons, List.map_congr_left hUnmarked]
          simp [propertyOf, Entity.propertyOf, hHere]
      | false =>
          have hMark : member.explicitId = false := by
            rw [Bool.eq_false_iff]
            intro hMark
            rw [beq_eq_false_iff_ne] at hHere
            exact hHere (hMarked member List.mem_cons_self hMark)
          have hHead : propertyOf owner isTerminal member =
              Entity.propertyOf owner isTerminal identifier member := by
            rw [propertyOf, Entity.propertyOf, hMark, hHere]
          rw [if_neg Bool.false_ne_true, hHead, ← hBehind]
          cases rest.findIdx? (·.name == identifier) <;> rfl

/-- If no more than one member is marked, all marked members have the name of the identifier. -/
theorem name_eq_identifierName {identifiers : List String}
    (hIds : Entity.explicitIds members = identifiers) (hOne : identifiers.length ≤ 1)
    {member : MemberDescriptor} (hMember : member ∈ members) (hMark : member.explicitId = true) :
    member.name = Entity.identifierName identifiers := by
  have hName : member.name ∈ identifiers := by
    rw [← hIds]
    exact List.mem_map_of_mem (List.mem_filter.mpr ⟨hMember, hMark⟩)
  cases identifiers with
  | nil => exact absurd hName List.not_mem_nil
  | cons name more =>
      obtain rfl : more = [] := by simpa using hOne
      exact List.mem_singleton.mp hName

/-- The position of the identifier is that of its name, if it is not ambiguous. -/
theorem Gathers.identify_eq {draft : Draft} (hDraft : Gathers owner isTerminal members draft) :
    draft.identify owner =
      if (Entity.explicitIds members).length ≤ 1 then
        .ok (members.findIdx? (·.name == Entity.identifierName (Entity.explicitIds members)))
      else
        .error (.ambiguousIdentifier owner (Entity.explicitIds members)) := by
  rw [identify, hDraft.marked]
  rcases Entity.explicitIds members with _ | ⟨name, _ | ⟨second, more⟩⟩
  · simp [Entity.identifierName, hDraft.position?]
  · simp [Entity.identifierName, hDraft.position?]
  · simp

end Draft

/-! ## The pass gives the entity of the descriptor -/

namespace IndexedEntity

variable {type : TypeDescriptor} {isTerminal : String → Bool}

/-- What is known of a descriptor that passes: the entity, the position of each name, and that of the
identifier. -/
structure Indexes (type : TypeDescriptor) (isTerminal : String → Bool) (indexed : IndexedEntity) :
    Prop where
  names : (type.members.map (·.name)).Nodup
  entity : Entity.ofDescriptor type isTerminal = .ok indexed.entity
  position? : ∀ name, indexed.positions.lookup name = type.members.findIdx? (·.name == name)
  identifier : indexed.identifier = type.members.findIdx?
    (·.name == Entity.identifierName (Entity.explicitIds type.members))

/-- A descriptor with distinct names is refused if several members are marked. -/
theorem ofDescriptor_of_ambiguous (hMembers : type.members.isEmpty = false)
    (hNames : (type.members.map (·.name)).Nodup)
    (hIds : ¬(Entity.explicitIds type.members).length ≤ 1) :
    Entity.ofDescriptor type isTerminal =
      .error (.ambiguousIdentifier type.name (Entity.explicitIds type.members)) := by
  rw [Entity.ofDescriptor, hMembers, (firstRepeated?_eq_none_iff type.members).mpr hNames]
  rcases hExplicit : Entity.explicitIds type.members with _ | ⟨name, _ | ⟨second, more⟩⟩
  · simp [hExplicit] at hIds
  · simp [hExplicit] at hIds
  · rfl

/-- The pass fails as the check of the whole does, or gives the entity with its positions. -/
theorem ofDescriptor_cases (type : TypeDescriptor) (isTerminal : String → Bool) :
    (∃ error, ofDescriptor type isTerminal = .error error ∧
      Entity.ofDescriptor type isTerminal = .error error) ∨
    ∃ indexed, ofDescriptor type isTerminal = .ok indexed ∧ Indexes type isTerminal indexed := by
  unfold ofDescriptor
  cases hEmpty : type.members.isEmpty with
  | true => exact Or.inl ⟨_, rfl, by simp [Entity.ofDescriptor, hEmpty]⟩
  | false =>
      have hSeen : ∀ name, name ∈ ([] : List String) ↔
          name ∈ ([] : List MemberDescriptor).map (·.name) := by simp
      rcases Draft.addAll_cases (Draft.gathers_nil type.name isTerminal) hSeen type.members with
        ⟨member, hRepeated, hAll⟩ | ⟨hNone, draft, hAll, hDraft⟩
      · have hFirst : Entity.firstRepeated? type.members = some member := hRepeated
        refine Or.inl ⟨.duplicateProperty type.name member.name, ?_, ?_⟩
        · rw [hAll]
          rfl
        · simp [Entity.ofDescriptor, hEmpty, hFirst]
      · have hFirst : Entity.firstRepeated? type.members = none := hNone
        have hNames := (firstRepeated?_eq_none_iff type.members).mp hFirst
        rw [List.nil_append] at hDraft
        rw [hAll]
        by_cases hOne : (Entity.explicitIds type.members).length ≤ 1
        · have hIdentify := hDraft.identify_eq
          rw [if_pos hOne] at hIdentify
          have hMembers : type.members ≠ [] := by simpa using hEmpty
          obtain ⟨entity, hEntity⟩ :=
            (ofDescriptor_isOk_iff type isTerminal).mpr ⟨hMembers, hNames, hOne⟩
          have hMarked : Draft.markAt (type.members.findIdx?
              (·.name == Entity.identifierName (Entity.explicitIds type.members)))
              draft.properties = entity.properties := by
            rw [TypeSource.eq_of_ofDescriptor hEntity, hDraft.properties]
            exact Draft.markAt_eq hNames fun _ => Draft.name_eq_identifierName rfl hOne
          have hName : type.name = entity.typeName := by
            rw [TypeSource.eq_of_ofDescriptor hEntity]
          refine Or.inr ⟨⟨entity, draft.positions, _⟩, ?_, hNames, hEntity, hDraft.position?, rfl⟩
          simp only [bind, Except.bind, hIdentify, hMarked]
          rw [hName]
          rfl
        · have hIdentify := hDraft.identify_eq
          rw [if_neg hOne] at hIdentify
          refine Or.inl ⟨.ambiguousIdentifier type.name (Entity.explicitIds type.members), ?_,
            ofDescriptor_of_ambiguous hEmpty hNames hOne⟩
          simp only [bind, Except.bind, hIdentify]
          rfl

/-- **The pass gives the entity of the descriptor**, and refuses what the check refuses. -/
theorem map_entity_ofDescriptor (type : TypeDescriptor) (isTerminal : String → Bool) :
    (ofDescriptor type isTerminal).map (·.entity) = Entity.ofDescriptor type isTerminal := by
  rcases ofDescriptor_cases type isTerminal with ⟨error, hPass, hCheck⟩ | ⟨indexed, hPass, hIndexed⟩
  · rw [hPass, hCheck]
    rfl
  · rw [hPass, hIndexed.entity]
    rfl

theorem indexes_of_ofDescriptor {indexed : IndexedEntity}
    (hIndexed : ofDescriptor type isTerminal = .ok indexed) : Indexes type isTerminal indexed := by
  rcases ofDescriptor_cases type isTerminal with ⟨error, hPass, _⟩ | ⟨other, hPass, hOther⟩
  · rw [hPass] at hIndexed
    simp at hIndexed
  · rw [hPass, Except.ok.injEq] at hIndexed
    exact hIndexed ▸ hOther

/-- The position of a name leads to what a search for the name finds. -/
theorem Indexes.property?_eq {indexed : IndexedEntity} (hIndexed : Indexes type isTerminal indexed)
    (name : String) : indexed.property? name = indexed.entity.property? name := by
  have hProperties := TypeSource.eq_of_ofDescriptor hIndexed.entity
  rw [property?, Entity.property?, hIndexed.position?, List.find?_eq_bind_findIdx?_getElem?, hProperties,
    List.findIdx?_map]
  rfl

/-- The position of the identifier leads to what a search for the identifier finds. -/
theorem Indexes.identifier?_eq {indexed : IndexedEntity}
    (hIndexed : Indexes type isTerminal indexed) :
    indexed.identifier? = indexed.entity.identifier? := by
  have hProperties := TypeSource.eq_of_ofDescriptor hIndexed.entity
  rw [identifier?, Entity.identifier?, hIndexed.identifier, List.find?_eq_bind_findIdx?_getElem?,
    hProperties, List.findIdx?_map]
  rfl

end IndexedEntity

end DerivedQuery
