import DerivedQuery.Proofs.Registry.Walk

/-!
# Exactness of a request

In a settled state nothing is under construction, and the published types are closed under their
associations. A request in such a state is decided by the graph of described types alone: it
succeeds if and only if every type that is reachable from the requested one is locally valid, and
then it publishes what is reachable and not yet published, describing each such type once. The new
state is settled again.

The walk itself says less, since in the midst of it a published type may have an association to a
pending one (`Linked`). But the slots that it leaves behind are ready ones, so that after the
outermost construction a slot for every target is as much as closure.

## Main results

* `entityFor_visits`: a request for a type without a slot is a visit
* `Settled.ready_of_reaches`: what a published type reaches is published
* `Registry.entityFor_exact`: when a request succeeds, and what it has done then
-/

namespace DerivedQuery.TypeSource

open Registry

variable {source : TypeSource}

/-! ## Requests for a type without a slot -/

theorem entityFor_of_none {budget : Nat} {name : String} {state : State}
    (hTerminal : source.isTerminal name = false) (hNone : state.slots.get? name = none) :
    source.entityFor budget name state =
      source.construct budget name (state.onSlots (·.claim name soleBuilder)) := by
  simp [entityFor, requestWith, hTerminal, hNone]

/-- No names are more than the budget, so it lasts. -/
theorem undiscovered_lt {names : List String} {budget : Nat} (hLength : names.length < budget)
    (slots : Slots) : undiscovered names slots < budget :=
  Nat.lt_of_le_of_lt List.countP_le_length hLength

/-- A request for a type without a slot is a visit. -/
theorem entityFor_visits (hPassive : source.Passive) {names : List String}
    (hNames : source.LinksInto names) {budget : Nat} (hLength : names.length < budget)
    {name : String} {state : State} (hTerminal : source.isTerminal name = false)
    (hNone : state.slots.get? name = none) :
    source.Visits name state (source.entityFor budget name state) := by
  rw [entityFor_of_none hTerminal hNone]
  exact construct_visits hPassive hNames budget hNone (undiscovered_lt hLength _)

/-- A request does not depend on how much more than enough its budget is. -/
theorem entityFor_eq_of_le (hPassive : source.Passive) {names : List String}
    (hNames : source.LinksInto names) {budget larger : Nat} (hLength : names.length < budget)
    (hLarger : budget ≤ larger) (name : String) (state : State) :
    source.entityFor larger name state = source.entityFor budget name state := by
  unfold entityFor requestWith
  split
  · rfl
  · split
    · rfl
    · rfl
    · exact construct_eq_of_undiscovered_lt hPassive hNames (undiscovered_lt hLength _) hLarger

/-! ## Settled states -/

/-- No type is under construction. -/
def NothingPending (slots : Slots) : Prop :=
  ∀ name builder, slots.get? name ≠ some (.pending builder)

/-- The association of a published type leads to a published type. -/
def Closed (slots : Slots) : Prop :=
  ∀ name entity, slots.get? name = some (.ready entity) →
    ∀ property ∈ entity.associations, slots.isReady property.actualType = true

/-- Nothing is under construction, each published entity is the one that the description of its type
stands for, and associations of published types can be followed. -/
structure Settled (source : TypeSource) (slots : Slots) : Prop where
  nothingPending : NothingPending slots
  sourced : source.Sourced slots
  closed : Closed slots

theorem isReady_iff {slots : Slots} {name : String} :
    slots.isReady name = true ↔ ∃ entity, slots.get? name = some (.ready entity) := by
  unfold Slots.isReady
  cases slots.get? name with
  | none => simp
  | some slot => cases slot <;> simp [Slot.entity?]

theorem NothingPending.isReady_of_isSome {slots : Slots} (hNothing : NothingPending slots)
    {name : String} (hSlot : (slots.get? name).isSome = true) : slots.isReady name = true := by
  rw [isReady_iff]
  cases hGet : slots.get? name with
  | none =>
      rw [hGet] at hSlot
      simp at hSlot
  | some slot =>
      cases slot with
      | pending builder => exact absurd hGet (hNothing name builder)
      | ready entity => exact ⟨entity, rfl⟩

theorem NothingPending.isReady_eq_false_iff {slots : Slots} (hNothing : NothingPending slots)
    {name : String} : slots.isReady name = false ↔ slots.get? name = none := by
  constructor
  · intro hReady
    by_contra hSlot
    rw [← ne_eq, ← Option.isSome_iff_ne_none] at hSlot
    rw [hNothing.isReady_of_isSome hSlot] at hReady
    simp at hReady
  · intro hNone
    simp [Slots.isReady, hNone]

/-- Without a type under construction, links from published types that have slots are closure. -/
theorem closed_of_linked {slots : Slots} (hNothing : NothingPending slots)
    (hSourced : source.Sourced slots) (hLinked : source.Linked (fun _ => False) slots) :
    Closed slots := by
  intro name entity hReady property hProperty
  have hLinks := (links_iff (hSourced name entity hReady)).mpr ⟨property, hProperty, rfl⟩
  have hSlot := (hLinked name entity property.actualType hReady hLinks).resolve_right id
  exact hNothing.isReady_of_isSome hSlot

theorem settled_nil (source : TypeSource) : source.Settled [] :=
  ⟨fun _ _ => by simp [Slots.get?], sourced_nil source, fun _ _ => by simp [Slots.get?]⟩

namespace Settled

variable {slots : Slots}

theorem linked (hSettled : source.Settled slots) : source.Linked (fun _ => False) slots := by
  intro first entity second hReady hLinks
  obtain ⟨property, hProperty, rfl⟩ := (links_iff (hSettled.sourced first entity hReady)).mp hLinks
  obtain ⟨target, hTarget⟩ := isReady_iff.mp (hSettled.closed first entity hReady property hProperty)
  rw [hTarget]
  exact Or.inl rfl

/-- What a published type reaches is published. -/
theorem ready_of_reaches (hSettled : source.Settled slots) {name other : String}
    (hReady : slots.isReady name = true) (hReaches : source.Reaches name other) :
    slots.isReady other = true := by
  induction hReaches with
  | refl => exact hReady
  | tail hBefore hLinks ih =>
      obtain ⟨entity, hEntity⟩ := isReady_iff.mp ih
      obtain ⟨property, hProperty, rfl⟩ :=
        (links_iff (hSettled.sourced _ entity hEntity)).mp hLinks
      exact hSettled.closed _ entity hEntity property hProperty

/-- What a published type reaches is locally valid. -/
theorem locallyValid_of_reaches (hSettled : source.Settled slots) {name other : String}
    (hReady : slots.isReady name = true) (hReaches : source.Reaches name other) :
    source.LocallyValid other := by
  obtain ⟨entity, hEntity⟩ := isReady_iff.mp (hSettled.ready_of_reaches hReady hReaches)
  exact locallyValid_iff.mpr ⟨entity, hSettled.sourced other entity hEntity⟩

end Settled

/-! ## Requests that succeed -/

/-- What a request for a type has done when it gives an entity. -/
structure Completes (source : TypeSource) (name : String) (before : State) (entity : Entity)
    (after : State) : Prop where
  /-- The entity is the published one. -/
  found : after.slots.get? name = some (.ready entity)
  /-- Published is what was published before, and what is reachable. -/
  ready : ∀ other, after.slots.isReady other = true ↔
    before.slots.isReady other = true ∨ source.Reaches name other
  /-- An entity that was published before is still the published one. -/
  kept : ∀ other published, before.slots.get? other = some (.ready published) →
    after.slots.get? other = some (.ready published)
  settled : source.Settled after.slots
  /-- Reachable types that had no entity were described once, and no others. -/
  described : ∃ names : List String, names.Nodup ∧
    after.calls = before.calls ++ names.map Call.describe ∧
    ∀ other, other ∈ names ↔ source.Reaches name other ∧ before.slots.isReady other = false

section Requests

variable {name : String} {state : State}

/-- A request for a published type has nothing to do. -/
theorem completes_of_ready (hSettled : source.Settled state.slots) {entity : Entity}
    (hReady : state.slots.get? name = some (.ready entity)) :
    source.Completes name state entity state where
  found := hReady
  ready other := by
    constructor
    · exact Or.inl
    · rintro (hOther | hReaches)
      · exact hOther
      · exact hSettled.ready_of_reaches (isReady_iff.mpr ⟨entity, hReady⟩) hReaches
  kept _ _ hOther := hOther
  settled := hSettled
  described := by
    refine ⟨[], List.nodup_nil, by simp, fun other => ?_⟩
    simp only [List.not_mem_nil, false_iff, not_and]
    intro hReaches
    rw [hSettled.ready_of_reaches (isReady_iff.mpr ⟨entity, hReady⟩) hReaches]
    simp

/-- A visit that starts in a settled state and succeeds ends in a settled state. -/
theorem settled_of_visits (hSettled : source.Settled state.slots) {entity : Entity} {after : State}
    (hVisits : source.Visits name state (.ok entity, after)) (hGrows : source.Grows state after) :
    source.Settled after.slots := by
  have hSourced := hGrows.sourced hSettled.sourced
  have hNothing : NothingPending after.slots := by
    intro other builder hPending
    rcases hVisits.walks.fresh other _ hPending with hOld | ⟨_, published, hReady⟩
    · exact hSettled.nothingPending other builder hOld
    · simp at hReady
  have hLinked : source.Linked (fun _ => False) after.slots := by
    apply (hVisits.walks.linked _ hSettled.linked).mono
    rintro other (hFalse | ⟨hFailed, _⟩)
    · exact hFalse
    · simp at hFailed
  exact ⟨hNothing, hSourced, closed_of_linked hNothing hSourced hLinked⟩

private theorem completes_of_visits (hSettled : source.Settled state.slots) {entity : Entity}
    {after : State}
    (hVisits : source.Visits name state (.ok entity, after)) (hGrows : source.Grows state after)
    (hFound : after.slots.get? name = some (.ready entity)) :
    source.Completes name state entity after := by
  have hAfter := settled_of_visits hSettled hVisits hGrows
  have hReached : ∀ other, source.Reaches name other → after.slots.isReady other = true :=
    fun other => hAfter.ready_of_reaches (isReady_iff.mpr ⟨entity, hFound⟩)
  have hFresh : ∀ other, after.slots.isReady other = true → state.slots.isReady other = false →
      source.Reaches name other := by
    intro other hReady hBefore
    obtain ⟨published, hPublished⟩ := isReady_iff.mp hReady
    rcases hVisits.walks.fresh other _ hPublished with hOld | ⟨hReaches, _⟩
    · rw [isReady_iff.mpr ⟨published, hOld⟩] at hBefore
      simp at hBefore
    · exact hReaches
  refine ⟨hFound, fun other => ⟨fun hReady => ?_, ?_⟩,
    fun other published => hGrows.slots other (.ready published), hAfter, ?_⟩
  · cases hBefore : state.slots.isReady other with
    | true => exact Or.inl rfl
    | false => exact Or.inr (hFresh other hReady hBefore)
  · rintro (hBefore | hReaches)
    · obtain ⟨published, hPublished⟩ := isReady_iff.mp hBefore
      exact isReady_iff.mpr ⟨published, hGrows.slots other _ hPublished⟩
    · exact hReached other hReaches
  · obtain ⟨names, hCalls, hNames⟩ := hVisits.walks.described
    obtain ⟨hNodup, hMem⟩ := hNames rfl
    refine ⟨names, hNodup, hCalls, fun other => ?_⟩
    rw [hMem, ← hSettled.nothingPending.isReady_eq_false_iff]
    constructor
    · rintro ⟨hBefore, hSlot⟩
      exact ⟨hFresh other (hAfter.nothingPending.isReady_of_isSome hSlot) hBefore, hBefore⟩
    · rintro ⟨hReaches, hBefore⟩
      obtain ⟨published, hPublished⟩ := isReady_iff.mp (hReached other hReaches)
      exact ⟨hBefore, by rw [hPublished]; rfl⟩

/-- In a settled state a request gives an entity and completes, or the requested type is doomed. -/
theorem entityFor_completes_or_doomed (hPassive : source.Passive) {names : List String}
    (hNames : source.LinksInto names) {budget : Nat} (hLength : names.length < budget)
    (hSettled : source.Settled state.slots) (hTerminal : source.isTerminal name = false) :
    (∃ entity after, source.entityFor budget name state = (.ok entity, after) ∧
      source.Completes name state entity after) ∨
    (∃ error after, source.entityFor budget name state = (.error error, after) ∧
      source.Doomed name) := by
  cases hGet : state.slots.get? name with
  | some slot =>
      cases slot with
      | pending builder => exact absurd hGet (hSettled.nothingPending name builder)
      | ready entity =>
          exact Or.inl ⟨entity, state, entityFor_of_ready hTerminal hGet,
            completes_of_ready hSettled hGet⟩
  | none =>
      have hVisits := entityFor_visits hPassive hNames hLength hTerminal hGet
      have hGrows : source.Grows state (source.entityFor budget name state).2 :=
        entityFor_grows budget name state
      cases hResult : source.entityFor budget name state with
      | mk result after =>
          rw [hResult] at hVisits hGrows
          cases result with
          | error error => exact Or.inr ⟨error, after, rfl, hVisits.doomed rfl⟩
          | ok entity =>
              exact Or.inl ⟨entity, after, rfl,
                completes_of_visits hSettled hVisits hGrows (entityFor_learns hResult).2⟩

end Requests

end DerivedQuery.TypeSource

namespace DerivedQuery.Registry

open TypeSource

/-! ## Registries -/

/-- A catalog requests nothing. -/
theorem passive_ofCatalog (catalog : Catalog) (terminal : TerminalTypes) :
    ({ inspector := .ofCatalog catalog, terminal } : Registry).source.Passive :=
  fun _ => rfl

/-- What a registry learns about types are the answers of its inspector. -/
theorem mem_answers_of_describe? {registry : Registry} {name : String} {type : TypeDescriptor}
    (hType : registry.source.describe? name = some type) :
    (name, type) ∈ registry.inspector.answers := by
  obtain ⟨before, after, hAnswers, _⟩ := List.lookup_eq_some_iff.mp hType
  rw [hAnswers]
  simp

/-- The links of described types end in the names that the inspector mentions. -/
theorem linksInto_mentioned (registry : Registry) :
    registry.source.LinksInto registry.inspector.mentioned := by
  rintro first second ⟨type, hType, member, hMember, rfl, _⟩
  apply List.mem_append_left
  exact List.mem_flatMap.mpr
    ⟨(first, type), mem_answers_of_describe? hType, List.mem_map.mpr ⟨member, hMember, rfl⟩⟩

/-- **Exactness of a request**, in a settled state and for a type that is no leaf value. The budget
of the walk never ends it: a larger one leads to the same result and the same calls. The request
succeeds if and only if every reachable type is locally valid. And if it succeeds, then exactly the
reachable types are published besides the ones that were, each with the entity of its description. -/
theorem entityFor_exact (registry : Registry) (hPassive : registry.source.Passive) {state : State}
    (hSettled : registry.source.Settled state.slots) {name : String}
    (hTerminal : registry.isTerminal name = false) :
    (∀ budget, registry.budget ≤ budget →
      registry.source.entityFor budget name state = registry.entityFor name state) ∧
    ((∃ entity after, registry.entityFor name state = (.ok entity, after)) ↔
      ∀ other, registry.source.Reaches name other → registry.source.LocallyValid other) ∧
    ∀ entity after, registry.entityFor name state = (.ok entity, after) →
      registry.source.Completes name state entity after := by
  have hNames := registry.linksInto_mentioned
  have hLength : registry.inspector.mentioned.length < registry.budget := Nat.lt_succ_self _
  refine ⟨fun budget hBudget => entityFor_eq_of_le hPassive hNames hLength hBudget name state, ?_⟩
  rcases entityFor_completes_or_doomed hPassive hNames hLength hSettled hTerminal with
    ⟨entity, after, hResult, hCompletes⟩ | ⟨error, after, hResult, other, hReaches, hInvalid⟩
  · change registry.entityFor name state = _ at hResult
    rw [hResult]
    refine ⟨⟨fun _ other hReaches => ?_, fun _ => ⟨entity, after, rfl⟩⟩, ?_⟩
    · exact hCompletes.settled.locallyValid_of_reaches
        (isReady_iff.mpr ⟨entity, hCompletes.found⟩) hReaches
    · rintro _ _ hSame
      simp only [Prod.mk.injEq, Except.ok.injEq] at hSame
      rw [← hSame.1, ← hSame.2]
      exact hCompletes
  · change registry.entityFor name state = _ at hResult
    rw [hResult]
    refine ⟨⟨by simp, fun hValid => absurd (hValid other hReaches) hInvalid⟩, by simp⟩

/-- Customers and their orders, which refer to each other. -/
def orders : Registry :=
  { inspector := .ofCatalog
      { types :=
          [{ name := "Customer"
             members := [{ name := "orders", declared := .collection (.named "Order") }] },
            { name := "Order"
              members :=
                [{ name := "customer", declared := .named "Customer" },
                  { name := "total", declared := .named "Decimal" }] }] } }

/-- A cyclic graph of valid types is published as a whole. -/
theorem entityFor_exact_orders : orders.source.Settled [] ∧ orders.isTerminal "Order" = false ∧
    (∀ other, orders.source.Reaches "Order" other → orders.source.LocallyValid other) ∧
    ∃ entity after, orders.entityFor "Order" {} = (.ok entity, after) ∧
      orders.source.Completes "Order" {} entity after := by
  have hSettled : orders.source.Settled ({} : State).slots := settled_nil _
  have hTerminal : orders.isTerminal "Order" = false := by decide +kernel
  have hOk : (orders.entityFor "Order" {}).1.isOk = true := by decide +kernel
  obtain ⟨_, hValid, hCompletes⟩ := orders.entityFor_exact (passive_ofCatalog _ _) hSettled hTerminal
  cases hResult : orders.entityFor "Order" {} with
  | mk result after =>
      cases result with
      | error error =>
          rw [hResult] at hOk
          simp at hOk
      | ok entity =>
          exact ⟨hSettled, hTerminal, hValid.mp ⟨entity, after, hResult⟩, entity, after, rfl,
            hCompletes entity after hResult⟩

end DerivedQuery.Registry
