import DerivedQuery.Proofs.Registry.Exactness

/-!
# Closure of what a registry has published

Readers follow the associations of published entities, and expect to find the target published.
After a history of requests that all succeeded they do. But a construction that fails releases the
slots of its own chain only, and publishes types below it before it is known to fail. A type that
was published so may have an association to one that was released, since the walk skips a target
that is merely pending.

What every history preserves is that each target which is missing is doomed: it reaches a type that
is not locally valid, and no request for it can ever succeed. So the published types are closed
under associations if and only if none of them is doomed.

## Main results

* `entityFor_consistent`, `consistent_stateAfter`: what every history preserves
* `settled_foldl`: requests for types that are not doomed lead to settled states
* `steady_of_coherent`: if valid types lead to valid types only, answers never change
* `Registry.coherent_of_answers`, `Registry.steady_stateAfter`: the same for registries
* `Registry.closed_stateAfter_iff`: when the published types are closed
-/

namespace DerivedQuery.TypeSource

open Registry

variable {source : TypeSource}

/-- Nothing is under construction, each published entity is the one that the description of its type
stands for, and the association of a published type leads to a published type or to a doomed one. -/
structure Consistent (source : TypeSource) (slots : Slots) : Prop where
  nothingPending : NothingPending slots
  sourced : source.Sourced slots
  linked : source.Linked source.Doomed slots

theorem Settled.consistent {slots : Slots} (hSettled : source.Settled slots) :
    source.Consistent slots :=
  ⟨hSettled.nothingPending, hSettled.sourced, hSettled.linked.mono fun _ hFalse => hFalse.elim⟩

namespace Consistent

variable {slots : Slots}

/-- A target that is missing is doomed. -/
theorem ready_or_doomed (hConsistent : source.Consistent slots) {name : String} {entity : Entity}
    (hReady : slots.get? name = some (.ready entity)) {property : Property}
    (hProperty : property ∈ entity.associations) :
    slots.isReady property.actualType = true ∨ source.Doomed property.actualType := by
  have hLinks := (links_iff (hConsistent.sourced name entity hReady)).mpr ⟨property, hProperty, rfl⟩
  rcases hConsistent.linked name entity property.actualType hReady hLinks with hSlot | hDoomed
  · exact Or.inl (hConsistent.nothingPending.isReady_of_isSome hSlot)
  · exact Or.inr hDoomed

/-- The published types are closed unless one of them is doomed. -/
theorem closed_iff (hConsistent : source.Consistent slots) :
    Closed slots ↔ ∀ name, slots.isReady name = true → ¬source.Doomed name := by
  constructor
  · rintro hClosed name hReady ⟨other, hReaches, hInvalid⟩
    have hSettled : source.Settled slots :=
      ⟨hConsistent.nothingPending, hConsistent.sourced, hClosed⟩
    exact hInvalid (hSettled.locallyValid_of_reaches hReady hReaches)
  · intro hNotDoomed name entity hReady property hProperty
    apply (hConsistent.ready_or_doomed hReady hProperty).resolve_right
    intro hDoomed
    -- a type that leads to a doomed one is doomed
    have hLinks :=
      (links_iff (hConsistent.sourced name entity hReady)).mpr ⟨property, hProperty, rfl⟩
    exact hNotDoomed name (isReady_iff.mpr ⟨entity, hReady⟩) (doomed_of_links hLinks hDoomed)

end Consistent

section History

variable {names : List String} {budget : Nat}

/-- What a visit preserves, whether it succeeds or not. -/
theorem consistent_of_visits {name : String} {state : State}
    {outcome : Except MetadataError Entity × State} (hConsistent : source.Consistent state.slots)
    (hVisits : source.Visits name state outcome) (hGrows : source.Grows state outcome.2) :
    source.Consistent outcome.2.slots where
  nothingPending other builder hPending := by
    rcases hVisits.walks.fresh other _ hPending with hOld | ⟨_, entity, hReady⟩
    · exact hConsistent.nothingPending other builder hOld
    · simp at hReady
  sourced := hGrows.sourced hConsistent.sourced
  linked := by
    apply (hVisits.walks.linked _ hConsistent.linked).mono
    rintro other (hDoomed | ⟨_, hDoomed⟩) <;> exact hDoomed

/-- What every request preserves. -/
theorem entityFor_consistent (hPassive : source.Passive) (hNames : source.LinksInto names)
    (hLength : names.length < budget) (name : String) {state : State}
    (hConsistent : source.Consistent state.slots) :
    source.Consistent (source.entityFor budget name state).2.slots := by
  cases hTerminal : source.isTerminal name with
  | true =>
      rw [entityFor_of_terminal hTerminal]
      exact hConsistent
  | false =>
      cases hGet : state.slots.get? name with
      | none =>
          exact consistent_of_visits hConsistent
            (entityFor_visits hPassive hNames hLength hTerminal hGet)
            (entityFor_grows budget name state)
      | some slot =>
          cases slot with
          | pending builder => exact absurd hGet (hConsistent.nothingPending name builder)
          | ready entity =>
              rw [entityFor_of_ready hTerminal hGet]
              exact hConsistent

/-- What every history preserves. -/
theorem consistent_stateAfter (hPassive : source.Passive) (hNames : source.LinksInto names)
    (hLength : names.length < budget) (requests : List String) :
    source.Consistent (source.stateAfter budget requests).slots :=
  (leads_foldl requests {}).preserves (P := fun state => source.Consistent state.slots)
    (fun name _ => entityFor_consistent hPassive hNames hLength name) (settled_nil source).consistent

/-- A request for a type that is not doomed leaves a settled state settled. -/
theorem entityFor_settled (hPassive : source.Passive) (hNames : source.LinksInto names)
    (hLength : names.length < budget) {name : String}
    (hName : source.isTerminal name = false → ¬source.Doomed name) {state : State}
    (hSettled : source.Settled state.slots) :
    source.Settled (source.entityFor budget name state).2.slots := by
  cases hTerminal : source.isTerminal name with
  | true =>
      rw [entityFor_of_terminal hTerminal]
      exact hSettled
  | false =>
      rcases entityFor_completes_or_doomed hPassive hNames hLength hSettled hTerminal with
        ⟨entity, after, hResult, hCompletes⟩ | ⟨_, _, _, hDoomed⟩
      · rw [hResult]
        exact hCompletes.settled
      · exact absurd hDoomed (hName hTerminal)

/-- Requests for types that are not doomed lead to settled states. -/
theorem settled_foldl (hPassive : source.Passive) (hNames : source.LinksInto names)
    (hLength : names.length < budget) {requests : List String}
    (hRequests : ∀ name ∈ requests, source.isTerminal name = false → ¬source.Doomed name)
    {state : State} (hSettled : source.Settled state.slots) :
    source.Settled (requests.foldl (fun state name => (source.entityFor budget name state).2)
      state).slots := by
  induction requests generalizing state with
  | nil => exact hSettled
  | cons name rest ih =>
      have hNext := entityFor_settled hPassive hNames hLength
        (hRequests name List.mem_cons_self) hSettled
      exact ih (fun other hOther => hRequests other (List.mem_cons_of_mem name hOther)) hNext

/-! ## Fixed answers -/

/-- Types that are locally valid lead to such types only. -/
def Coherent (source : TypeSource) : Prop :=
  ∀ name, source.LocallyValid name → ¬source.Doomed name

/-- In a coherent source nothing that is published is doomed. -/
theorem Consistent.settled {slots : Slots} (hConsistent : source.Consistent slots)
    (hCoherent : source.Coherent) : source.Settled slots := by
  refine ⟨hConsistent.nothingPending, hConsistent.sourced, ?_⟩
  apply hConsistent.closed_iff.mpr
  intro name hReady
  obtain ⟨entity, hEntity⟩ := isReady_iff.mp hReady
  exact hCoherent name (locallyValid_iff.mpr ⟨entity, hConsistent.sourced name entity hEntity⟩)

/-- A coherent source answers a request with what the description of the type alone says. -/
theorem toOption_entityFor (hPassive : source.Passive) (hNames : source.LinksInto names)
    (hLength : names.length < budget) (hCoherent : source.Coherent) {state : State}
    (hConsistent : source.Consistent state.slots) {name : String}
    (hTerminal : source.isTerminal name = false) :
    (source.entityFor budget name state).1.toOption =
      (source.check name (source.describe? name)).toOption := by
  have hSettled := hConsistent.settled hCoherent
  rcases entityFor_completes_or_doomed hPassive hNames hLength hSettled hTerminal with
    ⟨entity, after, hResult, hCompletes⟩ | ⟨error, after, hResult, hDoomed⟩
  · rw [hResult, hCompletes.settled.sourced name entity hCompletes.found]
  · have hInvalid : ¬source.LocallyValid name := fun hValid => hCoherent name hValid hDoomed
    cases hCheck : source.check name (source.describe? name) with
    | ok entity => exact absurd (locallyValid_iff.mpr ⟨entity, hCheck⟩) hInvalid
    | error cause =>
        rw [hResult]
        rfl

/-- **The answers of a coherent source are fixed.** -/
theorem steady_of_coherent (hPassive : source.Passive) (hNames : source.LinksInto names)
    (hLength : names.length < budget) (hCoherent : source.Coherent) {state : State}
    (hConsistent : source.Consistent state.slots) : (source.metadata budget).Steady state := by
  intro later hLater name
  have hLaterConsistent := hLater.preserves (P := fun state => source.Consistent state.slots)
    (fun other _ => entityFor_consistent hPassive hNames hLength other) hConsistent
  change (source.entityFor budget name later).1.toOption =
    (source.entityFor budget name state).1.toOption
  cases hTerminal : source.isTerminal name with
  | true => rw [entityFor_of_terminal hTerminal, entityFor_of_terminal hTerminal]
  | false =>
      rw [toOption_entityFor hPassive hNames hLength hCoherent hLaterConsistent hTerminal,
        toOption_entityFor hPassive hNames hLength hCoherent hConsistent hTerminal]

end History

end DerivedQuery.TypeSource

namespace DerivedQuery.Registry

open TypeSource

/-! ## Registries of a catalog -/

/-- The state of a registry that started empty, after some requests in order. -/
def stateAfter (registry : Registry) (requests : List String) : State :=
  registry.source.stateAfter registry.budget requests

/-- Whether a source is coherent shows in its answers: what they mention is a leaf value or passes
the check. -/
theorem coherent_of_answers (registry : Registry)
    (hTargets : ∀ answer ∈ registry.inspector.answers, ∀ member ∈ answer.2.members,
      registry.isTerminal member.declared.actualName = true ∨
        (registry.source.check member.declared.actualName
          (registry.source.describe? member.declared.actualName)).isOk = true) :
    registry.source.Coherent := by
  have hLinked : ∀ first second, registry.source.Links first second →
      registry.source.LocallyValid second := by
    rintro first second ⟨type, hType, member, hMember, rfl, hTerminal⟩
    have hAnswer := mem_answers_of_describe? hType
    have hCheck := (hTargets (first, type) hAnswer member hMember).resolve_left
      (Bool.eq_false_iff.mp hTerminal)
    cases hEntity : registry.source.check member.declared.actualName
        (registry.source.describe? member.declared.actualName) with
    | error error =>
        rw [hEntity] at hCheck
        simp [Except.isOk, Except.toBool] at hCheck
    | ok entity => exact locallyValid_iff.mpr ⟨entity, hEntity⟩
  rintro name hValid ⟨other, hReaches, hInvalid⟩
  rcases hReaches.cases_tail with hSame | ⟨last, _, hLinks⟩
  · exact hInvalid (hSame ▸ hValid)
  · exact hInvalid (hLinked last other hLinks)

/-- A registry of a coherent catalog answers every request as it did before. -/
theorem steady_stateAfter (catalog : Catalog) (terminal : TerminalTypes) (requests : List String) :
    let registry : Registry := { inspector := .ofCatalog catalog, terminal }
    registry.source.Coherent → registry.metadata.Steady (registry.stateAfter requests) := by
  intro registry hCoherent
  have hPassive : registry.source.Passive := passive_ofCatalog catalog terminal
  have hLength : registry.inspector.mentioned.length < registry.budget := Nat.lt_succ_self _
  exact steady_of_coherent hPassive registry.linksInto_mentioned hLength hCoherent
    (consistent_stateAfter hPassive registry.linksInto_mentioned hLength requests)

/-- **When what is published is closed.** After any history of requests nothing is under
construction, and the association of a published type leads to a published type or to a doomed one.
The published types are closed if and only if none of them is doomed, and this is the case if no
requested type is. -/
theorem closed_stateAfter_iff (catalog : Catalog) (terminal : TerminalTypes)
    (requests : List String) :
    let registry : Registry := { inspector := .ofCatalog catalog, terminal }
    let slots := (registry.stateAfter requests).slots
    NothingPending slots ∧
    (∀ name entity, slots.get? name = some (.ready entity) → ∀ property ∈ entity.associations,
      slots.isReady property.actualType = true ∨ registry.source.Doomed property.actualType) ∧
    (Closed slots ↔ ∀ name, slots.isReady name = true → ¬registry.source.Doomed name) ∧
    ((∀ name ∈ requests, registry.isTerminal name = false → ¬registry.source.Doomed name) →
      Closed slots) := by
  intro registry slots
  have hPassive : registry.source.Passive := passive_ofCatalog catalog terminal
  have hNames := registry.linksInto_mentioned
  have hLength : registry.inspector.mentioned.length < registry.budget := Nat.lt_succ_self _
  have hConsistent : registry.source.Consistent slots :=
    consistent_stateAfter hPassive hNames hLength requests
  refine ⟨hConsistent.nothingPending, fun name entity hReady property hProperty =>
    hConsistent.ready_or_doomed hReady hProperty, hConsistent.closed_iff, fun hRequests => ?_⟩
  have hSettled : registry.source.Settled slots :=
    settled_foldl hPassive hNames hLength hRequests (settled_nil registry.source)
  exact hSettled.closed

/-- Customers and their orders, which mention coupons that nothing is known of. -/
def coupons : Registry :=
  { inspector := .ofCatalog
      { types :=
          [{ name := "Order"
             members :=
               [{ name := "customer", declared := .named "Customer" },
                 { name := "coupon", declared := .named "Coupon" }] },
            { name := "Customer"
              members := [{ name := "orders", declared := .collection (.named "Order") }] }] } }

/-- The request for `Order` fails and leaves `Customer` published, whose orders are missing. -/
theorem not_closed_coupons : ¬Closed (coupons.stateAfter ["Order"]).slots := by
  intro hClosed
  have hReady : (coupons.stateAfter ["Order"]).slots.get? "Customer" = some (.ready
      { typeName := "Customer"
        properties :=
          [{ name := "orders", owner := "Customer", declared := .collection (.named "Order"),
             association := true, identifier := false }] }) := by
    decide +kernel
  have hMissing := hClosed "Customer" _ hReady _ List.mem_cons_self
  have hOrder : (coupons.stateAfter ["Order"]).slots.isReady "Order" = false := by decide +kernel
  rw [Property.actualType, TypeRef.actualName, TypeRef.actualName, hOrder] at hMissing
  simp at hMissing

end DerivedQuery.Registry
