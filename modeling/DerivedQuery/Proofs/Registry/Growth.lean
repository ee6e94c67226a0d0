import DerivedQuery.Registry.Basic

/-!
# What a request leaves in place

A request claims, publishes and releases slots of types that had none when it started. Every slot
that was there stays as it is: a published entity is never replaced or removed, and a construction
under way keeps its pending slot. This holds for every source, also for one that requests entities
from the registry while it describes a type, and for every budget.

The argument follows the recursion of the walk. A construction may touch the slot of its own type,
which the caller has claimed; all that it runs before it publishes or releases this slot is made of
requests and of constructions of types without a slot.

## Main results

* `entityFor_grows`: a request keeps every slot, and publishes entities of the source only
* `entityFor_learns`: after a success the entity is published
* `entityFor_of_ready`: a published entity is returned, and nothing changes
-/

namespace DerivedQuery.TypeSource

open Registry

variable (source : TypeSource)

/-! ## Growth of the slots -/

/-- Each published entity is the one that the description of its type stands for. -/
def Sourced (slots : Slots) : Prop :=
  ∀ name entity, slots.get? name = some (.ready entity) →
    source.check name (source.describe? name) = .ok entity

/-- Every slot stays as it is, and the published entities stay those of the source. -/
structure Grows (before after : State) : Prop where
  slots : ∀ name slot, before.slots.get? name = some slot → after.slots.get? name = some slot
  sourced : source.Sourced before.slots → source.Sourced after.slots

/-- Every slot but one stays as it is, and the published entities stay those of the source. -/
structure GrowsBeside (name : String) (before after : State) : Prop where
  slots : ∀ other slot, other ≠ name → before.slots.get? other = some slot →
    after.slots.get? other = some slot
  sourced : source.Sourced before.slots → source.Sourced after.slots

variable {source}

theorem Grows.refl (state : State) : source.Grows state state :=
  ⟨fun _ _ hSlot => hSlot, fun hSourced => hSourced⟩

theorem Grows.trans {first second third : State} (hFirst : source.Grows first second)
    (hSecond : source.Grows second third) : source.Grows first third :=
  ⟨fun name slot hSlot => hSecond.slots name slot (hFirst.slots name slot hSlot),
    fun hSourced => hSecond.sourced (hFirst.sourced hSourced)⟩

theorem Grows.trans_beside {name : String} {first second third : State}
    (hFirst : source.Grows first second) (hSecond : source.GrowsBeside name second third) :
    source.GrowsBeside name first third :=
  ⟨fun other slot hOther hSlot => hSecond.slots other slot hOther (hFirst.slots other slot hSlot),
    fun hSourced => hSecond.sourced (hFirst.sourced hSourced)⟩

/-- An event at the source does not touch the slots. -/
theorem Grows.record (state : State) (call : Call) : source.Grows state (state.record call) :=
  ⟨fun _ _ hSlot => hSlot, fun hSourced => hSourced⟩

theorem Sourced.claim {slots : Slots} (hSourced : source.Sourced slots) (name : String)
    (builder : Nat) : source.Sourced (slots.claim name builder) := by
  intro other entity hReady
  rw [Slots.get?_claim] at hReady
  split at hReady
  · simp at hReady
  · exact hSourced other entity hReady

theorem Sourced.release {slots : Slots} (hSourced : source.Sourced slots) (name : String) :
    source.Sourced (slots.release name) := by
  intro other entity hReady
  rw [Slots.get?_release] at hReady
  split at hReady
  · simp at hReady
  · exact hSourced other entity hReady

theorem Sourced.publish {slots : Slots} (hSourced : source.Sourced slots) {name : String}
    {entity : Entity} (hCheck : source.check name (source.describe? name) = .ok entity) :
    source.Sourced (slots.publish name entity) := by
  intro other published hReady
  rw [Slots.get?_publish] at hReady
  split at hReady
  · rename_i hOther
    simp only [Option.some.injEq, Slot.ready.injEq] at hReady
    rw [hOther, ← hReady]
    exact hCheck
  · exact hSourced other published hReady

theorem GrowsBeside.release (name : String) (state : State) :
    source.GrowsBeside name state (state.onSlots (·.release name)) := by
  refine ⟨fun other slot hOther hSlot => ?_, fun hSourced => hSourced.release name⟩
  rw [State.onSlots, Slots.get?_release, if_neg hOther]
  exact hSlot

theorem GrowsBeside.publish {name : String} {entity : Entity} (state : State)
    (hCheck : source.check name (source.describe? name) = .ok entity) :
    source.GrowsBeside name state (state.onSlots (·.publish name entity)) := by
  refine ⟨fun other slot hOther hSlot => ?_, fun hSourced => hSourced.publish hCheck⟩
  rw [State.onSlots, Slots.get?_publish, if_neg hOther]
  exact hSlot

/-- Whatever happens to the slot of a type that had none, every slot that was there stays. -/
theorem GrowsBeside.after_claim {name : String} {builder : Nat} {before after : State}
    (hNone : before.slots.get? name = none)
    (hGrows : source.GrowsBeside name (before.onSlots (·.claim name builder)) after) :
    source.Grows before after := by
  refine ⟨fun other slot hSlot => ?_, fun hSourced => hGrows.sourced (hSourced.claim name builder)⟩
  have hOther : other ≠ name := by
    rintro rfl
    rw [hNone] at hSlot
    simp at hSlot
  apply hGrows.slots other slot hOther
  rw [State.onSlots, Slots.get?_claim, if_neg hOther]
  exact hSlot

/-! ## One lemma for each part of the walk -/

section Walk

variable {construct : Request}

private theorem requestWith_grows
    (hConstruct : ∀ name state, source.GrowsBeside name state (construct name state).2)
    (name : String) (state : State) :
    source.Grows state (source.requestWith construct name state).2 := by
  unfold requestWith
  split
  · exact .refl state
  · split
    · exact .refl state
    · exact .refl state
    · rename_i hNone
      exact (hConstruct name _).after_claim hNone

private theorem requestAll_grows {request : Request}
    (hRequest : ∀ name state, source.Grows state (request name state).2) (inside : String)
    (asks : List String) (state : State) :
    source.Grows state (requestAll request inside asks state) := by
  induction asks generalizing state with
  | nil => exact .refl state
  | cons asked rest ih =>
      rw [requestAll]
      exact (hRequest asked state).trans ((Grows.record _ _).trans (ih _))

theorem registerTargets_grows
    (hConstruct : ∀ name state, source.GrowsBeside name state (construct name state).2)
    (owner : String) (targets : List Property) (state : State) :
    source.Grows state (registerTargets construct owner targets state).2 := by
  induction targets generalizing state with
  | nil => exact .refl state
  | cons property rest ih =>
      rw [registerTargets]
      split
      · exact ih state
      · rename_i hNone
        rw [Bool.not_eq_true, Option.isSome_eq_false_iff, Option.isNone_iff_eq_none] at hNone
        have hTarget := GrowsBeside.after_claim hNone
          (hConstruct property.actualType (state.onSlots (·.claim property.actualType soleBuilder)))
        split
        · rename_i hResult
          rw [hResult] at hTarget
          exact hTarget
        · rename_i hResult
          rw [hResult] at hTarget
          exact hTarget.trans (ih _)

private theorem describe_grows
    (hConstruct : ∀ name state, source.GrowsBeside name state (construct name state).2)
    (name : String) (state : State) :
    source.Grows state (source.describe construct name state).2 :=
  (Grows.record state _).trans
    (requestAll_grows (requestWith_grows hConstruct) name (source.asksWhile name) _)

theorem build_eq (construct : Request) (name : String) (state : State) :
    source.build construct name state =
      match source.check name (source.describe? name) with
      | .error error => (.error error, (source.describe construct name state).2)
      | .ok entity =>
          match registerTargets construct name entity.associations
              (source.describe construct name state).2 with
          | (.error error, after) => (.error error, after)
          | (.ok (), after) => (.ok entity, after) :=
  rfl

/-- Until a construction publishes or releases the slot of its type, it leaves this slot alone as
well. -/
theorem build_grows
    (hConstruct : ∀ name state, source.GrowsBeside name state (construct name state).2)
    (name : String) (state : State) :
    source.Grows state (source.build construct name state).2 := by
  have hDescribe := describe_grows hConstruct name state
  rw [build_eq]
  split
  · exact hDescribe
  · rename_i entity _
    have hTargets := registerTargets_grows hConstruct name entity.associations
      (source.describe construct name state).2
    split
    · rename_i hResult
      rw [hResult] at hTargets
      exact hDescribe.trans hTargets
    · rename_i hResult
      rw [hResult] at hTargets
      exact hDescribe.trans hTargets

/-- A construction that succeeds has built the entity that the source describes. -/
theorem build_eq_ok {name : String} {state after : State} {entity : Entity}
    (hBuild : source.build construct name state = (.ok entity, after)) :
    source.check name (source.describe? name) = .ok entity := by
  rw [build_eq] at hBuild
  split at hBuild
  · simp at hBuild
  · rename_i hCheck
    split at hBuild
    · simp at hBuild
    · simp only [Prod.mk.injEq, Except.ok.injEq] at hBuild
      rw [← hBuild.1]
      exact hCheck

end Walk

theorem construct_growsBeside (budget : Nat) (name : String) (state : State) :
    source.GrowsBeside name state (source.construct budget name state).2 := by
  induction budget generalizing name state with
  | zero => exact .release name state
  | succ budget ih =>
      have hBuild := build_grows ih name state
      rw [construct]
      split
      · rename_i hResult
        rw [hResult] at hBuild
        exact hBuild.trans_beside (.release name _)
      · rename_i hResult
        rw [hResult] at hBuild
        exact hBuild.trans_beside (.publish _ (build_eq_ok hResult))

/-! ## Requests -/

/-- A request keeps every slot, and publishes entities of the source only. -/
theorem entityFor_grows (budget : Nat) (name : String) (state : State) :
    source.Grows state (source.entityFor budget name state).2 :=
  requestWith_grows (construct_growsBeside budget) name state

/-- After a construction that succeeded its entity is published. -/
theorem construct_learns {budget : Nat} {name : String} {state after : State} {entity : Entity}
    (hConstruct : source.construct budget name state = (.ok entity, after)) :
    after.slots.get? name = some (.ready entity) := by
  cases budget with
  | zero => simp [construct] at hConstruct
  | succ budget =>
      rw [construct] at hConstruct
      split at hConstruct
      · simp at hConstruct
      · simp only [Prod.mk.injEq, Except.ok.injEq] at hConstruct
        rw [← hConstruct.1, ← hConstruct.2, State.onSlots, Slots.get?_publish, if_pos rfl]

/-- After a request that succeeded its entity is published, and the type is no leaf value. -/
theorem entityFor_learns {budget : Nat} {name : String} {state after : State} {entity : Entity}
    (hEntity : source.entityFor budget name state = (.ok entity, after)) :
    source.isTerminal name = false ∧ after.slots.get? name = some (.ready entity) := by
  unfold entityFor requestWith at hEntity
  split at hEntity
  · simp at hEntity
  · rename_i hTerminal
    refine ⟨by simpa using hTerminal, ?_⟩
    split at hEntity
    · rename_i hReady
      simp only [Prod.mk.injEq, Except.ok.injEq] at hEntity
      rw [← hEntity.1, ← hEntity.2]
      exact hReady
    · simp at hEntity
    · exact construct_learns hEntity

/-- A request for a leaf value is refused, and nothing changes. -/
theorem entityFor_of_terminal {budget : Nat} {name : String} {state : State}
    (hTerminal : source.isTerminal name = true) :
    source.entityFor budget name state = (.error (.terminalType name), state) := by
  simp [entityFor, requestWith, hTerminal]

/-- A published entity is returned, and nothing changes. -/
theorem entityFor_of_ready {budget : Nat} {name : String} {state : State} {entity : Entity}
    (hTerminal : source.isTerminal name = false)
    (hReady : state.slots.get? name = some (.ready entity)) :
    source.entityFor budget name state = (.ok entity, state) := by
  simp [entityFor, requestWith, hTerminal, hReady]

end DerivedQuery.TypeSource
