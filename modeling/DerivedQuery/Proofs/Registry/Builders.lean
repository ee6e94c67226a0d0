import DerivedQuery.Proofs.Registry.Turns

/-!
# One builder for each type

Threads share a registry, and each requests some types one after the other. A thread comes to
construct a type in two ways: it finds no slot when it takes up a request, or it finds none for the
target of an association. Either way it claims the slot in the same step, so a pending slot always
carries the number of the thread that constructs the type, and threads never construct a type
twice at the same time. What ties the slots to the threads is `Owns`: the slots that are pending for
a thread are exactly those of its constructions, each of which it has begun once.

A thread that takes up a request constructs nothing (`Plain`), hence it never finds a slot that is
pending for itself, and no request ends in a cycle.

## Main results

* `Turn.fits`: what one step preserves of the thread that takes it
* `Fits.of_touches`, `Fits.wake`: what it preserves of the others
-/

namespace DerivedQuery.TypeSource

variable {source : TypeSource} {i : Nat}

/-! ## The slots of a thread -/

/-- The slots that are pending for a thread, each named once. -/
structure Owns (slots : Slots) (i : Nat) (names : List String) : Prop where
  pending : ∀ name, slots.get? name = some (.pending i) ↔ name ∈ names
  nodup : names.Nodup

section Owns

variable {slots : Slots} {names : List String}

theorem Owns.claim (hOwns : Owns slots i names) {name : String}
    (hNone : slots.get? name = none) : Owns (slots.claim name i) i (name :: names) := by
  have hNew : name ∉ names := by
    intro hMem
    rw [(hOwns.pending name).mpr hMem] at hNone
    simp at hNone
  refine ⟨fun other => ?_, List.nodup_cons.mpr ⟨hNew, hOwns.nodup⟩⟩
  rw [Slots.get?_claim, List.mem_cons]
  by_cases hOther : other = name
  · simp [hOther]
  · rw [if_neg hOther, hOwns.pending]
    simp [hOther]

theorem Owns.publish {entity : Entity} (hOwns : Owns slots i (entity.typeName :: names)) :
    Owns (slots.publish entity.typeName entity) i names := by
  obtain ⟨hNew, hNodup⟩ := List.nodup_cons.mp hOwns.nodup
  refine ⟨fun other => ?_, hNodup⟩
  rw [Slots.get?_publish]
  by_cases hOther : other = entity.typeName
  · simp [hOther, hNew]
  · rw [if_neg hOther, hOwns.pending]
    simp [hOther]

theorem Owns.release {name : String} (hOwns : Owns slots i (name :: names)) :
    Owns (slots.release name) i names := by
  obtain ⟨hNew, hNodup⟩ := List.nodup_cons.mp hOwns.nodup
  refine ⟨fun other => ?_, hNodup⟩
  rw [Slots.get?_release]
  by_cases hOther : other = name
  · simp [hOther, hNew]
  · rw [if_neg hOther, hOwns.pending]
    simp [hOther]

/-- What another thread does to the slots does not concern the slots of a thread. -/
theorem Owns.of_touches {later : Slots} (hOwns : Owns slots i names) {other : Nat}
    (hTouches : Touches other slots later) (hOther : i ≠ other) : Owns later i names :=
  ⟨fun name => (hTouches.pending_iff hOther).trans (hOwns.pending name), hOwns.nodup⟩

end Owns

/-! ## A thread and the slots -/

/-- The slots know what a thread constructs, and what it has just published. -/
structure Fits (source : TypeSource) (slots : Slots) (i : Nat) (thread : Thread) : Prop where
  plain : source.Plain thread
  owns : Owns slots i thread.constructions
  found : ∀ entity, thread.activity = .notifying (.ok entity) →
    slots.get? entity.typeName = some (.ready entity)

section Fits

variable {slots later : Slots} {before after thread : Thread} {names : List String}

/-- A thread that takes up a request constructs nothing. -/
theorem constructions_of_requesting (hPlain : source.Plain thread) {name : String}
    (hActivity : thread.activity = .requesting name) : thread.constructions = [] := by
  have hFrames := hPlain.activity
  simp only [hActivity] at hFrames
  simp [Thread.constructions, hActivity, Activity.owned, hFrames]

theorem constructions_of_waiting (hPlain : source.Plain thread) {name : String}
    (hActivity : thread.activity = .waiting name) : thread.constructions = [] := by
  have hFrames := hPlain.activity
  simp only [hActivity] at hFrames
  simp [Thread.constructions, hActivity, Activity.owned, hFrames]

/-- A thread that constructs something neither waits nor has finished. -/
theorem active_of_mem_constructions (hPlain : source.Plain thread) {name : String}
    (hName : name ∈ thread.constructions) :
    thread.isWaiting = false ∧ thread.isFinished = false := by
  have hLocal := hPlain.activity
  cases hActivity : thread.activity with
  | idle =>
      simp only [hActivity] at hLocal
      simp [Thread.constructions, hActivity, Activity.owned, hLocal] at hName
  | waiting type =>
      rw [constructions_of_waiting hPlain hActivity] at hName
      simp at hName
  | _ => simp [Thread.isWaiting, Thread.isFinished, hActivity]

/-- A thread never requests a type that it constructs itself. -/
theorem Fits.not_pending_of_requesting (hFits : source.Fits slots i thread) {name : String}
    (hActivity : thread.activity = .requesting name) : slots.get? name ≠ some (.pending i) := by
  rw [ne_eq, hFits.owns.pending, constructions_of_requesting hFits.plain hActivity]
  exact List.not_mem_nil

theorem Fits.touches (hFits : source.Fits slots i before)
    (hTurn : source.Turn i before slots after later names) : Touches i slots later :=
  hTurn.touches fun name => (hFits.owns.pending name).mpr

/-- A turn keeps the slots of its thread and the constructions of the thread together. -/
theorem Turn.owns (hTurn : source.Turn i before slots after later names)
    (hFits : source.Fits slots i before) : Owns later i after.constructions := by
  have hOwns := hFits.owns
  cases hTurn with
  | refuse hActivity hRequests hTerminal =>
      rw [constructions_resume]
      simpa [Thread.constructions, hActivity, Activity.owned] using hOwns
  | request hActivity hRequests hTerminal =>
      simpa [Thread.constructions, hActivity, Activity.owned] using hOwns
  | find hActivity hSlot =>
      rw [constructions_resume]
      simpa [Thread.constructions, hActivity, Activity.owned] using hOwns
  | refuseOwn hActivity hSlot => exact absurd hSlot (hFits.not_pending_of_requesting hActivity)
  | wait hActivity hSlot hOther =>
      simpa [Thread.constructions, hActivity, Activity.owned] using hOwns
  | claim hActivity hSlot =>
      simpa [Thread.constructions, hActivity, Activity.owned] using hOwns.claim hSlot
  | describe hActivity =>
      simpa [Thread.constructions, hActivity, Activity.owned] using hOwns
  | @answer name hActivity =>
      unfold afterDescription
      cases hCheck : source.check name (source.describe? name) with
      | error error => simpa [Thread.constructions, hActivity, Activity.owned] using hOwns
      | ok entity =>
          simpa [Thread.constructions, hActivity, Activity.owned, typeName_of_check hCheck]
            using hOwns
  | publish hActivity =>
      simp only [Thread.constructions, hActivity, Activity.owned, List.singleton_append] at hOwns
      simpa [Thread.constructions, Activity.owned] using hOwns.publish
  | skip hActivity hSlot =>
      simpa [Thread.constructions, hActivity, Activity.owned] using hOwns
  | descend hActivity hSlot =>
      simpa [Thread.constructions, hActivity, Activity.owned, Frame.owner] using hOwns.claim hSlot
  | release hActivity =>
      simp only [Thread.constructions, hActivity, Activity.owned, List.singleton_append] at hOwns
      simpa [Thread.constructions, Activity.owned] using hOwns.release
  | notify hActivity =>
      rw [constructions_resume]
      simpa [Thread.constructions, hActivity, Activity.owned] using hOwns

private theorem not_notifying_resume (thread : Thread) (outcome result : Outcome) :
    (thread.resume outcome).activity ≠ .notifying result := by
  intro hActivity
  cases hActivity ▸ resumed_resume thread outcome

/-- A thread that has just published a type finds it. -/
theorem Turn.found (hTurn : source.Turn i before slots after later names) {entity : Entity}
    (hAfter : after.activity = .notifying (.ok entity)) :
    later.get? entity.typeName = some (.ready entity) := by
  cases hTurn with
  | refuse => exact absurd hAfter (not_notifying_resume _ _ _)
  | find => exact absurd hAfter (not_notifying_resume _ _ _)
  | refuseOwn => exact absurd hAfter (not_notifying_resume _ _ _)
  | notify => exact absurd hAfter (not_notifying_resume _ _ _)
  | @answer name hActivity =>
      simp only [afterDescription] at hAfter
      split at hAfter <;> simp at hAfter
  | publish hActivity =>
      simp only [Activity.notifying.injEq, Except.ok.injEq] at hAfter
      rw [hAfter, Slots.get?_publish, if_pos rfl]
  | _ => simp at hAfter

/-- What a step preserves of the thread that takes it. -/
theorem Turn.fits (hTurn : source.Turn i before slots after later names)
    (hFits : source.Fits slots i before) : source.Fits later i after :=
  ⟨hTurn.plain hFits.plain, hTurn.owns hFits, fun _ => hTurn.found⟩

/-- What a step preserves of the other threads. -/
theorem Fits.of_touches (hFits : source.Fits slots i thread) {other : Nat}
    (hTouches : Touches other slots later) (hOther : i ≠ other) : source.Fits later i thread :=
  ⟨hFits.plain, hFits.owns.of_touches hTouches hOther,
    fun entity hActivity => hTouches.ready (hFits.found entity hActivity)⟩

theorem Fits.wake (hFits : source.Fits slots i thread) : source.Fits slots i thread.wake := by
  cases hActivity : thread.activity with
  | waiting name =>
      have hLocal := hFits.plain.activity
      have hOwns := hFits.owns
      simp only [hActivity] at hLocal
      simp only [Thread.constructions, hActivity, Activity.owned] at hOwns
      simp only [Thread.wake, hActivity]
      exact ⟨⟨hFits.plain.frames, hLocal⟩, hOwns, by simp⟩
  | _ =>
      have hSame : thread.wake = thread := by simp [Thread.wake, hActivity]
      rw [hSame]
      exact hFits

end Fits

end DerivedQuery.TypeSource
