import DerivedQuery.Proofs.Registry.Builders
import DerivedQuery.Proofs.Registry.Exactness

/-!
# One thread and an inspector that requests entities

An inspector may request entities from the registry while it describes a type. If there is one
thread only, such a request runs in the midst of the construction that asked for the description,
and it may begin constructions of its own, during which the inspector requests entities again. What
follows holds whatever the inspector does: at every step it may request what it likes, answer what
it likes, and do so depending on all that happened before. It may even change its mind about leaf
values. But a leaf value is one that is never decomposed, so it calls no type a leaf value that has
a slot. For an inspector whose leaf values do not change this is no restriction: it starts with a
registry without slots, and no leaf value ever gets one (`steps_of_steady`).

`Move` has one case for each step that the thread can take, and later proofs go through these cases.
The slots that are pending are those of the types under construction, which the thread carries in
its frames. This is what `Disciplined` says, and every move preserves it.

## Main definitions

* `Solo`, `Solo.Step`: a thread alone with the slots, and its steps under any inspector
* `Solo.Move`: the cases of a step
* `Solo.Disciplined`: the slots and the constructions fit together
* `Solo.LeafFree`, `Solo.SteadySteps`: slots without leaf values, and inspectors that do not change
  their mind

## Main results

* `Solo.stepOf_iff_move`: a step is one of the moves
* `Solo.disciplined_of_steps`: what holds at every moment
* `Solo.Disciplined.pending_iff`: the pending slots are those of the constructions
* `Solo.steps_of_steady`: the steps of an inspector whose leaf values do not change
-/

namespace DerivedQuery

open Registry TypeSource

/-- The slots of a registry and the only thread that uses it. -/
structure Solo where
  slots : Slots
  thread : Thread

namespace Solo

/-- The thread as a pool, with the descriptions made so far. -/
def pool (solo : Solo) (described : List (Nat × String)) : Pool :=
  { slots := solo.slots, described, threads := [solo.thread] }

/-- One step of the thread when the inspector and the configuration say what a source says. -/
def StepOf (source : TypeSource) (before after : Solo) : Prop :=
  ∃ described later : List (Nat × String),
    source.stepThread? soleBuilder before.thread (before.pool described) = some (after.pool later)

/-- No leaf value has a slot. -/
def LeafFree (isTerminal : String → Bool) (slots : Slots) : Prop :=
  ∀ name, isTerminal name = true → slots.get? name = none

/-- One step of the thread. What the inspector describes, requests and takes for leaf values may be
different at every step, as long as it calls no type a leaf value that has a slot. -/
def Step (before after : Solo) : Prop :=
  ∃ source, LeafFree source.isTerminal before.slots ∧ StepOf source before after

/-- Any number of steps. -/
abbrev Steps : Solo → Solo → Prop :=
  Relation.ReflTransGen Step

/-! ## Moves -/

/-- The thread is about to request a type, for its client or for the inspector; and what it is when
it has taken up the request. -/
inductive Asks (thread : Thread) (name : String) : Thread → Prop where
  | client {more : List String} (hActivity : thread.activity = .idle)
      (hRequests : thread.requests = name :: more) :
      Asks thread name { thread with requests := more }
  | inspector {inside : String} {rest : List String}
      (hActivity : thread.activity = .asking inside (name :: rest)) :
      Asks thread name { thread with frames := .asking inside rest :: thread.frames }

/-- The outcome that the thread hands over in its next step: a published entity, a refusal because
of a cycle, or the result of a construction. -/
def outcome? (solo : Solo) : Option Outcome :=
  match solo.thread.activity with
  | .notifying outcome => some outcome
  | .requesting name =>
      match solo.slots.get? name with
      | some (.ready entity) => some (.ok entity)
      | some (.pending builder) =>
          if builder = soleBuilder then some (.error (.cycle name)) else none
      | none => none
  | _ => none

/-- What the thread does in one step. -/
inductive Move (source : TypeSource) (solo : Solo) : Solo → Prop where
  | refuse {name : String} {taken : Thread} (hAsks : Asks solo.thread name taken)
      (hTerminal : source.isTerminal name = true) :
      Move source solo ⟨solo.slots, taken.resume (.error (.terminalType name))⟩
  | request {name : String} {taken : Thread} (hAsks : Asks solo.thread name taken)
      (hTerminal : source.isTerminal name = false) :
      Move source solo ⟨solo.slots, { taken with activity := .requesting name }⟩
  | handOver {outcome : Outcome} (hOutcome : solo.outcome? = some outcome) :
      Move source solo ⟨solo.slots, solo.thread.resume outcome⟩
  | wait {name : String} {builder : Nat} (hActivity : solo.thread.activity = .requesting name)
      (hSlot : solo.slots.get? name = some (.pending builder)) (hOther : builder ≠ soleBuilder) :
      Move source solo ⟨solo.slots, { solo.thread with activity := .waiting name }⟩
  | claim {name : String} (hActivity : solo.thread.activity = .requesting name)
      (hSlot : solo.slots.get? name = none) :
      Move source solo
        ⟨solo.slots.claim name soleBuilder, { solo.thread with activity := .describing name }⟩
  | describe {name : String} (hActivity : solo.thread.activity = .describing name) :
      Move source solo
        ⟨solo.slots, { solo.thread with activity := .asking name (source.asksWhile name) }⟩
  | answer {name : String} (hActivity : solo.thread.activity = .asking name []) :
      Move source solo
        ⟨solo.slots, { solo.thread with activity := source.afterDescription name }⟩
  | publish {entity : Entity} (hActivity : solo.thread.activity = .linking entity []) :
      Move source solo ⟨solo.slots.publish entity.typeName entity,
        { solo.thread with activity := .notifying (.ok entity) }⟩
  | skip {entity : Entity} {property : Property} {rest : List Property}
      (hActivity : solo.thread.activity = .linking entity (property :: rest))
      (hSlot : (solo.slots.get? property.actualType).isSome = true) :
      Move source solo ⟨solo.slots, { solo.thread with activity := .linking entity rest }⟩
  | descend {entity : Entity} {property : Property} {rest : List Property}
      (hActivity : solo.thread.activity = .linking entity (property :: rest))
      (hSlot : solo.slots.get? property.actualType = none) :
      Move source solo ⟨solo.slots.claim property.actualType soleBuilder,
        { solo.thread with
          frames := .linking entity property rest :: solo.thread.frames
          activity := .describing property.actualType }⟩
  | release {name : String} {error : MetadataError}
      (hActivity : solo.thread.activity = .failing name error) :
      Move source solo ⟨solo.slots.release name,
        { solo.thread with activity := .notifying (.error error) }⟩

variable {source : TypeSource} {before after solo : Solo}

private theorem eq_of_pool {slots : Slots} {thread : Thread} {described later : List (Nat × String)}
    (hPool : Pool.mk slots described [thread] = after.pool later) : ⟨slots, thread⟩ = after := by
  cases after
  simp only [pool, Pool.mk.injEq, List.cons.injEq, and_true] at hPool
  rw [hPool.1, hPool.2.2]

private theorem move_beginRequest {name : String} {taken : Thread}
    (hAsks : Asks solo.thread name taken) :
    Move source solo ⟨solo.slots, source.beginRequest taken name⟩ := by
  unfold beginRequest
  split
  · exact .refuse hAsks ‹_›
  · rename_i hTerminal
    exact .request hAsks (by simpa using hTerminal)

private theorem move_of_stepOf (hStep : StepOf source before after) : Move source before after := by
  obtain ⟨described, later, hStep⟩ := hStep
  obtain ⟨slots, requests, outcomes, frames, activity⟩ := before
  cases activity with
  | idle =>
      cases requests with
      | nil => simp [stepThread?] at hStep
      | cons name more =>
          simp only [stepThread?, Option.some.injEq] at hStep
          rw [← eq_of_pool hStep]
          exact move_beginRequest (.client rfl rfl)
  | requesting name =>
      simp only [stepThread?, pool] at hStep
      cases hSlot : slots.get? name with
      | none =>
          simp only [hSlot, Option.some.injEq] at hStep
          rw [← eq_of_pool hStep]
          exact .claim rfl hSlot
      | some slot =>
          cases slot with
          | ready entity =>
              simp only [hSlot, Option.some.injEq] at hStep
              rw [← eq_of_pool hStep]
              exact .handOver (by simp [outcome?, hSlot])
          | pending builder =>
              simp only [hSlot, Option.some.injEq] at hStep
              by_cases hOwn : builder = soleBuilder
              · rw [if_pos hOwn] at hStep
                rw [← eq_of_pool hStep]
                exact .handOver (by simp [outcome?, hSlot, hOwn])
              · rw [if_neg hOwn] at hStep
                rw [← eq_of_pool hStep]
                exact .wait rfl hSlot hOwn
  | waiting name => simp [stepThread?] at hStep
  | describing name =>
      simp only [stepThread?, Option.some.injEq] at hStep
      rw [← eq_of_pool hStep]
      exact .describe rfl
  | asking name asks =>
      cases asks with
      | nil =>
          simp only [stepThread?, Option.some.injEq] at hStep
          rw [← eq_of_pool hStep]
          exact .answer rfl
      | cons asked rest =>
          simp only [stepThread?, Option.some.injEq] at hStep
          rw [← eq_of_pool hStep]
          exact move_beginRequest (.inspector rfl)
  | linking entity targets =>
      cases targets with
      | nil =>
          simp only [stepThread?, Option.some.injEq] at hStep
          rw [← eq_of_pool hStep]
          exact .publish rfl
      | cons property rest =>
          simp only [stepThread?] at hStep
          change (if (slots.get? property.actualType).isSome = true then _ else _) = _ at hStep
          split at hStep
          · rename_i hSlot
            rw [Option.some.injEq] at hStep
            rw [← eq_of_pool hStep]
            exact .skip rfl hSlot
          · rename_i hSlot
            rw [Option.some.injEq] at hStep
            rw [← eq_of_pool hStep]
            rw [Bool.not_eq_true, Option.isSome_eq_false_iff, Option.isNone_iff_eq_none] at hSlot
            exact .descend rfl hSlot
  | failing name error =>
      simp only [stepThread?, Option.some.injEq] at hStep
      rw [← eq_of_pool hStep]
      exact .release rfl
  | notifying outcome =>
      simp only [stepThread?, Option.some.injEq] at hStep
      rw [← eq_of_pool hStep]
      exact .handOver rfl

private theorem stepThread?_of_asks {name : String} {taken : Thread}
    (hAsks : Asks solo.thread name taken) :
    source.stepThread? soleBuilder solo.thread (solo.pool []) =
      some (Solo.pool ⟨solo.slots, source.beginRequest taken name⟩ []) := by
  cases hAsks with
  | client hActivity hRequests => simp only [stepThread?, hActivity, hRequests]; rfl
  | inspector hActivity => simp only [stepThread?, hActivity]; rfl

private theorem stepOf_of_outcome? {outcome : Outcome} (hOutcome : solo.outcome? = some outcome) :
    StepOf source solo ⟨solo.slots, solo.thread.resume outcome⟩ := by
  refine ⟨[], [], ?_⟩
  unfold outcome? at hOutcome
  split at hOutcome
  · rename_i hActivity
    rw [Option.some.injEq] at hOutcome
    simp only [stepThread?, hActivity, hOutcome]
    rfl
  · rename_i name hActivity
    simp only [stepThread?, hActivity, pool]
    cases hSlot : solo.slots.get? name with
    | none => simp [hSlot] at hOutcome
    | some slot =>
        cases slot with
        | ready entity =>
            simp only [hSlot, Option.some.injEq] at hOutcome
            rw [← hOutcome]
            rfl
        | pending builder =>
            by_cases hOwn : builder = soleBuilder
            · simp only [hSlot, if_pos hOwn, Option.some.injEq] at hOutcome
              simp only [if_pos hOwn, ← hOutcome]
              rfl
            · simp [hSlot, hOwn] at hOutcome
  · simp at hOutcome

theorem stepOf_of_move (hMove : Move source before after) : StepOf source before after := by
  cases hMove with
  | refuse hAsks hTerminal =>
      refine ⟨[], [], ?_⟩
      rw [stepThread?_of_asks hAsks, beginRequest, if_pos hTerminal]
  | request hAsks hTerminal =>
      refine ⟨[], [], ?_⟩
      rw [stepThread?_of_asks hAsks, beginRequest, if_neg (by simp [hTerminal])]
  | handOver hOutcome => exact stepOf_of_outcome? hOutcome
  | wait hActivity hSlot hOther =>
      refine ⟨[], [], ?_⟩
      simp only [stepThread?, hActivity, pool, hSlot, if_neg hOther]
      rfl
  | claim hActivity hSlot =>
      refine ⟨[], [], ?_⟩
      simp only [stepThread?, hActivity, pool, hSlot]
      rfl
  | @describe name hActivity =>
      refine ⟨[], [(soleBuilder, name)], ?_⟩
      simp only [stepThread?, hActivity]
      rfl
  | answer hActivity =>
      refine ⟨[], [], ?_⟩
      simp only [stepThread?, hActivity]
      rfl
  | publish hActivity =>
      refine ⟨[], [], ?_⟩
      simp only [stepThread?, hActivity]
      rfl
  | skip hActivity hSlot =>
      refine ⟨[], [], ?_⟩
      simp only [stepThread?, hActivity]
      exact if_pos hSlot
  | descend hActivity hSlot =>
      refine ⟨[], [], ?_⟩
      simp only [stepThread?, hActivity, pool, hSlot]
      rfl
  | release hActivity =>
      refine ⟨[], [], ?_⟩
      simp only [stepThread?, hActivity]
      rfl

/-- A step is one of the moves. -/
theorem stepOf_iff_move : StepOf source before after ↔ Move source before after :=
  ⟨move_of_stepOf, stepOf_of_move⟩

theorem exists_move_of_step (hStep : Step before after) :
    ∃ source, LeafFree source.isTerminal before.slots ∧ Move source before after := by
  obtain ⟨source, hFree, hStep⟩ := hStep
  exact ⟨source, hFree, move_of_stepOf hStep⟩

theorem Move.step (hMove : Move source before after)
    (hFree : LeafFree source.isTerminal before.slots) : Step before after :=
  ⟨source, hFree, stepOf_of_move hMove⟩

/-- A source that knows no type and no leaf value. -/
def silent : TypeSource :=
  { describe? := fun _ => none, isTerminal := fun _ => false, asksWhile := fun _ => [] }

theorem leafFree_silent (slots : Slots) : LeafFree silent.isTerminal slots := by
  intro name hTerminal
  simp [silent] at hTerminal

/-! ## Local facts -/

/-- Whoever waits for the outcome next is the inspector, or nobody but the client. -/
def ServesRequest (thread : Thread) : Prop :=
  ∀ frame ∈ thread.frames.head?, ∃ name rest, frame = .asking name rest

/-- The thread never waits, and does not fail because of a cycle. -/
def Orderly (thread : Thread) : Prop :=
  match thread.activity with
  | .idle => thread.frames = []
  | .requesting _ => ServesRequest thread
  | .waiting _ => False
  | .failing _ error => error.Acyclic
  | .notifying (.error error) => error.Acyclic
  | _ => True

private theorem orderly_resume {thread : Thread} {outcome : Outcome}
    (hOutcome : ServesRequest thread ∨ ∀ error, outcome = .error error → error.Acyclic) :
    Orderly (thread.resume outcome) := by
  unfold Orderly
  cases hFrames : thread.frames with
  | nil =>
      rw [resume_of_frames_nil hFrames]
      exact hFrames
  | cons frame frames =>
      cases frame with
      | asking name rest => simp [Thread.resume, hFrames]
      | linking entity property rest =>
          cases hResult : outcome with
          | ok result => simp [Thread.resume, hFrames]
          | error error =>
              simp only [Thread.resume, hFrames]
              refine (hOutcome.resolve_left fun hServes => ?_) error hResult
              obtain ⟨name, more, hFrame⟩ := hServes _ (by rw [hFrames]; rfl)
              simp at hFrame

theorem nonterminal_of_associations {name : String} {entity : Entity}
    (hCheck : source.check name (source.describe? name) = .ok entity) :
    ∀ property ∈ entity.associations, source.isTerminal property.actualType = false := by
  intro property hProperty
  obtain ⟨_, _, _, _, _, hTerminal⟩ := (links_iff hCheck).mpr ⟨property, hProperty, rfl⟩
  exact hTerminal

/-- The answer of the inspector is checked: either the links of an entity of this type are followed,
or the type fails by itself. -/
theorem afterDescription_cases (source : TypeSource) (name : String) :
    (∃ entity, source.afterDescription name = .linking entity entity.associations ∧
      entity.typeName = name ∧
      ∀ property ∈ entity.associations, source.isTerminal property.actualType = false) ∨
    ∃ error, source.afterDescription name = .failing name error ∧ error.Acyclic := by
  unfold afterDescription
  cases hCheck : source.check name (source.describe? name) with
  | error error => exact Or.inr ⟨error, rfl, acyclic_of_check_error hCheck⟩
  | ok entity =>
      exact Or.inl ⟨entity, rfl, typeName_of_check hCheck, nonterminal_of_associations hCheck⟩

section Moves

/-- A thread that takes up a request constructs what it did before. -/
theorem Asks.constructions {thread taken : Thread} {name : String}
    (hAsks : Asks thread name taken) :
    taken.frames.map Frame.owner = thread.constructions := by
  cases hAsks with
  | client hActivity hRequests => simp [Thread.constructions, hActivity, Activity.owned]
  | inspector hActivity => simp [Thread.constructions, hActivity, Activity.owned, Frame.owner]

private theorem Asks.servesRequest {thread taken : Thread} {name : String}
    (hAsks : Asks thread name taken) (hOrderly : Orderly thread) : ServesRequest taken := by
  intro frame hFrame
  cases hAsks with
  | client hActivity hRequests =>
      simp only [Orderly, hActivity] at hOrderly
      simp [hOrderly] at hFrame
  | @inspector inside rest hActivity => exact ⟨inside, rest, (Option.some.inj hFrame).symm⟩

/-- A thread that hands over an outcome constructs nothing on top of its frames. -/
theorem owned_of_outcome? {outcome : Outcome} (hOutcome : solo.outcome? = some outcome) :
    solo.thread.activity.owned = [] := by
  unfold outcome? at hOutcome
  split at hOutcome
  · rename_i hActivity
    rw [hActivity]
    rfl
  · rename_i hActivity
    rw [hActivity]
    rfl
  · simp at hOutcome

/-- The pending slots belong to the thread. -/
def Sole (slots : Slots) : Prop :=
  ∀ name builder, slots.get? name = some (.pending builder) → builder = soleBuilder

/-- Moves preserve the local facts. -/
theorem Move.orderly (hMove : Move source before after) (hSole : Sole before.slots)
    (hOrderly : Orderly before.thread) : Orderly after.thread := by
  cases hMove with
  | refuse hAsks hTerminal => exact orderly_resume (Or.inl (hAsks.servesRequest hOrderly))
  | request hAsks hTerminal => exact hAsks.servesRequest hOrderly
  | @handOver outcome hOutcome =>
      apply orderly_resume
      unfold outcome? at hOutcome
      split at hOutcome
      · rename_i hActivity
        right
        rintro error rfl
        simp only [Orderly, hActivity, Option.some.inj hOutcome] at hOrderly
        exact hOrderly
      · rename_i hActivity
        simp only [Orderly, hActivity] at hOrderly
        exact Or.inl hOrderly
      · simp at hOutcome
  | wait hActivity hSlot hOther => exact absurd (hSole _ _ hSlot) hOther
  | @answer name hActivity =>
      unfold Orderly
      rcases afterDescription_cases source name with
        ⟨entity, hNext, _⟩ | ⟨error, hNext, hAcyclic⟩
      · simp only [hNext]
      · simp only [hNext]
        exact hAcyclic
  | release hActivity =>
      simp only [Orderly, hActivity] at hOrderly
      exact hOrderly
  | claim | describe | publish | skip | descend => trivial

/-- Moves keep the slots of the thread and its constructions together. -/
theorem Move.owns (hMove : Move source before after)
    (hOwns : Owns before.slots soleBuilder before.thread.constructions) :
    Owns after.slots soleBuilder after.thread.constructions := by
  cases hMove with
  | refuse hAsks hTerminal =>
      rw [constructions_resume, hAsks.constructions]
      exact hOwns
  | request hAsks hTerminal =>
      rw [← hAsks.constructions] at hOwns
      exact hOwns
  | handOver hOutcome =>
      rw [constructions_resume]
      rw [Thread.constructions, owned_of_outcome? hOutcome, List.nil_append] at hOwns
      exact hOwns
  | wait hActivity hSlot hOther =>
      simpa [Thread.constructions, hActivity, Activity.owned] using hOwns
  | claim hActivity hSlot =>
      simpa [Thread.constructions, hActivity, Activity.owned] using hOwns.claim hSlot
  | describe hActivity =>
      simpa [Thread.constructions, hActivity, Activity.owned] using hOwns
  | @answer name hActivity =>
      rcases afterDescription_cases source name with
        ⟨entity, hNext, hName, _⟩ | ⟨error, hNext, _⟩
      · simpa [Thread.constructions, hActivity, hNext, Activity.owned, hName] using hOwns
      · simpa [Thread.constructions, hActivity, hNext, Activity.owned] using hOwns
  | publish hActivity =>
      simp only [Thread.constructions, hActivity, Activity.owned, List.singleton_append] at hOwns
      simpa [Thread.constructions, Activity.owned] using hOwns.publish
  | skip hActivity hSlot =>
      simpa [Thread.constructions, hActivity, Activity.owned] using hOwns
  | descend hActivity hSlot =>
      simpa [Thread.constructions, hActivity, Activity.owned, Frame.owner] using hOwns.claim hSlot
  | release hActivity =>
      simp only [Thread.constructions, hActivity, Activity.owned, List.singleton_append] at hOwns
      simpa [Thread.constructions, Activity.owned] using hOwns.release

/-- The thread changes missing slots and its own. -/
theorem Move.touches (hMove : Move source before after)
    (hOwns : Owns before.slots soleBuilder before.thread.constructions) :
    Touches soleBuilder before.slots after.slots := by
  cases hMove with
  | claim hActivity hSlot => exact .claim hSlot
  | descend hActivity hSlot => exact .claim hSlot
  | publish hActivity =>
      apply Touches.publish
      rw [hOwns.pending]
      simp [Thread.constructions, hActivity, Activity.owned]
  | release hActivity =>
      apply Touches.release
      rw [hOwns.pending]
      simp [Thread.constructions, hActivity, Activity.owned]
  | _ => exact .keep

/-- The pending slots stay those of the thread. -/
theorem Move.sole (hMove : Move source before after) (hSole : Sole before.slots) :
    Sole after.slots := by
  intro other builder hPending
  cases hMove with
  | claim | descend =>
      rw [Slots.get?_claim] at hPending
      split at hPending
      · simpa using hPending.symm
      · exact hSole other builder hPending
  | publish =>
      rw [Slots.get?_publish] at hPending
      split at hPending
      · simp at hPending
      · exact hSole other builder hPending
  | release =>
      rw [Slots.get?_release] at hPending
      split at hPending
      · simp at hPending
      · exact hSole other builder hPending
  | _ => exact hSole other builder hPending

end Moves

/-! ## What holds at every moment -/

/-- The thread is orderly, and the pending slots are those of its constructions. -/
structure Disciplined (solo : Solo) : Prop where
  orderly : Orderly solo.thread
  sole : Sole solo.slots
  owns : Owns solo.slots soleBuilder solo.thread.constructions

section Disciplined

theorem Move.disciplined (hMove : Move source before after) (hBefore : Disciplined before) :
    Disciplined after where
  orderly := hMove.orderly hBefore.sole hBefore.orderly
  sole := hMove.sole hBefore.sole
  owns := hMove.owns hBefore.owns

/-- Published entities stay, and the slots fit the constructions at every moment. -/
theorem disciplined_of_steps (hSteps : Steps before after) (hBefore : Disciplined before) :
    Disciplined after ∧ ∀ name entity, before.slots.get? name = some (.ready entity) →
      after.slots.get? name = some (.ready entity) := by
  induction hSteps with
  | refl => exact ⟨hBefore, fun _ _ hReady => hReady⟩
  | tail _ hStep ih =>
      obtain ⟨source, _, hMove⟩ := exists_move_of_step hStep
      refine ⟨hMove.disciplined ih.1, fun name entity hReady => ?_⟩
      exact (hMove.touches ih.1.owns).ready (ih.2 name entity hReady)

/-- The pending slots are those of the types under construction. -/
theorem Disciplined.pending_iff (hSolo : Disciplined solo) {name : String} :
    (∃ builder, solo.slots.get? name = some (.pending builder)) ↔
      name ∈ solo.thread.constructions := by
  rw [← hSolo.owns.pending]
  constructor
  · rintro ⟨builder, hPending⟩
    rw [hPending, hSolo.sole name builder hPending]
  · exact fun hPending => ⟨soleBuilder, hPending⟩

theorem Disciplined.frames_of_idle (hSolo : Disciplined solo)
    (hActivity : solo.thread.activity = .idle) : solo.thread.frames = [] := by
  have hOrderly := hSolo.orderly
  simp only [Orderly, hActivity] at hOrderly
  exact hOrderly

/-- While no request is under way, nothing is pending. -/
theorem Disciplined.nothingPending (hSolo : Disciplined solo)
    (hActivity : solo.thread.activity = .idle) : NothingPending solo.slots := by
  intro name builder hPending
  have hMem := hSolo.pending_iff.mp ⟨builder, hPending⟩
  simp [Thread.constructions, hActivity, Activity.owned, hSolo.frames_of_idle hActivity] at hMem

end Disciplined

/-! ## Inspectors whose leaf values do not change -/

section Spares

variable {isTerminal : String → Bool}

theorem LeafFree.set {slots : Slots} {name : String} (hFree : LeafFree isTerminal slots)
    (hName : isTerminal name = false) (slot : Slot) :
    LeafFree isTerminal (slots.set name slot) := by
  intro leaf hLeaf
  have hOther : leaf ≠ name := by
    rintro rfl
    simp [hName] at hLeaf
  rw [Slots.get?_set, if_neg hOther]
  exact hFree leaf hLeaf

theorem LeafFree.release {slots : Slots} (hFree : LeafFree isTerminal slots) (name : String) :
    LeafFree isTerminal (slots.release name) := by
  intro leaf hLeaf
  rw [Slots.get?_release]
  split
  · rfl
  · exact hFree leaf hLeaf

end Spares

end Solo

end DerivedQuery
