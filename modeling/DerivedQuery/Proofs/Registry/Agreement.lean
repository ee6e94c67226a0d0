import DerivedQuery.Proofs.Registry.Builders
import DerivedQuery.Proofs.Registry.Closure
import Mathlib.Data.List.Forall2
import Mathlib.Logic.Relation

/-!
# Agreement of the threads

However the steps of the threads interleave, each type has at most one builder, a description is
asked for by the thread that has claimed the slot of the type, and an entity that is published stays.
So every thread that is given an entity for a type is given the published one, and it is the one
that the description stands for.

To say which request an outcome answers, a thread is split into the requests that it has done, the
one that it serves, and those that are left (`Serves`). While it serves a request, the outermost of
its constructions is for the requested type.

## Main results

* `sound_step`, `sound_of_steps`: what every step and every interleaving preserves
* `orderly_of_steps`: each type has one builder, and the threads agree on what is built
* `steps_run`: schedules are interleavings
-/

namespace DerivedQuery

/-- The type that a thread is concerned with at the moment, if there is still an entity to give. -/
def Activity.subject : Activity → List String
  | .idle => []
  | .requesting name => [name]
  | .waiting name => [name]
  | .describing name => [name]
  | .asking name _ => [name]
  | .linking entity _ => [entity.typeName]
  | .failing name _ => [name]
  | .notifying (.ok entity) => [entity.typeName]
  | .notifying (.error _) => []

/-- The type that the request of a thread is for, if there is still an entity to give. -/
def Thread.requested? (thread : Thread) : Option String :=
  (thread.activity.subject ++ thread.frames.map Frame.owner).getLast?

namespace TypeSource

variable {source : TypeSource} {i : Nat}

/-! ## Outcomes and requests -/

/-- A request is answered with the published entity, or with an error that is no cycle. -/
def Answers (slots : Slots) (name : String) : Outcome → Prop
  | .ok entity => slots.get? name = some (.ready entity)
  | .error error => error.Acyclic

/-- The thread serves one request, or none if it is idle. -/
def Serving (thread : Thread) (current : List String) : Prop :=
  (thread.activity = .idle ∧ current = []) ∨
    (thread.activity ≠ .idle ∧ ∃ name, current = [name] ∧
      ∀ requested, thread.requested? = some requested → requested = name)

/-- The outcomes of a thread answer the first of its requests. -/
def Serves (slots : Slots) (requests : List String) (thread : Thread) : Prop :=
  ∃ done current, requests = done ++ current ++ thread.requests ∧
    List.Forall₂ (Answers slots) done thread.outcomes ∧ Serving thread current

section Serves

variable {slots later : Slots} {before after thread : Thread} {names requests : List String}

theorem Answers.mono (hReady : ∀ name entity, slots.get? name = some (.ready entity) →
    later.get? name = some (.ready entity)) {name : String} {outcome : Outcome}
    (hAnswers : Answers slots name outcome) : Answers later name outcome := by
  cases outcome with
  | ok entity => exact hReady name entity hAnswers
  | error error => exact hAnswers

/-- What is published meanwhile does not matter. -/
theorem Serves.mono (hReady : ∀ name entity, slots.get? name = some (.ready entity) →
    later.get? name = some (.ready entity)) (hServes : Serves slots requests thread) :
    Serves later requests thread := by
  obtain ⟨done, current, hRequests, hDone, hServing⟩ := hServes
  exact ⟨done, current, hRequests, hDone.imp fun _ _ => Answers.mono hReady, hServing⟩

/-- A thread goes on with its request. -/
theorem Serves.continue (hServes : Serves slots requests before) (hBefore : before.activity ≠ .idle)
    (hAfter : after.activity ≠ .idle) (hRequests : after.requests = before.requests)
    (hOutcomes : after.outcomes = before.outcomes)
    (hRequested : ∀ name, after.requested? = some name → before.requested? = some name) :
    Serves slots requests after := by
  obtain ⟨done, current, hSplit, hDone, hServing⟩ := hServes
  obtain ⟨hIdle, _⟩ | ⟨_, name, hCurrent, hName⟩ := hServing
  · exact absurd hIdle hBefore
  · refine ⟨done, current, ?_, ?_, Or.inr ⟨hAfter, name, hCurrent, fun requested hSome => ?_⟩⟩
    · rw [hRequests]
      exact hSplit
    · rw [hOutcomes]
      exact hDone
    · exact hName requested (hRequested requested hSome)

/-- A thread goes on with the type that it is concerned with. -/
theorem Serves.of_subject_eq (hServes : Serves slots requests before)
    (hBefore : before.activity ≠ .idle) (hAfter : after.activity ≠ .idle)
    (hRequests : after.requests = before.requests) (hOutcomes : after.outcomes = before.outcomes)
    (hFrames : after.frames = before.frames)
    (hSubject : after.activity.subject = before.activity.subject) :
    Serves slots requests after := by
  refine hServes.continue hBefore hAfter hRequests hOutcomes fun name hName => ?_
  rw [Thread.requested?, hFrames, hSubject] at hName
  exact hName

/-- A thread hands the outcome of its request to its client. -/
theorem Serves.finish (hServes : Serves slots requests thread) (hActivity : thread.activity ≠ .idle)
    (hFrames : thread.frames = []) {outcome : Outcome}
    (hAnswers : ∀ name, (∀ requested, thread.requested? = some requested → requested = name) →
      Answers slots name outcome) :
    Serves slots requests (thread.resume outcome) := by
  obtain ⟨done, current, hSplit, hDone, hServing⟩ := hServes
  obtain ⟨hIdle, _⟩ | ⟨_, name, hCurrent, hName⟩ := hServing
  · exact absurd hIdle hActivity
  · rw [resume_of_frames_nil hFrames]
    refine ⟨done ++ [name], [], ?_, ?_, Or.inl ⟨rfl, rfl⟩⟩
    · rw [hSplit, hCurrent, List.append_nil]
    · exact List.rel_append hDone (.cons (hAnswers name hName) .nil)

/-- A thread that is idle takes up its next request. -/
theorem Serves.next (hServes : Serves slots requests thread) (hActivity : thread.activity = .idle)
    {name : String} {rest : List String} (hNext : thread.requests = name :: rest) :
    ∃ done, requests = done ++ [name] ++ rest ∧
      List.Forall₂ (Answers slots) done thread.outcomes := by
  obtain ⟨done, current, hSplit, hDone, hServing⟩ := hServes
  obtain ⟨_, hCurrent⟩ | ⟨hBusy, _⟩ := hServing
  · refine ⟨done, ?_, hDone⟩
    rw [hSplit, hCurrent, hNext, List.append_nil, List.append_assoc, List.singleton_append]
  · exact absurd hActivity hBusy

/-- An outcome for a construction that was interrupted is not the end of the request. -/
theorem Serves.resume (hServes : Serves slots requests thread) (hActivity : thread.activity ≠ .idle)
    {entity : Entity} {property : Property} {rest : List Property} {frames : List Frame}
    (hFrames : thread.frames = .linking entity property rest :: frames) (outcome : Outcome) :
    Serves slots requests (thread.resume outcome) := by
  have hRequested : thread.requested? =
      (entity.typeName :: frames.map Frame.owner).getLast? := by
    rw [Thread.requested?, hFrames, List.map_cons, Frame.owner, List.getLast?_append_cons]
  cases outcome with
  | ok result =>
      simp only [Thread.resume, hFrames]
      refine hServes.continue hActivity (by simp) rfl rfl fun name hName => ?_
      rw [hRequested]
      exact hName
  | error error =>
      simp only [Thread.resume, hFrames]
      refine hServes.continue hActivity (by simp) rfl rfl fun name hName => ?_
      rw [hRequested]
      exact hName

/-- What a step preserves of the outcomes of the thread that takes it. -/
theorem Turn.serves (hTurn : source.Turn i before slots after later names)
    (hFits : source.Fits slots i before) (hServes : Serves slots requests before) :
    Serves later requests after := by
  have hLocal := hFits.plain.activity
  have hLater : Serves later requests before :=
    hServes.mono fun _ _ => (hFits.touches hTurn).ready
  cases hTurn with
  | @refuse name rest hActivity hRequests hTerminal =>
      simp only [hActivity] at hLocal
      obtain ⟨done, hSplit, hDone⟩ := hServes.next hActivity hRequests
      simp only [Thread.resume, hLocal]
      refine ⟨done ++ [name], [], by rw [hSplit, List.append_nil], ?_, Or.inl ⟨rfl, rfl⟩⟩
      exact List.rel_append hDone (.cons (fun _ => by simp [MetadataError.rootCause]) .nil)
  | @request name rest hActivity hRequests hTerminal =>
      simp only [hActivity] at hLocal
      obtain ⟨done, hSplit, hDone⟩ := hServes.next hActivity hRequests
      refine ⟨done, [name], hSplit, hDone, Or.inr ⟨by simp, name, rfl, fun requested hSome => ?_⟩⟩
      simp only [Thread.requested?, Activity.subject, hLocal, List.map_nil, List.append_nil,
        List.getLast?_singleton, Option.some.injEq] at hSome
      exact hSome.symm
  | @find name entity hActivity hSlot =>
      simp only [hActivity] at hLocal
      refine hServes.finish (by simp [hActivity]) hLocal fun requested hName => ?_
      have hSame := hName name (by simp [Thread.requested?, Activity.subject, hActivity, hLocal])
      rw [← hSame]
      exact hSlot
  | refuseOwn hActivity hSlot => exact absurd hSlot (hFits.not_pending_of_requesting hActivity)
  | wait hActivity hSlot hOther =>
      exact hServes.of_subject_eq (by simp [hActivity]) (by simp) rfl rfl rfl
        (by simp [hActivity, Activity.subject])
  | claim hActivity hSlot =>
      exact hLater.of_subject_eq (by simp [hActivity]) (by simp) rfl rfl rfl
        (by simp [hActivity, Activity.subject])
  | describe hActivity =>
      exact hServes.of_subject_eq (by simp [hActivity]) (by simp) rfl rfl rfl
        (by simp [hActivity, Activity.subject])
  | @answer type hActivity =>
      unfold afterDescription
      cases hCheck : source.check type (source.describe? type) with
      | error error =>
          exact hServes.of_subject_eq (by simp [hActivity]) (by simp) rfl rfl rfl
            (by simp [hActivity, Activity.subject])
      | ok entity =>
          exact hServes.of_subject_eq (by simp [hActivity]) (by simp) rfl rfl rfl
            (by simp [hActivity, Activity.subject, typeName_of_check hCheck])
  | publish hActivity =>
      exact hLater.of_subject_eq (by simp [hActivity]) (by simp) rfl rfl rfl
        (by simp [hActivity, Activity.subject])
  | skip hActivity hSlot =>
      exact hServes.of_subject_eq (by simp [hActivity]) (by simp) rfl rfl rfl
        (by simp [hActivity, Activity.subject])
  | descend hActivity hSlot =>
      refine hLater.continue (by simp [hActivity]) (by simp) rfl rfl fun name hName => ?_
      simpa [Thread.requested?, hActivity, Activity.subject, Frame.owner] using hName
  | release hActivity =>
      -- the type of a construction that has failed is no longer asked after
      refine hLater.continue (by simp [hActivity]) (by simp) rfl rfl fun name hName => ?_
      simp only [Thread.requested?, Activity.subject, List.nil_append] at hName
      simp [Thread.requested?, hActivity, Activity.subject, List.getLast?_cons, hName]
  | @notify outcome hActivity =>
      have hBusy : before.activity ≠ .idle := by simp [hActivity]
      cases hFrames : before.frames with
      | nil =>
          refine hServes.finish hBusy hFrames fun requested hName => ?_
          cases outcome with
          | error error =>
              simp only [hActivity] at hLocal
              exact hLocal
          | ok entity =>
              have hSame := hName entity.typeName
                (by simp [Thread.requested?, Activity.subject, hActivity, hFrames])
              rw [← hSame]
              exact hFits.found entity hActivity
      | cons frame frames =>
          have hPlain := hFits.plain.frames frame (by simp [hFrames])
          cases frame with
          | asking name rest => exact hPlain.elim
          | linking entity property rest => exact hServes.resume hBusy hFrames outcome

end Serves

/-! ## Pools -/

/-- What holds of a pool however its threads have interleaved: the slots know what each thread
constructs, every published entity is the one that the description of its type stands for, and the
outcomes of each thread answer its requests. -/
structure Sound (source : TypeSource) (requests : List (List String)) (pool : Pool) : Prop where
  length : pool.threads.length = requests.length
  fits : ∀ (i : Nat) thread, pool.threads[i]? = some thread → source.Fits pool.slots i thread
  builders : ∀ name i, pool.slots.get? name = some (.pending i) → i < pool.threads.length
  sourced : source.Sourced pool.slots
  serves : ∀ (i : Nat) thread, pool.threads[i]? = some thread →
    ∃ all, requests[i]? = some all ∧ Serves pool.slots all thread

theorem Serving.wake {thread : Thread} {current : List String} (hServing : Serving thread current) :
    Serving thread.wake current := by
  cases hActivity : thread.activity with
  | waiting name =>
      simpa [Serving, Thread.wake, Thread.requested?, hActivity, Activity.subject] using hServing
  | _ =>
      have hSame : thread.wake = thread := by simp [Thread.wake, hActivity]
      rw [hSame]
      exact hServing

theorem Serves.wake {slots : Slots} {requests : List String} {thread : Thread}
    (hServes : Serves slots requests thread) : Serves slots requests thread.wake := by
  obtain ⟨done, current, hSplit, hDone, hServing⟩ := hServes
  have hRequests : thread.wake.requests = thread.requests := by
    unfold Thread.wake
    split <;> rfl
  have hOutcomes : thread.wake.outcomes = thread.outcomes := by
    unfold Thread.wake
    split <;> rfl
  exact ⟨done, current, by rw [hRequests]; exact hSplit, by rw [hOutcomes]; exact hDone,
    hServing.wake⟩

section Pool

variable {requests : List (List String)} {pool next : Pool}

theorem sound_ofRequests (source : TypeSource) (requests : List (List String)) :
    source.Sound requests (.ofRequests requests) where
  length := List.length_map _
  fits i thread hThread := by
    simp only [Pool.ofRequests, List.getElem?_map, Option.map_eq_some_iff] at hThread
    obtain ⟨own, _, rfl⟩ := hThread
    refine ⟨⟨by simp, rfl⟩, ⟨fun name => ?_, List.nodup_nil⟩, by simp⟩
    simp [Pool.ofRequests, Slots.get?, Thread.constructions, Activity.owned]
  builders name i hPending := by simp [Pool.ofRequests, Slots.get?] at hPending
  sourced := sourced_nil source
  serves i thread hThread := by
    simp only [Pool.ofRequests, List.getElem?_map, Option.map_eq_some_iff] at hThread
    obtain ⟨own, hOwn, rfl⟩ := hThread
    exact ⟨own, hOwn, [], [], rfl, .nil, Or.inl ⟨rfl, rfl⟩⟩

/-- A turn of one thread. -/
theorem Sound.turned (hSound : source.Sound requests pool) {before after : Thread} {slots : Slots}
    {names : List String} (hThread : pool.threads[i]? = some before)
    (hTurn : source.Turn i before pool.slots after slots names) :
    source.Sound requests (pool.turned i before after slots names) := by
  have hFits := hSound.fits i before hThread
  have hTouches := hFits.touches hTurn
  have hInside : i < pool.threads.length := (List.getElem?_eq_some_iff.mp hThread).1
  refine ⟨?_, fun j other hOther => ?_, fun name builder hPending => ?_,
    hTurn.sourced hFits.plain hSound.sourced, fun j other hOther => ?_⟩
  · rw [length_threads_turned]
    exact hSound.length
  · rcases getElem?_turned hOther with ⟨rfl, rfl⟩ | ⟨hDifferent, old, hOld, hCases⟩
    · exact hTurn.fits hFits
    · have hKept := (hSound.fits j old hOld).of_touches hTouches hDifferent
      rcases hCases with rfl | rfl
      · exact hKept
      · exact hKept.wake
  · rw [length_threads_turned]
    by_cases hSame : builder = i
    · rw [hSame]
      exact hInside
    · exact hSound.builders name builder ((hTouches.pending_iff hSame).mp hPending)
  · rcases getElem?_turned hOther with ⟨rfl, rfl⟩ | ⟨_, old, hOld, hCases⟩
    · obtain ⟨all, hAll, hServes⟩ := hSound.serves j before hThread
      exact ⟨all, hAll, hTurn.serves hFits hServes⟩
    · obtain ⟨all, hAll, hServes⟩ := hSound.serves j old hOld
      have hKept := hServes.mono fun _ _ => hTouches.ready
      rcases hCases with rfl | rfl
      · exact ⟨all, hAll, hKept⟩
      · exact ⟨all, hAll, hKept.wake⟩

/-- A spurious wakeup. -/
theorem Sound.wakeup (hSound : source.Sound requests pool) {thread : Thread}
    (hThread : pool.threads[i]? = some thread) :
    source.Sound requests (pool.setThread i thread.wake) := by
  refine ⟨?_, fun j other hOther => ?_, fun name builder hPending => ?_, hSound.sourced,
    fun j other hOther => ?_⟩
  · rw [← hSound.length]
    exact List.length_set
  · rcases getElem?_set_cases hOther with ⟨rfl, rfl⟩ | ⟨_, hOld⟩
    · exact (hSound.fits j thread hThread).wake
    · exact hSound.fits j other hOld
  · rw [Pool.setThread, List.length_set]
    exact hSound.builders name builder hPending
  · rcases getElem?_set_cases hOther with ⟨rfl, rfl⟩ | ⟨_, hOld⟩
    · obtain ⟨all, hAll, hServes⟩ := hSound.serves j thread hThread
      exact ⟨all, hAll, hServes.wake⟩
    · exact hSound.serves j other hOld

/-- What every step preserves. -/
theorem sound_step (hPassive : source.Passive) (hSound : source.Sound requests pool)
    (hStep : source.Step pool next) : source.Sound requests next := by
  cases hStep with
  | thread i before hThread hStep =>
      obtain ⟨after, slots, names, hTurn, rfl⟩ :=
        turn_of_stepThread? hPassive (hSound.fits i before hThread).plain hStep
      exact hSound.turned hThread hTurn
  | wakeup i before hThread hWaiting => exact hSound.wakeup hThread

/-- What every interleaving preserves. -/
theorem sound_of_steps (hPassive : source.Passive) (hSound : source.Sound requests pool)
    (hSteps : Relation.ReflTransGen source.Step pool next) : source.Sound requests next := by
  induction hSteps with
  | refl => exact hSound
  | tail _ hStep ih => exact sound_step hPassive ih hStep

/-! ## One step of a sound pool -/

theorem ready_step (hPassive : source.Passive) (hSound : source.Sound requests pool)
    (hStep : source.Step pool next) {name : String} {entity : Entity}
    (hReady : pool.slots.get? name = some (.ready entity)) :
    next.slots.get? name = some (.ready entity) := by
  cases hStep with
  | thread i before hThread hStep =>
      have hFits := hSound.fits i before hThread
      obtain ⟨after, slots, names, hTurn, rfl⟩ := turn_of_stepThread? hPassive hFits.plain hStep
      exact (hFits.touches hTurn).ready hReady
  | wakeup i before hThread hWaiting => exact hReady

/-- An entity that is published stays, however the threads go on. -/
theorem ready_steps (hPassive : source.Passive) (hSound : source.Sound requests pool)
    (hSteps : Relation.ReflTransGen source.Step pool next) {name : String} {entity : Entity}
    (hReady : pool.slots.get? name = some (.ready entity)) :
    next.slots.get? name = some (.ready entity) := by
  induction hSteps with
  | refl => exact hReady
  | tail hBefore hStep ih =>
      exact ready_step hPassive (sound_of_steps hPassive hSound hBefore) hStep ih

/-- A thread asks for the description of a type whose slot it has claimed. -/
theorem Turn.described {before after : Thread} {slots later : Slots} {names : List String}
    (hTurn : source.Turn i before slots after later names) (hFits : source.Fits slots i before) :
    ∀ name ∈ names, slots.get? name = some (.pending i) := by
  cases hTurn with
  | describe hActivity =>
      intro name hName
      rw [hFits.owns.pending]
      simpa [Thread.constructions, hActivity, Activity.owned] using Or.inl hName
  | _ => simp

private theorem described_step (hPassive : source.Passive) (hSound : source.Sound requests pool)
    (hStep : source.Step pool next) :
    ∃ asked, next.described = pool.described ++ asked ∧
      ∀ call ∈ asked, pool.slots.get? call.2 = some (.pending call.1) := by
  cases hStep with
  | thread i before hThread hStep =>
      have hFits := hSound.fits i before hThread
      obtain ⟨after, slots, names, hTurn, rfl⟩ := turn_of_stepThread? hPassive hFits.plain hStep
      refine ⟨names.map (i, ·), rfl, fun call hCall => ?_⟩
      obtain ⟨name, hName, rfl⟩ := List.mem_map.mp hCall
      exact hTurn.described hFits name hName
  | wakeup i before hThread hWaiting => exact ⟨[], (List.append_nil _).symm, by simp⟩

end Pool

/-! ## Every interleaving -/

/-- What threads can rely on that share a registry. -/
structure Orderly (source : TypeSource) (requests : List (List String)) (pool : Pool) : Prop where
  /-- The slot of a type is pending for a thread as long as the thread constructs the type. -/
  builder : ∀ name i, pool.slots.get? name = some (.pending i) ↔
    ∃ thread, pool.threads[i]? = some thread ∧ name ∈ thread.constructions
  /-- No thread constructs a type within another construction of the type. -/
  once : ∀ (i : Nat) thread, pool.threads[i]? = some thread → thread.constructions.Nodup
  /-- A published entity is neither removed nor replaced. -/
  kept : ∀ later, Relation.ReflTransGen source.Step pool later → ∀ name entity,
    pool.slots.get? name = some (.ready entity) → later.slots.get? name = some (.ready entity)
  /-- Only the thread that has claimed the slot of a type asks for its description. -/
  described : ∀ next, source.Step pool next → ∃ asked, next.described = pool.described ++ asked ∧
    ∀ call ∈ asked, pool.slots.get? call.2 = some (.pending call.1)
  /-- Published is the entity that the description of a type stands for. -/
  sourced : source.Sourced pool.slots
  /-- The outcomes of a thread answer its requests in order, with published entities and with errors
  that are no cycles. -/
  answered : ∀ (i : Nat) thread, pool.threads[i]? = some thread → ∃ done rest,
    requests[i]? = some (done ++ rest) ∧ List.Forall₂ (Answers pool.slots) done thread.outcomes

/-- **Single builder and agreement**, for every source that requests nothing of the registry, any
number of threads and every interleaving. -/
theorem orderly_of_steps (hPassive : source.Passive) {requests : List (List String)} {pool : Pool}
    (hSteps : Relation.ReflTransGen source.Step (.ofRequests requests) pool) :
    source.Orderly requests pool := by
  have hSound := sound_of_steps hPassive (sound_ofRequests source requests) hSteps
  refine ⟨fun name i => ⟨fun hPending => ?_, ?_⟩, fun i thread hThread => ?_, ?_, ?_,
    hSound.sourced, fun i thread hThread => ?_⟩
  · have hThread := List.getElem?_eq_getElem (hSound.builders name i hPending)
    exact ⟨_, hThread, ((hSound.fits i _ hThread).owns.pending name).mp hPending⟩
  · rintro ⟨thread, hThread, hName⟩
    exact ((hSound.fits i thread hThread).owns.pending name).mpr hName
  · exact (hSound.fits i thread hThread).owns.nodup
  · intro later hLater name entity hReady
    exact ready_steps hPassive hSound hLater hReady
  · intro next hStep
    exact described_step hPassive hSound hStep
  · obtain ⟨all, hAll, done, current, hSplit, hDone, _⟩ := hSound.serves i thread hThread
    exact ⟨done, current ++ thread.requests, by rw [hAll, hSplit, List.append_assoc], hDone⟩

/-! ## Schedules -/

theorem steps_of_stepEach? {indices : List Nat} {pool next : Pool}
    (hStep : source.stepEach? indices pool = some next) :
    Relation.ReflTransGen source.Step pool next := by
  induction indices generalizing pool next with
  | nil => simp [stepEach?] at hStep
  | cons i rest ih =>
      rw [stepEach?] at hStep
      split at hStep
      · rename_i middle hMiddle
        obtain ⟨thread, hThread, hTurn⟩ := Option.bind_eq_some_iff.mp hMiddle
        have hFirst : source.Step pool middle := .thread i thread hThread hTurn
        rw [Option.some.injEq] at hStep
        cases hRest : source.stepEach? rest middle with
        | none =>
            rw [hRest, Option.getD_none] at hStep
            rw [← hStep]
            exact .single hFirst
        | some last =>
            rw [hRest, Option.getD_some] at hStep
            rw [← hStep]
            exact .head hFirst (ih hRest)
      · exact ih hStep

/-- A schedule takes steps of the pool. -/
theorem steps_run (source : TypeSource) (fuel : Nat) (pool : Pool) :
    Relation.ReflTransGen source.Step pool (source.run fuel pool) := by
  induction fuel generalizing pool with
  | zero => exact .refl
  | succ fuel ih =>
      rw [run]
      split
      · rename_i hStep
        exact (steps_of_stepEach? hStep).trans (ih _)
      · exact .refl

end TypeSource

/-- Two threads request types that refer to each other, and one of them fails. -/
theorem Registry.orderly_coupons :
    coupons.source.Orderly [["Order"], ["Customer"]]
        (coupons.run 20 (.ofRequests [["Order"], ["Customer"]])) ∧
      (coupons.run 20 (.ofRequests [["Order"], ["Customer"]])).threads.map
        (fun thread => thread.outcomes.map Except.isOk) = [[false], [true]] :=
  ⟨TypeSource.orderly_of_steps (passive_ofCatalog _ _) (TypeSource.steps_run coupons.source 20 _),
    by decide +kernel⟩

end DerivedQuery
