import DerivedQuery.Proofs.Registry.Metadata
import DerivedQuery.Registry.Threads

/-!
# Turns of a thread

What a thread of a pool does in one step, if its source is passive. A turn changes the thread
itself, the slot of at most one type and the record of descriptions; other threads are woken at
most. `Turn` has one case for each of the steps that a thread can take, and later proofs go through
these cases rather than through the definition of a step.

A source that requests nothing never interrupts a description, so the only frames are those of
associations, and a thread takes up requests when it constructs nothing. `Plain` holds these local
facts.

## Main results

* `turn_of_stepThread?`: a step of a thread is a turn of it
* `Turn.plain`: turns preserve the local facts
* `getElem?_turned`: the threads after a turn
-/

namespace DerivedQuery

/-! ## What a thread constructs -/

/-- The type that a thread constructs at the moment, if any. -/
def Activity.owned : Activity → List String
  | .describing name => [name]
  | .asking name _ => [name]
  | .linking entity _ => [entity.typeName]
  | .failing name _ => [name]
  | _ => []

/-- The type of an interrupted construction. -/
def Frame.owner : Frame → String
  | .linking entity _ _ => entity.typeName
  | .asking name _ => name

/-- The types under construction by a thread, innermost first. -/
def Thread.constructions (thread : Thread) : List String :=
  thread.activity.owned ++ thread.frames.map Frame.owner

/-- The thread is about to tell the waiting ones. -/
def Thread.notifies (thread : Thread) : Bool :=
  match thread.activity with
  | .notifying _ => true
  | _ => false

/-- No request for a type under construction is behind the error. -/
def MetadataError.Acyclic (error : MetadataError) : Prop :=
  ∀ name, error.rootCause ≠ .cycle name

namespace Pool

/-- The pool after a turn of thread `i`. -/
def turned (pool : Pool) (i : Nat) (before after : Thread) (slots : Slots) (names : List String) :
    Pool :=
  { slots
    described := pool.described ++ names.map (i, ·)
    threads := (if before.notifies then pool.threads.map Thread.wake else pool.threads).set i after }

end Pool

namespace TypeSource

variable {source : TypeSource} {i : Nat}

/-! ## Local facts -/

/-- An interrupted construction of a checked type. -/
def PlainFrame (source : TypeSource) : Frame → Prop
  | .linking entity _ _ =>
      source.check entity.typeName (source.describe? entity.typeName) = .ok entity
  | .asking _ _ => False

/-- A thread takes up requests when it constructs nothing, follows the associations of checked
types only, and does not fail because of a cycle. -/
structure Plain (source : TypeSource) (thread : Thread) : Prop where
  frames : ∀ frame ∈ thread.frames, source.PlainFrame frame
  activity : match thread.activity with
    | .idle => thread.frames = []
    | .requesting _ => thread.frames = []
    | .waiting _ => thread.frames = []
    | .describing _ => True
    | .asking _ asks => asks = []
    | .linking entity _ =>
        source.check entity.typeName (source.describe? entity.typeName) = .ok entity
    | .failing _ error => error.Acyclic
    | .notifying (.ok _) => True
    | .notifying (.error error) => error.Acyclic

/-! ## Turns -/

/-- What a thread does in one step: the thread after it, the slots that it leaves, and the types
that it has asked the source to describe. -/
inductive Turn (source : TypeSource) (i : Nat) (thread : Thread) (slots : Slots) :
    Thread → Slots → List String → Prop where
  | refuse {name : String} {requests : List String} (hActivity : thread.activity = .idle)
      (hRequests : thread.requests = name :: requests) (hTerminal : source.isTerminal name = true) :
      Turn source i thread slots
        ({ thread with requests }.resume (.error (.terminalType name))) slots []
  | request {name : String} {requests : List String} (hActivity : thread.activity = .idle)
      (hRequests : thread.requests = name :: requests)
      (hTerminal : source.isTerminal name = false) :
      Turn source i thread slots { thread with requests, activity := .requesting name } slots []
  | find {name : String} {entity : Entity} (hActivity : thread.activity = .requesting name)
      (hSlot : slots.get? name = some (.ready entity)) :
      Turn source i thread slots (thread.resume (.ok entity)) slots []
  | refuseOwn {name : String} (hActivity : thread.activity = .requesting name)
      (hSlot : slots.get? name = some (.pending i)) :
      Turn source i thread slots (thread.resume (.error (.cycle name))) slots []
  | wait {name : String} {builder : Nat} (hActivity : thread.activity = .requesting name)
      (hSlot : slots.get? name = some (.pending builder)) (hOther : builder ≠ i) :
      Turn source i thread slots { thread with activity := .waiting name } slots []
  | claim {name : String} (hActivity : thread.activity = .requesting name)
      (hSlot : slots.get? name = none) :
      Turn source i thread slots { thread with activity := .describing name } (slots.claim name i) []
  | describe {name : String} (hActivity : thread.activity = .describing name) :
      Turn source i thread slots { thread with activity := .asking name [] } slots [name]
  | answer {name : String} (hActivity : thread.activity = .asking name []) :
      Turn source i thread slots { thread with activity := source.afterDescription name } slots []
  | publish {entity : Entity} (hActivity : thread.activity = .linking entity []) :
      Turn source i thread slots { thread with activity := .notifying (.ok entity) }
        (slots.publish entity.typeName entity) []
  | skip {entity : Entity} {property : Property} {rest : List Property}
      (hActivity : thread.activity = .linking entity (property :: rest))
      (hSlot : (slots.get? property.actualType).isSome = true) :
      Turn source i thread slots { thread with activity := .linking entity rest } slots []
  | descend {entity : Entity} {property : Property} {rest : List Property}
      (hActivity : thread.activity = .linking entity (property :: rest))
      (hSlot : slots.get? property.actualType = none) :
      Turn source i thread slots
        { thread with
          frames := .linking entity property rest :: thread.frames
          activity := .describing property.actualType }
        (slots.claim property.actualType i) []
  | release {name : String} {error : MetadataError}
      (hActivity : thread.activity = .failing name error) :
      Turn source i thread slots { thread with activity := .notifying (.error error) }
        (slots.release name) []
  | notify {outcome : Outcome} (hActivity : thread.activity = .notifying outcome) :
      Turn source i thread slots (thread.resume outcome) slots []

/-- A step of a thread is a turn of it. -/
theorem turn_of_stepThread? (hPassive : source.Passive) {thread : Thread} {pool next : Pool}
    (hPlain : source.Plain thread) (hStep : source.stepThread? i thread pool = some next) :
    ∃ after slots names, source.Turn i thread pool.slots after slots names ∧
      next = pool.turned i thread after slots names := by
  have hLocal := hPlain.activity
  unfold stepThread? at hStep
  cases hActivity : thread.activity with
  | idle =>
      simp only [hActivity] at hStep
      cases hRequests : thread.requests with
      | nil => simp [hRequests] at hStep
      | cons name requests =>
          simp only [hRequests, Option.some.injEq, beginRequest] at hStep
          cases hTerminal : source.isTerminal name with
          | true =>
              refine ⟨_, _, _, .refuse hActivity hRequests hTerminal, ?_⟩
              simp [← hStep, hTerminal, Pool.turned, Pool.setThread, Thread.notifies, hActivity]
          | false =>
              refine ⟨_, _, _, .request hActivity hRequests hTerminal, ?_⟩
              simp [← hStep, hTerminal, Pool.turned, Pool.setThread, Thread.notifies, hActivity]
  | requesting name =>
      simp only [hActivity] at hStep
      cases hSlot : pool.slots.get? name with
      | none =>
          simp only [hSlot, Option.some.injEq] at hStep
          refine ⟨_, _, _, .claim hActivity hSlot, ?_⟩
          simp [← hStep, Pool.turned, Pool.setThread, Thread.notifies, hActivity]
      | some slot =>
          cases slot with
          | ready entity =>
              simp only [hSlot, Option.some.injEq] at hStep
              refine ⟨_, _, _, .find hActivity hSlot, ?_⟩
              simp [← hStep, Pool.turned, Pool.setThread, Thread.notifies, hActivity]
          | pending builder =>
              simp only [hSlot, Option.some.injEq] at hStep
              by_cases hOwn : builder = i
              · rw [hOwn] at hSlot
                refine ⟨_, _, _, .refuseOwn hActivity hSlot, ?_⟩
                simp [← hStep, hOwn, Pool.turned, Pool.setThread, Thread.notifies, hActivity]
              · refine ⟨_, _, _, .wait hActivity hSlot hOwn, ?_⟩
                simp [← hStep, hOwn, Pool.turned, Pool.setThread, Thread.notifies, hActivity]
  | waiting name => simp [hActivity] at hStep
  | describing name =>
      simp only [hActivity, hPassive name, Option.some.injEq] at hStep
      refine ⟨_, _, _, .describe hActivity, ?_⟩
      simp [← hStep, Pool.turned, Pool.setThread, Thread.notifies, hActivity]
  | asking name asks =>
      simp only [hActivity] at hLocal
      subst hLocal
      simp only [hActivity, Option.some.injEq] at hStep
      refine ⟨_, _, _, .answer hActivity, ?_⟩
      simp [← hStep, Pool.turned, Pool.setThread, Thread.notifies, hActivity]
  | linking entity targets =>
      cases targets with
      | nil =>
          simp only [hActivity, Option.some.injEq] at hStep
          refine ⟨_, _, _, .publish hActivity, ?_⟩
          simp [← hStep, Pool.turned, Pool.setThread, Thread.notifies, hActivity]
      | cons property rest =>
          simp only [hActivity] at hStep
          by_cases hSlot : (pool.slots.get? property.actualType).isSome = true
          · simp only [hSlot, if_true, Option.some.injEq] at hStep
            refine ⟨_, _, _, .skip hActivity hSlot, ?_⟩
            simp [← hStep, Pool.turned, Pool.setThread, Thread.notifies, hActivity]
          · simp only [hSlot, Bool.false_eq_true, if_false, Option.some.injEq] at hStep
            rw [Bool.not_eq_true, Option.isSome_eq_false_iff, Option.isNone_iff_eq_none] at hSlot
            refine ⟨_, _, _, .descend hActivity hSlot, ?_⟩
            simp [← hStep, Pool.turned, Pool.setThread, Thread.notifies, hActivity]
  | failing name error =>
      simp only [hActivity, Option.some.injEq] at hStep
      refine ⟨_, _, _, .release hActivity, ?_⟩
      simp [← hStep, Pool.turned, Pool.setThread, Thread.notifies, hActivity]
  | notifying outcome =>
      simp only [hActivity, Option.some.injEq] at hStep
      refine ⟨_, _, _, .notify hActivity, ?_⟩
      simp [← hStep, Pool.turned, Pool.setThread, Thread.notifies, hActivity]

/-! ## What turns preserve -/

section Resume

variable {thread : Thread} {outcome : Outcome}

theorem resume_of_frames_nil (hFrames : thread.frames = []) :
    thread.resume outcome =
      { thread with outcomes := thread.outcomes ++ [outcome], activity := .idle } := by
  simp [Thread.resume, hFrames]

/-- What a thread goes on with that has been handed an outcome. -/
inductive Resumed : Activity → Prop where
  | idle : Resumed .idle
  | asking (name : String) (rest : List String) : Resumed (.asking name rest)
  | linking (entity : Entity) (rest : List Property) : Resumed (.linking entity rest)
  | failing (entity : Entity) (property : Property) (error : MetadataError) :
      Resumed (.failing entity.typeName (.association entity.typeName property.name error))

theorem resumed_resume (thread : Thread) (outcome : Outcome) :
    Resumed (thread.resume outcome).activity := by
  unfold Thread.resume
  split
  · exact .idle
  · exact .asking _ _
  · split
    · exact .linking _ _
    · exact .failing _ _ _

/-- A thread that is handed an outcome constructs what it had interrupted. -/
theorem constructions_resume (thread : Thread) (outcome : Outcome) :
    (thread.resume outcome).constructions = thread.frames.map Frame.owner := by
  cases hCases : thread.frames with
  | nil => simp [Thread.resume, hCases, Thread.constructions, Activity.owned]
  | cons frame frames =>
      cases frame with
      | asking name rest =>
          simp [Thread.resume, hCases, Thread.constructions, Activity.owned, Frame.owner]
      | linking entity property rest =>
          cases outcome <;>
            simp [Thread.resume, hCases, Thread.constructions, Activity.owned, Frame.owner]

private theorem plain_resume (hFrames : ∀ frame ∈ thread.frames, source.PlainFrame frame)
    (hOutcome : thread.frames = [] ∨ ∀ error, outcome = .error error → error.Acyclic) :
    source.Plain (thread.resume outcome) := by
  cases hCases : thread.frames with
  | nil =>
      rw [resume_of_frames_nil hCases]
      exact ⟨hFrames, hCases⟩
  | cons frame frames =>
      rw [hCases] at hFrames hOutcome
      have hFrame := hFrames frame List.mem_cons_self
      have hRest : ∀ other ∈ frames, source.PlainFrame other :=
        fun other hOther => hFrames other (List.mem_cons_of_mem frame hOther)
      cases frame with
      | asking name rest => exact hFrame.elim
      | linking entity property rest =>
          cases hResult : outcome with
          | ok result =>
              simp only [Thread.resume, hCases]
              exact ⟨hRest, hFrame⟩
          | error error =>
              simp only [Thread.resume, hCases]
              exact ⟨hRest, (hOutcome.resolve_left (by simp)) error hResult⟩

end Resume

/-- A type that cannot be checked is no cycle. -/
theorem acyclic_of_check_error {name : String} {description : Option TypeDescriptor}
    {error : MetadataError} (hCheck : source.check name description = .error error) :
    error.Acyclic := by
  intro type
  rcases check_error_cases hCheck with rfl | ⟨_, rfl⟩ | rfl | ⟨_, rfl⟩ | ⟨_, rfl⟩ <;>
    simp [MetadataError.rootCause]

/-- A checked entity has the name of its type. -/
theorem typeName_of_check {name : String} {description : Option TypeDescriptor} {entity : Entity}
    (hCheck : source.check name description = .ok entity) : entity.typeName = name := by
  obtain ⟨type, _, hName, hEntity⟩ := ofDescriptor_of_check hCheck
  unfold Entity.ofDescriptor at hEntity
  split at hEntity
  · simp at hEntity
  · split at hEntity
    · simp at hEntity
    · simp at hEntity
    · simp only [Except.ok.injEq] at hEntity
      rw [← hEntity]
      exact hName

section Turn

variable {before after : Thread} {slots later : Slots} {names : List String}

/-- Turns preserve the local facts. -/
theorem Turn.plain (hTurn : source.Turn i before slots after later names)
    (hPlain : source.Plain before) : source.Plain after := by
  have hFrames := hPlain.frames
  have hLocal := hPlain.activity
  cases hTurn with
  | refuse hActivity hRequests hTerminal =>
      simp only [hActivity] at hLocal
      exact plain_resume hFrames (Or.inl hLocal)
  | request hActivity hRequests hTerminal =>
      simp only [hActivity] at hLocal
      exact ⟨hFrames, hLocal⟩
  | find hActivity hSlot =>
      simp only [hActivity] at hLocal
      exact plain_resume hFrames (Or.inl hLocal)
  | refuseOwn hActivity hSlot =>
      simp only [hActivity] at hLocal
      exact plain_resume hFrames (Or.inl hLocal)
  | wait hActivity hSlot hOther =>
      simp only [hActivity] at hLocal
      exact ⟨hFrames, hLocal⟩
  | claim hActivity hSlot => exact ⟨hFrames, trivial⟩
  | describe hActivity => exact ⟨hFrames, rfl⟩
  | @answer name hActivity =>
      refine ⟨hFrames, ?_⟩
      unfold afterDescription
      cases hCheck : source.check name (source.describe? name) with
      | error error => exact acyclic_of_check_error hCheck
      | ok entity =>
          have hName := typeName_of_check hCheck
          simp only
          rw [hName]
          exact hCheck
  | publish hActivity => exact ⟨hFrames, trivial⟩
  | skip hActivity hSlot =>
      simp only [hActivity] at hLocal
      exact ⟨hFrames, hLocal⟩
  | descend hActivity hSlot =>
      simp only [hActivity] at hLocal
      refine ⟨fun frame hFrame => ?_, trivial⟩
      rcases List.mem_cons.mp hFrame with rfl | hOld
      · exact hLocal
      · exact hFrames frame hOld
  | release hActivity =>
      simp only [hActivity] at hLocal
      exact ⟨hFrames, hLocal⟩
  | @notify outcome hActivity =>
      simp only [hActivity] at hLocal
      apply plain_resume hFrames
      right
      rintro error rfl
      exact hLocal

end Turn

/-! ## What a turn does to the slots -/

/-- Thread `i` changes at most one slot, and it is a missing one or its own. -/
inductive Touches (i : Nat) (slots : Slots) : Slots → Prop where
  | keep : Touches i slots slots
  | claim {name : String} (hNone : slots.get? name = none) : Touches i slots (slots.claim name i)
  | publish {entity : Entity} (hOwn : slots.get? entity.typeName = some (.pending i)) :
      Touches i slots (slots.publish entity.typeName entity)
  | release {name : String} (hOwn : slots.get? name = some (.pending i)) :
      Touches i slots (slots.release name)

section Touches

variable {slots later : Slots} {name : String}

/-- Ready slots stay. -/
theorem Touches.ready (hTouches : Touches i slots later) {entity : Entity}
    (hReady : slots.get? name = some (.ready entity)) : later.get? name = some (.ready entity) := by
  cases hTouches with
  | keep => exact hReady
  | @claim other hNone =>
      have hName : name ≠ other := by
        rintro rfl
        simp [hNone] at hReady
      rw [Slots.get?_claim, if_neg hName]
      exact hReady
  | @publish published hOwn =>
      have hName : name ≠ published.typeName := by
        rintro rfl
        simp [hOwn] at hReady
      rw [Slots.get?_publish, if_neg hName]
      exact hReady
  | @release other hOwn =>
      have hName : name ≠ other := by
        rintro rfl
        simp [hOwn] at hReady
      rw [Slots.get?_release, if_neg hName]
      exact hReady

/-- The slots that other threads have claimed stay, and no others become theirs. -/
theorem Touches.pending_iff (hTouches : Touches i slots later) {builder : Nat}
    (hOther : builder ≠ i) :
    later.get? name = some (.pending builder) ↔ slots.get? name = some (.pending builder) := by
  cases hTouches with
  | keep => rfl
  | @claim other hNone =>
      rw [Slots.get?_claim]
      by_cases hName : name = other
      · simp [hName, hNone, hOther.symm]
      · rw [if_neg hName]
  | @publish published hOwn =>
      rw [Slots.get?_publish]
      by_cases hName : name = published.typeName
      · simp [hName, hOwn, hOther.symm]
      · rw [if_neg hName]
  | @release other hOwn =>
      rw [Slots.get?_release]
      by_cases hName : name = other
      · simp [hName, hOwn, hOther.symm]
      · rw [if_neg hName]

/-- A thread that owns what it constructs changes missing slots and its own. -/
theorem Turn.touches {before after : Thread} {names : List String}
    (hTurn : source.Turn i before slots after later names)
    (hOwns : ∀ name ∈ before.constructions, slots.get? name = some (.pending i)) :
    Touches i slots later := by
  cases hTurn with
  | claim hActivity hSlot => exact .claim hSlot
  | descend hActivity hSlot => exact .claim hSlot
  | publish hActivity =>
      apply Touches.publish
      apply hOwns
      simp [Thread.constructions, hActivity, Activity.owned]
  | release hActivity =>
      apply Touches.release
      apply hOwns
      simp [Thread.constructions, hActivity, Activity.owned]
  | _ => exact .keep

/-- What is published is what the source describes. -/
theorem Turn.sourced {before after : Thread} {names : List String}
    (hTurn : source.Turn i before slots after later names) (hPlain : source.Plain before)
    (hSourced : source.Sourced slots) : source.Sourced later := by
  cases hTurn with
  | claim hActivity hSlot => exact hSourced.claim _ i
  | descend hActivity hSlot => exact hSourced.claim _ i
  | publish hActivity =>
      have hLocal := hPlain.activity
      simp only [hActivity] at hLocal
      exact hSourced.publish hLocal
  | release hActivity => exact hSourced.release _
  | _ => exact hSourced

end Touches

/-! ## The threads after a turn -/

/-- Only waiting threads are woken. -/
theorem wake_of_isWaiting_eq_false {thread : Thread} (hWaiting : thread.isWaiting = false) :
    thread.wake = thread := by
  cases hActivity : thread.activity with
  | waiting name => simp [Thread.isWaiting, hActivity] at hWaiting
  | _ => simp only [Thread.wake, hActivity]

theorem getElem?_set_cases {threads : List Thread} {after other : Thread} {j : Nat}
    (hOther : (threads.set i after)[j]? = some other) :
    (j = i ∧ other = after) ∨ (j ≠ i ∧ threads[j]? = some other) := by
  rw [List.getElem?_set] at hOther
  by_cases hSame : i = j
  · left
    rw [if_pos hSame] at hOther
    split at hOther
    · exact ⟨hSame.symm, (Option.some.inj hOther).symm⟩
    · simp at hOther
  · right
    rw [if_neg hSame] at hOther
    exact ⟨Ne.symm hSame, hOther⟩

/-- Every waiting thread is woken by a notification; other steps leave the other threads alone. -/
theorem getElem?_turned_of_ne (pool : Pool) {j : Nat} (hOther : j ≠ i) (before after : Thread)
    (slots : Slots) (names : List String) :
    (pool.turned i before after slots names).threads[j]? =
      if before.notifies then pool.threads[j]?.map Thread.wake else pool.threads[j]? := by
  rw [Pool.turned, List.getElem?_set_ne hOther.symm]
  split
  · exact List.getElem?_map
  · rfl

theorem getElem?_turned_self {pool : Pool} {before : Thread} (hThread : pool.threads[i]? = some before)
    (after : Thread) (slots : Slots) (names : List String) :
    (pool.turned i before after slots names).threads[i]? = some after := by
  have hInside : i < pool.threads.length := (List.getElem?_eq_some_iff.mp hThread).1
  rw [Pool.turned, List.getElem?_set_self]
  split
  · rw [List.length_map]
    exact hInside
  · exact hInside

/-- Beside the thread that has its turn, threads stay as they are or are woken. -/
theorem getElem?_turned {pool : Pool} {before after other : Thread} {slots : Slots}
    {names : List String} {j : Nat}
    (hOther : (pool.turned i before after slots names).threads[j]? = some other) :
    (j = i ∧ other = after) ∨
      (j ≠ i ∧ ∃ old, pool.threads[j]? = some old ∧ (other = old ∨ other = old.wake)) := by
  rcases getElem?_set_cases hOther with hSame | ⟨hOtherThread, _⟩
  · exact Or.inl hSame
  · refine Or.inr ⟨hOtherThread, ?_⟩
    rw [getElem?_turned_of_ne _ hOtherThread] at hOther
    split at hOther
    · obtain ⟨old, hBefore, rfl⟩ := Option.map_eq_some_iff.mp hOther
      exact ⟨old, hBefore, Or.inr rfl⟩
    · exact ⟨other, hOther, Or.inl rfl⟩

theorem length_threads_turned (pool : Pool) (i : Nat) (before after : Thread) (slots : Slots)
    (names : List String) :
    (pool.turned i before after slots names).threads.length = pool.threads.length := by
  simp only [Pool.turned, List.length_set]
  split
  · exact List.length_map _
  · rfl

end TypeSource

end DerivedQuery
