import DerivedQuery.Proofs.Registry.Agreement
import DerivedQuery.Registry.Lock

/-!
# What the lock changes

Nothing that concerns the slots: a guarded pool does what its pool does, and everything that a pool
can do, it can do under the lock. A thread that holds the lock is about to use the slots, and it can
always do so, since no step that needs the lock waits while it holds it. So the lock never stops the
threads as long as one of them has something to do.

## Main results

* `steps_of_guardedSteps`, `guardedSteps_of_steps`: the runs of a guarded pool are those of its pool
* `lockInUse_step`: the lock is held by a thread that is about to use the slots
* `exists_advance`: a thread that has something to do does it, or waits for the lock at most
-/

namespace DerivedQuery

/-- The lock is held by a thread that is about to use the slots. -/
def GuardedPool.LockInUse (guarded : GuardedPool) : Prop :=
  ∀ i, guarded.holder = some i → ∃ thread, guarded.pool.threads[i]? = some thread ∧
    thread.activity.usesSlots = true

namespace TypeSource

variable {source : TypeSource} {guarded next : GuardedPool}

/-! ## Runs -/

theorem steps_of_guardedStep (hStep : source.GuardedStep guarded next) :
    Relation.ReflTransGen source.Step guarded.pool next.pool := by
  cases hStep with
  | advance hAdvance =>
      cases hAdvance with
      | lock i thread hThread hUses => exact .refl
      | unlock i thread hThread hUses hStep => exact .single (.thread i thread hThread hStep)
      | outside i thread hThread hUses hStep => exact .single (.thread i thread hThread hStep)
  | wakeup i thread hThread hWaiting => exact .single (.wakeup i thread hThread hWaiting)

/-- What a guarded pool does, its pool can do. -/
theorem steps_of_guardedSteps (hSteps : Relation.ReflTransGen source.GuardedStep guarded next) :
    Relation.ReflTransGen source.Step guarded.pool next.pool := by
  induction hSteps with
  | refl => exact .refl
  | tail _ hStep ih => exact ih.trans (steps_of_guardedStep hStep)

private theorem guardedSteps_of_step {pool later : Pool} (hStep : source.Step pool later) :
    Relation.ReflTransGen source.GuardedStep ⟨pool, none⟩ ⟨later, none⟩ := by
  cases hStep with
  | wakeup i thread hThread hWaiting => exact .single (.wakeup i thread hThread hWaiting)
  | thread i thread hThread hStep =>
      cases hUses : thread.activity.usesSlots with
      | false => exact .single (.advance (.outside i thread hThread hUses hStep))
      | true =>
          have hLock : source.GuardedStep ⟨pool, none⟩ ⟨pool, some i⟩ :=
            .advance (.lock i thread hThread hUses)
          exact .tail (.single hLock) (.advance (.unlock i thread hThread hUses hStep))

/-- What a pool can do, it can do under the lock. -/
theorem guardedSteps_of_steps {pool later : Pool}
    (hSteps : Relation.ReflTransGen source.Step pool later) :
    Relation.ReflTransGen source.GuardedStep ⟨pool, none⟩ ⟨later, none⟩ := by
  induction hSteps with
  | refl => exact .refl
  | tail _ hStep ih => exact ih.trans (guardedSteps_of_step hStep)

/-! ## The holder of the lock -/

/-- A thread that is about to use the slots neither waits nor has finished. -/
theorem active_of_usesSlots {thread : Thread} (hUses : thread.activity.usesSlots = true) :
    thread.isWaiting = false ∧ thread.isFinished = false := by
  cases hActivity : thread.activity with
  | idle => simp [hActivity, Activity.usesSlots] at hUses
  | waiting name => simp [hActivity, Activity.usesSlots] at hUses
  | _ => simp [Thread.isWaiting, Thread.isFinished, hActivity]

/-- While one thread holds the lock, what other threads do does not concern it. -/
theorem lockInUse_step (hPassive : source.Passive) {requests : List (List String)}
    (hSound : source.Sound requests guarded.pool) (hInUse : guarded.LockInUse)
    (hStep : source.GuardedStep guarded next) : next.LockInUse := by
  cases hStep with
  | advance hAdvance =>
      cases hAdvance with
      | lock i thread hThread hUses =>
          rintro _ ⟨rfl⟩
          exact ⟨thread, hThread, hUses⟩
      | unlock i thread hThread hUses hStep => exact fun _ hHolder => by simp at hHolder
      | outside j thread hThread hFree hStep =>
          intro i hHolder
          obtain ⟨holding, hHolding, hUses⟩ := hInUse i hHolder
          obtain ⟨after, slots, names, _, rfl⟩ :=
            turn_of_stepThread? hPassive (hSound.fits j thread hThread).plain hStep
          have hDifferent : i ≠ j := by
            rintro rfl
            rw [hHolding, Option.some.injEq] at hThread
            rw [hThread, hFree] at hUses
            simp at hUses
          refine ⟨holding, ?_, hUses⟩
          rw [getElem?_turned_of_ne _ hDifferent, hHolding, Option.map_some,
            wake_of_isWaiting_eq_false (active_of_usesSlots hUses).1, ite_self]
  | wakeup j thread hThread hWaiting =>
      intro i hHolder
      obtain ⟨holding, hHolding, hUses⟩ := hInUse i hHolder
      have hDifferent : i ≠ j := by
        rintro rfl
        rw [hHolding, Option.some.injEq] at hThread
        rw [← hThread, (active_of_usesSlots hUses).1] at hWaiting
        simp at hWaiting
      refine ⟨holding, ?_, hUses⟩
      rw [Pool.setThread, List.getElem?_set_ne hDifferent.symm]
      exact hHolding

/-! ## Progress -/

/-- A thread can take a step unless it has finished or waits. -/
theorem exists_stepThread? (source : TypeSource) (i : Nat) {thread : Thread}
    (hWaiting : thread.isWaiting = false) (hUnfinished : thread.isFinished = false) (pool : Pool) :
    ∃ next, source.stepThread? i thread pool = some next := by
  rw [← Option.isSome_iff_exists]
  unfold stepThread?
  cases hActivity : thread.activity with
  | idle =>
      cases hRequests : thread.requests with
      | nil => simp [Thread.isFinished, hActivity, hRequests] at hUnfinished
      | cons name rest => rfl
  | requesting name =>
      dsimp only
      split <;> rfl
  | waiting name => simp [Thread.isWaiting, hActivity] at hWaiting
  | describing name => rfl
  | asking name asks => cases asks <;> rfl
  | linking entity targets =>
      cases targets with
      | nil => rfl
      | cons property rest =>
          dsimp only
          split <;> rfl
  | failing name error => rfl
  | notifying outcome => rfl

/-- As long as a thread has something to do, some thread advances: the one that holds the lock, or
this one. -/
theorem exists_advance (hInUse : guarded.LockInUse) {i : Nat} {thread : Thread}
    (hThread : guarded.pool.threads[i]? = some thread) (hWaiting : thread.isWaiting = false)
    (hUnfinished : thread.isFinished = false) : ∃ next, source.Advance guarded next := by
  obtain ⟨pool, holder⟩ := guarded
  cases holder with
  | some k =>
      obtain ⟨holding, hHolding, hUses⟩ := hInUse k rfl
      obtain ⟨hBusy, hActive⟩ := active_of_usesSlots hUses
      obtain ⟨next, hStep⟩ := exists_stepThread? source k hBusy hActive pool
      exact ⟨_, .unlock k holding hHolding hUses hStep⟩
  | none =>
      cases hUses : thread.activity.usesSlots with
      | true => exact ⟨_, .lock i thread hThread hUses⟩
      | false =>
          obtain ⟨next, hStep⟩ := exists_stepThread? source i hWaiting hUnfinished pool
          exact ⟨_, .outside i thread hThread hUses hStep⟩

end TypeSource

end DerivedQuery
