import DerivedQuery.Proofs.Registry.Lock

/-!
# Threads that wait

A thread waits for a type that another thread constructs. It waits without the lock and owns no slot
that others could wait for, so threads never wait for each other in a circle. What could still go
wrong is that the slot changes and nobody tells: the notification is a step of its own, after the
lock has been left, and it does not say which type it is about.

So the invariant has two sides. A thread that changes a slot which was pending for it goes on to
*announce* the type, and this is its next step. And a thread that waits for a type either finds the
slot of the type pending for another thread, or the type is about to be announced. In both cases the
other thread does not wait itself, so as long as a thread has not finished, some thread advances.

## Main results

* `Turn.announces`: who changes a slot announces it
* `watched_step`, `watched_of_steps`: what every step and every interleaving preserves
* `attentive_of_steps`: no wakeup is lost, and the threads are never stuck
-/

namespace DerivedQuery

/-- The type whose slot a thread has changed, as long as the waiting threads have not been told. -/
def Activity.announced? : Activity → Option String
  | .notifying (.ok entity) => some entity.typeName
  | .notifying (.error error) => some error.typeName
  | _ => none

namespace TypeSource

variable {source : TypeSource} {i : Nat}

/-! ## Announcements -/

/-- A failed construction is attributed to its type. -/
def Blames (thread : Thread) : Prop :=
  ∀ name error, thread.activity = .failing name error → error.typeName = name

private theorem blames_resume (thread : Thread) (outcome : Outcome) :
    Blames (thread.resume outcome) := by
  intro name error hActivity
  cases hActivity ▸ resumed_resume thread outcome with
  | failing entity property cause => rfl

section Turn

variable {slots later : Slots} {before after : Thread} {names : List String}

theorem Turn.blames (hTurn : source.Turn i before slots after later names) : Blames after := by
  cases hTurn with
  | refuse => exact blames_resume _ _
  | find => exact blames_resume _ _
  | refuseOwn => exact blames_resume _ _
  | notify => exact blames_resume _ _
  | @answer type hActivity =>
      intro name error hAfter
      simp only [afterDescription] at hAfter
      split at hAfter
      · simp at hAfter
      · rename_i hCheck
        simp only [Activity.failing.injEq] at hAfter
        rw [← hAfter.1, ← hAfter.2]
        exact typeName_of_check_error hCheck
  | _ =>
      intro name error hAfter
      simp at hAfter

/-- **Who changes a slot announces it.** -/
theorem Turn.announces (hTurn : source.Turn i before slots after later names)
    (hBlames : Blames before) {name : String} (hPending : slots.get? name = some (.pending i))
    (hChanged : later.get? name ≠ some (.pending i)) : after.activity.announced? = some name := by
  cases hTurn with
  | @claim other hActivity hSlot =>
      rw [Slots.get?_claim] at hChanged
      split at hChanged
      · exact absurd rfl hChanged
      · exact absurd hPending hChanged
  | @descend entity property rest hActivity hSlot =>
      rw [Slots.get?_claim] at hChanged
      split at hChanged
      · exact absurd rfl hChanged
      · exact absurd hPending hChanged
  | @publish entity hActivity =>
      rw [Slots.get?_publish] at hChanged
      split at hChanged
      · rename_i hName
        rw [hName]
        rfl
      · exact absurd hPending hChanged
  | @release other error hActivity =>
      rw [Slots.get?_release] at hChanged
      split at hChanged
      · rename_i hName
        rw [hName, ← hBlames other error hActivity]
        rfl
      · exact absurd hPending hChanged
  | _ => exact absurd hPending hChanged

private theorem not_waiting_resume (thread : Thread) (outcome : Outcome) (name : String) :
    (thread.resume outcome).activity ≠ .waiting name := by
  intro hActivity
  cases hActivity ▸ resumed_resume thread outcome

/-- A thread starts to wait for a type that another thread constructs. -/
theorem Turn.waits (hTurn : source.Turn i before slots after later names) {name : String}
    (hWaiting : after.activity = .waiting name) :
    ∃ builder, builder ≠ i ∧ later.get? name = some (.pending builder) := by
  cases hTurn with
  | refuse => exact absurd hWaiting (not_waiting_resume _ _ _)
  | find => exact absurd hWaiting (not_waiting_resume _ _ _)
  | refuseOwn => exact absurd hWaiting (not_waiting_resume _ _ _)
  | notify => exact absurd hWaiting (not_waiting_resume _ _ _)
  | @wait other builder hActivity hSlot hOther =>
      simp only [Activity.waiting.injEq] at hWaiting
      rw [← hWaiting]
      exact ⟨builder, hOther, hSlot⟩
  | @answer type hActivity =>
      simp only [afterDescription] at hWaiting
      split at hWaiting <;> simp at hWaiting
  | _ => simp at hWaiting

end Turn

/-! ## What is waited for -/

/-- Another thread constructs the type, or a thread is about to announce it. -/
def Awaited (pool : Pool) (i : Nat) (name : String) : Prop :=
  (∃ builder, builder ≠ i ∧ pool.slots.get? name = some (.pending builder)) ∨
    ∃ (j : Nat) (thread : Thread), pool.threads[j]? = some thread ∧
      thread.activity.announced? = some name

/-- Each thread that waits, waits for something. -/
structure Watched (pool : Pool) : Prop where
  blames : ∀ (i : Nat) thread, pool.threads[i]? = some thread → Blames thread
  awaited : ∀ (i : Nat) thread name, pool.threads[i]? = some thread →
    thread.activity = .waiting name → Awaited pool i name

theorem Blames.wake {thread : Thread} (hBlames : Blames thread) : Blames thread.wake := by
  intro name error hActivity
  unfold Thread.wake at hActivity
  split at hActivity
  · simp at hActivity
  · exact hBlames name error hActivity

private theorem not_waiting_wake (thread : Thread) (name : String) :
    thread.wake.activity ≠ .waiting name := by
  unfold Thread.wake
  split
  · simp
  · rename_i hOther
    exact hOther name

private theorem notifies_of_announced {thread : Thread} {name : String}
    (hAnnounced : thread.activity.announced? = some name) : thread.notifies = true := by
  cases hActivity : thread.activity with
  | notifying outcome => simp [Thread.notifies, hActivity]
  | _ => simp [hActivity, Activity.announced?] at hAnnounced

section Pool

variable {requests : List (List String)} {pool next : Pool}

theorem watched_ofRequests (requests : List (List String)) : Watched (.ofRequests requests) where
  blames i thread hThread := by
    simp only [Pool.ofRequests, List.getElem?_map, Option.map_eq_some_iff] at hThread
    obtain ⟨own, _, rfl⟩ := hThread
    exact fun _ _ hActivity => by simp at hActivity
  awaited i thread name hThread hWaiting := by
    simp only [Pool.ofRequests, List.getElem?_map, Option.map_eq_some_iff] at hThread
    obtain ⟨own, _, rfl⟩ := hThread
    simp at hWaiting

/-- What a thread waits for while another one has its turn: a slot that the other one changes is
announced, and a notification leaves no thread waiting. -/
theorem Awaited.turned {before after : Thread} {slots : Slots} {names : List String} {k : Nat}
    {name : String} (hAwaited : Awaited pool k name) (hThread : pool.threads[i]? = some before)
    (hTurn : source.Turn i before pool.slots after slots names)
    (hTouches : Touches i pool.slots slots) (hBlames : Blames before)
    (hSilent : before.notifies = false) :
    Awaited (pool.turned i before after slots names) k name := by
  rcases hAwaited with ⟨builder, hOther, hPending⟩ | ⟨j, thread, hAnnouncing, hAnnounced⟩
  · by_cases hOwn : builder = i
    · subst hOwn
      by_cases hKept : slots.get? name = some (.pending builder)
      · exact Or.inl ⟨builder, hOther, hKept⟩
      · exact Or.inr ⟨builder, after, getElem?_turned_self hThread after slots names,
          hTurn.announces hBlames hPending hKept⟩
    · exact Or.inl ⟨builder, hOther, (hTouches.pending_iff hOwn).mpr hPending⟩
  · -- the announcing thread is not the one that has its turn
    have hDifferent : j ≠ i := by
      rintro rfl
      rw [hThread, Option.some.injEq] at hAnnouncing
      rw [hAnnouncing, notifies_of_announced hAnnounced] at hSilent
      simp at hSilent
    refine Or.inr ⟨j, thread, ?_, hAnnounced⟩
    rw [getElem?_turned_of_ne _ hDifferent, if_neg (by simp [hSilent]), hAnnouncing]

/-- A turn of one thread. -/
theorem Watched.turned (hWatched : Watched pool) (hSound : source.Sound requests pool)
    {before after : Thread} {slots : Slots} {names : List String}
    (hThread : pool.threads[i]? = some before)
    (hTurn : source.Turn i before pool.slots after slots names) :
    Watched (pool.turned i before after slots names) where
  blames j other hOther := by
    rcases getElem?_turned hOther with ⟨rfl, rfl⟩ | ⟨_, old, hOld, rfl | rfl⟩
    · exact hTurn.blames
    · exact hWatched.blames j _ hOld
    · exact (hWatched.blames j _ hOld).wake
  awaited j other name hOther hWaiting := by
    by_cases hSame : j = i
    · subst hSame
      rw [getElem?_turned_self hThread, Option.some.injEq] at hOther
      rw [← hOther] at hWaiting
      exact Or.inl (hTurn.waits hWaiting)
    · rw [getElem?_turned_of_ne _ hSame] at hOther
      split at hOther
      · obtain ⟨old, _, rfl⟩ := Option.map_eq_some_iff.mp hOther
        exact absurd hWaiting (not_waiting_wake old name)
      · rename_i hSilent
        exact (hWatched.awaited j other name hOther hWaiting).turned hThread hTurn
          ((hSound.fits i before hThread).touches hTurn) (hWatched.blames i before hThread)
          (by simpa using hSilent)

/-- A spurious wakeup. -/
theorem Watched.wakeup (hWatched : Watched pool) {thread : Thread}
    (hThread : pool.threads[i]? = some thread) (hWaiting : thread.isWaiting = true) :
    Watched (pool.setThread i thread.wake) where
  blames j other hOther := by
    rcases getElem?_set_cases hOther with ⟨rfl, rfl⟩ | ⟨_, hOld⟩
    · exact (hWatched.blames j thread hThread).wake
    · exact hWatched.blames j other hOld
  awaited j other name hOther hWaits := by
    rcases getElem?_set_cases hOther with ⟨rfl, rfl⟩ | ⟨_, hOld⟩
    · exact absurd hWaits (not_waiting_wake thread name)
    · rcases hWatched.awaited j other name hOld hWaits with hPending | ⟨k, announcing, hThere, hSome⟩
      · exact Or.inl hPending
      · -- a thread that announces does not wait
        have hDifferent : k ≠ i := by
          rintro rfl
          rw [hThread, Option.some.injEq] at hThere
          rw [← hThere] at hSome
          cases hActivity : thread.activity with
          | waiting type => simp [hActivity, Activity.announced?] at hSome
          | _ => simp [Thread.isWaiting, hActivity] at hWaiting
        refine Or.inr ⟨k, announcing, ?_, hSome⟩
        rw [Pool.setThread, List.getElem?_set_ne hDifferent.symm]
        exact hThere

/-- What every step preserves. -/
theorem watched_step (hPassive : source.Passive) (hSound : source.Sound requests pool)
    (hWatched : Watched pool) (hStep : source.Step pool next) : Watched next := by
  cases hStep with
  | thread i before hThread hStep =>
      obtain ⟨after, slots, names, hTurn, rfl⟩ :=
        turn_of_stepThread? hPassive (hSound.fits i before hThread).plain hStep
      exact hWatched.turned hSound hThread hTurn
  | wakeup i before hThread hWaiting => exact hWatched.wakeup hThread hWaiting

/-- What every interleaving preserves. -/
theorem watched_of_steps (hPassive : source.Passive) (hSound : source.Sound requests pool)
    (hWatched : Watched pool) (hSteps : Relation.ReflTransGen source.Step pool next) :
    Watched next := by
  induction hSteps with
  | refl => exact hWatched
  | tail hBefore hStep ih =>
      exact watched_step hPassive (sound_of_steps hPassive hSound hBefore) ih hStep

/-- Who changes a slot that was pending for it announces the type. -/
theorem announced_step (hPassive : source.Passive) (hSound : source.Sound requests pool)
    (hWatched : Watched pool) (hStep : source.Step pool next) {name : String}
    (hPending : pool.slots.get? name = some (.pending i))
    (hChanged : next.slots.get? name ≠ some (.pending i)) :
    ∃ thread, next.threads[i]? = some thread ∧ thread.activity.announced? = some name := by
  cases hStep with
  | wakeup j thread hThread hWaiting => exact absurd hPending hChanged
  | thread j before hThread hStep =>
      have hFits := hSound.fits j before hThread
      obtain ⟨after, slots, names, hTurn, rfl⟩ := turn_of_stepThread? hPassive hFits.plain hStep
      have hOwn : i = j := by
        by_contra hOther
        exact hChanged (((hFits.touches hTurn).pending_iff hOther).mpr hPending)
      subst hOwn
      exact ⟨after, getElem?_turned_self hThread after slots names,
        hTurn.announces (hWatched.blames i before hThread) hPending hChanged⟩

/-! ## Progress -/

/-- As long as a thread has not finished, a thread has something to do: this one, or the one that it
waits for. -/
theorem exists_active (hSound : source.Sound requests pool) (hWatched : Watched pool)
    {thread : Thread} (hThread : pool.threads[i]? = some thread)
    (hUnfinished : thread.isFinished = false) :
    ∃ (j : Nat) (other : Thread), pool.threads[j]? = some other ∧ other.isWaiting = false ∧
      other.isFinished = false := by
  cases hActivity : thread.activity with
  | waiting name =>
      rcases hWatched.awaited i thread name hThread hActivity with
        ⟨builder, _, hPending⟩ | ⟨j, other, hOther, hAnnounced⟩
      · have hBuilder := List.getElem?_eq_getElem (hSound.builders name builder hPending)
        have hFits := hSound.fits builder _ hBuilder
        exact ⟨builder, _, hBuilder,
          active_of_mem_constructions hFits.plain ((hFits.owns.pending name).mp hPending)⟩
      · refine ⟨j, other, hOther, ?_⟩
        cases hOtherActivity : other.activity with
        | notifying outcome => simp [Thread.isWaiting, Thread.isFinished, hOtherActivity]
        | _ => simp [hOtherActivity, Activity.announced?] at hAnnounced
  | _ => exact ⟨i, thread, hThread, by simp [Thread.isWaiting, hActivity], hUnfinished⟩

end Pool

/-! ## Every interleaving -/

theorem lockInUse_of_steps (hPassive : source.Passive) {requests : List (List String)}
    {guarded : GuardedPool}
    (hSteps : Relation.ReflTransGen source.GuardedStep (.ofRequests requests) guarded) :
    guarded.LockInUse := by
  induction hSteps with
  | refl => exact fun _ hHolder => by simp [GuardedPool.ofRequests] at hHolder
  | tail hBefore hStep ih =>
      have hSound := sound_of_steps hPassive (sound_ofRequests source requests)
        (steps_of_guardedSteps hBefore)
      exact lockInUse_step hPassive hSound ih hStep

/-- What threads can rely on that wait for each other's constructions. -/
structure Attentive (source : TypeSource) (guarded : GuardedPool) : Prop where
  /-- A thread that waits owns no slot. -/
  free : ∀ (i : Nat) thread name, guarded.pool.threads[i]? = some thread →
    thread.activity = .waiting name → ∀ type, guarded.pool.slots.get? type ≠ some (.pending i)
  /-- The type that a thread waits for has a slot that is pending for another thread, or a thread
  has changed the slot and has still to tell the waiting ones. -/
  awaited : ∀ (i : Nat) thread name, guarded.pool.threads[i]? = some thread →
    thread.activity = .waiting name → Awaited guarded.pool i name
  /-- A thread that changes a slot which was pending for it has still to tell the waiting ones. -/
  announced : ∀ next, source.GuardedStep guarded next → ∀ i name,
    guarded.pool.slots.get? name = some (.pending i) →
    next.pool.slots.get? name ≠ some (.pending i) →
      ∃ thread, next.pool.threads[i]? = some thread ∧ thread.activity.announced? = some name
  /-- As long as a thread has not finished, some thread advances. -/
  advances : (∃ (i : Nat) (thread : Thread), guarded.pool.threads[i]? = some thread ∧
    thread.isFinished = false) → ∃ next, source.Advance guarded next

/-- **No deadlock and no lost wakeup**, for every source that requests nothing of the registry, any
number of threads and every interleaving. -/
theorem attentive_of_steps (hPassive : source.Passive) {requests : List (List String)}
    {guarded : GuardedPool}
    (hSteps : Relation.ReflTransGen source.GuardedStep (.ofRequests requests) guarded) :
    source.Attentive guarded := by
  have hPoolSteps := steps_of_guardedSteps hSteps
  have hSound := sound_of_steps hPassive (sound_ofRequests source requests) hPoolSteps
  have hWatched := watched_of_steps hPassive (sound_ofRequests source requests)
    (watched_ofRequests requests) hPoolSteps
  refine ⟨fun i thread name hThread hWaiting type => ?_, hWatched.awaited, ?_, ?_⟩
  · have hFits := hSound.fits i thread hThread
    rw [ne_eq, hFits.owns.pending, constructions_of_waiting hFits.plain hWaiting]
    exact List.not_mem_nil
  · intro next hStep i name hPending hChanged
    cases hStep with
    | wakeup j thread hThread hWaiting => exact absurd hPending hChanged
    | advance hAdvance =>
        cases hAdvance with
        | lock j thread hThread hUses => exact absurd hPending hChanged
        | unlock j thread hThread hUses hStep =>
            exact announced_step hPassive hSound hWatched (.thread j thread hThread hStep) hPending
              hChanged
        | outside j thread hThread hUses hStep =>
            exact announced_step hPassive hSound hWatched (.thread j thread hThread hStep) hPending
              hChanged
  · rintro ⟨i, thread, hThread, hUnfinished⟩
    obtain ⟨j, other, hOther, hNotWaiting, hActive⟩ :=
      exists_active hSound hWatched hThread hUnfinished
    exact exists_advance (lockInUse_of_steps hPassive hSteps) hOther hNotWaiting hActive

end TypeSource

/-- One of two threads waits for the type that the other one constructs. -/
theorem Registry.attentive_orders :
    orders.source.Attentive ⟨orders.run 3 (.ofRequests [["Order"], ["Order"]]), none⟩ ∧
      (orders.run 3 (.ofRequests [["Order"], ["Order"]])).threads.map Thread.isWaiting =
        [false, true] :=
  ⟨TypeSource.attentive_of_steps (passive_ofCatalog _ _)
      (TypeSource.guardedSteps_of_steps (TypeSource.steps_run orders.source 3 _)),
    by decide +kernel⟩

end DerivedQuery
