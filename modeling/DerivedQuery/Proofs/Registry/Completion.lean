import DerivedQuery.Proofs.Registry.Gathering
import DerivedQuery.Proofs.Registry.Waiting
import Mathlib.Algebra.Ring.Nat

/-!
# The threads finish

Threads that request valid types finish, whatever has happened before. They are never stuck, so it
is enough that they cannot go on forever. Each step uses up some of the work that is left: every
type is given a slot once, what a construction does for it is bounded by the number of its members,
and a notification is paid for by the publication before it, although each waiting thread that it
wakes has to look at its slot once more.

Only spurious wakeups add work, so this is a statement about each state: from there, the threads can
finish.

## Main results

* `Turn.work_lt`, `work_turned_lt`: each step of a thread uses up work
* `exists_finished`: from every state the threads can finish
* `Registry.gathered_of_steps`: what has been built when they have
-/

namespace DerivedQuery

/-! ## Work that is left -/

/-- What is left of a construction or a request. A pool of `threads` threads follows at most `links`
associations of one type. -/
def Activity.work (threads links : Nat) : Activity → Nat
  | .idle => 0
  | .waiting _ => 1
  | .requesting _ => 2
  | .notifying _ => threads + 1
  | .failing _ _ => threads + 2
  | .linking _ rest => threads + 2 + rest.length
  | .asking _ _ => threads + links + 3
  | .describing _ => threads + links + 4

/-- What is left of an interrupted construction. -/
def Frame.work (threads : Nat) : Frame → Nat
  | .linking _ _ rest => threads + 2 + rest.length
  | .asking _ _ => 0

/-- What is left for a thread to do, apart from types that have no slot yet. -/
def Thread.work (threads links : Nat) (thread : Thread) : Nat :=
  3 * thread.requests.length + thread.activity.work threads links +
    (thread.frames.map (Frame.work threads)).sum

/-- What is left for all threads, if only the given names can get a slot. -/
def Pool.work (names : List String) (links : Nat) (pool : Pool) : Nat :=
  (pool.threads.length + links + 4) * TypeSource.undiscovered names pool.slots +
    (pool.threads.map (Thread.work pool.threads.length links)).sum

namespace TypeSource

variable {source : TypeSource} {i threads links : Nat}

/-! ## One thread -/

section Thread

variable {wanted : String → Prop} {slots later : Slots} {before after thread : Thread}
  {names described : List String}

/-- A thread that is handed an outcome goes on with what it had interrupted. -/
theorem work_resume_le (threads links : Nat)
    (hPlain : ∀ frame ∈ thread.frames, source.PlainFrame frame) (outcome : Outcome) :
    (thread.resume outcome).work threads links ≤
      3 * thread.requests.length + (thread.frames.map (Frame.work threads)).sum := by
  cases hFrames : thread.frames with
  | nil => simp [Thread.resume, hFrames, Thread.work, Activity.work]
  | cons frame frames =>
      cases frame with
      | asking name rest =>
          have hAsking := hPlain (.asking name rest) (by rw [hFrames]; exact List.mem_cons_self)
          exact hAsking.elim
      | linking entity property rest =>
          cases outcome with
          | ok result =>
              simp only [Thread.resume, hFrames, Thread.work, Activity.work, List.map_cons,
                List.sum_cons, Frame.work]
              omega
          | error error =>
              simp only [Thread.resume, hFrames, Thread.work, Activity.work, List.map_cons,
                List.sum_cons, Frame.work]
              omega

private theorem work_wake_le (threads links : Nat) (thread : Thread) :
    thread.wake.work threads links ≤ thread.work threads links + 1 := by
  unfold Thread.wake
  split
  · rename_i hActivity
    simp only [Thread.work, Activity.work, hActivity]
    omega
  · omega

/-- A slot for one more type pays for the construction of the type. -/
theorem mul_undiscovered_claim_le {name : String} (hName : name ∈ names)
    (hNone : slots.get? name = none) (builder price : Nat) :
    price + price * undiscovered names (slots.claim name builder) ≤
      price * undiscovered names slots := by
  have hLess := undiscovered_claim_lt hName hNone builder
  calc price + price * undiscovered names (slots.claim name builder)
      = price * (undiscovered names (slots.claim name builder) + 1) := by
        rw [Nat.mul_add, Nat.mul_one, Nat.add_comm]
    _ ≤ price * undiscovered names slots := Nat.mul_le_mul_left price hLess

/-- Each turn uses up work. A notification uses up enough of it to let every thread look at its slot
once more. -/
theorem Turn.work_lt (threads : Nat) (hTurn : source.Turn i before slots after later described)
    (hNames : ∀ name, wanted name → name ∈ names)
    (hLinks : ∀ name entity, source.check name (source.describe? name) = .ok entity →
      entity.associations.length ≤ links)
    (hFits : source.Fits slots i before) (hThrives : source.Thrives wanted slots before)
    (hLater : ∀ name slot, later.get? name = some slot → wanted name) :
    after.work threads links + (threads + links + 4) * undiscovered names later +
        (if before.notifies then threads else 0) <
      before.work threads links + (threads + links + 4) * undiscovered names slots := by
  have hResume : ∀ outcome, (before.resume outcome).work threads links ≤
      3 * before.requests.length + (before.frames.map (Frame.work threads)).sum :=
    work_resume_le threads links hFits.plain.frames
  have hKept : (threads + links + 4) * undiscovered names later ≤
      (threads + links + 4) * undiscovered names slots :=
    Nat.mul_le_mul_left _ (undiscovered_le names (hTurn.keeps hThrives))
  have hLocal := hThrives.activity
  cases hTurn with
  | @refuse name requests hActivity hRequests hTerminal =>
      have hName := (hThrives.requests name (by simp [hRequests])).1
      simp [hTerminal] at hName
  | request hActivity hRequests hTerminal =>
      simp only [Thread.work, Activity.work, Thread.notifies, hActivity, hRequests,
        List.length_cons, Bool.false_eq_true, if_false]
      omega
  | @find name entity hActivity hSlot =>
      have hAfter := hResume (.ok entity)
      simp only [Thread.work, Activity.work, Thread.notifies, hActivity, Bool.false_eq_true,
        if_false] at hAfter ⊢
      omega
  | refuseOwn hActivity hSlot => exact absurd hSlot (hFits.not_pending_of_requesting hActivity)
  | wait hActivity hSlot hOther =>
      simp only [Thread.work, Activity.work, Thread.notifies, hActivity, Bool.false_eq_true,
        if_false]
      omega
  | @claim name hActivity hSlot =>
      simp only [hActivity] at hLocal
      have hPaid := mul_undiscovered_claim_le (hNames name hLocal) hSlot i (threads + links + 4)
      simp only [Thread.work, Activity.work, Thread.notifies, hActivity, Bool.false_eq_true,
        if_false]
      omega
  | describe hActivity =>
      simp only [Thread.work, Activity.work, Thread.notifies, hActivity, Bool.false_eq_true,
        if_false]
      omega
  | @answer name hActivity =>
      have hDescribed :
          (source.afterDescription name).work threads links ≤ threads + 2 + links := by
        unfold afterDescription
        cases hCheck : source.check name (source.describe? name) with
        | ok entity =>
            have hFew := hLinks name entity hCheck
            simp only [Activity.work]
            omega
        | error error =>
            simp only [Activity.work]
            omega
      have hAsking : (Activity.asking name []).work threads links = threads + links + 3 := rfl
      simp only [Thread.work, hAsking, Thread.notifies, hActivity, Bool.false_eq_true, if_false]
      omega
  | @publish entity hActivity =>
      simp only [Thread.work, Activity.work, Thread.notifies, hActivity, List.length_nil,
        Bool.false_eq_true, if_false]
      omega
  | skip hActivity hSlot =>
      simp only [Thread.work, Activity.work, Thread.notifies, hActivity, List.length_cons,
        Bool.false_eq_true, if_false]
      omega
  | @descend entity property rest hActivity hSlot =>
      have hWanted : wanted property.actualType :=
        hLater property.actualType (.pending i) (by rw [Slots.get?_claim, if_pos rfl])
      have hPaid := mul_undiscovered_claim_le (hNames _ hWanted) hSlot i (threads + links + 4)
      simp only [Thread.work, Activity.work, Thread.notifies, hActivity, List.length_cons,
        List.map_cons, List.sum_cons, Frame.work, Bool.false_eq_true, if_false]
      omega
  | release hActivity => simp only [hActivity] at hLocal
  | @notify outcome hActivity =>
      have hAfter := hResume outcome
      simp only [Thread.work, Activity.work, Thread.notifies, hActivity, if_true] at hAfter ⊢
      omega

end Thread

/-! ## All threads -/

theorem sum_map_set {α : Type} (f : α → Nat) {before : α} {items : List α}
    (hItem : items[i]? = some before) (after : α) :
    ((items.set i after).map f).sum + f before = (items.map f).sum + f after := by
  induction items generalizing i with
  | nil => simp at hItem
  | cons item rest ih =>
      cases i with
      | zero =>
          rw [List.getElem?_cons_zero, Option.some.injEq] at hItem
          rw [hItem]
          simp only [List.set_cons_zero, List.map_cons, List.sum_cons]
          omega
      | succ k =>
          have hRest := ih hItem
          simp only [List.set_cons_succ, List.map_cons, List.sum_cons]
          omega

/-- Waking all waiting threads adds at most one unit of work for each thread. -/
theorem sum_work_wake_le (threads links : Nat) (items : List Thread) :
    ((items.map Thread.wake).map (Thread.work threads links)).sum ≤
      (items.map (Thread.work threads links)).sum + items.length := by
  induction items with
  | nil => exact Nat.le_refl 0
  | cons thread rest ih =>
      have hThread := work_wake_le threads links thread
      simp only [List.map_cons, List.sum_cons, List.length_cons]
      omega

section Pool

variable {wanted : String → Prop} {requests : List (List String)} {pool next : Pool}
  {names : List String}

/-- Each step of a thread uses up work. -/
theorem work_turned_lt {before after : Thread} {slots : Slots} {described : List String}
    (hThread : pool.threads[i]? = some before)
    (hTurn : source.Turn i before pool.slots after slots described)
    (hNames : ∀ name, wanted name → name ∈ names)
    (hLinks : ∀ name entity, source.check name (source.describe? name) = .ok entity →
      entity.associations.length ≤ links)
    (hFits : source.Fits pool.slots i before) (hThrives : source.Thrives wanted pool.slots before)
    (hLater : ∀ name slot, slots.get? name = some slot → wanted name) :
    (pool.turned i before after slots described).work names links < pool.work names links := by
  have hLess := hTurn.work_lt pool.threads.length hNames hLinks hFits hThrives hLater
  have hLength := length_threads_turned pool i before after slots described
  simp only [Pool.work, hLength]
  cases hNotifies : before.notifies with
  | false =>
      have hSet := sum_map_set (Thread.work pool.threads.length links) hThread after
      simp only [hNotifies, Pool.turned, Bool.false_eq_true, if_false] at hLess ⊢
      omega
  | true =>
      have hAwake : before.wake = before := wake_of_isWaiting_eq_false (by
        cases hActivity : before.activity with
        | waiting name => simp [Thread.notifies, hActivity] at hNotifies
        | _ => simp only [Thread.isWaiting, hActivity])
      have hWoken : (pool.threads.map Thread.wake)[i]? = some before := by
        rw [List.getElem?_map, hThread, Option.map_some, hAwake]
      have hSet := sum_map_set (Thread.work pool.threads.length links) hWoken after
      have hWake := sum_work_wake_le pool.threads.length links pool.threads
      simp only [hNotifies, Pool.turned, if_true] at hLess ⊢
      omega

/-- **The threads can finish**, from every state that they can reach. -/
theorem exists_finished (hPassive : source.Passive) (hWants : source.Wants wanted)
    (hNames : ∀ name, wanted name → name ∈ names)
    (hLinks : ∀ name entity, source.check name (source.describe? name) = .ok entity →
      entity.associations.length ≤ links)
    (hSound : source.Sound requests pool) (hWatched : Watched pool)
    (hGathers : source.Gathers wanted pool) :
    ∃ final, Relation.ReflTransGen source.Step pool final ∧
      ∀ thread ∈ final.threads, thread.isFinished = true := by
  induction hWork : pool.work names links using Nat.strongRecOn generalizing pool with
  | _ work ih =>
      by_cases hFinished : ∀ thread ∈ pool.threads, thread.isFinished = true
      · exact ⟨pool, .refl, hFinished⟩
      · push Not at hFinished
        obtain ⟨thread, hThread, hUnfinished⟩ := hFinished
        obtain ⟨k, hIndex⟩ := List.getElem?_of_mem hThread
        obtain ⟨j, active, hActive, hBusy, hRemains⟩ :=
          exists_active hSound hWatched hIndex (by simpa using hUnfinished)
        obtain ⟨next, hNext⟩ := exists_stepThread? source j hBusy hRemains pool
        have hStep : source.Step pool next := .thread j active hActive hNext
        have hFits := hSound.fits j active hActive
        have hLater := gathers_step hPassive hWants hSound hGathers hStep
        obtain ⟨after, slots, described, hTurn, rfl⟩ :=
          turn_of_stepThread? hPassive hFits.plain hNext
        have hLess := work_turned_lt hActive hTurn hNames hLinks hFits
          (hGathers.thrives j active hActive) hLater.wanted
        obtain ⟨final, hSteps, hFinal⟩ := ih _ (hWork ▸ hLess)
          (sound_step hPassive hSound hStep) (watched_step hPassive hSound hWatched hStep) hLater rfl
        exact ⟨final, .head hStep hSteps, hFinal⟩

end Pool

end TypeSource

/-! ## Registries -/

namespace Registry

open TypeSource

/-- A described type has as many associations as it mentions types, at most. -/
theorem associations_length_le (registry : Registry) {name : String} {entity : Entity}
    (hCheck : registry.source.check name (registry.source.describe? name) = .ok entity) :
    entity.associations.length ≤ registry.inspector.mentioned.length := by
  obtain ⟨type, hType, _, hEntity⟩ := ofDescriptor_of_check hCheck
  have hProperties : entity.properties.length = type.members.length := by
    unfold Entity.ofDescriptor at hEntity
    split at hEntity
    · simp at hEntity
    · split at hEntity
      · simp at hEntity
      · simp at hEntity
      · simp only [Except.ok.injEq] at hEntity
        rw [← hEntity, List.length_map]
  have hAnswer := mem_answers_of_describe? hType
  have hMentioned : (type.members.map (·.declared.actualName)).Sublist
      (registry.inspector.answers.flatMap
        fun answer => answer.2.members.map (·.declared.actualName)) :=
    List.sublist_flatten_of_mem (List.mem_map.mpr ⟨(name, type), hAnswer, rfl⟩)
  calc entity.associations.length
      ≤ entity.properties.length := List.length_filter_le _ _
    _ = (type.members.map (·.declared.actualName)).length := by rw [hProperties, List.length_map]
    _ ≤ registry.inspector.mentioned.length :=
        (hMentioned.trans (List.sublist_append_left _ _)).length_le

/-- What some types reach is among these types and those that the inspector mentions. -/
theorem mem_of_reachedFrom (registry : Registry) {roots : List String} {name : String}
    (hReached : registry.source.ReachedFrom roots name) :
    name ∈ roots ++ registry.inspector.mentioned := by
  obtain ⟨root, hRoot, hReaches⟩ := hReached
  rcases hReaches.cases_tail with hSame | ⟨other, _, hLinks⟩
  · rw [hSame]
    exact List.mem_append_left _ hRoot
  · exact List.mem_append_right roots (registry.linksInto_mentioned other name hLinks)

/-- **Concurrent construction loses and duplicates nothing.** Each thread requests one type, and all
types that these reach are locally valid. Then from every state the threads can finish. And when they
have, each of them has the entity of its type, exactly the reachable types are published, nothing is
pending, and each reachable type has been described once. -/
theorem gathered_of_steps (registry : Registry) (hPassive : registry.source.Passive)
    {roots : List String} (hRoots : ∀ root ∈ roots, registry.isTerminal root = false)
    (hValid : ∀ name, registry.source.ReachedFrom roots name → registry.source.LocallyValid name)
    {pool : Pool}
    (hSteps : Relation.ReflTransGen registry.source.Step
      (.ofRequests (roots.map fun root => [root])) pool) :
    (∃ final, Relation.ReflTransGen registry.source.Step pool final ∧
      ∀ thread ∈ final.threads, thread.isFinished = true) ∧
    ((∀ thread ∈ pool.threads, thread.isFinished = true) → registry.source.Gathered roots pool) := by
  have hWants := wants_reachedFrom hValid
  have hStart := sound_ofRequests registry.source (roots.map fun root => [root])
  have hSound := sound_of_steps hPassive hStart hSteps
  have hWatched := watched_of_steps hPassive hStart (watched_ofRequests _) hSteps
  have hGathers := gathers_of_steps hPassive hWants hStart (gathers_ofRequests hRoots) hSteps
  exact ⟨exists_finished hPassive hWants (fun _ => registry.mem_of_reachedFrom)
      (fun _ _ => registry.associations_length_le) hSound hWatched hGathers,
    gathered_of_finished hSound hGathers⟩

/-- A request to a fresh registry that succeeds says that all reachable types are locally valid. -/
theorem locallyValid_of_isOk (registry : Registry) (hPassive : registry.source.Passive)
    {name other : String} (hTerminal : registry.isTerminal name = false)
    (hOk : (registry.entityFor name {}).1.isOk = true)
    (hReaches : registry.source.Reaches name other) : registry.source.LocallyValid other := by
  have hLength : registry.inspector.mentioned.length < registry.budget := Nat.lt_succ_self _
  rcases entityFor_completes_or_doomed hPassive registry.linksInto_mentioned hLength
    (show registry.source.Settled ({} : State).slots from settled_nil _) hTerminal with
    ⟨entity, after, _, hCompletes⟩ | ⟨error, after, hResult, _⟩
  · exact hCompletes.settled.locallyValid_of_reaches
      (isReady_iff.mpr ⟨entity, hCompletes.found⟩) hReaches
  · have hError : (registry.entityFor name {}).1 = .error error := congrArg Prod.fst hResult
    rw [hError] at hOk
    simp at hOk

/-- Two threads build two types that refer to each other. -/
theorem gathered_orders :
    (∀ root ∈ ["Order", "Customer"], orders.isTerminal root = false) ∧
      (∀ name, orders.source.ReachedFrom ["Order", "Customer"] name →
        orders.source.LocallyValid name) ∧
      (∀ thread ∈ (orders.run 40 (.ofRequests [["Order"], ["Customer"]])).threads,
        thread.isFinished = true) ∧
      orders.source.Gathered ["Order", "Customer"]
        (orders.run 40 (.ofRequests [["Order"], ["Customer"]])) := by
  have hRoots : ∀ root ∈ ["Order", "Customer"], orders.isTerminal root = false := by decide +kernel
  have hOk : ∀ root ∈ ["Order", "Customer"], (orders.entityFor root {}).1.isOk = true := by
    decide +kernel
  have hFinished : ∀ thread ∈ (orders.run 40 (.ofRequests [["Order"], ["Customer"]])).threads,
      thread.isFinished = true := by decide +kernel
  have hValid : ∀ name, orders.source.ReachedFrom ["Order", "Customer"] name →
      orders.source.LocallyValid name := by
    rintro name ⟨root, hRoot, hReaches⟩
    exact orders.locallyValid_of_isOk (passive_ofCatalog _ _) (hRoots root hRoot) (hOk root hRoot)
      hReaches
  exact ⟨hRoots, hValid, hFinished,
    (orders.gathered_of_steps (passive_ofCatalog _ _) hRoots hValid
      (steps_run orders.source 40 _)).2 hFinished⟩

end Registry

end DerivedQuery
