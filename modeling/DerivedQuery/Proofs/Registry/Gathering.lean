import DerivedQuery.Proofs.Registry.Agreement

/-!
# What threads build together

Each of some threads requests one type, and every type that the requested ones reach is locally
valid. No thread walks through all of this graph: it skips what another thread constructs, and it
may be answered while types below its own are still under construction. But a type that it skips has
a slot, and slots are not removed as long as no construction fails. So the threads together lose
nothing: the target of each link of a published type has a slot, and so has every association that a
construction has visited. When all threads have finished, no slot is pending any more, and these
facts say that the published types are those that can be reached.

Nor do they do anything twice. A type is described by the thread that has given it a slot, between
two steps that nobody else can take for this type.

## Main results

* `Turn.thrives`, `Gathers.turned`: what one step preserves as long as nothing is wrong with a type
* `gathers_of_steps`: what every interleaving preserves
* `gathered_of_finished`: what has been built when all threads have finished
-/

namespace DerivedQuery.TypeSource

variable {source : TypeSource} {i : Nat}

/-- One of some types reaches the type. -/
def ReachedFrom (source : TypeSource) (roots : List String) (name : String) : Prop :=
  ∃ root ∈ roots, source.Reaches root name

/-! ## A thread that does not fail -/

/-- The associations of an entity, except for those that are left, lead to types with slots. -/
def Follows (slots : Slots) (entity : Entity) (rest : List Property) : Prop :=
  ∃ visited, entity.associations = visited ++ rest ∧
    ∀ property ∈ visited, (slots.get? property.actualType).isSome = true

section Follows

variable {slots later : Slots} {entity : Entity} {property : Property} {rest : List Property}

theorem Follows.mono
    (hKept : ∀ name, (slots.get? name).isSome = true → (later.get? name).isSome = true)
    (hFollows : Follows slots entity rest) : Follows later entity rest := by
  obtain ⟨visited, hSplit, hVisited⟩ := hFollows
  exact ⟨visited, hSplit, fun property hMem => hKept _ (hVisited property hMem)⟩

/-- One more association has been visited. -/
theorem Follows.next (hFollows : Follows slots entity (property :: rest))
    (hSlot : (slots.get? property.actualType).isSome = true) : Follows slots entity rest := by
  obtain ⟨visited, hSplit, hVisited⟩ := hFollows
  refine ⟨visited ++ [property], by rw [hSplit, List.append_assoc]; rfl, fun other hOther => ?_⟩
  rcases List.mem_append.mp hOther with hOld | hNew
  · exact hVisited other hOld
  · rw [List.mem_singleton.mp hNew]
    exact hSlot

private theorem Follows.mem_associations (hFollows : Follows slots entity (property :: rest)) :
    property ∈ entity.associations := by
  obtain ⟨visited, hSplit, _⟩ := hFollows
  rw [hSplit]
  exact List.mem_append_right visited List.mem_cons_self

end Follows

/-- A thread that requests wanted types, has been given entities only, and loses no association of
what it constructs. -/
structure Thrives (source : TypeSource) (wanted : String → Prop) (slots : Slots) (thread : Thread) :
    Prop where
  requests : ∀ name ∈ thread.requests, source.isTerminal name = false ∧ wanted name
  outcomes : ∀ outcome ∈ thread.outcomes, outcome.isOk = true
  frames : ∀ entity property rest, .linking entity property rest ∈ thread.frames →
    Follows slots entity rest
  activity : match thread.activity with
    | .requesting name => wanted name
    | .waiting name => wanted name
    | .linking entity rest => Follows slots entity rest
    | .failing _ _ => False
    | .notifying outcome => outcome.isOk = true
    | _ => True

/-- Types are wanted only if they have a slot or are linked from wanted ones, and all of them are
locally valid. -/
structure Wants (source : TypeSource) (wanted : String → Prop) : Prop where
  valid : ∀ name, wanted name → source.LocallyValid name
  links : ∀ first second, wanted first → source.Links first second → wanted second

section Thread

variable {wanted : String → Prop} {slots later : Slots} {before after thread : Thread}
  {names : List String}

/-- No slot is removed. -/
theorem Turn.keeps (hTurn : source.Turn i before slots after later names)
    (hThrives : source.Thrives wanted slots before) (name : String)
    (hSlot : (slots.get? name).isSome = true) : (later.get? name).isSome = true := by
  cases hTurn with
  | claim =>
      rw [Slots.get?_claim]
      split
      · rfl
      · exact hSlot
  | descend =>
      rw [Slots.get?_claim]
      split
      · rfl
      · exact hSlot
  | publish =>
      rw [Slots.get?_publish]
      split
      · rfl
      · exact hSlot
  | release hActivity =>
      have hFails := hThrives.activity
      simp only [hActivity] at hFails
  | _ => exact hSlot

theorem Thrives.mono
    (hKept : ∀ name, (slots.get? name).isSome = true → (later.get? name).isSome = true)
    (hThrives : source.Thrives wanted slots thread) : source.Thrives wanted later thread where
  requests := hThrives.requests
  outcomes := hThrives.outcomes
  frames entity property rest hFrame := (hThrives.frames entity property rest hFrame).mono hKept
  activity := by
    have hActivity := hThrives.activity
    cases hCase : thread.activity with
    | linking entity rest =>
        simp only [hCase] at hActivity
        exact hActivity.mono hKept
    | failing name error => simp only [hCase] at hActivity
    | _ =>
        simp only [hCase] at hActivity
        exact hActivity

/-- A thread that is handed an entity goes on. -/
theorem Thrives.resume (hThrives : source.Thrives wanted slots thread)
    (hPlain : ∀ frame ∈ thread.frames, source.PlainFrame frame) {outcome : Outcome}
    (hOutcome : outcome.isOk = true) : source.Thrives wanted slots (thread.resume outcome) := by
  cases outcome with
  | error error => simp at hOutcome
  | ok entity =>
      cases hFrames : thread.frames with
      | nil =>
          rw [resume_of_frames_nil hFrames]
          refine ⟨hThrives.requests, fun other hOther => ?_, hThrives.frames, trivial⟩
          rcases List.mem_append.mp hOther with hOld | hNew
          · exact hThrives.outcomes other hOld
          · rw [List.mem_singleton.mp hNew]
            rfl
      | cons frame frames =>
          cases frame with
          | asking name rest =>
              have hAsking := hPlain (.asking name rest) (by rw [hFrames]; exact List.mem_cons_self)
              exact hAsking.elim
          | linking owner property rest =>
              simp only [Thread.resume, hFrames]
              refine ⟨hThrives.requests, hThrives.outcomes, fun entity property rest hFrame => ?_, ?_⟩
              · apply hThrives.frames entity property rest
                rw [hFrames]
                exact List.mem_cons_of_mem _ hFrame
              · apply hThrives.frames owner property rest
                rw [hFrames]
                exact List.mem_cons_self

/-- What a thread constructs is wanted, since it has a slot. -/
theorem Fits.wanted_of_mem (hFits : source.Fits slots i thread)
    (hSlots : ∀ name slot, slots.get? name = some slot → wanted name) {name : String}
    (hName : name ∈ thread.constructions) : wanted name :=
  hSlots name _ ((hFits.owns.pending name).mpr hName)

/-- What a step preserves of the thread that takes it. -/
theorem Turn.thrives (hTurn : source.Turn i before slots after later names)
    (hWants : source.Wants wanted) (hFits : source.Fits slots i before)
    (hSlots : ∀ name slot, slots.get? name = some slot → wanted name)
    (hThrives : source.Thrives wanted slots before) : source.Thrives wanted later after := by
  have hKept := hTurn.keeps hThrives
  have hLater := hThrives.mono hKept
  have hLocal := hThrives.activity
  cases hTurn with
  | @refuse name requests hActivity hRequests hTerminal =>
      have hName := (hThrives.requests name (by simp [hRequests])).1
      simp [hTerminal] at hName
  | @request name requests hActivity hRequests hTerminal =>
      refine ⟨fun other hOther => ?_, hThrives.outcomes, hThrives.frames, ?_⟩
      · exact hThrives.requests other (by rw [hRequests]; exact List.mem_cons_of_mem name hOther)
      · exact (hThrives.requests name (by simp [hRequests])).2
  | find hActivity hSlot => exact hThrives.resume hFits.plain.frames rfl
  | refuseOwn hActivity hSlot => exact absurd hSlot (hFits.not_pending_of_requesting hActivity)
  | wait hActivity hSlot hOther =>
      simp only [hActivity] at hLocal
      exact ⟨hThrives.requests, hThrives.outcomes, hThrives.frames, hLocal⟩
  | claim hActivity hSlot => exact ⟨hLater.requests, hLater.outcomes, hLater.frames, trivial⟩
  | describe hActivity => exact ⟨hThrives.requests, hThrives.outcomes, hThrives.frames, trivial⟩
  | @answer name hActivity =>
      have hName := hFits.wanted_of_mem hSlots
        (show name ∈ before.constructions by simp [Thread.constructions, hActivity, Activity.owned])
      obtain ⟨entity, hCheck⟩ := locallyValid_iff.mp (hWants.valid name hName)
      simp only [afterDescription, hCheck]
      exact ⟨hThrives.requests, hThrives.outcomes, hThrives.frames, [], rfl, by simp⟩
  | publish hActivity => exact ⟨hLater.requests, hLater.outcomes, hLater.frames, rfl⟩
  | skip hActivity hSlot =>
      simp only [hActivity] at hLocal
      exact ⟨hThrives.requests, hThrives.outcomes, hThrives.frames, hLocal.next hSlot⟩
  | @descend entity property rest hActivity hSlot =>
      simp only [hActivity] at hLocal
      refine ⟨hLater.requests, hLater.outcomes, fun other target others hFrame => ?_, trivial⟩
      rcases List.mem_cons.mp hFrame with hNew | hOld
      · cases hNew
        apply (hLocal.mono hKept).next
        rw [Slots.get?_claim, if_pos rfl]
        rfl
      · exact hLater.frames other target others hOld
  | release hActivity => simp only [hActivity] at hLocal
  | notify hActivity =>
      simp only [hActivity] at hLocal
      exact hThrives.resume hFits.plain.frames hLocal

/-- Only wanted types are given a slot. -/
theorem Turn.wanted_of_slot (hTurn : source.Turn i before slots after later names)
    (hWants : source.Wants wanted) (hFits : source.Fits slots i before)
    (hSlots : ∀ name slot, slots.get? name = some slot → wanted name)
    (hThrives : source.Thrives wanted slots before) :
    ∀ name slot, later.get? name = some slot → wanted name := by
  have hLocal := hThrives.activity
  intro name slot hSlot
  cases hTurn with
  | claim hActivity hNone =>
      simp only [hActivity] at hLocal
      rw [Slots.get?_claim] at hSlot
      split at hSlot
      · rename_i hName
        rw [hName]
        exact hLocal
      · exact hSlots name slot hSlot
  | @descend entity property rest hActivity hNone =>
      simp only [hActivity] at hLocal
      rw [Slots.get?_claim] at hSlot
      split at hSlot
      · rename_i hName
        have hOwner := hFits.wanted_of_mem hSlots (show entity.typeName ∈ before.constructions by
          simp [Thread.constructions, hActivity, Activity.owned])
        have hCheck := hFits.plain.activity
        simp only [hActivity] at hCheck
        rw [hName]
        exact hWants.links _ _ hOwner
          ((links_iff hCheck).mpr ⟨property, hLocal.mem_associations, rfl⟩)
      · exact hSlots name slot hSlot
  | @publish entity hActivity =>
      rw [Slots.get?_publish] at hSlot
      split at hSlot
      · rename_i hName
        rw [hName]
        exact hFits.wanted_of_mem hSlots
          (by simp [Thread.constructions, hActivity, Activity.owned])
      · exact hSlots name slot hSlot
  | release hActivity => simp only [hActivity] at hLocal
  | _ => exact hSlots name slot hSlot

/-- A type is published when all of its associations have been visited. -/
theorem Turn.linked (hTurn : source.Turn i before slots after later names)
    (hPlain : source.Plain before) (hThrives : source.Thrives wanted slots before)
    (hLinked : source.Linked (fun _ => False) slots) :
    source.Linked (fun _ => False) later := by
  have hLocal := hThrives.activity
  cases hTurn with
  | claim hActivity hSlot => exact hLinked.claim _ i
  | descend hActivity hSlot => exact hLinked.claim _ i
  | publish hActivity =>
      have hCheck := hPlain.activity
      simp only [hActivity] at hLocal hCheck
      apply hLinked.publish
      intro target hLinks
      obtain ⟨property, hProperty, rfl⟩ := (links_iff hCheck).mp hLinks
      obtain ⟨visited, hSplit, hVisited⟩ := hLocal
      rw [hSplit, List.append_nil] at hProperty
      exact hVisited property hProperty
  | release hActivity => simp only [hActivity] at hLocal
  | _ => exact hLinked

/-- A turn gives no slot and describes nothing, or it gives a slot to the type that the thread will
describe next, or it describes this type. -/
theorem Turn.discovers (hTurn : source.Turn i before slots after later names)
    (hFits : source.Fits slots i before) (hThrives : source.Thrives wanted slots before) :
    (names = [] ∧ (∀ name, before.activity ≠ .describing name) ∧
      (∀ name, after.activity ≠ .describing name) ∧
      ∀ name, (later.get? name).isSome = (slots.get? name).isSome) ∨
    (∃ name, names = [] ∧ (∀ other, before.activity ≠ .describing other) ∧
      after.activity = .describing name ∧ slots.get? name = none ∧ later = slots.claim name i) ∨
    ∃ name, names = [name] ∧ before.activity = .describing name ∧
      (∀ other, after.activity ≠ .describing other) ∧ later = slots := by
  have hResume : ∀ (thread : Thread) outcome name,
      (thread.resume outcome).activity ≠ .describing name := by
    intro thread outcome name hActivity
    cases hActivity ▸ resumed_resume thread outcome
  cases hTurn with
  | refuse hActivity => exact Or.inl ⟨rfl, by simp [hActivity], hResume _ _, fun _ => rfl⟩
  | request hActivity => exact Or.inl ⟨rfl, by simp [hActivity], by simp, fun _ => rfl⟩
  | find hActivity => exact Or.inl ⟨rfl, by simp [hActivity], hResume _ _, fun _ => rfl⟩
  | refuseOwn hActivity => exact Or.inl ⟨rfl, by simp [hActivity], hResume _ _, fun _ => rfl⟩
  | wait hActivity => exact Or.inl ⟨rfl, by simp [hActivity], by simp, fun _ => rfl⟩
  | claim hActivity hSlot =>
      exact Or.inr (Or.inl ⟨_, rfl, by simp [hActivity], rfl, hSlot, rfl⟩)
  | describe hActivity => exact Or.inr (Or.inr ⟨_, rfl, hActivity, by simp, rfl⟩)
  | @answer type hActivity =>
      refine Or.inl ⟨rfl, by simp [hActivity], fun name => ?_, fun _ => rfl⟩
      simp only [afterDescription]
      split <;> simp
  | @publish entity hActivity =>
      refine Or.inl ⟨rfl, by simp [hActivity], by simp, fun name => ?_⟩
      have hOwn := (hFits.owns.pending entity.typeName).mpr
        (by simp [Thread.constructions, hActivity, Activity.owned])
      rw [Slots.get?_publish]
      split
      · rename_i hName
        rw [hName, hOwn]
        rfl
      · rfl
  | skip hActivity => exact Or.inl ⟨rfl, by simp [hActivity], by simp, fun _ => rfl⟩
  | descend hActivity hSlot =>
      exact Or.inr (Or.inl ⟨_, rfl, by simp [hActivity], rfl, hSlot, rfl⟩)
  | release hActivity =>
      have hLocal := hThrives.activity
      simp only [hActivity] at hLocal
  | notify hActivity => exact Or.inl ⟨rfl, by simp [hActivity], hResume _ _, fun _ => rfl⟩

end Thread

/-! ## Pools -/

/-- A thread is about to ask for the description of the type. -/
def AboutToDescribe (pool : Pool) (name : String) : Prop :=
  ∃ (i : Nat) (thread : Thread), pool.threads[i]? = some thread ∧
    thread.activity = .describing name

/-- A thread other than thread `i` is about to ask for the description of the type. -/
def OtherAboutToDescribe (pool : Pool) (i : Nat) (name : String) : Prop :=
  ∃ (j : Nat) (thread : Thread), j ≠ i ∧ pool.threads[j]? = some thread ∧
    thread.activity = .describing name

/-- What holds of a pool however its threads have interleaved, as long as nothing is wrong with a
wanted type: no type is lost, and no type is described twice. -/
structure Gathers (source : TypeSource) (wanted : String → Prop) (pool : Pool) : Prop where
  thrives : ∀ (i : Nat) thread, pool.threads[i]? = some thread →
    source.Thrives wanted pool.slots thread
  wanted : ∀ name slot, pool.slots.get? name = some slot → wanted name
  linked : source.Linked (fun _ => False) pool.slots
  nodup : (pool.described.map Prod.snd).Nodup
  described : ∀ name, name ∈ pool.described.map Prod.snd ↔
    (pool.slots.get? name).isSome = true ∧ ¬AboutToDescribe pool name

section Pool

variable {wanted : String → Prop} {requests : List (List String)} {pool next : Pool}
  {before after : Thread} {slots : Slots} {names : List String}

private theorem describing_wake {thread : Thread} {name : String} :
    thread.wake.activity = .describing name ↔ thread.activity = .describing name := by
  unfold Thread.wake
  split
  · rename_i hActivity
    simp [hActivity]
  · rfl

/-- After a turn, the thread that had it may be about to describe a type, and so may the others as
before. -/
theorem aboutToDescribe_turned (hThread : pool.threads[i]? = some before) {name : String} :
    AboutToDescribe (pool.turned i before after slots names) name ↔
      after.activity = .describing name ∨ OtherAboutToDescribe pool i name := by
  constructor
  · rintro ⟨j, thread, hNow, hDescribing⟩
    rcases getElem?_turned hNow with ⟨rfl, rfl⟩ | ⟨hOther, old, hOld, rfl | rfl⟩
    · exact Or.inl hDescribing
    · exact Or.inr ⟨j, thread, hOther, hOld, hDescribing⟩
    · exact Or.inr ⟨j, old, hOther, hOld, describing_wake.mp hDescribing⟩
  · rintro (hDescribing | ⟨j, thread, hOther, hOld, hDescribing⟩)
    · exact ⟨i, after, getElem?_turned_self hThread after slots names, hDescribing⟩
    · cases hNotifies : before.notifies with
      | false =>
          refine ⟨j, thread, ?_, hDescribing⟩
          rw [getElem?_turned_of_ne _ hOther, if_neg (by simp [hNotifies]), hOld]
      | true =>
          refine ⟨j, thread.wake, ?_, describing_wake.mpr hDescribing⟩
          rw [getElem?_turned_of_ne _ hOther, if_pos hNotifies, hOld, Option.map_some]

private theorem aboutToDescribe_iff (hThread : pool.threads[i]? = some before) {name : String} :
    AboutToDescribe pool name ↔
      before.activity = .describing name ∨ OtherAboutToDescribe pool i name := by
  constructor
  · rintro ⟨j, thread, hNow, hDescribing⟩
    by_cases hSame : j = i
    · subst hSame
      rw [hThread, Option.some.injEq] at hNow
      rw [hNow]
      exact Or.inl hDescribing
    · exact Or.inr ⟨j, thread, hSame, hNow, hDescribing⟩
  · rintro (hDescribing | ⟨j, thread, _, hOld, hDescribing⟩)
    · exact ⟨i, before, hThread, hDescribing⟩
    · exact ⟨j, thread, hOld, hDescribing⟩

/-- A type that a thread is about to describe has a slot, and no other thread is about to do so. -/
theorem Sound.sole_describer (hSound : source.Sound requests pool) {i j : Nat}
    {first second : Thread} (hFirst : pool.threads[i]? = some first)
    (hSecond : pool.threads[j]? = some second) {name : String} (hFirstActivity : first.activity = .describing name)
    (hSecondActivity : second.activity = .describing name) :
    pool.slots.get? name = some (.pending i) ∧ j = i := by
  have hOwn := ((hSound.fits i first hFirst).owns.pending name).mpr
    (by simp [Thread.constructions, hFirstActivity, Activity.owned])
  have hOther := ((hSound.fits j second hSecond).owns.pending name).mpr
    (by simp [Thread.constructions, hSecondActivity, Activity.owned])
  rw [hOwn, Option.some.injEq, Slot.pending.injEq] at hOther
  exact ⟨hOwn, hOther.symm⟩

/-- No type is described twice, and each type that has a slot is described unless a thread is about
to do so. -/
theorem Gathers.described_turned (hGathers : source.Gathers wanted pool)
    (hSound : source.Sound requests pool) (hThread : pool.threads[i]? = some before)
    (hTurn : source.Turn i before pool.slots after slots names) :
    ((pool.turned i before after slots names).described.map Prod.snd).Nodup ∧
      ∀ name, name ∈ (pool.turned i before after slots names).described.map Prod.snd ↔
        (slots.get? name).isSome = true ∧
          ¬AboutToDescribe (pool.turned i before after slots names) name := by
  have hFits := hSound.fits i before hThread
  have hNames : (pool.turned i before after slots names).described.map Prod.snd =
      pool.described.map Prod.snd ++ names := by
    simp [Pool.turned, Function.comp_def]
  have hOld := fun name => hGathers.described name
  simp only [aboutToDescribe_iff hThread] at hOld
  simp only [hNames, aboutToDescribe_turned hThread, List.mem_append, hOld]
  rcases hTurn.discovers hFits (hGathers.thrives i before hThread) with
    ⟨rfl, hBefore, hAfter, hSame⟩ | ⟨name, rfl, hBefore, hAfter, hNone, rfl⟩ |
    ⟨name, rfl, hBefore, hAfter, rfl⟩
  · refine ⟨by simpa using hGathers.nodup, fun other => ?_⟩
    simp [hBefore other, hAfter other, hSame other]
  · refine ⟨by simpa using hGathers.nodup, fun other => ?_⟩
    rw [Slots.get?_claim]
    by_cases hOther : other = name
    · simp [hOther, hNone, hAfter]
    · have hDifferent : after.activity ≠ .describing other := by
        rw [hAfter, ne_eq, Activity.describing.injEq]
        exact Ne.symm hOther
      simp [hOther, hBefore other, hDifferent]
  · have hOwn := (hSound.sole_describer hThread hThread hBefore hBefore).1
    have hNew : name ∉ pool.described.map Prod.snd := by
      rw [hOld]
      simp [hBefore]
    constructor
    · refine List.nodup_append.mpr ⟨hGathers.nodup, by simp, ?_⟩
      rintro other hOther _ hName rfl
      rw [List.mem_singleton.mp hName] at hOther
      exact hNew hOther
    · intro other
      by_cases hOther : other = name
      · subst hOther
        have hNobody : ¬OtherAboutToDescribe pool i other := by
          rintro ⟨j, thread, hDifferent, hThere, hDescribing⟩
          exact hDifferent (hSound.sole_describer hThread hThere hBefore hDescribing).2
        simp [hOwn, hAfter, hNobody]
      · have hDifferent : before.activity ≠ .describing other := by
          rw [hBefore, ne_eq, Activity.describing.injEq]
          exact Ne.symm hOther
        simp [hOther, hDifferent, hAfter other]

theorem Thrives.wake {thread : Thread} (hThrives : source.Thrives wanted slots thread) :
    source.Thrives wanted slots thread.wake := by
  have hLocal := hThrives.activity
  unfold Thread.wake
  split
  · rename_i hActivity
    simp only [hActivity] at hLocal
    exact ⟨hThrives.requests, hThrives.outcomes, hThrives.frames, hLocal⟩
  · exact hThrives

/-- A turn of one thread. -/
theorem Gathers.turned (hGathers : source.Gathers wanted pool) (hWants : source.Wants wanted)
    (hSound : source.Sound requests pool) (hThread : pool.threads[i]? = some before)
    (hTurn : source.Turn i before pool.slots after slots names) :
    source.Gathers wanted (pool.turned i before after slots names) := by
  have hFits := hSound.fits i before hThread
  have hThrives := hGathers.thrives i before hThread
  have hDescribed := hGathers.described_turned hSound hThread hTurn
  refine ⟨fun j other hOther => ?_, hTurn.wanted_of_slot hWants hFits hGathers.wanted hThrives,
    hTurn.linked hFits.plain hThrives hGathers.linked, hDescribed.1, hDescribed.2⟩
  rcases getElem?_turned hOther with ⟨rfl, rfl⟩ | ⟨_, old, hOld, hCases⟩
  · exact hTurn.thrives hWants hFits hGathers.wanted hThrives
  · have hLater := (hGathers.thrives j old hOld).mono (hTurn.keeps hThrives)
    rcases hCases with rfl | rfl
    · exact hLater
    · exact hLater.wake

/-- A spurious wakeup. -/
theorem Gathers.wakeup (hGathers : source.Gathers wanted pool) {thread : Thread}
    (hThread : pool.threads[i]? = some thread) :
    source.Gathers wanted (pool.setThread i thread.wake) := by
  have hAbout : ∀ name, AboutToDescribe (pool.setThread i thread.wake) name ↔
      AboutToDescribe pool name := by
    intro name
    constructor
    · rintro ⟨j, other, hOther, hDescribing⟩
      rcases getElem?_set_cases hOther with ⟨rfl, rfl⟩ | ⟨_, hOld⟩
      · exact ⟨j, thread, hThread, describing_wake.mp hDescribing⟩
      · exact ⟨j, other, hOld, hDescribing⟩
    · rintro ⟨j, other, hOther, hDescribing⟩
      by_cases hSame : j = i
      · subst hSame
        rw [hThread, Option.some.injEq] at hOther
        refine ⟨j, thread.wake, ?_, describing_wake.mpr (by rw [hOther]; exact hDescribing)⟩
        exact List.getElem?_set_self (List.getElem?_eq_some_iff.mp hThread).1
      · refine ⟨j, other, ?_, hDescribing⟩
        rw [Pool.setThread, List.getElem?_set_ne (Ne.symm hSame)]
        exact hOther
  refine ⟨fun j other hOther => ?_, hGathers.wanted, hGathers.linked, hGathers.nodup, fun name => ?_⟩
  · rcases getElem?_set_cases hOther with ⟨rfl, rfl⟩ | ⟨_, hOld⟩
    · exact (hGathers.thrives j thread hThread).wake
    · exact hGathers.thrives j other hOld
  · rw [hAbout]
    exact hGathers.described name

theorem gathers_step (hPassive : source.Passive) (hWants : source.Wants wanted)
    (hSound : source.Sound requests pool) (hGathers : source.Gathers wanted pool)
    (hStep : source.Step pool next) : source.Gathers wanted next := by
  cases hStep with
  | thread i before hThread hStep =>
      obtain ⟨after, slots, names, hTurn, rfl⟩ :=
        turn_of_stepThread? hPassive (hSound.fits i before hThread).plain hStep
      exact hGathers.turned hWants hSound hThread hTurn
  | wakeup i before hThread hWaiting => exact hGathers.wakeup hThread

/-- What every interleaving preserves, as long as nothing is wrong with a wanted type. -/
theorem gathers_of_steps (hPassive : source.Passive) (hWants : source.Wants wanted)
    (hSound : source.Sound requests pool) (hGathers : source.Gathers wanted pool)
    (hSteps : Relation.ReflTransGen source.Step pool next) : source.Gathers wanted next := by
  induction hSteps with
  | refl => exact hGathers
  | tail hBefore hStep ih =>
      exact gathers_step hPassive hWants (sound_of_steps hPassive hSound hBefore) ih hStep

end Pool

/-! ## When all threads have finished -/

section Finished

variable {requests : List (List String)} {roots : List String} {pool : Pool}

/-- What the requested types reach is wanted. -/
theorem wants_reachedFrom
    (hValid : ∀ name, source.ReachedFrom roots name → source.LocallyValid name) :
    source.Wants (source.ReachedFrom roots) where
  valid := hValid
  links first second hFirst hLinks := by
    obtain ⟨root, hRoot, hReaches⟩ := hFirst
    exact ⟨root, hRoot, hReaches.tail hLinks⟩

/-- One thread for each of some types, which requests it. -/
theorem gathers_ofRequests (hRoots : ∀ root ∈ roots, source.isTerminal root = false) :
    source.Gathers (source.ReachedFrom roots) (.ofRequests (roots.map fun root => [root])) := by
  have hThreads : ∀ (i : Nat) thread,
      (Pool.ofRequests (roots.map fun root => [root])).threads[i]? = some thread →
        ∃ root ∈ roots, thread = { requests := [root] } := by
    intro i thread hThread
    simp only [Pool.ofRequests, List.map_map, List.getElem?_map, Option.map_eq_some_iff] at hThread
    obtain ⟨root, hRoot, rfl⟩ := hThread
    exact ⟨root, List.mem_of_getElem? hRoot, rfl⟩
  refine ⟨fun i thread hThread => ?_, ?_, ?_, List.nodup_nil, fun name => ?_⟩
  · obtain ⟨root, hRoot, rfl⟩ := hThreads i thread hThread
    refine ⟨fun name hName => ?_, by simp, by simp, trivial⟩
    rw [List.mem_singleton.mp hName]
    exact ⟨hRoots root hRoot, root, hRoot, .refl⟩
  · intro name slot hSlot
    simp [Pool.ofRequests, Slots.get?] at hSlot
  · intro first entity second hReady
    simp [Pool.ofRequests, Slots.get?] at hReady
  · simp [Pool.ofRequests, Slots.get?]

/-- Threads that have finished construct nothing. -/
theorem Sound.nothingPending (hSound : source.Sound requests pool)
    (hFinished : ∀ thread ∈ pool.threads, thread.isFinished = true) :
    NothingPending pool.slots := by
  intro name builder hPending
  have hThread := List.getElem?_eq_getElem (hSound.builders name builder hPending)
  have hFits := hSound.fits builder _ hThread
  have hActive := active_of_mem_constructions hFits.plain ((hFits.owns.pending name).mp hPending)
  rw [hFinished _ (List.mem_of_getElem? hThread)] at hActive
  simp at hActive

private theorem activity_of_isFinished {thread : Thread} (hFinished : thread.isFinished = true) :
    thread.activity = .idle ∧ thread.requests = [] := by
  cases hActivity : thread.activity with
  | idle => simpa [Thread.isFinished, hActivity] using hFinished
  | _ => simp [Thread.isFinished, hActivity] at hFinished

/-- A thread with one request that has finished without an error has been given the published
entity. -/
theorem Serves.of_finished {slots : Slots} {root : String} {thread : Thread}
    (hServes : Serves slots [root] thread) (hFinished : thread.isFinished = true)
    (hOutcomes : ∀ outcome ∈ thread.outcomes, outcome.isOk = true) :
    ∃ entity, thread.outcomes = [.ok entity] ∧ slots.get? root = some (.ready entity) := by
  obtain ⟨hIdle, hNone⟩ := activity_of_isFinished hFinished
  obtain ⟨done, current, hSplit, hDone, ⟨_, hCurrent⟩ | ⟨hBusy, _⟩⟩ := hServes
  · rw [hCurrent, hNone, List.append_nil, List.append_nil] at hSplit
    rw [← hSplit] at hDone
    obtain ⟨outcome, others, hAnswers, hOthers, hOnly⟩ := List.forall₂_cons_left_iff.mp hDone
    rw [List.forall₂_nil_left_iff.mp hOthers] at hOnly
    have hOk := hOutcomes outcome (by rw [hOnly]; exact List.mem_singleton_self outcome)
    cases outcome with
    | error error => simp at hOk
    | ok entity => exact ⟨entity, hOnly, hAnswers⟩
  · exact absurd hIdle hBusy

/-- What has been built when all threads have finished. -/
structure Gathered (source : TypeSource) (roots : List String) (pool : Pool) : Prop where
  /-- Each request is answered with the published entity of its type, which is the one that the
  description of the type stands for. -/
  answered : ∀ (i : Nat) root, roots[i]? = some root → ∃ thread entity,
    pool.threads[i]? = some thread ∧ thread.outcomes = [.ok entity] ∧
      pool.slots.get? root = some (.ready entity) ∧
      source.check root (source.describe? root) = .ok entity
  /-- Published is what the requested types reach. -/
  ready : ∀ name, pool.slots.isReady name = true ↔ source.ReachedFrom roots name
  nothingPending : NothingPending pool.slots
  /-- What the requested types reach has been described once, and nothing else has. -/
  nodup : (pool.described.map Prod.snd).Nodup
  described : ∀ name, name ∈ pool.described.map Prod.snd ↔ source.ReachedFrom roots name

/-- When all threads have finished, nothing has been lost and nothing has been done twice. -/
theorem gathered_of_finished (hSound : source.Sound (roots.map fun root => [root]) pool)
    (hGathers : source.Gathers (source.ReachedFrom roots) pool)
    (hFinished : ∀ thread ∈ pool.threads, thread.isFinished = true) :
    source.Gathered roots pool := by
  have hNothing := hSound.nothingPending hFinished
  have hSettled : source.Settled pool.slots :=
    ⟨hNothing, hSound.sourced, closed_of_linked hNothing hSound.sourced hGathers.linked⟩
  have hAnswered : ∀ (i : Nat) root, roots[i]? = some root → ∃ thread entity,
      pool.threads[i]? = some thread ∧ thread.outcomes = [.ok entity] ∧
        pool.slots.get? root = some (.ready entity) := by
    intro i root hRoot
    have hInside : i < pool.threads.length := by
      rw [hSound.length, List.length_map]
      exact (List.getElem?_eq_some_iff.mp hRoot).1
    have hThread := List.getElem?_eq_getElem hInside
    obtain ⟨all, hAll, hServes⟩ := hSound.serves i _ hThread
    rw [List.getElem?_map, hRoot, Option.map_some, Option.some.injEq] at hAll
    rw [← hAll] at hServes
    obtain ⟨entity, hOutcomes, hReady⟩ := hServes.of_finished
      (hFinished _ (List.mem_of_getElem? hThread)) (hGathers.thrives i _ hThread).outcomes
    exact ⟨_, entity, hThread, hOutcomes, hReady⟩
  have hReady : ∀ name, pool.slots.isReady name = true ↔ source.ReachedFrom roots name := by
    intro name
    constructor
    · intro hName
      obtain ⟨entity, hEntity⟩ := isReady_iff.mp hName
      exact hGathers.wanted name _ hEntity
    · rintro ⟨root, hRoot, hReaches⟩
      obtain ⟨i, hIndex⟩ := List.getElem?_of_mem hRoot
      obtain ⟨_, entity, _, _, hEntity⟩ := hAnswered i root hIndex
      exact hSettled.ready_of_reaches (isReady_iff.mpr ⟨entity, hEntity⟩) hReaches
  refine ⟨fun i root hRoot => ?_, hReady, hNothing, hGathers.nodup, fun name => ?_⟩
  · obtain ⟨thread, entity, hThread, hOutcomes, hEntity⟩ := hAnswered i root hRoot
    exact ⟨thread, entity, hThread, hOutcomes, hEntity, hSound.sourced root entity hEntity⟩
  · have hNobody : ¬AboutToDescribe pool name := by
      rintro ⟨i, thread, hThread, hDescribing⟩
      rw [(activity_of_isFinished (hFinished _ (List.mem_of_getElem? hThread))).1] at hDescribing
      simp at hDescribing
    rw [hGathers.described, ← hReady]
    constructor
    · exact fun hSlot => hNothing.isReady_of_isSome hSlot.1
    · intro hName
      obtain ⟨entity, hEntity⟩ := isReady_iff.mp hName
      exact ⟨by rw [hEntity]; rfl, hNobody⟩

end Finished

end DerivedQuery.TypeSource
