import DerivedQuery.Proofs.Registry.Links

/-!
# The walk over described types

What one construction does, as long as its source requests nothing of the registry itself and its
budget lasts. The walk is a depth-first search whose visited set is the table of slots: a type with
a slot is skipped, also when it is only pending, and types under construction further up are exactly
the pending ones. So completeness cannot be stated of the types below one construction alone. What
a construction preserves is that published types are *linked*: the target of an association of a
published type has a slot, pending or ready. Once nothing is pending any more, this is closure.

When a construction fails, the slots of the failing chain are released, and a published type may be
left with an association to one of them. Every type that is released so is doomed, which is why
`Linked` excuses some targets.

The search ends because each construction claims the slot of one more of the finitely many types
that descriptions mention (`undiscovered`).

## Main results

* `construct_visits`: what a construction does, by induction on the budget
* `construct_eq_of_undiscovered_lt`: a budget that lasts might as well be larger
-/

namespace DerivedQuery.TypeSource

open Registry

variable {source : TypeSource}

@[simp] theorem isOk_ok {ε α : Type} (value : α) : (Except.ok value : Except ε α).isOk = true :=
  rfl

@[simp] theorem isOk_error {ε α : Type} (error : ε) :
    (Except.error error : Except ε α).isOk = false :=
  rfl

/-! ## Linked types -/

/-- The targets of associations of published types have slots, unless they are excused. -/
def Linked (source : TypeSource) (excused : String → Prop) (slots : Slots) : Prop :=
  ∀ first entity second, slots.get? first = some (.ready entity) → source.Links first second →
    (slots.get? second).isSome ∨ excused second

section Linked

variable {excused : String → Prop} {slots : Slots}

theorem Linked.mono (hLinked : source.Linked excused slots) {others : String → Prop}
    (hOthers : ∀ name, excused name → others name) : source.Linked others slots := by
  intro first entity second hReady hLinks
  rcases hLinked first entity second hReady hLinks with hSlot | hExcused
  · exact Or.inl hSlot
  · exact Or.inr (hOthers second hExcused)

theorem Linked.claim (hLinked : source.Linked excused slots) (name : String) (builder : Nat) :
    source.Linked excused (slots.claim name builder) := by
  intro first entity second hReady hLinks
  rw [Slots.get?_claim] at hReady ⊢
  split at hReady
  · simp at hReady
  · rcases hLinked first entity second hReady hLinks with hSlot | hExcused
    · left
      split
      · rfl
      · exact hSlot
    · exact Or.inr hExcused

/-- A type may be published once the targets of its associations have slots. -/
theorem Linked.publish (hLinked : source.Linked excused slots) {name : String} (entity : Entity)
    (hName : ∀ target, source.Links name target → (slots.get? target).isSome) :
    source.Linked excused (slots.publish name entity) := by
  intro first published second hReady hLinks
  rw [Slots.get?_publish] at hReady ⊢
  by_cases hSecond : second = name
  · rw [if_pos hSecond]
    exact Or.inl rfl
  · rw [if_neg hSecond]
    split at hReady
    · rename_i hFirst
      rw [hFirst] at hLinks
      exact Or.inl (hName second hLinks)
    · exact hLinked first published second hReady hLinks

/-- A type that is released must be excused. -/
theorem Linked.release (hLinked : source.Linked excused slots) {name : String}
    (hName : excused name) : source.Linked excused (slots.release name) := by
  intro first entity second hReady hLinks
  rw [Slots.get?_release] at hReady ⊢
  split at hReady
  · simp at hReady
  · by_cases hSecond : second = name
    · rw [hSecond]
      exact Or.inr hName
    · rw [if_neg hSecond]
      exact hLinked first entity second hReady hLinks

end Linked

/-! ## Walks -/

/-- What constructions below certain types leave behind: only such types get a slot, and it is
ready; published types stay linked, and a failure excuses doomed targets only; and a success has
described each type that got a slot, once. -/
structure Walks (source : TypeSource) (below : String → Prop) (ok : Bool) (before after : State) :
    Prop where
  fresh : ∀ name slot, after.slots.get? name = some slot →
    before.slots.get? name = some slot ∨ (below name ∧ ∃ entity, slot = .ready entity)
  linked : ∀ excused, source.Linked excused before.slots →
    source.Linked (fun name => excused name ∨ (ok = false ∧ source.Doomed name)) after.slots
  described : ∃ names : List String, after.calls = before.calls ++ names.map Call.describe ∧
    (ok = true → names.Nodup ∧ ∀ name, name ∈ names ↔
      before.slots.get? name = none ∧ (after.slots.get? name).isSome)

theorem Walks.refl (below : String → Prop) (state : State) :
    source.Walks below true state state where
  fresh _ _ hSlot := Or.inl hSlot
  linked _ hLinked := hLinked.mono fun _ hExcused => Or.inl hExcused
  described := by
    refine ⟨[], by simp, fun _ => ⟨List.nodup_nil, fun name => ?_⟩⟩
    cases state.slots.get? name <;> simp

theorem Walks.mono {below others : String → Prop} {ok : Bool} {before after : State}
    (hWalks : source.Walks below ok before after) (hOthers : ∀ name, below name → others name) :
    source.Walks others ok before after where
  fresh name slot hSlot := by
    rcases hWalks.fresh name slot hSlot with hOld | ⟨hBelow, hReady⟩
    · exact Or.inl hOld
    · exact Or.inr ⟨hOthers name hBelow, hReady⟩
  linked := hWalks.linked
  described := hWalks.described

/-- One walk that succeeds, and then another. -/
theorem Walks.trans {below : String → Prop} {ok : Bool} {first second third : State}
    (hFirst : source.Walks below true first second) (hSecond : source.Walks below ok second third)
    (hKept : source.Grows first second) (hLater : source.Grows second third) :
    source.Walks below ok first third where
  fresh name slot hSlot := by
    rcases hSecond.fresh name slot hSlot with hMiddle | hNew
    · exact hFirst.fresh name slot hMiddle
    · exact Or.inr hNew
  linked excused hLinked := by
    apply (hSecond.linked _ (hFirst.linked excused hLinked)).mono
    rintro name ((hExcused | ⟨hFalse, _⟩) | hDoomed)
    · exact Or.inl hExcused
    · simp at hFalse
    · exact Or.inr hDoomed
  described := by
    obtain ⟨names, hCalls, hNames⟩ := hFirst.described
    obtain ⟨others, hMore, hOthers⟩ := hSecond.described
    refine ⟨names ++ others, by rw [hMore, hCalls, List.map_append, List.append_assoc], fun hOk => ?_⟩
    obtain ⟨hNodup, hMem⟩ := hNames rfl
    obtain ⟨hOtherNodup, hOtherMem⟩ := hOthers hOk
    have hSlot : ∀ name, first.slots.get? name = none ∨ (second.slots.get? name).isSome := by
      intro name
      cases hGet : first.slots.get? name with
      | none => exact Or.inl rfl
      | some slot => exact Or.inr (by rw [hKept.slots name slot hGet]; rfl)
    constructor
    · -- what was described first has a slot when the rest is
      refine List.nodup_append.mpr ⟨hNodup, hOtherNodup, ?_⟩
      rintro name hName _ hOther rfl
      have hSome := ((hMem name).mp hName).2
      rw [((hOtherMem name).mp hOther).1] at hSome
      simp at hSome
    · intro name
      rw [List.mem_append, hMem, hOtherMem]
      constructor
      · rintro (⟨hNone, hSome⟩ | ⟨hNone, hSome⟩)
        · obtain ⟨slot, hGet⟩ := Option.isSome_iff_exists.mp hSome
          exact ⟨hNone, by rw [hLater.slots name slot hGet]; rfl⟩
        · refine ⟨(hSlot name).resolve_right ?_, hSome⟩
          simp [hNone]
      · rintro ⟨hNone, hSome⟩
        cases hGet : second.slots.get? name with
        | none => exact Or.inr ⟨rfl, hSome⟩
        | some slot => exact Or.inl ⟨hNone, rfl⟩

/-! ## Undiscovered types -/

/-- How many of the given names have no slot yet. -/
def undiscovered (names : List String) (slots : Slots) : Nat :=
  names.countP fun name => (slots.get? name).isNone

theorem undiscovered_le (names : List String) {slots later : Slots}
    (hKept : ∀ name, (slots.get? name).isSome = true → (later.get? name).isSome = true) :
    undiscovered names later ≤ undiscovered names slots := by
  apply List.countP_mono_left
  intro name _ hNone
  cases hGet : slots.get? name with
  | none => rfl
  | some slot =>
      have hSome := hKept name (by rw [hGet]; rfl)
      rw [Option.isNone_iff_eq_none] at hNone
      rw [hNone] at hSome
      simp at hSome

theorem undiscovered_le_of_grows (names : List String) {before after : State}
    (hGrows : source.Grows before after) :
    undiscovered names after.slots ≤ undiscovered names before.slots := by
  apply undiscovered_le
  intro name hSome
  obtain ⟨slot, hSlot⟩ := Option.isSome_iff_exists.mp hSome
  rw [hGrows.slots name slot hSlot]
  rfl

/-- A claim discovers one more name. -/
theorem undiscovered_claim_lt {names : List String} {slots : Slots} {name : String}
    (hMem : name ∈ names) (hNone : slots.get? name = none) (builder : Nat) :
    undiscovered names (slots.claim name builder) < undiscovered names slots := by
  unfold undiscovered
  induction names with
  | nil => simp at hMem
  | cons first rest ih =>
      have hRest : rest.countP (fun other => ((slots.claim name builder).get? other).isNone) ≤
          rest.countP fun other => (slots.get? other).isNone := by
        apply List.countP_mono_left
        intro other _ hOther
        rw [Slots.get?_claim] at hOther
        split at hOther
        · simp at hOther
        · exact hOther
      rw [List.countP_cons, List.countP_cons, Slots.get?_claim]
      rcases List.mem_cons.mp hMem with rfl | hLater
      · simp only [if_true, hNone]
        simp
        omega
      · have hLess := ih hLater
        by_cases hFirst : first = name
        · simp [hFirst, hNone]
          omega
        · rw [if_neg hFirst]
          omega

/-! ## One construction -/

/-- What a construction does to a type without a slot, which is claimed first: a walk below the type.
If it succeeds, the type has a slot; if it fails, the type is doomed. -/
structure Visits (source : TypeSource) (name : String) (before : State)
    (outcome : Except MetadataError Entity × State) : Prop where
  walks : source.Walks (source.Reaches name) outcome.1.isOk before outcome.2
  found : outcome.1.isOk = true → (outcome.2.slots.get? name).isSome
  doomed : outcome.1.isOk = false → source.Doomed name

/-- What a loop over the targets of associations does: a walk below the targets. If it succeeds,
every target has a slot; if it fails, one of them is doomed. -/
structure VisitsAll (source : TypeSource) (targets : List Property) (before : State)
    (outcome : Except MetadataError Unit × State) : Prop where
  walks : source.Walks (fun name => ∃ target ∈ targets, source.Reaches target.actualType name)
    outcome.1.isOk before outcome.2
  found : outcome.1.isOk = true →
    ∀ target ∈ targets, (outcome.2.slots.get? target.actualType).isSome
  doomed : outcome.1.isOk = false → ∃ target ∈ targets, source.Doomed target.actualType

/-- The links of described types end in the given names. -/
def LinksInto (source : TypeSource) (names : List String) : Prop :=
  ∀ first second, source.Links first second → second ∈ names

section Targets

variable {construct : Request} {names : List String} {budget : Nat}

private theorem registerTargets_visitsAll
    (hGrows : ∀ name state, source.GrowsBeside name state (construct name state).2)
    (hVisits : ∀ name state, name ∈ names → state.slots.get? name = none →
      undiscovered names state.slots ≤ budget →
        source.Visits name state (construct name (state.onSlots (·.claim name soleBuilder))))
    (owner : String) {targets : List Property}
    (hTargets : ∀ target ∈ targets, target.actualType ∈ names) {state : State}
    (hBudget : undiscovered names state.slots ≤ budget) :
    source.VisitsAll targets state (registerTargets construct owner targets state) := by
  induction targets generalizing state with
  | nil => exact ⟨.refl _ state, by simp, by simp [registerTargets]⟩
  | cons target rest ih =>
      have hRest : ∀ other ∈ rest, other.actualType ∈ names :=
        fun other hOther => hTargets other (List.mem_cons_of_mem target hOther)
      have hInclude : ∀ name, (∃ other ∈ rest, source.Reaches other.actualType name) →
          ∃ other ∈ target :: rest, source.Reaches other.actualType name := by
        rintro name ⟨other, hOther, hReaches⟩
        exact ⟨other, List.mem_cons_of_mem target hOther, hReaches⟩
      rw [registerTargets]
      split
      · rename_i hSome
        have hLater := ih hRest hBudget
        have hGrown := registerTargets_grows hGrows owner rest state
        refine ⟨hLater.walks.mono hInclude, fun hOk other hOther => ?_, fun hFailed => ?_⟩
        · rcases List.mem_cons.mp hOther with rfl | hInRest
          · obtain ⟨slot, hSlot⟩ := Option.isSome_iff_exists.mp hSome
            rw [hGrown.slots _ slot hSlot]
            rfl
          · exact hLater.found hOk other hInRest
        · obtain ⟨other, hOther, hDoomed⟩ := hLater.doomed hFailed
          exact ⟨other, List.mem_cons_of_mem target hOther, hDoomed⟩
      · rename_i hNone
        rw [Bool.not_eq_true, Option.isSome_eq_false_iff, Option.isNone_iff_eq_none] at hNone
        have hVisit := hVisits target.actualType state (hTargets target List.mem_cons_self) hNone
          hBudget
        have hGrown := GrowsBeside.after_claim hNone
          (hGrows target.actualType (state.onSlots (·.claim target.actualType soleBuilder)))
        have hBelow : ∀ name, source.Reaches target.actualType name →
            ∃ other ∈ target :: rest, source.Reaches other.actualType name :=
          fun name hReaches => ⟨target, List.mem_cons_self, hReaches⟩
        split
        · rename_i hResult
          rw [hResult] at hVisit
          refine ⟨hVisit.walks.mono hBelow, by simp, fun _ => ?_⟩
          exact ⟨target, List.mem_cons_self, hVisit.doomed rfl⟩
        · rename_i entity after hResult
          rw [hResult] at hVisit hGrown
          have hShrinks := undiscovered_le_of_grows names hGrown
          have hLater := ih hRest (Nat.le_trans hShrinks hBudget)
          have hMore := registerTargets_grows hGrows owner rest after
          refine ⟨(hVisit.walks.mono hBelow).trans (hLater.walks.mono hInclude) hGrown hMore,
            fun hOk other hOther => ?_, fun hFailed => ?_⟩
          · rcases List.mem_cons.mp hOther with rfl | hInRest
            · obtain ⟨slot, hSlot⟩ := Option.isSome_iff_exists.mp (hVisit.found rfl)
              rw [hMore.slots _ slot hSlot]
              rfl
            · exact hLater.found hOk other hInRest
          · obtain ⟨other, hOther, hDoomed⟩ := hLater.doomed hFailed
            exact ⟨other, List.mem_cons_of_mem target hOther, hDoomed⟩

end Targets

section Construct

variable {name : String} {state : State}

private theorem describe_of_passive (hPassive : source.Passive) (construct : Request) :
    source.describe construct name state =
      (source.describe? name, state.record (.describe name)) := by
  unfold describe
  rw [hPassive name]
  rfl

/-- The state in which the targets of a type are constructed: its slot is claimed, and its
description has been asked for. -/
def begun (name : String) (state : State) : State :=
  (state.onSlots (·.claim name soleBuilder)).record (.describe name)

theorem get?_begun (other : String) :
    (begun name state).slots.get? other =
      if other = name then some (.pending soleBuilder) else state.slots.get? other :=
  Slots.get?_claim state.slots name other soleBuilder

private theorem calls_begun (name : String) (state : State) :
    (begun name state).calls = state.calls ++ [Call.describe name] :=
  rfl

private theorem linked_begun {excused : String → Prop} (hLinked : source.Linked excused state.slots)
    (name : String) : source.Linked excused (begun name state).slots :=
  hLinked.claim name soleBuilder

/-! The three ways in which a construction ends. -/

theorem construct_of_check_error (hPassive : source.Passive) {budget : Nat} {error : MetadataError}
    (hCheck : source.check name (source.describe? name) = .error error) :
    source.construct (budget + 1) name (state.onSlots (·.claim name soleBuilder)) =
      (.error error, (begun name state).onSlots (·.release name)) := by
  rw [construct, build_eq, describe_of_passive hPassive, hCheck]
  rfl

theorem construct_of_registerTargets_error (hPassive : source.Passive) {budget : Nat}
    {entity : Entity} (hCheck : source.check name (source.describe? name) = .ok entity)
    {error : MetadataError} {after : State}
    (hTargets : registerTargets (source.construct budget) name entity.associations
      (begun name state) = (.error error, after)) :
    source.construct (budget + 1) name (state.onSlots (·.claim name soleBuilder)) =
      (.error error, after.onSlots (·.release name)) := by
  rw [begun] at hTargets
  rw [construct, build_eq, describe_of_passive hPassive, hCheck]
  simp only [hTargets]

theorem construct_of_registerTargets_ok (hPassive : source.Passive) {budget : Nat}
    {entity : Entity} (hCheck : source.check name (source.describe? name) = .ok entity)
    {after : State}
    (hTargets : registerTargets (source.construct budget) name entity.associations
      (begun name state) = (.ok (), after)) :
    source.construct (budget + 1) name (state.onSlots (·.claim name soleBuilder)) =
      (.ok entity, after.onSlots (·.publish name entity)) := by
  rw [begun] at hTargets
  rw [construct, build_eq, describe_of_passive hPassive, hCheck]
  simp only [hTargets]

/-- A construction that fails at once has asked for a description, and leaves the slots as they
were. -/
theorem visits_of_check_error {error : MetadataError}
    (hCheck : source.check name (source.describe? name) = .error error) :
    source.Visits name state (.error error, (begun name state).onSlots (·.release name)) := by
  have hDoomed : source.Doomed name := by
    apply doomed_of_not_locallyValid
    intro hValid
    obtain ⟨entity, hEntity⟩ := locallyValid_iff.mp hValid
    rw [hCheck] at hEntity
    simp at hEntity
  refine ⟨⟨fun other slot hSlot => ?_, fun excused hLinked => ?_, ?_⟩,
    by simp, fun _ => hDoomed⟩
  · left
    rw [State.onSlots, Slots.get?_release] at hSlot
    split at hSlot
    · simp at hSlot
    · rename_i hOther
      rw [get?_begun, if_neg hOther] at hSlot
      exact hSlot
  · exact Linked.release ((linked_begun hLinked name).mono fun _ hExcused => Or.inl hExcused)
      (Or.inr ⟨rfl, hDoomed⟩)
  · exact ⟨[name], rfl, by simp⟩

/-- A walk below the targets of a type, while it is under construction. -/
theorem visits_of_visitsAll_error {entity : Entity} {error : MetadataError} {after : State}
    (hCheck : source.check name (source.describe? name) = .ok entity)
    (hAll : source.VisitsAll entity.associations (begun name state) (.error error, after)) :
    source.Visits name state (.error error, after.onSlots (·.release name)) := by
  have hDoomed : source.Doomed name := by
    obtain ⟨target, hTarget, hTargetDoomed⟩ := hAll.doomed rfl
    exact doomed_of_links ((links_iff hCheck).mpr ⟨target, hTarget, rfl⟩) hTargetDoomed
  refine ⟨⟨fun other slot hSlot => ?_, fun excused hLinked => ?_, ?_⟩,
    by simp, fun _ => hDoomed⟩
  · rw [State.onSlots, Slots.get?_release] at hSlot
    split at hSlot
    · simp at hSlot
    · rename_i hOther
      rcases hAll.walks.fresh other slot hSlot with hOld | ⟨⟨target, hTarget, hReaches⟩, hReady⟩
      · left
        rw [get?_begun, if_neg hOther] at hOld
        exact hOld
      · right
        exact ⟨.head ((links_iff hCheck).mpr ⟨target, hTarget, rfl⟩) hReaches, hReady⟩
  · exact Linked.release (hAll.walks.linked excused (linked_begun hLinked name))
      (Or.inr ⟨rfl, hDoomed⟩)
  · obtain ⟨names, hCalls, _⟩ := hAll.walks.described
    rw [calls_begun, List.append_assoc] at hCalls
    exact ⟨name :: names, hCalls, by simp⟩

private theorem visits_of_visitsAll_ok {entity : Entity} {after : State}
    (hNone : state.slots.get? name = none)
    (hCheck : source.check name (source.describe? name) = .ok entity)
    (hAll : source.VisitsAll entity.associations (begun name state) (.ok (), after)) :
    source.Visits name state (.ok entity, after.onSlots (·.publish name entity)) := by
  have hPublished : (after.onSlots (·.publish name entity)).slots.get? name =
      some (.ready entity) := by
    rw [State.onSlots, Slots.get?_publish, if_pos rfl]
  have hBeside : ∀ other, other ≠ name →
      (after.onSlots (·.publish name entity)).slots.get? other = after.slots.get? other := by
    intro other hOther
    rw [State.onSlots, Slots.get?_publish, if_neg hOther]
  refine ⟨⟨fun other slot hSlot => ?_, fun excused hLinked => ?_, ?_⟩, fun _ => ?_,
    by simp⟩
  · by_cases hOther : other = name
    · subst hOther
      rw [hPublished, Option.some.injEq] at hSlot
      exact Or.inr ⟨.refl, entity, hSlot.symm⟩
    · rw [hBeside other hOther] at hSlot
      rcases hAll.walks.fresh other slot hSlot with hOld | ⟨⟨target, hTarget, hReaches⟩, hReady⟩
      · left
        rw [get?_begun, if_neg hOther] at hOld
        exact hOld
      · right
        exact ⟨.head ((links_iff hCheck).mpr ⟨target, hTarget, rfl⟩) hReaches, hReady⟩
  · apply Linked.publish (hAll.walks.linked excused (linked_begun hLinked name))
    intro second hLinks
    obtain ⟨target, hTarget, rfl⟩ := (links_iff hCheck).mp hLinks
    exact hAll.found rfl target hTarget
  · obtain ⟨names, hCalls, hNames⟩ := hAll.walks.described
    obtain ⟨hNodup, hMem⟩ := hNames rfl
    rw [calls_begun, List.append_assoc] at hCalls
    refine ⟨name :: names, hCalls, fun _ => ⟨?_, fun other => ?_⟩⟩
    · refine List.nodup_cons.mpr ⟨fun hName => ?_, hNodup⟩
      rw [hMem, get?_begun, if_pos rfl] at hName
      simp at hName
    · by_cases hOther : other = name
      · subst hOther
        rw [hPublished]
        simp [hNone]
      · rw [List.mem_cons, hMem, hBeside other hOther, get?_begun, if_neg hOther]
        simp only [hOther, false_or]
  · rw [hPublished]
    rfl

/-- **What a construction does**, as long as its budget lasts. -/
theorem construct_visits (hPassive : source.Passive) {names : List String}
    (hNames : source.LinksInto names) (budget : Nat) (hNone : state.slots.get? name = none)
    (hBudget : undiscovered names (state.slots.claim name soleBuilder) < budget) :
    source.Visits name state
      (source.construct budget name (state.onSlots (·.claim name soleBuilder))) := by
  induction budget generalizing name state with
  | zero => omega
  | succ budget ih =>
      cases hCheck : source.check name (source.describe? name) with
      | error error =>
          rw [construct_of_check_error hPassive hCheck]
          exact visits_of_check_error hCheck
      | ok entity =>
          have hTargets : ∀ target ∈ entity.associations, target.actualType ∈ names :=
            fun target hTarget => hNames name _ ((links_iff hCheck).mpr ⟨target, hTarget, rfl⟩)
          -- a target that is claimed is one name less to discover
          have hVisits : ∀ target before, target ∈ names → before.slots.get? target = none →
              undiscovered names before.slots ≤ budget → source.Visits target before
                (source.construct budget target (before.onSlots (·.claim target soleBuilder))) :=
            fun target before hTarget hFree hLeft =>
              ih hFree (Nat.lt_of_lt_of_le (undiscovered_claim_lt hTarget hFree soleBuilder) hLeft)
          have hLeft : undiscovered names (begun name state).slots ≤ budget :=
            Nat.le_of_lt_succ hBudget
          have hAll := registerTargets_visitsAll (construct_growsBeside budget) hVisits name hTargets
            hLeft
          cases hResult : registerTargets (source.construct budget) name entity.associations
              (begun name state) with
          | mk result after =>
              rw [hResult] at hAll
              cases result with
              | error error =>
                  rw [construct_of_registerTargets_error hPassive hCheck hResult]
                  exact visits_of_visitsAll_error hCheck hAll
              | ok done =>
                  rw [construct_of_registerTargets_ok hPassive hCheck hResult]
                  exact visits_of_visitsAll_ok hNone hCheck hAll

end Construct

/-! ## Budgets that last -/

/-- Two ways of constructing that agree as long as enough names are discovered. -/
theorem registerTargets_congr {first second : Request} {names : List String} {budget : Nat}
    (hGrows : ∀ name state, source.GrowsBeside name state (first name state).2)
    (hAgree : ∀ name (state : State), name ∈ names → state.slots.get? name = none →
      undiscovered names state.slots ≤ budget →
        first name (state.onSlots (·.claim name soleBuilder)) =
          second name (state.onSlots (·.claim name soleBuilder)))
    (owner : String) {targets : List Property}
    (hTargets : ∀ target ∈ targets, target.actualType ∈ names) {state : State}
    (hBudget : undiscovered names state.slots ≤ budget) :
    registerTargets first owner targets state = registerTargets second owner targets state := by
  induction targets generalizing state with
  | nil => rfl
  | cons target rest ih =>
      have hRest : ∀ other ∈ rest, other.actualType ∈ names :=
        fun other hOther => hTargets other (List.mem_cons_of_mem target hOther)
      rw [registerTargets, registerTargets]
      split
      · exact ih hRest hBudget
      · rename_i hNone
        rw [Bool.not_eq_true, Option.isSome_eq_false_iff, Option.isNone_iff_eq_none] at hNone
        have hGrown := GrowsBeside.after_claim hNone
          (hGrows target.actualType (state.onSlots (·.claim target.actualType soleBuilder)))
        rw [← hAgree target.actualType state (hTargets target List.mem_cons_self) hNone hBudget]
        split
        · rfl
        · rename_i hResult
          rw [hResult] at hGrown
          exact ih hRest (Nat.le_trans (undiscovered_le_of_grows names hGrown) hBudget)

/-- A budget that lasts might as well be larger. -/
theorem construct_eq_of_undiscovered_lt (hPassive : source.Passive) {names : List String}
    (hNames : source.LinksInto names) {budget larger : Nat} {name : String} {state : State}
    (hBudget : undiscovered names (state.slots.claim name soleBuilder) < budget)
    (hLarger : budget ≤ larger) :
    source.construct larger name (state.onSlots (·.claim name soleBuilder)) =
      source.construct budget name (state.onSlots (·.claim name soleBuilder)) := by
  induction budget generalizing larger name state with
  | zero => omega
  | succ budget ih =>
      obtain ⟨larger, rfl⟩ : ∃ more, larger = more + 1 := ⟨larger - 1, by omega⟩
      cases hCheck : source.check name (source.describe? name) with
      | error error =>
          rw [construct_of_check_error hPassive hCheck, construct_of_check_error hPassive hCheck]
      | ok entity =>
          have hTargets : ∀ target ∈ entity.associations, target.actualType ∈ names :=
            fun target hTarget => hNames name _ ((links_iff hCheck).mpr ⟨target, hTarget, rfl⟩)
          have hLeft : undiscovered names (begun name state).slots ≤ budget :=
            Nat.le_of_lt_succ hBudget
          have hAgree : ∀ target (before : State), target ∈ names →
              before.slots.get? target = none →
              undiscovered names before.slots ≤ budget →
                source.construct larger target (before.onSlots (·.claim target soleBuilder)) =
                  source.construct budget target (before.onSlots (·.claim target soleBuilder)) :=
            fun target before hTarget hFree hEnough =>
              ih (Nat.lt_of_lt_of_le (undiscovered_claim_lt hTarget hFree soleBuilder) hEnough)
                (Nat.le_of_succ_le_succ hLarger)
          have hSame := registerTargets_congr (construct_growsBeside larger) hAgree name hTargets
            hLeft
          cases hResult : registerTargets (source.construct budget) name entity.associations
              (begun name state) with
          | mk result after =>
              rw [hResult] at hSame
              cases result with
              | error error =>
                  rw [construct_of_registerTargets_error hPassive hCheck hSame,
                    construct_of_registerTargets_error hPassive hCheck hResult]
              | ok done =>
                  rw [construct_of_registerTargets_ok hPassive hCheck hSame,
                    construct_of_registerTargets_ok hPassive hCheck hResult]

end DerivedQuery.TypeSource
