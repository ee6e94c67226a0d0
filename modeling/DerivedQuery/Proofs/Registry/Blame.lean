import DerivedQuery.Proofs.Registry.Closure

/-!
# What a metadata error blames

The error of a request is put together while the walk unwinds: a type whose description is defective
reports its defect, and every type on the way up adds the association by which it got there. So an
error is a path through the graph of described types, from the requested type to one that has a
defect of its own.

The types of the path are those under construction when the defect was met. Each of them had no slot
until it was claimed, and had one when the next type was claimed. This is why no type occurs twice,
why no request on the way was refused, and why none of the types keeps a slot: a failure is fatal
for all that is under construction, and releases it.

## Main definitions

* `TypeSource.Defect`: what is wrong with a type by itself
* `TypeSource.Traces`: a path and the error that tells it

## Main results

* `check_eq_error_iff`: the check of a description reports the defect of the type
* `construct_blames`: the error of a construction, by induction on the budget
* `Registry.entityFor_blames`: the error of a request names a path to a defect
-/

namespace DerivedQuery

/-! ## Defects of a type -/

theorem exists_of_firstRepeated?_go {seen : List String} {members : List MemberDescriptor}
    {member : MemberDescriptor} (hFound : Entity.firstRepeated?.go seen members = some member) :
    ∃ before after, members = before ++ member :: after ∧ (before.map (·.name)).Nodup ∧
      (∀ other ∈ before, other.name ∉ seen) ∧
      (member.name ∈ seen ∨ member.name ∈ before.map (·.name)) := by
  induction members generalizing seen with
  | nil => simp [Entity.firstRepeated?.go] at hFound
  | cons first rest ih =>
      rw [Entity.firstRepeated?.go] at hFound
      split at hFound
      · rename_i hSeen
        obtain rfl := Option.some.inj hFound
        exact ⟨[], rest, rfl, List.nodup_nil, by simp, Or.inl (by simpa using hSeen)⟩
      · rename_i hSeen
        obtain ⟨before, after, rfl, hNodup, hFresh, hRepeated⟩ := ih hFound
        refine ⟨first :: before, after, rfl, ?_, ?_, ?_⟩
        · refine List.nodup_cons.mpr ⟨fun hFirst => ?_, hNodup⟩
          obtain ⟨other, hOther, hName⟩ := List.mem_map.mp hFirst
          exact hFresh other hOther (hName ▸ List.mem_cons_self)
        · intro other hOther
          rcases List.mem_cons.mp hOther with rfl | hLater
          · simpa using hSeen
          · exact fun hMem => hFresh other hLater (List.mem_cons_of_mem _ hMem)
        · simp only [List.mem_cons, List.map_cons] at hRepeated ⊢
          tauto

/-- A front without repetitions is passed over. -/
theorem firstRepeated?_go_append {seen : List String} {before : List MemberDescriptor}
    (hNodup : (before.map (·.name)).Nodup) (hFresh : ∀ other ∈ before, other.name ∉ seen)
    (rest : List MemberDescriptor) :
    ∃ names, Entity.firstRepeated?.go seen (before ++ rest) = Entity.firstRepeated?.go names rest ∧
      ∀ name, name ∈ names ↔ name ∈ seen ∨ name ∈ before.map (·.name) := by
  induction before generalizing seen with
  | nil => exact ⟨seen, rfl, by simp⟩
  | cons first more ih =>
      obtain ⟨hFirst, hMore⟩ := List.nodup_cons.mp hNodup
      have hSeen : seen.contains first.name = false := by
        simpa using hFresh first List.mem_cons_self
      have hLater : ∀ other ∈ more, other.name ∉ first.name :: seen := by
        intro other hOther hMem
        rcases List.mem_cons.mp hMem with hName | hOld
        · exact hFirst (List.mem_map.mpr ⟨other, hOther, hName⟩)
        · exact hFresh other (List.mem_cons_of_mem first hOther) hOld
      obtain ⟨names, hGo, hNames⟩ := ih hMore hLater
      refine ⟨names, ?_, fun name => ?_⟩
      · rw [List.cons_append, Entity.firstRepeated?.go, hSeen, ← hGo]
        rfl
      · rw [hNames, List.mem_cons, List.map_cons, List.mem_cons]
        tauto

/-- The first member that repeats a name: no name is repeated before it. -/
theorem firstRepeated?_eq_some_iff {members : List MemberDescriptor} {member : MemberDescriptor} :
    Entity.firstRepeated? members = some member ↔
      ∃ before after, members = before ++ member :: after ∧
        (before.map (·.name)).Nodup ∧ member.name ∈ before.map (·.name) := by
  unfold Entity.firstRepeated?
  constructor
  · intro hFound
    obtain ⟨before, after, hMembers, hNodup, _, hRepeated⟩ := exists_of_firstRepeated?_go hFound
    exact ⟨before, after, hMembers, hNodup, hRepeated.resolve_left List.not_mem_nil⟩
  · rintro ⟨before, after, rfl, hNodup, hRepeated⟩
    obtain ⟨names, hGo, hNames⟩ :=
      firstRepeated?_go_append hNodup (fun _ _ => List.not_mem_nil) (member :: after)
    have hMem : names.contains member.name = true := by
      simpa using (hNames member.name).mpr (Or.inr hRepeated)
    rw [hGo, Entity.firstRepeated?.go, hMem]
    rfl

namespace TypeSource

/-- What is wrong with a type by itself: it is not described, or under another name; or its
description has no members, or a member that repeats a name, or several identifiers. Only the first
of these defects counts, and of several members that repeat a name the first one. -/
inductive Defect (source : TypeSource) (name : String) : MetadataError → Prop
  | undescribable (hNone : source.describe? name = none) : Defect source name (.undescribable name)
  | typeMismatch {type : TypeDescriptor} (hType : source.describe? name = some type)
      (hName : type.name ≠ name) : Defect source name (.typeMismatch name type.name)
  | noProperties {type : TypeDescriptor} (hType : source.describe? name = some type)
      (hName : type.name = name) (hMembers : type.members = []) :
      Defect source name (.noProperties name)
  | duplicateProperty {type : TypeDescriptor} {before after : List MemberDescriptor}
      {member : MemberDescriptor} (hType : source.describe? name = some type)
      (hName : type.name = name) (hMembers : type.members = before ++ member :: after)
      (hBefore : (before.map (·.name)).Nodup) (hMember : member.name ∈ before.map (·.name)) :
      Defect source name (.duplicateProperty name member.name)
  | ambiguousIdentifier {type : TypeDescriptor} (hType : source.describe? name = some type)
      (hName : type.name = name) (hMembers : (type.members.map (·.name)).Nodup)
      (hIds : 2 ≤ (Entity.explicitIds type.members).length) :
      Defect source name (.ambiguousIdentifier name (Entity.explicitIds type.members))

variable {source : TypeSource} {name : String} {error : MetadataError}

private theorem ofDescriptor_eq_error {type : TypeDescriptor} {isTerminal : String → Bool}
    (hError : Entity.ofDescriptor type isTerminal = .error error)
    (hType : source.describe? name = some type) (hName : type.name = name) :
    source.Defect name error := by
  unfold Entity.ofDescriptor at hError
  rw [hName] at hError
  split at hError
  · rename_i hMembers
    obtain rfl := Except.error.inj hError
    exact .noProperties hType hName (List.isEmpty_iff.mp hMembers)
  · split at hError
    · rename_i hRepeated
      obtain rfl := Except.error.inj hError
      obtain ⟨before, after, hMembers, hBefore, hMember⟩ := firstRepeated?_eq_some_iff.mp hRepeated
      exact .duplicateProperty hType hName hMembers hBefore hMember
    · rename_i first second more hNone hIds
      obtain rfl := Except.error.inj hError
      have hNodup := (firstRepeated?_eq_none_iff type.members).mp hNone
      rw [← hIds]
      exact .ambiguousIdentifier hType hName hNodup (by rw [hIds]; simp)
    · simp at hError

/-- The check of a description reports the defect of the type. -/
theorem check_eq_error_iff :
    source.check name (source.describe? name) = .error error ↔ source.Defect name error := by
  constructor
  · intro hCheck
    unfold check at hCheck
    split at hCheck
    · rename_i hNone
      obtain rfl := Except.error.inj hCheck
      exact .undescribable hNone
    · rename_i type hType
      split at hCheck
      · rename_i hName
        exact ofDescriptor_eq_error hCheck hType hName
      · rename_i hName
        obtain rfl := Except.error.inj hCheck
        exact .typeMismatch hType hName
  · intro hDefect
    cases hDefect with
    | undescribable hNone => rw [hNone, check]
    | typeMismatch hType hName => rw [hType, check, if_neg hName]
    | noProperties hType hName hMembers =>
        rw [hType, check, if_pos hName]
        simp [Entity.ofDescriptor, hMembers, hName]
    | @duplicateProperty type before after member hType hName hMembers hBefore hMember =>
        have hRepeated := firstRepeated?_eq_some_iff.mpr ⟨before, after, hMembers, hBefore, hMember⟩
        have hSome : type.members.isEmpty = false := by simp [hMembers]
        rw [hType, check, if_pos hName]
        simp [Entity.ofDescriptor, hSome, hRepeated, hName]
    | @ambiguousIdentifier type hType hName hMembers hIds =>
        have hNone := (firstRepeated?_eq_none_iff type.members).mpr hMembers
        have hSome : type.members.isEmpty = false := by
          cases hCase : type.members with
          | nil => simp [hCase, Entity.explicitIds] at hIds
          | cons => rfl
        rw [hType, check, if_pos hName]
        unfold Entity.ofDescriptor
        rw [hSome, hNone]
        cases hExplicit : Entity.explicitIds type.members with
        | nil => simp [hExplicit] at hIds
        | cons first others =>
            cases others with
            | nil => simp [hExplicit] at hIds
            | cons second more => simp [hName]

theorem Defect.rootCause (hDefect : source.Defect name error) : error.rootCause = error := by
  cases hDefect <;> rfl

/-- A defect is no refusal of a request. -/
theorem Defect.not_refusal (hDefect : source.Defect name error) (type : String) :
    error ≠ .cycle type ∧ error ≠ .terminalType type := by
  cases hDefect <;> simp

/-! ## Paths to a defect -/

/-- The error tells a path: an association from each type to the next one, and at the end the defect
of the last type. -/
inductive Traces (source : TypeSource) : List String → MetadataError → Prop
  | defect {name : String} {error : MetadataError} (hDefect : source.Defect name error) :
      Traces source [name] error
  | association {name : String} {entity : Entity} {property : Property} {path : List String}
      {cause : MetadataError} (hCheck : source.check name (source.describe? name) = .ok entity)
      (hProperty : property ∈ entity.associations)
      (hCause : Traces source (property.actualType :: path) cause) :
      Traces source (name :: property.actualType :: path) (.association name property.name cause)

/-- The root cause is the defect of the last type. -/
theorem Traces.rootCause {path : List String} (hTraces : source.Traces path error) :
    ∃ last, path.getLast? = some last ∧ source.Defect last error.rootCause := by
  induction hTraces with
  | @defect name error hDefect => exact ⟨name, rfl, by rw [hDefect.rootCause]; exact hDefect⟩
  | association _ _ _ ih =>
      obtain ⟨last, hLast, hDefect⟩ := ih
      exact ⟨last, by rw [List.getLast?_cons_cons]; exact hLast, hDefect⟩

/-- The error of a request for a type between two states: it tells a path that starts with the type,
on which no type occurs twice, and none of whose types had a slot before or has one afterwards. -/
structure Explains (source : TypeSource) (name : String) (before after : Slots)
    (error : MetadataError) (path : List String) : Prop where
  traces : source.Traces path error
  head : path.head? = some name
  nodup : path.Nodup
  free : ∀ type ∈ path, before.get? type = none
  released : ∀ type ∈ path, after.get? type = none

section Walk

open Registry

variable {state after : State}

/-- A loop over the targets of associations fails with the construction of a target. -/
theorem exists_target_of_registerTargets_error {construct : Request}
    (hGrows : ∀ name state, source.GrowsBeside name state (construct name state).2)
    {owner : String} {targets : List Property}
    (hTargets : registerTargets construct owner targets state = (.error error, after)) :
    ∃ target ∈ targets, ∃ between cause, error = .association owner target.name cause ∧
      source.Grows state between ∧ between.slots.get? target.actualType = none ∧
      construct target.actualType (between.onSlots (·.claim target.actualType soleBuilder)) =
        (.error cause, after) := by
  induction targets generalizing state with
  | nil => simp [registerTargets] at hTargets
  | cons target rest ih =>
      rw [registerTargets] at hTargets
      split at hTargets
      · obtain ⟨other, hOther, hFails⟩ := ih hTargets
        exact ⟨other, List.mem_cons_of_mem target hOther, hFails⟩
      · rename_i hNone
        rw [Bool.not_eq_true, Option.isSome_eq_false_iff, Option.isNone_iff_eq_none] at hNone
        have hGrown := GrowsBeside.after_claim hNone
          (hGrows target.actualType (state.onSlots (·.claim target.actualType soleBuilder)))
        split at hTargets
        · rename_i cause final hResult
          simp only [Prod.mk.injEq, Except.error.injEq] at hTargets
          obtain ⟨rfl, rfl⟩ := hTargets
          exact ⟨target, List.mem_cons_self, state, cause, rfl, .refl state, hNone, hResult⟩
        · rename_i hResult
          rw [hResult] at hGrown
          obtain ⟨other, hOther, between, cause, hError, hMore, hFails⟩ := ih hTargets
          exact ⟨other, List.mem_cons_of_mem target hOther, between, cause, hError,
            hGrown.trans hMore, hFails⟩

/-- A type that is explained while another one is under construction is explained by it. -/
theorem Explains.association {entity : Entity} {target : Property} {between final : State}
    {cause : MetadataError} {path : List String}
    (hCheck : source.check name (source.describe? name) = .ok entity)
    (hTarget : target ∈ entity.associations) (hNone : state.slots.get? name = none)
    (hGrows : source.Grows (begun name state) between)
    (hCause : source.Explains target.actualType between.slots final.slots cause path) :
    source.Explains name state.slots (final.onSlots (·.release name)).slots
      (.association name target.name cause) (name :: path) := by
  -- what has no slot later had none before, and is not the type under construction
  have hFree : ∀ type ∈ path, type ≠ name ∧ state.slots.get? type = none := by
    intro type hType
    have hBetween := hCause.free type hType
    have hBegun : (begun name state).slots.get? type = none := by
      cases hGet : (begun name state).slots.get? type with
      | none => rfl
      | some slot =>
          rw [hGrows.slots type slot hGet] at hBetween
          simp at hBetween
    rw [get?_begun] at hBegun
    split at hBegun
    · simp at hBegun
    · exact ⟨‹_›, hBegun⟩
  obtain ⟨rest, rfl⟩ : ∃ rest, path = target.actualType :: rest :=
    List.head?_eq_some_iff.mp hCause.head
  refine
    { traces := .association hCheck hTarget hCause.traces
      head := rfl
      nodup := List.nodup_cons.mpr ⟨fun hMem => (hFree name hMem).1 rfl, hCause.nodup⟩
      free := ?_
      released := ?_ }
  · intro type hType
    rcases List.mem_cons.mp hType with rfl | hRest
    · exact hNone
    · exact (hFree type hRest).2
  · intro type hType
    rw [State.onSlots, Slots.get?_release]
    rcases List.mem_cons.mp hType with rfl | hRest
    · rw [if_pos rfl]
    · rw [if_neg (hFree type hRest).1]
      exact hCause.released type hRest

/-- **The error of a construction names a path to a defect**, as long as its budget lasts. -/
theorem construct_blames (hPassive : source.Passive) {names : List String}
    (hNames : source.LinksInto names) (budget : Nat) (hNone : state.slots.get? name = none)
    (hBudget : undiscovered names (state.slots.claim name soleBuilder) < budget)
    (hResult : source.construct budget name (state.onSlots (·.claim name soleBuilder)) =
      (.error error, after)) :
    ∃ path, source.Explains name state.slots after.slots error path := by
  induction budget generalizing name state error after with
  | zero => omega
  | succ budget ih =>
      cases hCheck : source.check name (source.describe? name) with
      | error defect =>
          rw [construct_of_check_error hPassive hCheck, Prod.mk.injEq,
            Except.error.injEq] at hResult
          obtain ⟨rfl, rfl⟩ := hResult
          refine ⟨[name], .defect (check_eq_error_iff.mp hCheck), rfl, by simp, by simpa, ?_⟩
          intro type hType
          rw [State.onSlots, Slots.get?_release, if_pos (List.mem_singleton.mp hType)]
      | ok entity =>
          cases hTargets : registerTargets (source.construct budget) name entity.associations
              (begun name state) with
          | mk result final =>
              cases result with
              | ok done =>
                  rw [construct_of_registerTargets_ok hPassive hCheck hTargets] at hResult
                  simp at hResult
              | error blamed =>
                  rw [construct_of_registerTargets_error hPassive hCheck hTargets, Prod.mk.injEq,
                    Except.error.injEq] at hResult
                  obtain ⟨rfl, rfl⟩ := hResult
                  obtain ⟨target, hTarget, between, cause, rfl, hGrows, hFree, hFails⟩ :=
                    exists_target_of_registerTargets_error (construct_growsBeside budget) hTargets
                  -- the target is one of the names, and its claim discovers it
                  have hMem := hNames name _ ((links_iff hCheck).mpr ⟨target, hTarget, rfl⟩)
                  have hLess := undiscovered_claim_lt hMem hFree soleBuilder
                  have hLeft := undiscovered_le_of_grows names hGrows
                  have hBegun : undiscovered names (begun name state).slots < budget + 1 := hBudget
                  obtain ⟨path, hPath⟩ := ih hFree (by omega) hFails
                  exact ⟨name :: path, hPath.association hCheck hTarget hNone hGrows⟩

end Walk

end TypeSource

namespace Registry

open TypeSource

/-- **A metadata error names a real path to a real defect.** If a request fails in a state in which
nothing is under construction, its error tells a path of distinct types, from the requested type
along associations to a type with a defect of its own, which is the root cause of the error. None of
these types is published afterwards. -/
theorem entityFor_blames (registry : Registry) (hPassive : registry.source.Passive) {state : State}
    (hNothing : NothingPending state.slots) {name : String}
    (hTerminal : registry.isTerminal name = false) {error : MetadataError} {after : State}
    (hError : registry.entityFor name state = (.error error, after)) :
    ∃ path last, path.head? = some name ∧ path.getLast? = some last ∧ path.Nodup ∧
      registry.source.Traces path error ∧ registry.source.Defect last error.rootCause ∧
      (∀ type, error.rootCause ≠ .cycle type ∧ error.rootCause ≠ .terminalType type) ∧
      ∀ type ∈ path, after.slots.isReady type = false := by
  have hLength : registry.inspector.mentioned.length < registry.budget := Nat.lt_succ_self _
  cases hGet : state.slots.get? name with
  | some slot =>
      cases slot with
      | pending builder => exact absurd hGet (hNothing name builder)
      | ready entity =>
          have hOk : registry.entityFor name state = (.ok entity, state) :=
            entityFor_of_ready hTerminal hGet
          rw [hOk] at hError
          simp at hError
  | none =>
      have hConstruct : registry.entityFor name state = _ := entityFor_of_none hTerminal hGet
      rw [hConstruct] at hError
      obtain ⟨path, hPath⟩ := construct_blames hPassive registry.linksInto_mentioned
        registry.budget hGet (undiscovered_lt hLength _) hError
      obtain ⟨last, hLast, hDefect⟩ := hPath.traces.rootCause
      refine ⟨path, last, hPath.head, hLast, hPath.nodup, hPath.traces, hDefect,
        hDefect.not_refusal, fun type hType => ?_⟩
      rw [Slots.isReady, hPath.released type hType]
      rfl

/-- Invoices and their parties, for which the description of another type is given. -/
def invoices : Registry :=
  { inspector :=
      { answers :=
          [("Invoice",
              { name := "Invoice"
                members :=
                  [{ name := "lines", declared := .collection (.named "Line") },
                    { name := "seller", declared := .named "Party" }] }),
            ("Line",
              { name := "Line"
                members := [{ name := "invoice", declared := .named "Invoice" }] }),
            ("Party",
              { name := "Company"
                members := [{ name := "city", declared := .named "String" }] })] } }

/-- The seller of an invoice is to blame, also when an earlier request has published its lines. -/
theorem entityFor_blames_invoices : ∃ error after path last,
    invoices.entityFor "Invoice" (invoices.stateAfter ["Invoice"]) = (.error error, after) ∧
    error = .association "Invoice" "seller" (.typeMismatch "Party" "Company") ∧
    path.head? = some "Invoice" ∧ path.getLast? = some last ∧ path.Nodup ∧
    invoices.source.Traces path error ∧ invoices.source.Defect last error.rootCause ∧
    ∀ type ∈ path, after.slots.isReady type = false := by
  have hPassive : invoices.source.Passive := fun _ => rfl
  have hConsistent := consistent_stateAfter hPassive invoices.linksInto_mentioned
    (Nat.lt_succ_self _) ["Invoice"]
  have hSeen : (invoices.entityFor "Invoice" (invoices.stateAfter ["Invoice"])).1 =
      .error (.association "Invoice" "seller" (.typeMismatch "Party" "Company")) := by
    decide +kernel
  cases hError : invoices.entityFor "Invoice" (invoices.stateAfter ["Invoice"]) with
  | mk result after =>
      rw [hError] at hSeen
      dsimp only at hSeen
      rw [hSeen] at hError
      obtain ⟨path, last, hHead, hLast, hNodup, hTraces, hDefect, _, hReleased⟩ :=
        invoices.entityFor_blames hPassive hConsistent.nothingPending (by decide +kernel) hError
      exact ⟨_, after, path, last, by rw [hSeen], rfl, hHead, hLast, hNodup, hTraces, hDefect,
        hReleased⟩

end Registry

end DerivedQuery
