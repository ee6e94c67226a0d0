import DerivedQuery.Metadata
import DerivedQuery.Search
import Mathlib.Logic.Relation

/-!
# Readers that make requests

Path resolution and query parsing touch the state of a source of metadata only through requests for
entities. `Leads` relates two states of which the second comes from the first by requests; whatever
requests preserve holds on along `Leads`. A source *remembers* if an entity that it has given once
is given again, without a change of its state.

`Reads` is the contract of a reader: it only makes requests, and its result has a property in the
state that it leaves. The readers of this library are put together by `firstSuccess`, so one lemma
carries the contract through every search.

A source is *steady* in a state if it gives the same entities from there on, whatever is asked in
between. `Yields` says that a reader then has one value, in all of these states.

## Main results

* `Remembers.knows_of_leads`: known entities stay known
* `reads_firstSuccess`: the contract of a search follows from that of its alternatives
* `yields_firstSuccess`: the value of a search is that of its first alternative which has one
-/

namespace DerivedQuery.Metadata

variable {σ : Type} (metadata : Metadata σ)

/-! ## Requests -/

/-- The type is no leaf value, and asking for it gives the entity and changes nothing. -/
def Knows (state : σ) (type : String) (entity : Entity) : Prop :=
  metadata.isTerminal type = false ∧ metadata.entityFor type state = (.ok entity, state)

/-- The second state comes from the first by requests. -/
def Leads : σ → σ → Prop :=
  Relation.ReflTransGen fun before after => ∃ name, after = (metadata.entityFor name before).2

/-- An entity that was given once is given again, whatever is asked in between. -/
structure Remembers : Prop where
  learns : ∀ {type : String} {entity : Entity} {before after : σ},
    metadata.isTerminal type = false → metadata.entityFor type before = (.ok entity, after) →
      metadata.Knows after type entity
  keeps : ∀ {type : String} {entity : Entity} {state : σ} (name : String),
    metadata.Knows state type entity → metadata.Knows (metadata.entityFor name state).2 type entity

variable {metadata}

theorem Leads.refl (state : σ) : metadata.Leads state state :=
  Relation.ReflTransGen.refl

theorem Leads.trans {first second third : σ} (hFirst : metadata.Leads first second)
    (hSecond : metadata.Leads second third) : metadata.Leads first third :=
  Relation.ReflTransGen.trans hFirst hSecond

theorem Leads.entityFor (name : String) (state : σ) :
    metadata.Leads state (metadata.entityFor name state).2 :=
  Relation.ReflTransGen.single ⟨name, rfl⟩

/-- What every request preserves holds on along requests. -/
theorem Leads.preserves {P : σ → Prop}
    (hRequest : ∀ name state, P state → P (metadata.entityFor name state).2) {before after : σ}
    (hLeads : metadata.Leads before after) (hBefore : P before) : P after := by
  induction hLeads with
  | refl => exact hBefore
  | tail _ hStep ih =>
      obtain ⟨name, rfl⟩ := hStep
      exact hRequest name _ ih

theorem Remembers.knows_of_leads (hRemembers : metadata.Remembers) {type : String}
    {entity : Entity} {before after : σ} (hLeads : metadata.Leads before after)
    (hKnows : metadata.Knows before type entity) : metadata.Knows after type entity :=
  hLeads.preserves (P := fun state => metadata.Knows state type entity)
    (fun name _ => hRemembers.keeps name) hKnows

/-! ## Contracts of readers -/

variable (metadata)

/-- The reader only makes requests, and a result of it has the property in the state that the
reader leaves. -/
def Reads {ε β : Type} (P : β → σ → Prop) (reader : σ → Except ε β × σ) : Prop :=
  ∀ state, metadata.Leads state (reader state).2 ∧
    ∀ result, (reader state).1 = .ok result → P result (reader state).2

/-- What holds of a result in one state holds of it after requests. -/
def Stable {β : Type} (P : β → σ → Prop) : Prop :=
  ∀ value before after, metadata.Leads before after → P value before → P value after

variable {metadata} {ε β : Type} {P : β → σ → Prop}

/-- A reader that fails without a request. -/
theorem reads_error (error : ε) : metadata.Reads P fun state => (.error error, state) :=
  fun state => ⟨.refl state, by simp⟩

theorem Reads.of_eq {reader : σ → Except ε β × σ} (hReads : metadata.Reads P reader)
    {before after : σ} {result : Except ε β} (hRead : reader before = (result, after)) :
    metadata.Leads before after ∧ ∀ value, result = .ok value → P value after := by
  have hState := hReads before
  rw [hRead] at hState
  exact hState

/-- Behind other requests a reader may rely on what those have made sure of. -/
theorem Reads.after_leads {reader : σ → Except ε β × σ} {before after : σ}
    (hLeads : metadata.Leads before after)
    (hReads : metadata.Reads (fun value final => metadata.Leads after final → P value final) reader) :
    metadata.Leads before (reader after).2 ∧
      ∀ value, (reader after).1 = .ok value → P value (reader after).2 := by
  obtain ⟨hLater, hValue⟩ := hReads after
  exact ⟨hLeads.trans hLater, fun value hResult => hValue value hResult hLater⟩

/-- A search makes the requests of its alternatives, and its result comes from one of them. -/
theorem reads_firstSuccess {α : Type} {attempt : α → σ → Except ε β × σ} {last : σ → Except ε β × σ}
    (hLast : metadata.Reads P last) (alternatives : List α)
    (hAttempt : ∀ alternative ∈ alternatives, metadata.Reads P (attempt alternative)) :
    metadata.Reads P (firstSuccess attempt last alternatives) := by
  induction alternatives with
  | nil => exact hLast
  | cons alternative rest ih =>
      intro state
      have hFirst := hAttempt alternative List.mem_cons_self
      have hRest := ih fun other hOther => hAttempt other (List.mem_cons_of_mem alternative hOther)
      rw [firstSuccess]
      split
      · rename_i hResult
        obtain ⟨hLeads, hValue⟩ := hFirst.of_eq hResult
        exact ⟨hLeads, by simpa using hValue⟩
      · rename_i hResult
        obtain ⟨hLeads, _⟩ := hFirst.of_eq hResult
        split
        · rename_i hLater
          obtain ⟨hMore, hValue⟩ := hRest.of_eq hLater
          exact ⟨hLeads.trans hMore, by simpa using hValue⟩
        · rename_i hLater
          obtain ⟨hMore, _⟩ := hRest.of_eq hLater
          exact ⟨hLeads.trans hMore, by simp⟩

/-! ## Errors of readers -/

section Rejects

variable {state : σ} {Q : ε → σ → Prop} {reader : σ → Except ε β × σ}

variable (metadata) in
/-- After every request that may follow the state, the reader only makes requests, and an error of
it has the property in the state that the reader leaves. -/
def Rejects (state : σ) (Q : ε → σ → Prop) (reader : σ → Except ε β × σ) : Prop :=
  ∀ later, metadata.Leads state later → metadata.Leads later (reader later).2 ∧
    ∀ error, (reader later).1 = .error error → Q error (reader later).2

theorem rejects_error {error : ε} (hError : ∀ later, metadata.Leads state later → Q error later) :
    metadata.Rejects (β := β) state Q fun later => (.error error, later) := by
  intro later hLater
  refine ⟨.refl later, fun other hOther => ?_⟩
  rw [← Except.error.inj hOther]
  exact hError later hLater

theorem Rejects.of_eq (hRejects : metadata.Rejects state Q reader) {later after : σ}
    (hLater : metadata.Leads state later) {result : Except ε β}
    (hRead : reader later = (result, after)) :
    metadata.Leads later after ∧ ∀ error, result = .error error → Q error after := by
  have hState := hRejects later hLater
  rw [hRead] at hState
  exact hState

/-- A search makes the requests of its alternatives. -/
theorem leads_firstSuccess {α : Type} {attempt : α → σ → Except ε β × σ} {last : σ → Except ε β × σ}
    (hLast : ∀ later, metadata.Leads state later → metadata.Leads later (last later).2)
    (alternatives : List α)
    (hAttempt : ∀ alternative ∈ alternatives, ∀ later, metadata.Leads state later →
      metadata.Leads later (attempt alternative later).2)
    {later : σ} (hLater : metadata.Leads state later) :
    metadata.Leads later (firstSuccess attempt last alternatives later).2 := by
  induction alternatives generalizing later with
  | nil => exact hLast later hLater
  | cons alternative rest ih =>
      have hFirst := hAttempt alternative List.mem_cons_self later hLater
      rw [firstSuccess]
      rcases hRead : attempt alternative later with ⟨error | result, between⟩
      · rw [hRead] at hFirst
        have hMore := ih (fun other hOther => hAttempt other (List.mem_cons_of_mem alternative hOther))
          (hLater.trans hFirst)
        rcases hSearch : firstSuccess attempt last rest between with ⟨other | result, final⟩
        all_goals
          rw [hSearch] at hMore
          simp only [hSearch]
          exact hFirst.trans hMore
      · rw [hRead] at hFirst
        exact hFirst

/-- The error of a search is that of its first alternative, and that of the last attempt only if
there are no alternatives. -/
theorem rejects_firstSuccess {α : Type} {attempt : α → σ → Except ε β × σ}
    {last : σ → Except ε β × σ} (hStable : metadata.Stable Q) {alternatives : List α}
    (hLast : metadata.Rejects state (fun error later => alternatives = [] → Q error later) last)
    (hAttempt : ∀ alternative ∈ alternatives, metadata.Rejects state Q (attempt alternative)) :
    metadata.Rejects state Q (firstSuccess attempt last alternatives) := by
  intro later hLater
  cases alternatives with
  | nil =>
      obtain ⟨hLeads, hError⟩ := hLast later hLater
      exact ⟨hLeads, fun error hFail => hError error hFail rfl⟩
  | cons alternative rest =>
      have hSearch := @leads_firstSuccess _ metadata _ _ state _ attempt last
        (fun between hBetween => (hLast between hBetween).1) rest
        (fun other hOther between hBetween =>
          (hAttempt other (List.mem_cons_of_mem alternative hOther) between hBetween).1)
      rw [firstSuccess]
      rcases hRead : attempt alternative later with ⟨error | result, between⟩
      · obtain ⟨hLeads, hError⟩ :=
          (hAttempt alternative List.mem_cons_self).of_eq hLater hRead
        have hMore := hSearch (hLater.trans hLeads)
        rcases hRest : firstSuccess attempt last rest between with ⟨other | result, final⟩
        · rw [hRest] at hMore
          simp only [hRest]
          refine ⟨hLeads.trans hMore, fun chosen hChosen => ?_⟩
          rw [← Except.error.inj hChosen]
          exact hStable error between final hMore (hError error rfl)
        · rw [hRest] at hMore
          simp only [hRest]
          exact ⟨hLeads.trans hMore, by simp⟩
      · exact ⟨((hAttempt alternative List.mem_cons_self).of_eq hLater hRead).1, by simp⟩

end Rejects

/-! ## Fixed answers -/

variable (metadata)

/-- Whatever is requested after the state, the source gives the entities that it gives there. -/
def Steady (state : σ) : Prop :=
  ∀ later, metadata.Leads state later → ∀ name,
    (metadata.entityFor name later).1.toOption = (metadata.entityFor name state).1.toOption

/-- After every request that may follow the state, the reader only makes requests, and it has this
value or fails if there is none. -/
def Yields (state : σ) (value : Option β) (reader : σ → Except ε β × σ) : Prop :=
  ∀ later, metadata.Leads state later →
    metadata.Leads later (reader later).2 ∧ (reader later).1.toOption = value

variable {metadata} {state : σ} {value : Option β} {reader : σ → Except ε β × σ}

theorem yields_error (state : σ) (error : ε) :
    metadata.Yields (β := β) state none fun state => (.error error, state) :=
  fun later _ => ⟨.refl later, rfl⟩

/-- The value is the one in the state itself. -/
theorem Yields.eq (hYields : metadata.Yields state value reader) :
    (reader state).1.toOption = value :=
  (hYields state (.refl state)).2

theorem Yields.of_eq (hYields : metadata.Yields state value reader) {later after : σ}
    (hLater : metadata.Leads state later) {result : Except ε β}
    (hRead : reader later = (result, after)) :
    metadata.Leads later after ∧ result.toOption = value := by
  have hState := hYields later hLater
  rw [hRead] at hState
  exact hState

/-- A reader with a value succeeds with it, and one without a value fails. -/
theorem Yields.cases (hYields : metadata.Yields state value reader) {later : σ}
    (hLater : metadata.Leads state later) :
    (∃ result after, reader later = (.ok result, after) ∧ value = some result ∧
      metadata.Leads later after) ∨
    ∃ error after, reader later = (.error error, after) ∧ value = none ∧
      metadata.Leads later after := by
  cases hRead : reader later with
  | mk result after =>
      obtain ⟨hLeads, hValue⟩ := hYields.of_eq hLater hRead
      cases result with
      | ok result => exact Or.inl ⟨result, after, rfl, hValue.symm, hLeads⟩
      | error error => exact Or.inr ⟨error, after, rfl, hValue.symm, hLeads⟩

/-- Behind other requests a reader has the same value. -/
theorem Yields.behind (hYields : metadata.Yields state value reader) {before after : σ}
    (hBefore : metadata.Leads state before) (hLeads : metadata.Leads before after) :
    metadata.Leads before (reader after).2 ∧ (reader after).1.toOption = value := by
  obtain ⟨hMore, hValue⟩ := hYields after (hBefore.trans hLeads)
  exact ⟨hLeads.trans hMore, hValue⟩

theorem Yields.succeeds {result : β} (hYields : metadata.Yields state (some result) reader)
    {later : σ} (hLater : metadata.Leads state later) :
    ∃ after, reader later = (.ok result, after) ∧ metadata.Leads later after := by
  rcases hYields.cases hLater with ⟨other, after, hRead, hValue, hLeads⟩ | ⟨_, _, _, hValue, _⟩
  · rw [Option.some.inj hValue]
    exact ⟨after, hRead, hLeads⟩
  · simp at hValue

theorem Yields.fails (hYields : metadata.Yields state none reader) {later : σ}
    (hLater : metadata.Leads state later) :
    ∃ error after, reader later = (.error error, after) ∧ metadata.Leads later after := by
  rcases hYields.cases hLater with ⟨_, _, _, hValue, _⟩ | ⟨error, after, hRead, _, hLeads⟩
  · simp at hValue
  · exact ⟨error, after, hRead, hLeads⟩

theorem Steady.yields_entityFor (hSteady : metadata.Steady state) (name : String) :
    metadata.Yields state (metadata.entityFor name state).1.toOption (metadata.entityFor name) :=
  fun later hLater => ⟨.entityFor name later, hSteady later hLater name⟩

/-- The value of a search is that of its first alternative which has one. -/
theorem yields_firstSuccess {α : Type} {attempt : α → σ → Except ε β × σ}
    {last : σ → Except ε β × σ} {valueOf : α → Option β} (hLast : metadata.Yields state value last)
    (alternatives : List α)
    (hAttempt : ∀ alternative ∈ alternatives,
      metadata.Yields state (valueOf alternative) (attempt alternative)) :
    metadata.Yields state ((alternatives.findSome? valueOf).or value)
      (firstSuccess attempt last alternatives) := by
  induction alternatives with
  | nil => exact hLast
  | cons alternative rest ih =>
      have hFirst := hAttempt alternative List.mem_cons_self
      have hRest := ih fun other hOther => hAttempt other (List.mem_cons_of_mem alternative hOther)
      intro later hLater
      rw [firstSuccess, List.findSome?_cons]
      rcases hFirst.cases hLater with
        ⟨result, after, hRead, hValue, hLeads⟩ | ⟨error, after, hRead, hValue, hLeads⟩
      · rw [hRead, hValue]
        exact ⟨hLeads, rfl⟩
      · rw [hRead, hValue]
        rcases hRest.cases (hLater.trans hLeads) with
          ⟨result, final, hMore, hFound, hFinal⟩ | ⟨_, final, hMore, hFound, hFinal⟩
        · simp only [hMore, hFound]
          exact ⟨hLeads.trans hFinal, rfl⟩
        · simp only [hMore, hFound]
          exact ⟨hLeads.trans hFinal, rfl⟩

/-- A search all of whose alternatives fail fails. -/
theorem yields_firstSuccess_none {α : Type} {attempt : α → σ → Except ε β × σ}
    {last : σ → Except ε β × σ} (hLast : metadata.Yields state none last) (alternatives : List α)
    (hAttempt : ∀ alternative ∈ alternatives, metadata.Yields state none (attempt alternative)) :
    metadata.Yields state none (firstSuccess attempt last alternatives) := by
  have hSearch : metadata.Yields state ((alternatives.findSome? fun _ => none).or none)
      (firstSuccess attempt last alternatives) := yields_firstSuccess hLast alternatives hAttempt
  rw [List.findSome?_eq_none_iff.mpr fun _ _ => rfl] at hSearch
  exact hSearch

end DerivedQuery.Metadata
