import DerivedQuery.Search
import Mathlib.Data.List.Forall2

/-!
# Steps that succeed and steps that fail

Readers and checks fail with an error or go on. That a sequence of steps succeeds means that each
step does, and this is how such a sequence is taken apart.

A reader that fails reports one of the errors that it has met. So what holds of every error of its
parts holds of its own, whichever of them is chosen: this is `FailsWith`. And if all errors of its
parts are changed in one way, so is its own: this is `mapErrors`. For a reader that succeeds the
same is said of its result: this is `Returns`.

## Main results

* `bind_eq_ok_iff`, `seq_eq_ok_iff`, `mapM_eq_ok_iff`, `forM_eq_ok_iff`: sequences of steps
* `exists_of_toOption_map`: the result of a step that also leaves a state
* `failsWith_firstSuccess`, `firstSuccess_mapErrors`: the error of a search is one of those of its
  alternatives
* `returns_firstSuccess`: so is its result
-/

namespace DerivedQuery

variable {ε α β : Type}

theorem bind_eq_ok_iff {first : Except ε α} {next : α → Except ε β} {result : β} :
    (first >>= next) = .ok result ↔ ∃ value, first = .ok value ∧ next value = .ok result := by
  cases first <;> simp [bind, Except.bind]

@[simp] theorem throw_ne_ok {error : ε} {result : α} :
    (throw error : Except ε α) ≠ .ok result := by
  simp [throw, throwThe, MonadExceptOf.throw]

theorem mapError_eq_ok_iff {ε' : Type} {change : ε → ε'} {outcome : Except ε α} {result : α} :
    outcome.mapError change = .ok result ↔ outcome = .ok result := by
  cases outcome <;> simp [Except.mapError]

/-- A list is read if each of its items is. -/
theorem mapM_eq_ok_iff {read : α → Except ε β} {items : List α} {results : List β} :
    items.mapM read = .ok results ↔ List.Forall₂ (fun item result => read item = .ok result)
      items results := by
  induction items generalizing results with
  | nil => cases results <;> simp [pure, Except.pure]
  | cons item rest ih =>
      rw [List.mapM_cons, bind_eq_ok_iff]
      constructor
      · rintro ⟨first, hFirst, hRest⟩
        obtain ⟨others, hOthers, hAll⟩ := bind_eq_ok_iff.mp hRest
        cases hAll
        exact .cons hFirst (ih.mp hOthers)
      · intro hAll
        cases hAll with
        | cons hFirst hOthers =>
            exact ⟨_, hFirst, bind_eq_ok_iff.mpr ⟨_, ih.mpr hOthers, rfl⟩⟩

/-- The results of a list are those of its items. -/
theorem mem_of_mapM_eq_ok {read : α → Except ε β} {items : List α} {results : List β}
    (hRead : items.mapM read = .ok results) {result : β} :
    result ∈ results ↔ ∃ item ∈ items, read item = .ok result := by
  have hAll := mapM_eq_ok_iff.mp hRead
  clear hRead
  induction hAll with
  | nil => simp
  | cons hFirst _ ih =>
      simp only [List.mem_cons, ih, exists_eq_or_imp, hFirst, Except.ok.injEq]
      rw [eq_comm]

/-- A list can be read if each of its items can. -/
theorem exists_mapM_eq_ok_iff {read : α → Except ε β} {items : List α} :
    (∃ results, items.mapM read = .ok results) ↔ ∀ item ∈ items, ∃ result, read item = .ok result := by
  induction items with
  | nil => simp [pure, Except.pure]
  | cons item rest ih =>
      rw [List.forall_mem_cons, ← ih]
      constructor
      · rintro ⟨results, hRead⟩
        obtain _ | ⟨hFirst, hRest⟩ := mapM_eq_ok_iff.mp hRead
        exact ⟨⟨_, hFirst⟩, _, mapM_eq_ok_iff.mpr hRest⟩
      · rintro ⟨⟨first, hFirst⟩, others, hRest⟩
        exact ⟨first :: others, mapM_eq_ok_iff.mpr (.cons hFirst (mapM_eq_ok_iff.mp hRest))⟩

/-- One check after another. -/
theorem seq_eq_ok_iff {first next : Except ε Unit} :
    (first >>= fun _ => next) = .ok () ↔ first = .ok () ∧ next = .ok () := by
  cases first <;> simp [bind, Except.bind]

/-- A list is accepted if each of its items is. -/
theorem forM_eq_ok_iff {check : α → Except ε Unit} {items : List α} :
    forM items check = .ok () ↔ ∀ item ∈ items, check item = .ok () := by
  induction items with
  | nil => simp [pure, Except.pure]
  | cons item rest ih => rw [List.forM_cons, seq_eq_ok_iff, List.forall_mem_cons, ih]

/-- The result of a step, seen in what it leaves. -/
theorem exists_of_toOption_map {σ : Type} {f : α → β} {value : β} {outcome : Except ε α × σ}
    (hOutcome : outcome.1.toOption.map f = some value) :
    ∃ result after, outcome = (.ok result, after) ∧ f result = value := by
  obtain ⟨found, after⟩ := outcome
  cases found with
  | error error => simp [Except.toOption] at hOutcome
  | ok result => exact ⟨result, after, rfl, Option.some.inj hOutcome⟩

/-- A step whose result is known leaves some state. -/
theorem exists_of_fst_eq {σ : Type} {result : α} {outcome : α × σ} (hResult : outcome.1 = result) :
    ∃ after, outcome = (result, after) :=
  ⟨outcome.2, by rw [← hResult]⟩

/-! ## Errors of readers -/

section FailsWith

variable {σ : Type} {Q : ε → Prop} {reader : σ → Except ε β × σ}

/-- Whatever error the reader fails with, it has the property. -/
def FailsWith (Q : ε → Prop) (reader : σ → Except ε β × σ) : Prop :=
  ∀ state error after, reader state = (.error error, after) → Q error

/-- A reader that always fails with one error. -/
theorem failsWith_error {error : ε} (hError : Q error) :
    FailsWith (β := β) Q fun state : σ => (.error error, state) := by
  intro state other after hRead
  simp only [Prod.mk.injEq, Except.error.injEq] at hRead
  rw [← hRead.1]
  exact hError

theorem FailsWith.mono {Q' : ε → Prop} (hReader : FailsWith Q reader)
    (hErrors : ∀ error, Q error → Q' error) : FailsWith Q' reader :=
  fun state error after hRead => hErrors error (hReader state error after hRead)

/-- The error of a search is one of those of its alternatives. -/
theorem failsWith_firstSuccess {attempt : α → σ → Except ε β × σ} {last : σ → Except ε β × σ}
    (hLast : FailsWith Q last) (alternatives : List α)
    (hAttempt : ∀ alternative ∈ alternatives, FailsWith Q (attempt alternative)) :
    FailsWith Q (firstSuccess attempt last alternatives) := by
  cases alternatives with
  | nil => exact hLast
  | cons alternative rest =>
      intro state error after hRead
      rw [firstSuccess] at hRead
      split at hRead
      · simp at hRead
      · rename_i first between hFirst
        split at hRead
        · simp at hRead
        · simp only [Prod.mk.injEq, Except.error.injEq] at hRead
          rw [← hRead.1]
          exact hAttempt alternative List.mem_cons_self state first between hFirst

end FailsWith

/-! ## Results of readers -/

section Returns

variable {σ : Type} {Q : β → Prop} {reader : σ → Except ε β × σ}

/-- Whatever result the reader has, it has the property. -/
def Returns (Q : β → Prop) (reader : σ → Except ε β × σ) : Prop :=
  ∀ state result after, reader state = (.ok result, after) → Q result

theorem returns_error {error : ε} : Returns Q fun state : σ => (.error error, state) := by
  intro state result after hRead
  simp at hRead

theorem Returns.mono {Q' : β → Prop} (hReader : Returns Q reader)
    (hResults : ∀ result, Q result → Q' result) : Returns Q' reader :=
  fun state result after hRead => hResults result (hReader state result after hRead)

/-- The result of a search is that of one of its alternatives. -/
theorem returns_firstSuccess {attempt : α → σ → Except ε β × σ} {last : σ → Except ε β × σ}
    (hLast : Returns Q last) (alternatives : List α)
    (hAttempt : ∀ alternative ∈ alternatives, Returns Q (attempt alternative)) :
    Returns Q (firstSuccess attempt last alternatives) := by
  induction alternatives with
  | nil => exact hLast
  | cons alternative rest ih =>
      have hRest := ih fun other hOther => hAttempt other (List.mem_cons_of_mem alternative hOther)
      intro state result after hRead
      rw [firstSuccess] at hRead
      split at hRead
      · rename_i hFirst
        simp only [Prod.mk.injEq, Except.ok.injEq] at hRead
        rw [← hRead.1]
        exact hAttempt alternative List.mem_cons_self state _ _ hFirst
      · split at hRead
        · rename_i hLater
          simp only [Prod.mk.injEq, Except.ok.injEq] at hRead
          rw [← hRead.1]
          exact hRest _ _ _ hLater
        · simp at hRead

end Returns

section MapErrors

variable {ε' σ : Type}

/-- The outcome with its error changed. -/
def mapErrors (change : ε → ε') (outcome : Except ε β × σ) : Except ε' β × σ :=
  (outcome.1.mapError change, outcome.2)

@[simp] theorem mapErrors_ok (change : ε → ε') (result : β) (after : σ) :
    mapErrors change (.ok result, after) = (.ok result, after) :=
  rfl

@[simp] theorem mapErrors_error (change : ε → ε') (error : ε) (after : σ) :
    mapErrors (β := β) change (.error error, after) = (.error (change error), after) :=
  rfl

/-- If the errors of all alternatives are changed alike, so is that of the search. -/
theorem firstSuccess_mapErrors {change : ε → ε'} {attempt : α → σ → Except ε β × σ}
    {attempt' : α → σ → Except ε' β × σ} {last : σ → Except ε β × σ} {last' : σ → Except ε' β × σ}
    (hLast : ∀ state, last' state = mapErrors change (last state)) (alternatives : List α)
    (hAttempt : ∀ alternative state,
      attempt' alternative state = mapErrors change (attempt alternative state)) (state : σ) :
    firstSuccess attempt' last' alternatives state =
      mapErrors change (firstSuccess attempt last alternatives state) := by
  induction alternatives generalizing state with
  | nil => exact hLast state
  | cons alternative rest ih =>
      rw [firstSuccess, firstSuccess, hAttempt]
      obtain ⟨result, after⟩ := attempt alternative state
      cases result with
      | ok value => rfl
      | error error =>
          dsimp only [mapErrors_error]
          rw [ih after]
          obtain ⟨later, final⟩ := firstSuccess attempt last rest after
          cases later <;> rfl

end MapErrors

end DerivedQuery
