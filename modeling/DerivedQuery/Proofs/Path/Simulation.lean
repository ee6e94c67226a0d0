import DerivedQuery.Proofs.Path.Resolution

/-!
# Two readers with one outcome

A reader sees the state of a source of metadata only through the answers to its requests. If two
sources give the same answers wherever a reader may ask, it has the same outcome against both of
them, on every branch of a search: `Simulates` says this of two readers, for states that are related.

What a reader of paths may ask is bounded by the types that it comes to. A chain of properties
starts at the root and goes on in the actual types of properties, and it is looked up in terminal
types without a request. So it is enough that the types within reach are terminal or have entities,
the same for both sources: `Explores`. No attempt fails for want of an entity then, however it goes
on, and no error has a cause.

## Main definitions

* `Simulates`: readers with the same outcome
* `Explores`: types that two sources know alike

## Main results

* `simulates_firstSuccess`: searches have the same outcome if their alternatives do
* `simulates_resolveChunk`, `simulates_resolvePath`: paths are resolved alike, and no error has a cause
-/

namespace DerivedQuery

open Text Metadata

variable {σ τ : Type}

/-! ## Readers with the same outcome -/

/-- In related states the two readers have the same outcome, which has the property, and the states
that they leave are related. -/
def Simulates {ε β : Type} (Related : σ → τ → Prop) (Post : Except ε β → Prop)
    (reader : σ → Except ε β × σ) (reader' : τ → Except ε β × τ) : Prop :=
  ∀ state state', Related state state' → ∃ outcome after after',
    reader state = (outcome, after) ∧ reader' state' = (outcome, after') ∧
      Related after after' ∧ Post outcome

/-- If the outcome is an error, it has the property. -/
def OnError {ε β : Type} (Q : ε → Prop) : Except ε β → Prop
  | .ok _ => True
  | .error error => Q error

section Simulates

variable {ε β : Type} {Related : σ → τ → Prop} {Post : Except ε β → Prop}

/-- Readers that make no request. -/
theorem simulates_outcome {outcome : Except ε β} (hPost : Post outcome) :
    Simulates Related Post (fun state => (outcome, state)) fun state => (outcome, state) :=
  fun state state' hRelated => ⟨outcome, state, state', rfl, rfl, hRelated, hPost⟩

theorem Simulates.mono {Post' : Except ε β → Prop} {reader : σ → Except ε β × σ}
    {reader' : τ → Except ε β × τ} (hReader : Simulates Related Post reader reader')
    (hMore : ∀ outcome, Post outcome → Post' outcome) : Simulates Related Post' reader reader' := by
  intro state state' hRelated
  obtain ⟨outcome, after, after', hRead, hRead', hAfter, hPost⟩ := hReader state state' hRelated
  exact ⟨outcome, after, after', hRead, hRead', hAfter, hMore outcome hPost⟩

/-- Searches have the same outcome if their alternatives do. -/
theorem simulates_firstSuccess {α : Type} {attempt : α → σ → Except ε β × σ}
    {attempt' : α → τ → Except ε β × τ} {last : σ → Except ε β × σ} {last' : τ → Except ε β × τ}
    (hLast : Simulates Related Post last last') (alternatives : List α)
    (hAttempt : ∀ alternative ∈ alternatives,
      Simulates Related Post (attempt alternative) (attempt' alternative)) :
    Simulates Related Post (firstSuccess attempt last alternatives)
      (firstSuccess attempt' last' alternatives) := by
  induction alternatives with
  | nil => exact hLast
  | cons alternative rest ih =>
      have hRest := ih fun other hOther => hAttempt other (List.mem_cons_of_mem alternative hOther)
      intro state state' hRelated
      obtain ⟨outcome, between, between', hRead, hRead', hBetween, hPost⟩ :=
        hAttempt alternative List.mem_cons_self state state' hRelated
      rw [firstSuccess, firstSuccess, hRead, hRead']
      cases outcome with
      | ok result => exact ⟨.ok result, between, between', rfl, rfl, hBetween, hPost⟩
      | error error =>
          obtain ⟨later, final, final', hMore, hMore', hFinal, hLater⟩ :=
            hRest between between' hBetween
          simp only [hMore, hMore']
          cases later with
          | ok result => exact ⟨.ok result, final, final', rfl, rfl, hFinal, hLater⟩
          | error other => exact ⟨.error error, final, final', rfl, rfl, hFinal, hPost⟩

end Simulates

/-! ## Paths -/

/-- Each of the types is terminal for both sources, or both know it in related states as the same
entity. Properties of this entity lead to types of this kind again. -/
def Explores (Related : σ → τ → Prop) (metadata : Metadata σ) (metadata' : Metadata τ)
    (Within : String → Prop) : Prop :=
  ∀ type, Within type →
    (metadata.isTerminal type = true ∧ metadata'.isTerminal type = true) ∨
    ∃ entity, (∀ state state', Related state state' →
        metadata.Knows state type entity ∧ metadata'.Knows state' type entity) ∧
      ∀ property ∈ entity.properties, Within property.actualType

/-- A path ends in one of the types, and an error has no cause. -/
def Lands (Within : String → Prop) : Except PathError PropertyPath → Prop
  | .ok path => Within path.leafType
  | .error error => error.cause = none

section Paths

variable {Related : σ → τ → Prop} {metadata : Metadata σ} {metadata' : Metadata τ}
  {Within : String → Prop}

/-- One step of the search behind the heads of a chunk. -/
theorem simulates_resolveHead {source : String} {chunk : List Char} {head : Cut chunk × Property}
    (hRest : Simulates Related (Lands Within)
      (resolveChunk metadata source head.1.right head.2.actualType)
      (resolveChunk metadata' source head.1.right head.2.actualType)) (type : String) :
    Simulates Related (Lands Within) (resolveHead metadata source type head)
      (resolveHead metadata' source type head) := by
  intro state state' hRelated
  obtain ⟨outcome, after, after', hRead, hRead', hAfter, hLands⟩ := hRest state state' hRelated
  rw [resolveHead, resolveHead, hRead, hRead']
  cases outcome with
  | error error => exact ⟨.error error, after, after', rfl, rfl, hAfter, hLands⟩
  | ok rest =>
      refine ⟨_, after, after', rfl, rfl, hAfter, ?_⟩
      rw [Lands, PropertyPath.leafType_cons]
      exact hLands

theorem simulates_resolveChunk (hExplores : Explores Related metadata metadata' Within)
    (source : String) (chunk : List Char) {type : String} (hType : Within type) :
    Simulates Related (Lands Within) (resolveChunk metadata source chunk type)
      (resolveChunk metadata' source chunk type) := by
  induction hLength : chunk.length using Nat.strongRecOn generalizing chunk type with
  | ind length ih =>
      intro state state' hRelated
      rcases hExplores type hType with ⟨hTerminal, hTerminal'⟩ | ⟨entity, hKnown, hWithin⟩
      · rw [resolveChunk, resolveChunk, if_pos hTerminal, if_pos hTerminal']
        exact ⟨_, state, state', rfl, rfl, hRelated, rfl⟩
      · obtain ⟨hKnows, hKnows'⟩ := hKnown state state' hRelated
        cases hLookup : entity.lookup? chunk with
        | some property =>
            have hProperty := List.mem_of_find?_eq_some (property?_of_lookup? hLookup).1
            exact ⟨_, state, state', resolveChunk_of_knows hKnows hLookup source,
              resolveChunk_of_knows hKnows' hLookup source, hRelated, hWithin property hProperty⟩
        | none =>
            rw [resolveChunk_of_lookup?_eq_none hKnows.1 hKnows.2 hLookup,
              resolveChunk_of_lookup?_eq_none hKnows'.1 hKnows'.2 hLookup]
            apply simulates_firstSuccess _ _ _ state state' hRelated
            · exact simulates_outcome rfl
            · intro head hHead
              have hProperty := List.mem_of_find?_eq_some
                (property?_of_lookup? (of_mem_namedHeads hHead).2).1
              exact simulates_resolveHead (ih _ (hLength ▸ head.1.right_length_lt) head.1.right
                (hWithin head.2 hProperty) rfl) type

private theorem simulates_resolveChunks (hExplores : Explores Related metadata metadata' Within)
    (source : String) (chunk : List Char) (more : List (List Char)) {type : String}
    (hType : Within type) :
    Simulates Related (Lands Within) (resolveChunks metadata source chunk more type)
      (resolveChunks metadata' source chunk more type) := by
  induction more generalizing chunk type with
  | nil =>
      cases chunk with
      | nil => exact simulates_outcome rfl
      | cons c rest => exact simulates_resolveChunk hExplores source (c :: rest) hType
  | cons next others ih =>
      cases chunk with
      | nil => exact simulates_outcome rfl
      | cons c rest =>
          intro state state' hRelated
          obtain ⟨outcome, between, between', hRead, hRead', hBetween, hLands⟩ :=
            simulates_resolveChunk hExplores source (c :: rest) hType state state' hRelated
          simp only [resolveChunks, hRead, hRead']
          cases outcome with
          | error error => exact ⟨.error error, between, between', rfl, rfl, hBetween, hLands⟩
          | ok path =>
              obtain ⟨later, final, final', hMore, hMore', hFinal, hLater⟩ :=
                ih next hLands between between' hBetween
              simp only [hMore, hMore']
              cases later with
              | error error => exact ⟨.error error, final, final', rfl, rfl, hFinal, hLater⟩
              | ok rest =>
                  refine ⟨_, final, final', rfl, rfl, hFinal, ?_⟩
                  rw [Lands, PropertyPath.leafType_append]
                  exact hLater

/-- **Paths are resolved alike** by sources that know the types within reach alike, and no error has a
cause. -/
theorem simulates_resolvePath (hExplores : Explores Related metadata metadata' Within)
    (separator : Char) (source : List Char) {root : String} (hRoot : Within root) :
    Simulates Related (OnError fun error => error.cause = none)
      (resolvePath metadata separator source root) (resolvePath metadata' separator source root) := by
  have hDivided := simulates_resolveChunks hExplores (String.ofList source)
    (chunks (endsChunk separator) source).1 (chunks (endsChunk separator) source).2 hRoot
  have hPath : Simulates Related (Lands Within) (resolvePath metadata separator source root)
      (resolvePath metadata' separator source root) := by
    unfold resolvePath
    dsimp only
    split
    · exact simulates_firstSuccess
        (simulates_resolveChunk hExplores (String.ofList source) source hRoot) [()]
        fun _ _ => hDivided
    · exact hDivided
  refine hPath.mono fun outcome hLands => ?_
  cases outcome with
  | ok path => trivial
  | error error => exact hLands

end Paths

end DerivedQuery
