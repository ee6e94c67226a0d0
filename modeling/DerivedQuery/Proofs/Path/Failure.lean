import DerivedQuery.Proofs.Path.Reading

/-!
# Where paths fail

A source text that does not resolve has many attempts behind it, each of which was stuck at a place
of its own: at every head of every chunk, and once more in the text as a whole. One error is kept.
It says which text was left and in which type, and this is the place of one attempt: a chain of
properties leads from the root through the text in front of it, and there no property matches what
is left.

The error that a search keeps is that of its first alternative, or its own if there is none. So what
is proved of the errors of the alternatives holds of the error that is kept, however many attempts
were made after it. The entities on the way to it stay known in the meantime.

## Main definitions

* `Approach`: how a chain of properties leads to a place in a text
* `Stuck`: why a text cannot be read any further in a type
* `PathError.Locates`: what an error says about its source

## Main results

* `failsWith_resolvePath`: the error of a path names its source text
* `rejects_resolveChunk`, `rejects_resolvePath`: the place where a text is stuck
* `TypeSource.locates_of_resolvePath`: the error of a registry locates the failure
-/

namespace DerivedQuery

open Text Metadata

variable {σ : Type}

/-! ## The source text of an error -/

section Paths

variable (metadata : Metadata σ)

/-- The errors of a chunk name the source text. -/
theorem failsWith_resolveChunk (source : String) (chunk : List Char) (type : String) :
    FailsWith (fun error : PathError => error.sourcePath = source)
      (resolveChunk metadata source chunk type) := by
  induction hLength : chunk.length using Nat.strongRecOn generalizing chunk type with
  | ind length ih =>
      intro state error after hRead
      rw [resolveChunk] at hRead
      split at hRead
      · simp only [Prod.mk.injEq, Except.error.injEq] at hRead
        rw [← hRead.1]
      · split at hRead
        · simp only [Prod.mk.injEq, Except.error.injEq] at hRead
          rw [← hRead.1]
        · split at hRead
          · simp at hRead
          · refine failsWith_firstSuccess (Q := fun error : PathError => error.sourcePath = source)
              (failsWith_error rfl) (namedHeads _ chunk) ?_ _ error after hRead
            intro head _ later cause final hHead
            dsimp only at hHead
            split at hHead
            · rename_i hRest
              simp only [Prod.mk.injEq, Except.error.injEq] at hHead
              rw [← hHead.1]
              exact ih _ (hLength ▸ head.1.right_length_lt) head.1.right head.2.actualType rfl
                later _ _ hRest
            · simp at hHead

private theorem failsWith_resolveChunks (source : String) (chunk : List Char)
    (more : List (List Char)) (type : String) :
    FailsWith (fun error : PathError => error.sourcePath = source)
      (resolveChunks metadata source chunk more type) := by
  induction more generalizing chunk type with
  | nil =>
      cases chunk with
      | nil => exact failsWith_error rfl
      | cons c rest => exact failsWith_resolveChunk metadata source (c :: rest) type
  | cons next others ih =>
      cases chunk with
      | nil => exact failsWith_error rfl
      | cons c rest =>
          intro state error after hRead
          simp only [resolveChunks] at hRead
          split at hRead
          · rename_i hFirst
            simp only [Prod.mk.injEq, Except.error.injEq] at hRead
            rw [← hRead.1]
            exact failsWith_resolveChunk metadata source (c :: rest) type state _ _ hFirst
          · rename_i path between _
            split at hRead
            · rename_i hRest
              simp only [Prod.mk.injEq, Except.error.injEq] at hRead
              rw [← hRead.1]
              exact ih next path.leafType between _ _ hRest
            · simp at hRead

/-- The error of a path that does not resolve names its source text. -/
theorem failsWith_resolvePath (separator : Char) (source : List Char) (root : String) :
    FailsWith (fun error : PathError => error.sourcePath = String.ofList source)
      (resolvePath metadata separator source root) := by
  have hDivided : FailsWith (fun error : PathError => error.sourcePath = String.ofList source)
      fun state => resolveChunks metadata (String.ofList source)
        (chunks (endsChunk separator) source).1 (chunks (endsChunk separator) source).2 root state :=
    failsWith_resolveChunks metadata _ _ _ root
  intro state error after hRead
  unfold resolvePath at hRead
  dsimp only at hRead
  split at hRead
  · exact failsWith_firstSuccess (failsWith_resolveChunk metadata _ source root) [()]
      (fun _ _ => hDivided) state error after hRead
  · exact hDivided state error after hRead

end Paths

/-! ## Places in a text -/

/-- A chain of properties leads through the text in front of a place, from the root to the type in
which the text behind it is looked up. The chain ends at the place, where a word starts, or at the
separator in front of it; it may be empty. -/
inductive Approach (isSeparator : Char → Bool) (Offers : String → Entity → Prop) (root : String)
    (behind : List Char) : List Char → String → Prop
  | root : Approach isSeparator Offers root behind [] root
  | adjacent {front : List Char} {path : PropertyPath}
      (reading : Reading isSeparator Offers root front path.nodes)
      (opens : opensWord behind = true) :
      Approach isSeparator Offers root behind front path.leafType
  | separated {front : List Char} {path : PropertyPath} {separator : Char}
      (reading : Reading isSeparator Offers root front path.nodes)
      (ends : isSeparator separator = true) :
      Approach isSeparator Offers root behind (front ++ [separator]) path.leafType

section Approach

variable {isSeparator : Char → Bool} {Offers Other : String → Entity → Prop}
  {type final : String} {behind front : List Char}

theorem Approach.mono {allowed : Char → Bool}
    (hMore : ∀ c, isSeparator c = true → allowed c = true)
    (hOffers : ∀ type entity, Offers type entity → Other type entity)
    (hApproach : Approach isSeparator Offers type behind front final) :
    Approach allowed Other type behind front final := by
  cases hApproach with
  | root => exact .root
  | adjacent hReading hOpens => exact .adjacent (hReading.mono hMore hOffers) hOpens
  | separated hReading hSeparator =>
      exact .separated (hReading.mono hMore hOffers) (hMore _ hSeparator)

/-- The beginning of a text that starts a word starts the same word. -/
theorem opensWord_of_append {left rest : List Char} (hLeft : left ≠ [])
    (hOpens : opensWord (left ++ rest) = true) : opensWord left = true := by
  obtain ⟨c, more, rfl⟩ := List.exists_cons_of_ne_nil hLeft
  simpa [opensWord] using hOpens

/-- A head that names a property, in front of a reading of the beginning of what is behind it. -/
theorem Reading.of_head {text back : List Char} {entity : Entity} {property : Property}
    {nodes : List PathNode} (cut : Cut text) (hEntity : Offers type entity)
    (hLookup : entity.lookup? cut.left = some property) (hRight : cut.right = front ++ back)
    (hReading : Reading isSeparator Offers property.actualType front nodes) :
    Reading isSeparator Offers type (cut.left ++ front)
      (⟨property, String.ofList cut.left, type⟩ :: nodes) := by
  let head : Cut (cut.left ++ front) :=
    { left := cut.left
      gap := []
      right := front
      joined := rfl
      left_ne_nil := cut.left_ne_nil
      right_opens := opensWord_of_append hReading.composed.text_ne_nil (hRight ▸ cut.right_opens) }
  exact Reading.of_cut head rfl hEntity hLookup hReading

/-- A head that names a property, in front of a place in what is behind it. -/
theorem Approach.of_head {text : List Char} {entity : Entity} {property : Property} (cut : Cut text)
    (hEntity : Offers type entity) (hLookup : entity.lookup? cut.left = some property)
    (hRight : cut.right = front ++ behind)
    (hApproach : Approach isSeparator Offers property.actualType behind front final) :
    Approach isSeparator Offers type behind (cut.left ++ front) final := by
  cases hApproach with
  | root =>
      rw [List.append_nil]
      have hOpens := cut.right_opens
      rw [hRight, List.nil_append] at hOpens
      have hHead : Reading isSeparator Offers type cut.left
          (PropertyPath.single ⟨property, String.ofList cut.left, type⟩).nodes :=
        reading_single cut.left_ne_nil hEntity hLookup
      exact .adjacent hHead hOpens
  | @adjacent _ path hReading hOpens =>
      have hWhole := hReading.of_head cut hEntity hLookup hRight
      rw [← path.leafType_cons ⟨property, String.ofList cut.left, type⟩]
      exact .adjacent hWhole hOpens
  | @separated front path separator hReading hSeparator =>
      rw [List.append_assoc] at hRight
      have hWhole := hReading.of_head cut hEntity hLookup hRight
      rw [← path.leafType_cons ⟨property, String.ofList cut.left, type⟩, ← List.append_assoc]
      exact .separated hWhole hSeparator

/-- A text that is read as a path, in front of a separator and a place behind it. -/
theorem Approach.of_chunk {chunk : List Char} {path : PropertyPath} {separator : Char}
    (hReading : Reading isSeparator Offers type chunk path.nodes)
    (hSeparator : isSeparator separator = true)
    (hApproach : Approach isSeparator Offers path.leafType behind front final) :
    Approach isSeparator Offers type behind (chunk ++ separator :: front) final := by
  cases hApproach with
  | root => exact .separated hReading hSeparator
  | @adjacent _ second hSecond hOpens =>
      rw [← path.leafType_append second]
      exact .adjacent (hReading.append hSeparator hSecond) hOpens
  | @separated back second _ hSecond hInside =>
      rw [← path.leafType_append second, ← List.cons_append, ← List.append_assoc]
      exact .separated (hReading.append hSeparator hSecond) hInside

end Approach

/-! ## Texts that are stuck -/

section Stuck

variable {metadata : Metadata σ} {start : σ}

/-- No property of the entity is named by the text, nor by a head of it that ends before a capital. -/
def Entity.Unmatched (entity : Entity) (text : List Char) : Prop :=
  entity.lookup? text = none ∧
    ∀ head rest, text = head ++ rest → head ≠ [] → opensWord rest = true → entity.lookup? head = none

/-- Why a text cannot be read any further in a type, and the cause that is given for it. The last
state is one that is reached by requests from the first one. -/
inductive Stuck (metadata : Metadata σ) (start : σ) (type : String) (text : List Char) :
    Option MetadataError → σ → Prop
  | empty {after : σ} (empty : text = []) : Stuck metadata start type text none after
  | terminal {after : σ} (terminal : metadata.isTerminal type = true) :
      Stuck metadata start type text none after
  | failed {before between after : σ} {cause : MetadataError}
      (leads : metadata.Leads start before)
      (answer : metadata.entityFor type before = (.error cause, between))
      (behind : metadata.Leads between after) : Stuck metadata start type text (some cause) after
  | unmatched {after : σ} {entity : Entity} (known : metadata.Knows after type entity)
      (unmatched : entity.Unmatched text) : Stuck metadata start type text none after

theorem Stuck.of_leads (hRemembers : metadata.Remembers) {type : String} {text : List Char}
    {cause : Option MetadataError} {before after : σ} (hLeads : metadata.Leads before after)
    (hStuck : Stuck metadata start type text cause before) :
    Stuck metadata start type text cause after := by
  cases hStuck with
  | empty hEmpty => exact .empty hEmpty
  | terminal hTerminal => exact .terminal hTerminal
  | failed hBefore hAnswer hAfter => exact .failed hBefore hAnswer (hAfter.trans hLeads)
  | unmatched hKnows hUnmatched =>
      exact .unmatched (hRemembers.knows_of_leads hLeads hKnows) hUnmatched

/-- A chunk of which no head names a property. -/
theorem unmatched_of_namedHeads {entity : Entity} {chunk : List Char}
    (hLookup : entity.lookup? chunk = none) (hHeads : namedHeads entity chunk = []) :
    entity.Unmatched chunk := by
  refine ⟨hLookup, fun head rest hText hHead hRest => ?_⟩
  let cut : Cut chunk :=
    { left := head
      gap := []
      right := rest
      joined := hText.symm
      left_ne_nil := hHead
      right_opens := hRest }
  cases hFound : entity.lookup? head with
  | none => rfl
  | some property =>
      have hMem : (cut, property) ∈ namedHeads entity chunk := mem_namedHeads rfl hFound
      rw [hHeads] at hMem
      exact absurd hMem List.not_mem_nil

/-- The error names a place in the text at which it is stuck. What is behind the text that is left
starts with a separator. -/
structure Located (isSeparator : Char → Bool) (metadata : Metadata σ) (start : σ) (type : String)
    (text : List Char) (error : PathError) (after : σ) : Prop where
  place : ∃ front back, text = front ++ (error.unresolved.toList ++ back) ∧
    back.head?.all isSeparator = true ∧
    Approach isSeparator (metadata.Knows after) type error.unresolved.toList front error.typeName
  stuck : Stuck metadata start error.typeName error.unresolved.toList error.cause after

variable {isSeparator : Char → Bool} {type : String} {text : List Char} {error : PathError}
  {before after : σ}

private theorem stable_located (hRemembers : metadata.Remembers) :
    metadata.Stable (Located isSeparator metadata start type text) := by
  intro error before after hLeads hLocated
  obtain ⟨front, back, hText, hBack, hApproach⟩ := hLocated.place
  exact ⟨⟨front, back, hText, hBack,
    hApproach.mono (fun _ => id) fun _ _ => hRemembers.knows_of_leads hLeads⟩,
    hLocated.stuck.of_leads hRemembers hLeads⟩

/-- The text is stuck where it begins. -/
theorem located_of_stuck {source : String} {cause : Option MetadataError}
    (hStuck : Stuck metadata start type text cause after) :
    Located isSeparator metadata start type text
      { sourcePath := source, unresolved := String.ofList text, typeName := type, cause } after where
  place := ⟨[], [], by simp, rfl, .root⟩
  stuck := by
    dsimp only
    rw [String.toList_ofList]
    exact hStuck

/-- Behind a head that names a property. -/
theorem Located.of_head {entity : Entity} {property : Property} (cut : Cut text)
    (hGap : cut.gap = []) (hKnows : metadata.Knows after type entity)
    (hLookup : entity.lookup? cut.left = some property)
    (hLocated : Located (fun _ => false) metadata start property.actualType cut.right error after) :
    Located (fun _ => false) metadata start type text error after := by
  obtain ⟨front, back, hRight, hBack, hApproach⟩ := hLocated.place
  -- there are no separators, so nothing is left behind the text that is stuck
  obtain rfl : back = [] := by simpa using hBack
  have hText := cut.joined
  rw [List.append_nil] at hRight
  rw [hGap, List.nil_append, hRight, ← List.append_assoc] at hText
  exact ⟨⟨cut.left ++ front, [], by rw [List.append_nil, hText], rfl,
    hApproach.of_head cut hKnows hLookup hRight⟩, hLocated.stuck⟩

/-- In the first chunk of a text. -/
theorem Located.of_first {chunk back : List Char} (hBack : back.head?.all isSeparator = true)
    (hLocated : Located (fun _ => false) metadata start type chunk error after) :
    Located isSeparator metadata start type (chunk ++ back) error after := by
  obtain ⟨front, rest, hChunk, hRest, hApproach⟩ := hLocated.place
  obtain rfl : rest = [] := by simpa using hRest
  rw [List.append_nil] at hChunk
  exact ⟨⟨front, back, by rw [hChunk, List.append_assoc], hBack,
    hApproach.mono (by simp) fun _ _ => id⟩, hLocated.stuck⟩

/-- Behind a chunk that was read. -/
theorem Located.of_chunk {chunk : List Char} {path : PropertyPath} {separator : Char}
    (hReading : Reading isSeparator (metadata.Knows after) type chunk path.nodes)
    (hSeparator : isSeparator separator = true)
    (hLocated : Located isSeparator metadata start path.leafType text error after) :
    Located isSeparator metadata start type (chunk ++ separator :: text) error after := by
  obtain ⟨front, back, hText, hBack, hApproach⟩ := hLocated.place
  refine ⟨⟨chunk ++ separator :: front, back, ?_, hBack, hApproach.of_chunk hReading hSeparator⟩,
    hLocated.stuck⟩
  rw [hText, List.append_assoc, List.cons_append]

/-! ## The error that is kept -/

/-- Behind a head that names a property. -/
theorem rejects_resolveHead (hRemembers : metadata.Remembers) {source : String} {chunk : List Char}
    {entity : Entity} (hKnows : metadata.Knows after type entity)
    (hAfter : metadata.Leads start after) {head : Cut chunk × Property}
    (hHead : head ∈ namedHeads entity chunk)
    (hRest : metadata.Rejects start
      (Located (fun _ => false) metadata start head.2.actualType head.1.right)
      (resolveChunk metadata source head.1.right head.2.actualType)) :
    metadata.Rejects after (Located (fun _ => false) metadata start type chunk)
      (resolveHead metadata source type head) := by
  obtain ⟨hGap, hLookup⟩ := of_mem_namedHeads hHead
  intro later hLater
  unfold resolveHead
  split
  · rename_i error final hRead
    obtain ⟨hLeads, hError⟩ := hRest.of_eq (hAfter.trans hLater) hRead
    refine ⟨hLeads, fun kept hKept => ?_⟩
    rw [← Except.error.inj hKept]
    have hFinal := hRemembers.knows_of_leads (hLater.trans hLeads) hKnows
    exact (hError error rfl).of_head head.1 hGap hFinal hLookup
  · rename_i hRead
    exact ⟨(hRest.of_eq (hAfter.trans hLater) hRead).1, by simp⟩

/-- If all heads of a chunk fail, the chunk is stuck behind the first one of them, or where it begins
if there are none. -/
theorem rejects_heads (hRemembers : metadata.Remembers) (source : String) {chunk : List Char}
    {entity : Entity} (hKnows : metadata.Knows after type entity)
    (hLookup : entity.lookup? chunk = none) (hAfter : metadata.Leads start after)
    (hHeads : ∀ head ∈ namedHeads entity chunk, metadata.Rejects start
      (Located (fun _ => false) metadata start head.2.actualType head.1.right)
      (resolveChunk metadata source head.1.right head.2.actualType)) :
    metadata.Rejects after (Located (fun _ => false) metadata start type chunk)
      (firstSuccess (resolveHead metadata source type)
        (fun final => (.error
          { sourcePath := source, unresolved := String.ofList chunk, typeName := type }, final))
        (namedHeads entity chunk)) := by
  apply rejects_firstSuccess (stable_located hRemembers)
  · refine rejects_error fun later hLater hNone => located_of_stuck ?_
    exact .unmatched (hRemembers.knows_of_leads hLater hKnows)
      (unmatched_of_namedHeads hLookup hNone)
  · intro head hHead
    exact rejects_resolveHead hRemembers hKnows hAfter hHead (hHeads head hHead)

/-- **A chunk that is not resolved is stuck** at the place that the error names. -/
theorem rejects_resolveChunk (hRemembers : metadata.Remembers) (start : σ) (source : String)
    (chunk : List Char) (type : String) :
    metadata.Rejects start (Located (fun _ => false) metadata start type chunk)
      (resolveChunk metadata source chunk type) := by
  induction hLength : chunk.length using Nat.strongRecOn generalizing chunk type with
  | ind length ih =>
      intro later hLater
      have hRequest : metadata.Leads later (metadata.entityFor type later).2 := .entityFor type later
      cases hTerminal : metadata.isTerminal type with
      | true =>
          rw [resolveChunk, if_pos hTerminal]
          refine ⟨.refl later, fun error hError => ?_⟩
          rw [← Except.error.inj hError]
          exact located_of_stuck (.terminal hTerminal)
      | false =>
          rcases hAnswer : metadata.entityFor type later with ⟨cause | entity, after⟩
          · rw [hAnswer] at hRequest
            rw [resolveChunk, if_neg (by simp [hTerminal]), hAnswer]
            refine ⟨hRequest, fun error hError => ?_⟩
            rw [← Except.error.inj hError]
            exact located_of_stuck (.failed hLater hAnswer (.refl after))
          · rw [hAnswer] at hRequest
            have hKnows := hRemembers.learns hTerminal hAnswer
            cases hLookup : entity.lookup? chunk with
            | some property =>
                rw [resolveChunk, if_neg (by simp [hTerminal]), hAnswer]
                simp only [hLookup]
                exact ⟨hRequest, by simp⟩
            | none =>
                rw [resolveChunk_of_lookup?_eq_none hTerminal hAnswer hLookup]
                have hSearch := rejects_heads hRemembers source hKnows hLookup
                  (hLater.trans hRequest) fun head _ => ih _ (hLength ▸ head.1.right_length_lt)
                    head.1.right head.2.actualType rfl
                obtain ⟨hLeads, hError⟩ := hSearch after (.refl after)
                exact ⟨hRequest.trans hLeads, hError⟩

/-- Chunks of which one is not resolved. -/
theorem rejects_resolveChunks (hRemembers : metadata.Remembers) (start : σ) (source : String)
    {chunk : List Char} {more : List (List Char)} (hText : Joins isSeparator chunk more text)
    (type : String) :
    metadata.Rejects start (Located isSeparator metadata start type text)
      (resolveChunks metadata source chunk more type) := by
  induction hText generalizing type with
  | last chunk =>
      cases chunk with
      | nil => exact rejects_error fun later _ => located_of_stuck (.empty rfl)
      | cons c rest =>
          intro later hLater
          obtain ⟨hLeads, hError⟩ :=
            rejects_resolveChunk hRemembers start source (c :: rest) type later hLater
          refine ⟨hLeads, fun error hFail => ?_⟩
          have hFirst : Located isSeparator metadata start type (c :: rest ++ []) error _ :=
            (hError error hFail).of_first rfl
          rw [List.append_nil] at hFirst
          exact hFirst
  | @cons chunk next text more separator hSeparator hMore ih =>
      cases chunk with
      | nil =>
          refine rejects_error fun later _ => ?_
          have hEmpty : Located (fun _ => false) metadata start type []
              { sourcePath := source, unresolved := "", typeName := type } later :=
            located_of_stuck (.empty rfl)
          exact hEmpty.of_first (by simpa using hSeparator)
      | cons c rest =>
          intro later hLater
          have hChunk := rejects_resolveChunk hRemembers start source (c :: rest) type
          have hReads := reads_resolveChunk hRemembers source (List.cons_ne_nil c rest) type
          unfold resolveChunks
          split
          · rename_i error after hRead
            obtain ⟨hLeads, hError⟩ := hChunk.of_eq hLater hRead
            refine ⟨hLeads, fun kept hKept => ?_⟩
            rw [← Except.error.inj hKept]
            exact (hError error rfl).of_first (by simpa using hSeparator)
          · rename_i path between hRead
            obtain ⟨hLeads, hReading⟩ := hReads.of_eq hRead
            split
            · rename_i error final hRest
              obtain ⟨hBehind, hError⟩ := (ih path.leafType).of_eq (hLater.trans hLeads) hRest
              refine ⟨hLeads.trans hBehind, fun kept hKept => ?_⟩
              rw [← Except.error.inj hKept]
              have hKept := (hReading path rfl).of_leads hRemembers hBehind
              exact (hError error rfl).of_chunk (hKept.mono (by simp) fun _ _ => id) hSeparator
            · rename_i hRest
              exact ⟨hLeads.trans ((ih path.leafType).of_eq (hLater.trans hLeads) hRest).1, by simp⟩

/-- **A text that is not resolved is stuck** at the place that the error names. The attempt to read it
as one chunk leaves no trace in the error. -/
theorem rejects_resolvePath (hRemembers : metadata.Remembers) (start : σ) (separator : Char)
    (source : List Char) (root : String) :
    metadata.Rejects start (Located (endsChunk separator) metadata start root source)
      (resolvePath metadata separator source root) := by
  have hDivided : metadata.Rejects start (Located (endsChunk separator) metadata start root source)
      fun state => resolveChunks metadata (String.ofList source)
        (chunks (endsChunk separator) source).1 (chunks (endsChunk separator) source).2 root state :=
    rejects_resolveChunks hRemembers start _ (joins_chunks (endsChunk separator) source) root
  unfold resolvePath
  dsimp only
  split
  · refine rejects_firstSuccess (stable_located hRemembers) (fun later hLater => ?_)
      fun _ _ => hDivided
    obtain ⟨hLeads, _⟩ := rejects_resolveChunk hRemembers start (String.ofList source) source root
      later hLater
    exact ⟨hLeads, by simp⟩
  · exact hDivided

end Stuck

/-! ## What an error says about its source -/

/-- The error quotes the source. A chain of properties leads from the root through the text in front
of what is left, to the type in which it was looked up, and the text that is left is stuck there. It
ends with the source or in front of a separator. -/
structure PathError.Locates (error : PathError) (metadata : Metadata σ) (separator : Char)
    (root : String) (source : List Char) (start after : σ) : Prop where
  quoted : error.sourcePath = String.ofList source
  place : ∃ front back, source = front ++ (error.unresolved.toList ++ back) ∧
    back.head?.all (endsChunk separator) = true ∧
    Approach (endsChunk separator) (metadata.Knows after) root error.unresolved.toList front
      error.typeName
  stuck : Stuck metadata start error.typeName error.unresolved.toList error.cause after

/-- **The error of a path locates the failure.** This holds of every registry, whatever has been
asked of it before. -/
theorem TypeSource.locates_of_resolvePath (source : TypeSource) (budget : Nat) {separator : Char}
    {text : List Char} {root : String} {state after : Registry.State} {error : PathError}
    (hError : resolvePath (source.metadata budget) separator text root state =
      (.error error, after)) :
    error.Locates (source.metadata budget) separator root text state after := by
  have hRejects := rejects_resolvePath (remembers source budget) state separator text root
  obtain ⟨hPlace, hStuck⟩ := (hRejects.of_eq (.refl state) hError).2 error rfl
  exact ⟨failsWith_resolvePath _ separator text root state error after hError, hPlace, hStuck⟩

/-- The chunk in front of the separator is stuck behind the longest head that names a property. -/
theorem locates_contacts : ∃ after,
    resolvePath contacts.metadata '$' "AddressBookPages$Rest".toList "Person" {} =
      (.error { sourcePath := "AddressBookPages$Rest", unresolved := "Pages", typeName := "Book" },
        after) ∧
    PathError.Locates
      { sourcePath := "AddressBookPages$Rest", unresolved := "Pages", typeName := "Book" }
      contacts.metadata '$' "Person" "AddressBookPages$Rest".toList {} after := by
  have hError : (resolvePath contacts.metadata '$' "AddressBookPages$Rest".toList "Person" {}).1 =
      .error { sourcePath := "AddressBookPages$Rest", unresolved := "Pages", typeName := "Book" } := by
    decide +kernel
  obtain ⟨after, hPath⟩ := exists_of_fst_eq hError
  exact ⟨after, hPath, TypeSource.locates_of_resolvePath contacts.source contacts.budget hPath⟩

end DerivedQuery
