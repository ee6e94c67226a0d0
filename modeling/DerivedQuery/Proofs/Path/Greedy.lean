import DerivedQuery.Proofs.Path.Resolution
import DerivedQuery.Proofs.Registry.Closure

/-!
# The greedy search for a reading

If the source of metadata is steady, resolving a chunk has one value, which `readChunk?` computes
from the entities alone. It tries the whole chunk and then its heads, longest first, and takes the
first one behind which something can be read.

The search is complete, although it never goes back to a shorter head once a longer one has led to a
path: it finds a reading if there is one. What it finds has the longest first segment of all
readings, and among those that share it the longest second segment, and so on. So the lengths of the
segments, as a list, are lexicographically greater than those of any other reading.

Both facts are proved together, by induction on a reading of the chunk: the head of this reading is
one of those that are tried, so the search ends there or at a longer one.

## Main definitions

* `readChunk?`: what a chunk is read as
* `segmentLengths`: what readings are compared by
* `Metadata.Offers`: the entities that a source gives in a state

## Main results

* `yields_resolveChunk`, `yields_resolvePath`: a steady source always resolves a text to the same path
* `exists_readChunk?_of_reading`: the search finds the greatest reading
* `resolvePath_exact`: a text without separators resolves to its greatest reading
-/

namespace DerivedQuery

open Text Metadata

/-! ## What a chunk is read as -/

/-- The path that a chunk is read as, with these entities of types. -/
def readChunk? (entityOf? : String → Option Entity) (chunk : List Char) (type : String) :
    Option PropertyPath :=
  match entityOf? type with
  | none => none
  | some entity =>
      match entity.lookup? chunk with
      | some property => some (.single ⟨property, String.ofList chunk, type⟩)
      | none =>
          (namedHeads entity chunk).findSome? fun head =>
            (readChunk? entityOf? head.1.right head.2.actualType).map
              (·.cons ⟨head.2, String.ofList head.1.left, type⟩)
termination_by chunk.length
decreasing_by exact head.1.right_length_lt

section ReadChunk

variable {entityOf? : String → Option Entity} {entity : Entity} {chunk : List Char} {type : String}

private theorem readChunk?_of_none (hEntity : entityOf? type = none) :
    readChunk? entityOf? chunk type = none := by
  rw [readChunk?, hEntity]

private theorem readChunk?_of_lookup? (hEntity : entityOf? type = some entity) {property : Property}
    (hLookup : entity.lookup? chunk = some property) :
    readChunk? entityOf? chunk type = some (.single ⟨property, String.ofList chunk, type⟩) := by
  rw [readChunk?, hEntity]
  dsimp only
  rw [hLookup]

private theorem readChunk?_of_lookup?_eq_none (hEntity : entityOf? type = some entity)
    (hLookup : entity.lookup? chunk = none) :
    readChunk? entityOf? chunk type =
      (namedHeads entity chunk).findSome? fun head =>
        (readChunk? entityOf? head.1.right head.2.actualType).map
          (·.cons ⟨head.2, String.ofList head.1.left, type⟩) := by
  rw [readChunk?, hEntity]
  dsimp only
  rw [hLookup]

end ReadChunk

/-! ## The search finds the greatest reading -/

/-- The lengths of the segments, in bytes. -/
def segmentLengths (nodes : List PathNode) : List Nat :=
  nodes.map fun node => byteLength node.segment.toList

section Greatest

variable {entityOf? : String → Option Entity} {chunk : List Char} {type : String}

/-- What is found is a reading. -/
theorem reading_of_readChunk? (hChunk : chunk ≠ []) {path : PropertyPath}
    (hPath : readChunk? entityOf? chunk type = some path) :
    Reading (fun _ => false) (fun type entity => entityOf? type = some entity) type chunk
      path.nodes := by
  induction hLength : chunk.length using Nat.strongRecOn generalizing chunk type path with
  | ind length ih =>
      cases hEntity : entityOf? type with
      | none =>
          rw [readChunk?_of_none hEntity] at hPath
          simp at hPath
      | some entity =>
          cases hLookup : entity.lookup? chunk with
          | some property =>
              rw [readChunk?_of_lookup? hEntity hLookup, Option.some.injEq] at hPath
              rw [← hPath]
              exact reading_single hChunk hEntity hLookup
          | none =>
              rw [readChunk?_of_lookup?_eq_none hEntity hLookup] at hPath
              obtain ⟨head, hHead, hSome⟩ := List.exists_of_findSome?_eq_some hPath
              obtain ⟨rest, hRest, rfl⟩ := Option.map_eq_some_iff.mp hSome
              obtain ⟨hGap, hLeft⟩ := of_mem_namedHeads hHead
              have hBehind := ih _ (hLength ▸ head.1.right_length_lt)
                (ne_nil_of_opensWord head.1.right_opens) hRest rfl
              exact Reading.of_cut head.1 hGap hEntity hLeft hBehind

/-- Longer heads come first. -/
theorem pairwise_namedHeads (entity : Entity) (chunk : List Char) :
    (namedHeads entity chunk).Pairwise fun first second =>
      second.1.left.length ≤ first.1.left.length := by
  rw [namedHeads, List.pairwise_filterMap]
  apply (List.pairwise_reverse.mpr (pairwise_cuts capitalGaps chunk)).imp
  intro first second hOrder head hHead other hOther
  obtain ⟨_, _, rfl⟩ := Option.map_eq_some_iff.mp hHead
  obtain ⟨_, _, rfl⟩ := Option.map_eq_some_iff.mp hOther
  exact hOrder

/-- A head is given by the length of its left part. -/
theorem eq_of_mem_namedHeads {entity : Entity} {first second : Cut chunk × Property}
    (hFirst : first ∈ namedHeads entity chunk) (hSecond : second ∈ namedHeads entity chunk)
    (hLength : first.1.left.length = second.1.left.length) : first = second := by
  obtain ⟨⟨left, gap, right, hJoined, hNonempty, hOpens⟩, property⟩ := first
  obtain ⟨⟨otherLeft, otherGap, otherRight, hOther, hOtherNonempty, hOtherOpens⟩, other⟩ := second
  obtain ⟨hGap, hLookup⟩ := of_mem_namedHeads hFirst
  obtain ⟨hOtherGap, hOtherLookup⟩ := of_mem_namedHeads hSecond
  dsimp only at hLength hGap hLookup hOtherGap hOtherLookup
  subst hGap hOtherGap
  have hText : left ++ ([] ++ right) = otherLeft ++ ([] ++ otherRight) := by rw [hJoined, hOther]
  obtain ⟨rfl, hRight⟩ := List.append_inj hText hLength
  obtain rfl : right = otherRight := hRight
  rw [hLookup, Option.some.injEq] at hOtherLookup
  rw [hOtherLookup]

/-- If one of the heads has a value, the search ends there or at a longer head. -/
theorem exists_winner {β : Type} {entity : Entity} {head : Cut chunk × Property}
    (hHead : head ∈ namedHeads entity chunk) {valueOf : Cut chunk × Property → Option β}
    (hValue : (valueOf head).isSome = true) :
    ∃ winner ∈ namedHeads entity chunk, ∃ value,
      (namedHeads entity chunk).findSome? valueOf = some value ∧ valueOf winner = some value ∧
        head.1.left.length ≤ winner.1.left.length := by
  obtain ⟨value, hFound⟩ :=
    Option.isSome_iff_exists.mp (List.findSome?_isSome_iff.mpr ⟨head, hHead, hValue⟩)
  obtain ⟨before, winner, after, hHeads, hWinner, hBefore⟩ := List.findSome?_eq_some_iff.mp hFound
  have hOrder := pairwise_namedHeads entity chunk
  rw [hHeads] at hOrder
  have hBehind : head ∈ winner :: after := by
    rw [hHeads] at hHead
    refine (List.mem_append.mp hHead).resolve_left fun hMem => ?_
    rw [hBefore head hMem] at hValue
    simp at hValue
  refine ⟨winner, ?_, value, hFound, hWinner, ?_⟩
  · rw [hHeads]
    exact List.mem_append_right before List.mem_cons_self
  · rcases List.mem_cons.mp hBehind with rfl | hAfter
    · exact Nat.le_refl _
    · exact List.rel_of_pairwise_cons (List.pairwise_append.mp hOrder).2.1 hAfter

/-- A reading that starts with one of the heads, compared with what the search finds. -/
theorem greatest_of_head {entity : Entity} (hEntity : entityOf? type = some entity)
    (hLookup : entity.lookup? chunk = none) {head : Cut chunk × Property}
    (hHead : head ∈ namedHeads entity chunk) {behind : PropertyPath} {rest : List PathNode}
    (hBehind : readChunk? entityOf? head.1.right head.2.actualType = some behind)
    (hRest : rest = behind.nodes ∨ segmentLengths rest < segmentLengths behind.nodes) :
    ∃ path, readChunk? entityOf? chunk type = some path ∧
      (⟨head.2, String.ofList head.1.left, type⟩ :: rest = path.nodes ∨
        segmentLengths (⟨head.2, String.ofList head.1.left, type⟩ :: rest) <
          segmentLengths path.nodes) := by
  let valueOf := fun head : Cut chunk × Property =>
    (readChunk? entityOf? head.1.right head.2.actualType).map
      (·.cons ⟨head.2, String.ofList head.1.left, type⟩)
  have hHere : valueOf head = some (behind.cons ⟨head.2, String.ofList head.1.left, type⟩) := by
    simp only [valueOf, hBehind, Option.map_some]
  obtain ⟨winner, hMem, path, hFound, hWinner, hLength⟩ :=
    exists_winner hHead (show (valueOf head).isSome = true by rw [hHere]; rfl)
  refine ⟨path, by rw [readChunk?_of_lookup?_eq_none hEntity hLookup]; exact hFound, ?_⟩
  rcases Nat.lt_or_eq_of_le hLength with hShorter | hSame
  · -- the search ends at a longer head
    obtain ⟨others, _, rfl⟩ := Option.map_eq_some_iff.mp hWinner
    have hText : head.1.left ++ (head.1.gap ++ head.1.right) =
        winner.1.left ++ (winner.1.gap ++ winner.1.right) := by
      rw [head.1.joined, winner.1.joined]
    have hBytes := byteLength_lt_of_length_lt hText hShorter
    right
    simp only [segmentLengths, PropertyPath.nodes_cons, List.map_cons, String.toList_ofList]
    exact List.cons_lt_cons_iff.mpr (Or.inl hBytes)
  · -- the search ends at this head
    obtain rfl := eq_of_mem_namedHeads hHead hMem hSame
    rw [hHere, Option.some.injEq] at hWinner
    rw [← hWinner, PropertyPath.nodes_cons]
    rcases hRest with rfl | hLess
    · exact Or.inl rfl
    · exact Or.inr (List.cons_lt_cons_iff.mpr (Or.inr ⟨rfl, hLess⟩))

/-- **The search finds a reading if there is one**, and unless the two are the same, the one that it
finds has the greater lengths. -/
theorem exists_readChunk?_of_reading {nodes : List PathNode}
    (hReading : Reading (fun _ => false) (fun type entity => entityOf? type = some entity) type
      chunk nodes) :
    ∃ path, readChunk? entityOf? chunk type = some path ∧
      (nodes = path.nodes ∨ segmentLengths nodes < segmentLengths path.nodes) := by
  induction nodes generalizing chunk type with
  | nil => exact absurd rfl hReading.composed.ne_nil
  | cons node rest ih =>
      obtain ⟨property, segment, rootType⟩ := node
      obtain ⟨⟨hRoot, ⟨entity, hEntity, hNode⟩, hRest⟩, hComposed⟩ := hReading
      dsimp only at hRoot hNode hRest
      subst hRoot
      cases rest with
      | nil =>
          -- the chunk as a whole names the property, and this is what is tried first
          cases hComposed with
          | single _ =>
              refine ⟨_, readChunk?_of_lookup? hEntity hNode, Or.inl ?_⟩
              rw [String.ofList_toList]
              rfl
      | cons next others =>
          cases hComposed with
          | separated _ hSeparator _ => simp at hSeparator
          | @adjacent _ _ text _ hSegment hOpens hText =>
              obtain ⟨behind, hBehind, hLater⟩ := ih ⟨hRest, hText⟩
              let cut : Cut (segment.toList ++ text) :=
                { left := segment.toList
                  gap := []
                  right := text
                  joined := rfl
                  left_ne_nil := hSegment
                  right_opens := by rw [hText.opensWord_eq]; exact hOpens }
              cases hLookup : entity.lookup? (segment.toList ++ text) with
              | some found =>
                  refine ⟨_, readChunk?_of_lookup? hEntity hLookup, Or.inr ?_⟩
                  have hBytes : byteLength segment.toList < byteLength (segment.toList ++ text) :=
                    byteLength_lt_of_length_lt (List.append_nil _).symm cut.left_length_lt
                  simp only [segmentLengths, PropertyPath.nodes, PropertyPath.single, List.map_cons,
                    List.map_nil, String.toList_ofList]
                  exact List.cons_lt_cons_iff.mpr (Or.inl hBytes)
              | none =>
                  have hHead : (cut, property) ∈ namedHeads entity (segment.toList ++ text) :=
                    mem_namedHeads rfl hNode
                  have hGreatest := greatest_of_head hEntity hLookup hHead hBehind hLater
                  simp only [cut, String.ofList_toList] at hGreatest
                  exact hGreatest

end Greatest

/-! ## What is resolved is what the search finds -/

section Steady

variable {σ : Type}

/-- The type is no leaf value, and a request for it in this state gives the entity. -/
def Metadata.Offers (metadata : Metadata σ) (state : σ) (type : String) (entity : Entity) : Prop :=
  metadata.isTerminal type = false ∧ (metadata.entityFor type state).1 = .ok entity

/-- The entity that is offered for a type. -/
def Metadata.offered? (metadata : Metadata σ) (state : σ) (type : String) : Option Entity :=
  if metadata.isTerminal type then none else (metadata.entityFor type state).1.toOption

variable {metadata : Metadata σ} {state : σ}

theorem Metadata.offered?_eq_some_iff {type : String} {entity : Entity} :
    metadata.offered? state type = some entity ↔ metadata.Offers state type entity := by
  cases hTerminal : metadata.isTerminal type <;>
    cases hResult : (metadata.entityFor type state).1 <;>
      simp [Metadata.offered?, Metadata.Offers, hTerminal, hResult, Except.toOption]

/-- What a chunk is resolved to is what the search finds among the entities on offer. -/
theorem yields_resolveChunk (hSteady : metadata.Steady state) (source : String) (chunk : List Char)
    (type : String) :
    metadata.Yields state (readChunk? (metadata.offered? state) chunk type)
      (resolveChunk metadata source chunk type) := by
  induction hLength : chunk.length using Nat.strongRecOn generalizing chunk type with
  | ind length ih =>
      have hAnswer := hSteady.yields_entityFor type
      intro later hLater
      cases hOffered : metadata.offered? state type with
      | none =>
          rw [readChunk?_of_none hOffered]
          cases hTerminal : metadata.isTerminal type with
          | true =>
              rw [resolveChunk, if_pos hTerminal]
              exact ⟨.refl later, rfl⟩
          | false =>
              have hEntity : (metadata.entityFor type state).1.toOption = none := by
                simpa [Metadata.offered?, hTerminal] using hOffered
              rw [hEntity] at hAnswer
              obtain ⟨cause, after, hResult, hLeads⟩ := hAnswer.fails hLater
              rw [resolveChunk, if_neg (by simp [hTerminal]), hResult]
              exact ⟨hLeads, rfl⟩
      | some entity =>
          obtain ⟨hTerminal, hEntity⟩ := Metadata.offered?_eq_some_iff.mp hOffered
          rw [hEntity] at hAnswer
          obtain ⟨after, hResult, hLeads⟩ := hAnswer.succeeds hLater
          rw [resolveChunk, if_neg (by simp [hTerminal]), hResult]
          cases hLookup : entity.lookup? chunk with
          | some property =>
              rw [readChunk?_of_lookup? hOffered hLookup]
              simp only [hLookup]
              exact ⟨hLeads, rfl⟩
          | none =>
              rw [readChunk?_of_lookup?_eq_none hOffered hLookup, ← Option.or_none (o := List.findSome? _ _)]
              simp only [hLookup]
              refine (yields_firstSuccess (yields_error state _) _ fun head _ => ?_).behind
                hLater hLeads
              intro before hBefore
              have hRest := ih _ (hLength ▸ head.1.right_length_lt) head.1.right
                head.2.actualType rfl
              rcases hRest.cases hBefore with
                ⟨path, final, hRead, hValue, hFinal⟩ | ⟨error, final, hRead, hValue, hFinal⟩
              · simp only [hRead, hValue]
                exact ⟨hFinal, rfl⟩
              · simp only [hRead, hValue]
                exact ⟨hFinal, rfl⟩

private theorem yields_resolveChunks (hSteady : metadata.Steady state) (source : String)
    (chunk : List Char) (more : List (List Char)) (type : String) :
    ∃ value, metadata.Yields state value (resolveChunks metadata source chunk more type) := by
  induction more generalizing chunk type with
  | nil =>
      cases chunk with
      | nil => exact ⟨none, yields_error state _⟩
      | cons c rest => exact ⟨_, yields_resolveChunk hSteady source (c :: rest) type⟩
  | cons next others ih =>
      cases chunk with
      | nil => exact ⟨none, yields_error state _⟩
      | cons c rest =>
          have hFirst := yields_resolveChunk hSteady source (c :: rest) type
          choose second hSecond using fun path : PropertyPath => ih next path.leafType
          refine ⟨(readChunk? (metadata.offered? state) (c :: rest) type).bind fun path =>
            (second path).map (path.append ·), fun later hLater => ?_⟩
          unfold resolveChunks
          rcases hFirst.cases hLater with
            ⟨path, after, hRead, hValue, hLeads⟩ | ⟨error, after, hRead, hValue, hLeads⟩
          · rcases (hSecond path).cases (hLater.trans hLeads) with
              ⟨rest, final, hMore, hFound, hFinal⟩ | ⟨error, final, hMore, hFound, hFinal⟩
            · simp only [hRead, hMore, hValue, Option.bind_some, hFound]
              exact ⟨hLeads.trans hFinal, rfl⟩
            · simp only [hRead, hMore, hValue, Option.bind_some, hFound]
              exact ⟨hLeads.trans hFinal, rfl⟩
          · simp only [hRead, hValue]
            exact ⟨hLeads, rfl⟩

/-- A steady source always resolves a text to the same path. -/
theorem yields_resolvePath (hSteady : metadata.Steady state) (separator : Char)
    (source : List Char) (root : String) :
    ∃ value, metadata.Yields state value (resolvePath metadata separator source root) := by
  obtain ⟨divided, hDivided⟩ := yields_resolveChunks hSteady (String.ofList source)
    (chunks (endsChunk separator) source).1 (chunks (endsChunk separator) source).2 root
  have hWhole := yields_resolveChunk hSteady (String.ofList source) source root
  unfold resolvePath
  dsimp only
  split
  · exact ⟨_, yields_firstSuccess hWhole [()] fun _ _ => hDivided⟩
  · exact ⟨divided, hDivided⟩

/-- A text without separators is one chunk. -/
theorem resolvePath_of_undivided {separator : Char} {source : List Char} (hSource : source ≠ [])
    (hUndivided : ∀ c ∈ source, endsChunk separator c = false) (root : String) (state : σ) :
    resolvePath metadata separator source root state =
      resolveChunk metadata (String.ofList source) source root state := by
  have hContains : source.contains separator = false := by
    rw [Bool.eq_false_iff]
    intro hMem
    have hEnds := hUndivided separator (by simpa using hMem)
    simp [endsChunk] at hEnds
  have hChunks : chunks (endsChunk separator) source = (source, []) := by
    have hAppend := chunks_append hUndivided []
    rw [List.append_nil] at hAppend
    rw [hAppend]
    simp [chunks]
  unfold resolvePath
  rw [hContains, hChunks]
  exact resolveChunks_singleton hSource _ _ _

/-- Such a text is resolved to what the search finds. -/
theorem exists_resolvePath_iff (hSteady : metadata.Steady state) {separator : Char}
    {source : List Char} (hSource : source ≠ [])
    (hUndivided : ∀ c ∈ source, endsChunk separator c = false) (root : String)
    (path : PropertyPath) :
    (∃ after, resolvePath metadata separator source root state = (.ok path, after)) ↔
      readChunk? (metadata.offered? state) source root = some path := by
  have hYields := yields_resolveChunk hSteady (String.ofList source) source root
  rw [resolvePath_of_undivided hSource hUndivided]
  constructor
  · rintro ⟨after, hPath⟩
    rw [← hYields.eq, hPath]
    rfl
  · intro hRead
    rw [hRead] at hYields
    obtain ⟨after, hPath, _⟩ := hYields.succeeds (.refl state)
    exact ⟨after, hPath⟩

/-- **The search is complete, and takes the greatest reading.** A text without separators is
resolved if and only if it has a reading from the root, cut in front of capitals. The path that is
returned is a reading, and the lengths of its segments are lexicographically greater than those of
any other. -/
theorem resolvePath_exact (hSteady : metadata.Steady state) {separator : Char} {source : List Char}
    (hSource : source ≠ []) (hUndivided : ∀ c ∈ source, endsChunk separator c = false)
    (root : String) :
    let IsReading := Reading (fun _ => false) (metadata.Offers state) root source
    ((∃ path after, resolvePath metadata separator source root state = (.ok path, after)) ↔
        ∃ nodes, IsReading nodes) ∧
      ∀ path after, resolvePath metadata separator source root state = (.ok path, after) →
        IsReading path.nodes ∧
          ∀ nodes, IsReading nodes →
            nodes = path.nodes ∨ segmentLengths nodes < segmentLengths path.nodes := by
  intro IsReading
  have hResolved := exists_resolvePath_iff hSteady hSource hUndivided root
  have hOffers : IsReading = Reading (fun _ => false)
      (fun type entity => metadata.offered? state type = some entity) root source := by
    simp only [IsReading, Metadata.offered?_eq_some_iff]
  have hFound : ∀ nodes, IsReading nodes →
      ∃ path, readChunk? (metadata.offered? state) source root = some path ∧
        (nodes = path.nodes ∨ segmentLengths nodes < segmentLengths path.nodes) := by
    intro nodes hReading
    rw [hOffers] at hReading
    exact exists_readChunk?_of_reading hReading
  have hIsReading : ∀ path after,
      resolvePath metadata separator source root state = (.ok path, after) →
        IsReading path.nodes := by
    intro path after hPath
    rw [hOffers]
    exact reading_of_readChunk? hSource ((hResolved path).mp ⟨after, hPath⟩)
  refine ⟨⟨?_, ?_⟩, fun path after hPath => ⟨hIsReading path after hPath, ?_⟩⟩
  · rintro ⟨path, after, hPath⟩
    exact ⟨path.nodes, hIsReading path after hPath⟩
  · rintro ⟨nodes, hReading⟩
    obtain ⟨path, hRead, _⟩ := hFound nodes hReading
    exact ⟨path, (hResolved path).mpr hRead⟩
  · intro nodes hReading
    obtain ⟨other, hOther, hLess⟩ := hFound nodes hReading
    rw [(hResolved path).mp ⟨after, hPath⟩, Option.some.injEq] at hOther
    rw [hOther]
    exact hLess

end Steady

theorem contacts_coherent : contacts.source.Coherent :=
  contacts.coherent_of_answers (by decide +kernel)

/-- `AddressBook` is a property of persons, but books have no titles, so the search returns to the
shorter head `Address`. -/
theorem resolvePath_exact_contacts : contacts.metadata.Steady {} ∧
    ∃ path after, resolvePath contacts.metadata '_' "AddressBookTitle".toList "Person" {} =
        (.ok path, after) ∧
      path.nodes.map (·.segment) = ["Address", "BookTitle"] ∧
      ∀ nodes, Reading (fun _ => false) (contacts.metadata.Offers {}) "Person"
          "AddressBookTitle".toList nodes →
        nodes = path.nodes ∨ segmentLengths nodes < [7, 9] := by
  have hSteady : contacts.metadata.Steady {} := Registry.steady_stateAfter _ _ [] contacts_coherent
  have hSegments : (resolvePath contacts.metadata '_' "AddressBookTitle".toList "Person"
      {}).1.toOption.map (fun path => (path.nodes.map (·.segment), segmentLengths path.nodes)) =
        some (["Address", "BookTitle"], [7, 9]) := by
    decide +kernel
  obtain ⟨path, after, hPath, hNodes⟩ := exists_of_toOption_map hSegments
  rw [Prod.mk.injEq] at hNodes
  have hUndivided : ∀ c ∈ "AddressBookTitle".toList, endsChunk '_' c = false := by
    have hAll : "AddressBookTitle".toList.all (!endsChunk '_' ·) = true := by decide
    simpa only [List.all_eq_true, Bool.not_eq_true'] using hAll
  have hExact := resolvePath_exact hSteady (by decide) hUndivided "Person"
  refine ⟨hSteady, path, after, hPath, hNodes.1, fun nodes hReading => ?_⟩
  rw [← hNodes.2]
  exact (hExact.2 path after hPath).2 nodes hReading

end DerivedQuery
