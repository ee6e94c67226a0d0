import DerivedQuery.Path.Resolution
import DerivedQuery.Proofs.Except
import DerivedQuery.Proofs.Registry.Metadata
import DerivedQuery.Proofs.Text.Cuts

/-!
# Readings of a source text

A *reading* accounts for a source text as a chain of steps. The text is composed of the segments of
the steps, in order; between two of them stands one separator, or nothing if the second one starts a
word. Each segment names a property of the type in which the step before it ended.

A path may come from its chunks, from the search inside of a chunk, or from the whole text when the
separator turns out to belong to a name, and each of these leaves attempts behind that led nowhere.
Whichever way was taken, what is returned is a reading of the source, and this is what every other
fact about resolved paths follows from.

## Main definitions

* `Composes`, `Named`, `Reading`
* `PropertyPath.Accounts`: what a path says about its source, in the terms of a published registry

## Main results

* `reads_resolveChunk`, `reads_resolvePath_reading`: what is resolved is a reading
* `TypeSource.accounts_of_resolvePath`: a resolved path is a typed chain that spells its source
-/

namespace DerivedQuery

open Text Spelling Metadata

/-! ## Segments that make up a text -/

/-- The segments make up the text. Between two of them there is one separator, or nothing if the
second one starts a word. -/
inductive Composes (isSeparator : Char → Bool) : List (List Char) → List Char → Prop where
  | single {segment : List Char} (hSegment : segment ≠ []) :
      Composes isSeparator [segment] segment
  | adjacent {segment next text : List Char} {rest : List (List Char)} (hSegment : segment ≠ [])
      (hOpens : opensWord next = true) (hRest : Composes isSeparator (next :: rest) text) :
      Composes isSeparator (segment :: next :: rest) (segment ++ text)
  | separated {segment next text : List Char} {rest : List (List Char)} {separator : Char}
      (hSegment : segment ≠ []) (hSeparator : isSeparator separator = true)
      (hRest : Composes isSeparator (next :: rest) text) :
      Composes isSeparator (segment :: next :: rest) (segment ++ separator :: text)

namespace Composes

variable {isSeparator : Char → Bool} {segments others : List (List Char)} {text back : List Char}

theorem ne_nil (hText : Composes isSeparator segments text) : segments ≠ [] := by
  cases hText <;> exact List.cons_ne_nil _ _

theorem text_ne_nil (hText : Composes isSeparator segments text) : text ≠ [] := by
  cases hText with
  | single hSegment => exact hSegment
  | adjacent hSegment _ _ => simp [hSegment]
  | separated _ _ _ => simp

/-- A text starts as its first segment does. -/
theorem opensWord_eq {segment : List Char} (hText : Composes isSeparator (segment :: others) text) :
    opensWord text = opensWord segment := by
  have hStart : ∀ rest, segment ≠ [] → opensWord (segment ++ rest) = opensWord segment := by
    intro rest hSegment
    obtain ⟨c, more, rfl⟩ := List.exists_cons_of_ne_nil hSegment
    rfl
  cases hText with
  | single _ => rfl
  | adjacent hSegment _ _ => exact hStart _ hSegment
  | separated hSegment _ _ => exact hStart _ hSegment

theorem mono {allowed : Char → Bool} (hMore : ∀ c, isSeparator c = true → allowed c = true)
    (hText : Composes isSeparator segments text) : Composes allowed segments text := by
  induction hText with
  | single hSegment => exact .single hSegment
  | adjacent hSegment hOpens _ ih => exact .adjacent hSegment hOpens ih
  | separated hSegment hSeparator _ ih => exact .separated hSegment (hMore _ hSeparator) ih

/-- Two texts with a separator between them. -/
theorem append {separator : Char} (hSeparator : isSeparator separator = true)
    (hText : Composes isSeparator segments text) (hBack : Composes isSeparator others back) :
    Composes isSeparator (segments ++ others) (text ++ separator :: back) := by
  obtain ⟨next, rest, rfl⟩ := List.exists_cons_of_ne_nil hBack.ne_nil
  induction hText with
  | single hSegment => exact .separated hSegment hSeparator hBack
  | adjacent hSegment hOpens _ ih =>
      rw [List.append_assoc]
      exact .adjacent hSegment hOpens ih
  | separated hSegment hInside _ ih =>
      rw [List.append_assoc]
      exact .separated hSegment hInside ih

end Composes

/-! ## Readings -/

theorem PropertyPath.leafType_cons (node : PathNode) (path : PropertyPath) :
    (path.cons node).leafType = path.leafType := by
  simp only [leafType, leaf, cons, nodes, List.getLastD_cons]

theorem PropertyPath.leafType_append (first second : PropertyPath) :
    (first.append second).leafType = second.leafType := by
  simp only [leafType, leaf, append, nodes, List.getLastD_eq_getLast?, List.getLast?_append,
    List.getLast?_cons, Option.getD_some, Option.some_or]

/-- Each step takes the property that its segment names in the entity of its type, and the next step
continues in the type of this property. `Offers` tells which types have which entities. -/
def Named (Offers : String → Entity → Prop) : String → List PathNode → Prop
  | _, [] => True
  | type, node :: rest =>
      node.rootType = type ∧
        (∃ entity, Offers type entity ∧
          entity.lookup? node.segment.toList = some node.property) ∧
        Named Offers node.property.actualType rest

/-- The text, read as a chain of steps from a type. -/
structure Reading (isSeparator : Char → Bool) (Offers : String → Entity → Prop) (type : String)
    (text : List Char) (nodes : List PathNode) : Prop where
  named : Named Offers type nodes
  composed : Composes isSeparator (nodes.map (·.segment.toList)) text

section Reading

variable {isSeparator : Char → Bool} {Offers Other : String → Entity → Prop} {type : String}
  {text : List Char} {nodes rest : List PathNode}

theorem Named.mono (hOffers : ∀ type entity, Offers type entity → Other type entity)
    (hNamed : Named Offers type nodes) : Named Other type nodes := by
  induction nodes generalizing type with
  | nil => trivial
  | cons node rest ih =>
      obtain ⟨hRoot, ⟨entity, hEntity, hLookup⟩, hRest⟩ := hNamed
      exact ⟨hRoot, ⟨entity, hOffers type entity hEntity, hLookup⟩, ih hRest⟩

/-- One path after another, if the second starts where the first ends. -/
theorem Named.append {first second : PropertyPath} (hFirst : Named Offers type first.nodes)
    (hSecond : Named Offers first.leafType second.nodes) :
    Named Offers type (first.append second).nodes := by
  obtain ⟨head, tail⟩ := first
  rw [PropertyPath.nodes_append]
  induction tail generalizing head type with
  | nil => exact ⟨hFirst.1, hFirst.2.1, hSecond⟩
  | cons node rest ih =>
      refine ⟨hFirst.1, hFirst.2.1, ih node hFirst.2.2 ?_⟩
      have hLeaf : PropertyPath.leafType ⟨head, node :: rest⟩ = PropertyPath.leafType ⟨node, rest⟩ := by
        simp only [PropertyPath.leafType, PropertyPath.leaf, List.getLastD_cons]
      rw [← hLeaf]
      exact hSecond

theorem Reading.mono {allowed : Char → Bool}
    (hMore : ∀ c, isSeparator c = true → allowed c = true)
    (hOffers : ∀ type entity, Offers type entity → Other type entity)
    (hReading : Reading isSeparator Offers type text nodes) :
    Reading allowed Other type text nodes :=
  ⟨hReading.named.mono hOffers, hReading.composed.mono hMore⟩

/-- A text that names a property is a reading of one step. -/
theorem reading_single {entity : Entity} {property : Property} (hText : text ≠ [])
    (hEntity : Offers type entity) (hLookup : entity.lookup? text = some property) :
    Reading isSeparator Offers type text [⟨property, String.ofList text, type⟩] where
  named := ⟨rfl, ⟨entity, hEntity, by rw [String.toList_ofList, hLookup]⟩, trivial⟩
  composed := by
    rw [List.map_singleton, String.toList_ofList]
    exact .single hText

/-- A head that names a property, in front of a reading of what is behind it. -/
theorem Reading.of_cut {entity : Entity} {property : Property} (cut : Cut text)
    (hGap : cut.gap = []) (hEntity : Offers type entity)
    (hLookup : entity.lookup? cut.left = some property)
    (hRest : Reading isSeparator Offers property.actualType cut.right rest) :
    Reading isSeparator Offers type text (⟨property, String.ofList cut.left, type⟩ :: rest) where
  named := ⟨rfl, ⟨entity, hEntity, by rw [String.toList_ofList, hLookup]⟩, hRest.named⟩
  composed := by
    have hText := cut.joined
    have hComposed := hRest.composed
    rw [hGap, List.nil_append] at hText
    obtain ⟨next, more, hNext⟩ := List.exists_cons_of_ne_nil hComposed.ne_nil
    rw [hNext] at hComposed
    have hOpens : opensWord next = true := by
      rw [← hComposed.opensWord_eq]
      exact cut.right_opens
    have hWhole := Composes.adjacent cut.left_ne_nil hOpens hComposed
    rw [hText] at hWhole
    rw [List.map_cons, String.toList_ofList, hNext]
    exact hWhole

/-- Readings with a separator between their texts. -/
theorem Reading.append {separator : Char} (hSeparator : isSeparator separator = true)
    {first second : PropertyPath} {back : List Char}
    (hFirst : Reading isSeparator Offers type text first.nodes)
    (hSecond : Reading isSeparator Offers first.leafType back second.nodes) :
    Reading isSeparator Offers type (text ++ separator :: back) (first.append second).nodes where
  named := hFirst.named.append hSecond.named
  composed := by
    rw [PropertyPath.nodes_append, List.map_append]
    exact hFirst.composed.append hSeparator hSecond.composed

end Reading

/-! ## What is resolved is a reading -/

section Reads

variable {σ : Type} {metadata : Metadata σ}

theorem of_mem_namedHeads {entity : Entity} {chunk : List Char} {head : Cut chunk × Property}
    (hHead : head ∈ namedHeads entity chunk) :
    head.1.gap = [] ∧ entity.lookup? head.1.left = some head.2 := by
  obtain ⟨cut, hMem, hCut⟩ := List.mem_filterMap.mp hHead
  obtain ⟨property, hLookup, rfl⟩ := Option.map_eq_some_iff.mp hCut
  have hGap := mem_cuts.mp (List.mem_reverse.mp hMem)
  exact ⟨List.mem_singleton.mp hGap, hLookup⟩

/-- Every head that names a property in front of a capital is tried. -/
theorem mem_namedHeads {entity : Entity} {chunk : List Char} {cut : Cut chunk} {property : Property}
    (hGap : cut.gap = []) (hLookup : entity.lookup? cut.left = some property) :
    (cut, property) ∈ namedHeads entity chunk := by
  have hCut : cut ∈ cuts capitalGaps chunk := mem_cuts.mpr (by simp [hGap, capitalGaps])
  exact List.mem_filterMap.mpr ⟨cut, List.mem_reverse.mpr hCut, by rw [hLookup]; rfl⟩

/-- A chunk read behind one of its heads. -/
def resolveHead (metadata : Metadata σ) (source : String) {chunk : List Char} (type : String)
    (head : Cut chunk × Property) (state : σ) : Except PathError PropertyPath × σ :=
  match resolveChunk metadata source head.1.right head.2.actualType state with
  | (.error error, final) => (.error error, final)
  | (.ok rest, final) => (.ok (rest.cons ⟨head.2, String.ofList head.1.left, type⟩), final)

/-- A chunk that names no property as a whole is searched behind its heads. -/
theorem resolveChunk_of_lookup?_eq_none {type : String} {state after : σ} {entity : Entity}
    (hTerminal : metadata.isTerminal type = false)
    (hEntity : metadata.entityFor type state = (.ok entity, after)) {chunk : List Char}
    (hLookup : entity.lookup? chunk = none) (source : String) :
    resolveChunk metadata source chunk type state =
      firstSuccess (resolveHead metadata source type)
        (fun final => (.error
          { sourcePath := source, unresolved := String.ofList chunk, typeName := type }, final))
        (namedHeads entity chunk) after := by
  rw [resolveChunk, if_neg (by simp [hTerminal]), hEntity]
  dsimp only
  rw [hLookup]
  rfl

theorem Reading.of_leads {isSeparator : Char → Bool} {type : String} {text : List Char}
    {nodes : List PathNode} (hRemembers : metadata.Remembers) {before after : σ}
    (hLeads : metadata.Leads before after)
    (hReading : Reading isSeparator (metadata.Knows before) type text nodes) :
    Reading isSeparator (metadata.Knows after) type text nodes :=
  hReading.mono (fun _ => id) fun _ _ => hRemembers.knows_of_leads hLeads

/-- What a chunk is resolved to is a reading of it without separators. -/
theorem reads_resolveChunk (hRemembers : metadata.Remembers) (source : String) {chunk : List Char}
    (hChunk : chunk ≠ []) (type : String) :
    metadata.Reads
      (fun (path : PropertyPath) state =>
        Reading (fun _ => false) (metadata.Knows state) type chunk path.nodes)
      (resolveChunk metadata source chunk type) := by
  induction hLength : chunk.length using Nat.strongRecOn generalizing chunk type with
  | ind length ih =>
      intro state
      have hRequest : metadata.Leads state (metadata.entityFor type state).2 := .entityFor type state
      rw [resolveChunk]
      split
      · exact ⟨.refl state, by simp⟩
      · rename_i hTerminal
        split
        · rename_i hResult
          rw [hResult] at hRequest
          exact ⟨hRequest, by simp⟩
        · rename_i entity after hResult
          rw [hResult] at hRequest
          have hKnows := hRemembers.learns (by simpa using hTerminal) hResult
          split
          · rename_i property hLookup
            refine ⟨hRequest, ?_⟩
            simp only [Except.ok.injEq, forall_eq']
            exact reading_single hChunk hKnows hLookup
          · -- the entity stays known in every state that the search goes through
            refine Reads.after_leads
              (P := fun (path : PropertyPath) state =>
                Reading (fun _ => false) (metadata.Knows state) type chunk path.nodes)
              hRequest (reads_firstSuccess (reads_error _) _ ?_)
            intro head hHead before
            obtain ⟨hGap, hLookup⟩ := of_mem_namedHeads hHead
            have hRest := ih _ (hLength ▸ head.1.right_length_lt)
              (ne_nil_of_opensWord head.1.right_opens) head.2.actualType rfl
            dsimp only
            split
            · rename_i hRead
              exact ⟨(hRest.of_eq hRead).1, by simp⟩
            · rename_i rest final hRead
              obtain ⟨hLeads, hValue⟩ := hRest.of_eq hRead
              refine ⟨hLeads, ?_⟩
              simp only [Except.ok.injEq, forall_eq']
              intro hFinal
              exact Reading.of_cut head.1 hGap (hRemembers.knows_of_leads hFinal hKnows) hLookup
                (hValue rest rfl)

/-- The text whose chunks these are, with some separators between them. -/
inductive Joins (isSeparator : Char → Bool) : List Char → List (List Char) → List Char → Prop where
  | last (chunk : List Char) : Joins isSeparator chunk [] chunk
  | cons (chunk : List Char) {next text : List Char} {more : List (List Char)} {separator : Char}
      (hSeparator : isSeparator separator = true) (hMore : Joins isSeparator next more text) :
      Joins isSeparator chunk (next :: more) (chunk ++ separator :: text)

/-- A text joins its chunks. -/
theorem joins_chunks (isSeparator : Char → Bool) (text : List Char) :
    Joins isSeparator (chunks isSeparator text).1 (chunks isSeparator text).2 text := by
  induction text with
  | nil => exact .last []
  | cons c rest ih =>
      cases hSeparator : isSeparator c with
      | true =>
          simp only [chunks, hSeparator, if_true]
          exact .cons [] hSeparator ih
      | false =>
          simp only [chunks, hSeparator, Bool.false_eq_true, if_false]
          generalize chunks isSeparator rest = parts at ih
          obtain ⟨first, more⟩ := parts
          cases ih with
          | last _ => exact .last (c :: first)
          | cons _ hInside hMore => exact .cons (c :: first) hInside hMore

/-- What chunks are resolved to is a reading of the text that joins them. -/
theorem reads_resolveChunks (hRemembers : metadata.Remembers) (source : String)
    {isSeparator : Char → Bool} {chunk : List Char} {more : List (List Char)} {text : List Char}
    (hText : Joins isSeparator chunk more text) (type : String) :
    metadata.Reads
      (fun (path : PropertyPath) state =>
        Reading isSeparator (metadata.Knows state) type text path.nodes)
      (resolveChunks metadata source chunk more type) := by
  have hInside : ∀ {type : String} {chunk : List Char} {state : σ} {nodes : List PathNode},
      Reading (fun _ => false) (metadata.Knows state) type chunk nodes →
        Reading isSeparator (metadata.Knows state) type chunk nodes :=
    fun hReading => hReading.mono (by simp) fun _ _ => id
  induction hText generalizing type with
  | last chunk =>
      cases chunk with
      | nil => exact reads_error _
      | cons c rest =>
          intro state
          obtain ⟨hLeads, hPath⟩ :=
            reads_resolveChunk hRemembers source (List.cons_ne_nil c rest) type state
          exact ⟨hLeads, fun path hRead => hInside (hPath path hRead)⟩
  | @cons chunk next text more separator hSeparator hMore ih =>
      cases chunk with
      | nil => exact reads_error _
      | cons c rest =>
          intro state
          have hChunk := reads_resolveChunk hRemembers source (List.cons_ne_nil c rest) type
          unfold resolveChunks
          split
          · rename_i hRead
            exact ⟨(hChunk.of_eq hRead).1, by simp⟩
          · rename_i path after hRead
            obtain ⟨hLeads, hFirst⟩ := hChunk.of_eq hRead
            split
            · rename_i hLater
              exact ⟨hLeads.trans ((ih path.leafType).of_eq hLater).1, by simp⟩
            · rename_i second final hLater
              obtain ⟨hBehind, hSecond⟩ := (ih path.leafType).of_eq hLater
              refine ⟨hLeads.trans hBehind, ?_⟩
              simp only [Except.ok.injEq, forall_eq']
              have hKept := (hInside (hFirst path rfl)).of_leads hRemembers hBehind
              exact hKept.append hSeparator (hSecond second rfl)

/-- **What is resolved is a reading of the source**, whichever way it was found. -/
theorem reads_resolvePath_reading (hRemembers : metadata.Remembers) (separator : Char)
    (source : List Char) (root : String) :
    metadata.Reads
      (fun (path : PropertyPath) state =>
        Reading (endsChunk separator) (metadata.Knows state) root source path.nodes)
      (resolvePath metadata separator source root) := by
  have hDivided := reads_resolveChunks hRemembers (String.ofList source)
    (joins_chunks (endsChunk separator) source) root
  unfold resolvePath
  dsimp only
  split
  · rename_i hContains
    have hSource : source ≠ [] := by
      rintro rfl
      simp at hContains
    refine reads_firstSuccess (fun state => ?_) [()] fun _ _ => hDivided
    obtain ⟨hLeads, hPath⟩ :=
      reads_resolveChunk hRemembers (String.ofList source) hSource root state
    exact ⟨hLeads, fun path hRead => (hPath path hRead).mono (by simp) fun _ _ => id⟩
  · exact hDivided

end Reads

/-! ## What a path says about its source -/

/-- The ways in which a segment may spell the name of a property. -/
def spellings (segment : List Char) : List (List Char) :=
  [uncapitalize segment, segment, snakeCase segment]

/-- The path starts at the root, and each step is a property of the entity that the source of
metadata gives for its type, spelled by its segment. The next step has the type in which the
property continues, and the segments make up the source text. -/
structure PropertyPath.Accounts {σ : Type} (metadata : Metadata σ) (separator : Char)
    (root : String) (source : List Char) (path : PropertyPath) (state : σ) : Prop where
  root : path.head.rootType = root
  owned : ∀ node ∈ path.nodes, ∃ entity,
    metadata.entityFor node.rootType state = (.ok entity, state) ∧
      entity.property? node.property.name = some node.property
  linked : path.nodes.IsChain fun node next => next.rootType = node.property.actualType
  spelled : ∀ node ∈ path.nodes, node.property.name.toList ∈ spellings node.segment.toList
  composed : Composes (endsChunk separator) (path.nodes.map (·.segment.toList)) source

/-- The property that a segment names has the name under which it was found. -/
theorem property?_of_lookup? {entity : Entity} {segment : List Char} {property : Property}
    (hLookup : entity.lookup? segment = some property) :
    entity.property? property.name = some property ∧ property.name.toList ∈ spellings segment := by
  have hNamed : ∀ name ∈ spellings segment, entity.property? (String.ofList name) = some property →
      entity.property? property.name = some property ∧
        property.name.toList ∈ spellings segment := by
    intro name hName hFound
    have hSame : property.name = String.ofList name := by simpa using List.find?_some hFound
    rw [hSame, String.toList_ofList]
    exact ⟨hFound, hName⟩
  simp only [Entity.lookup?, Option.orElse_eq_orElse, Option.orElse_eq_or, Option.or_eq_some_iff]
    at hLookup
  rcases hLookup with hFound | ⟨_, hFound | ⟨_, hFound⟩⟩
  · exact hNamed _ (by simp [spellings]) hFound
  · exact hNamed _ (by simp [spellings]) hFound
  · exact hNamed _ (by simp [spellings]) hFound

theorem Named.owned {Offers : String → Entity → Prop} {type : String} {nodes : List PathNode}
    (hNamed : Named Offers type nodes) : ∀ node ∈ nodes, ∃ entity, Offers node.rootType entity ∧
      entity.property? node.property.name = some node.property ∧
        node.property.name.toList ∈ spellings node.segment.toList := by
  induction nodes generalizing type with
  | nil => simp
  | cons node rest ih =>
      obtain ⟨hRoot, ⟨entity, hEntity, hLookup⟩, hRest⟩ := hNamed
      intro other hOther
      rcases List.mem_cons.mp hOther with rfl | hLater
      · rw [hRoot]
        exact ⟨entity, hEntity, property?_of_lookup? hLookup⟩
      · exact ih hRest other hLater

theorem Named.isChain {Offers : String → Entity → Prop} {type : String} {nodes : List PathNode}
    (hNamed : Named Offers type nodes) :
    nodes.IsChain fun node next => next.rootType = node.property.actualType := by
  induction nodes generalizing type with
  | nil => exact .nil
  | cons node rest ih =>
      cases rest with
      | nil => exact .singleton node
      | cons next others => exact .cons_cons hNamed.2.2.1 (ih hNamed.2.2)

theorem Reading.accounts {σ : Type} {metadata : Metadata σ} {separator : Char} {root : String}
    {source : List Char} {path : PropertyPath} {state : σ}
    (hReading : Reading (endsChunk separator) (metadata.Knows state) root source path.nodes) :
    path.Accounts metadata separator root source state where
  root := hReading.named.1
  owned node hNode := by
    obtain ⟨entity, hKnows, hProperty, _⟩ := hReading.named.owned node hNode
    exact ⟨entity, hKnows.2, hProperty⟩
  linked := hReading.named.isChain
  spelled node hNode := by
    obtain ⟨_, _, _, hSpelled⟩ := hReading.named.owned node hNode
    exact hSpelled
  composed := hReading.composed

/-- **A resolved path is a typed chain that spells its source.** This holds in the state in which
the path was returned, and whatever is requested afterwards. -/
theorem TypeSource.accounts_of_resolvePath (source : TypeSource) (budget : Nat) {separator : Char}
    {text : List Char} {root : String} {state after later : Registry.State} {path : PropertyPath}
    (hPath : resolvePath (source.metadata budget) separator text root state = (.ok path, after))
    (hLater : (source.metadata budget).Leads after later) :
    path.Accounts (source.metadata budget) separator root text later := by
  have hRemembers := remembers source budget
  have hReads := reads_resolvePath_reading hRemembers separator text root
  have hReading := (hReads.of_eq hPath).2 path rfl
  exact (hReading.of_leads hRemembers hLater).accounts

/-- Persons with an address and an address book, which refers to persons again. -/
def contacts : Registry :=
  { inspector := .ofCatalog
      { types :=
          [{ name := "Person"
             members :=
               [{ name := "address", declared := .named "Address" },
                 { name := "address_book", declared := .named "Book" }] },
            { name := "Address"
              members :=
                [{ name := "line_1", declared := .named "String" },
                  { name := "book_title", declared := .named "String" }] },
            { name := "Book"
              members :=
                [{ name := "isbn", declared := .named "String" },
                  { name := "owners", declared := .collection (.named "Person") }] }] } }

/-- Segments side by side, behind the separator and behind a dot, around a cycle of types. -/
theorem accounts_contacts : ∃ path after,
    resolvePath contacts.metadata '$' "AddressBookOwners$Address.Line_1".toList "Person" {} =
      (.ok path, after) ∧
    path.nodes.map (·.segment) = ["AddressBook", "Owners", "Address", "Line_1"] ∧
    path.Accounts contacts.metadata '$' "Person" "AddressBookOwners$Address.Line_1".toList after := by
  have hSegments : (resolvePath contacts.metadata '$' "AddressBookOwners$Address.Line_1".toList
      "Person" {}).1.toOption.map (·.nodes.map (·.segment)) =
        some ["AddressBook", "Owners", "Address", "Line_1"] := by
    decide +kernel
  obtain ⟨path, after, hPath, hNodes⟩ := exists_of_toOption_map hSegments
  exact ⟨path, after, hPath, hNodes, TypeSource.accounts_of_resolvePath contacts.source
    contacts.budget hPath (.refl after)⟩

end DerivedQuery
