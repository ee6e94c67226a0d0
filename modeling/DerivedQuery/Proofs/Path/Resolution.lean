import DerivedQuery.Proofs.Path.Reading
import DerivedQuery.Proofs.Path.Spelling

/-!
# Resolved paths

A path that was resolved is *traced* in the metadata: each step names a property of an entity that
is known, and the next step continues in the type of this property. As known entities stay known, a
path stays traced whatever is requested afterwards.

The canonical spelling of a traced path is read back without a search if the separator does not
occur in the spellings of the properties: each chunk between separators is then the spelling of one
property, which the type of the step before knows.

## Main results

* `reads_resolvePath`: the paths that are resolved are traced
* `resolvePath_canonicalText`: the canonical spelling of a traced path resolves to its properties
-/

namespace DerivedQuery

open Text Spelling Metadata

variable {σ : Type} {metadata : Metadata σ}

/-! ## Traced paths -/

/-- The steps lead from a type through properties of known entities. -/
def Traced (metadata : Metadata σ) (state : σ) : String → List PathNode → Prop
  | _, [] => True
  | type, node :: rest =>
      node.rootType = type ∧
        (∃ entity, metadata.Knows state type entity ∧
          entity.property? node.property.name = some node.property) ∧
        Traced metadata state node.property.actualType rest

theorem Traced.of_leads (hRemembers : metadata.Remembers) {before after : σ}
    (hLeads : metadata.Leads before after) {type : String} {nodes : List PathNode}
    (hTraced : Traced metadata before type nodes) : Traced metadata after type nodes := by
  induction nodes generalizing type with
  | nil => trivial
  | cons node rest ih =>
      obtain ⟨hRoot, ⟨entity, hKnows, hProperty⟩, hRest⟩ := hTraced
      exact ⟨hRoot, ⟨entity, hRemembers.knows_of_leads hLeads hKnows, hProperty⟩, ih hRest⟩

/-- The properties of a traced path belong to known entities. -/
theorem Traced.known {state : σ} {type : String} {nodes : List PathNode}
    (hTraced : Traced metadata state type nodes) : ∀ node ∈ nodes, ∃ owner entity,
      metadata.Knows state owner entity ∧ node.property ∈ entity.properties := by
  induction nodes generalizing type with
  | nil => simp
  | cons node rest ih =>
      obtain ⟨_, ⟨entity, hKnows, hProperty⟩, hRest⟩ := hTraced
      intro other hOther
      rcases List.mem_cons.mp hOther with rfl | hLater
      · exact ⟨type, entity, hKnows, List.mem_of_find?_eq_some hProperty⟩
      · exact ih hRest other hLater

/-- The steps of a reading lead through known entities. -/
theorem Named.traced {state : σ} {type : String} {nodes : List PathNode}
    (hNamed : Named (metadata.Knows state) type nodes) : Traced metadata state type nodes := by
  induction nodes generalizing type with
  | nil => trivial
  | cons node rest ih =>
      obtain ⟨hRoot, ⟨entity, hKnows, hLookup⟩, hRest⟩ := hNamed
      exact ⟨hRoot, ⟨entity, hKnows, (property?_of_lookup? hLookup).1⟩, ih hRest⟩

/-- The paths that are resolved are traced. -/
theorem reads_resolvePath (hRemembers : metadata.Remembers) (separator : Char)
    (source : List Char) (root : String) :
    metadata.Reads (fun (path : PropertyPath) state => Traced metadata state root path.nodes)
      (resolvePath metadata separator source root) := by
  intro state
  obtain ⟨hLeads, hPath⟩ := reads_resolvePath_reading hRemembers separator source root state
  exact ⟨hLeads, fun path hRead => (hPath path hRead).named.traced⟩

/-! ## Reading a canonical spelling -/

/-- The step as it is read from its canonical spelling. -/
def PathNode.respelled (node : PathNode) : PathNode :=
  { node with segment := String.ofList (pascalCase node.property.name.toList) }

/-- The path as it is read from its canonical spelling. -/
def PropertyPath.respelled (path : PropertyPath) : PropertyPath :=
  ⟨path.head.respelled, path.tail.map (·.respelled)⟩

/-- The entities that are known have numbered property names. -/
def KnowsNumbered (metadata : Metadata σ) (state : σ) : Prop :=
  ∀ type entity, metadata.Knows state type entity →
    ∀ property ∈ entity.properties, isNumberedName property.name.toList = true

theorem resolveChunk_of_knows {state : σ} {type : String} {entity : Entity} {chunk : List Char}
    {property : Property} (hKnows : metadata.Knows state type entity)
    (hLookup : entity.lookup? chunk = some property) (source : String) :
    resolveChunk metadata source chunk type state =
      (.ok (.single ⟨property, String.ofList chunk, type⟩), state) := by
  unfold resolveChunk
  simp [hKnows.1, hKnows.2, hLookup]

theorem resolveChunk_pascalCase {state : σ} (hNumbered : KnowsNumbered metadata state)
    {type : String} {node : PathNode} {rest : List PathNode}
    (hTraced : Traced metadata state type (node :: rest)) (source : String) :
    resolveChunk metadata source (pascalCase node.property.name.toList) type state =
      (.ok (.single node.respelled), state) := by
  obtain ⟨hRoot, ⟨entity, hKnows, hProperty⟩, _⟩ := hTraced
  have hNames := hNumbered type entity hKnows
  have hName := hNames node.property (List.mem_of_find?_eq_some hProperty)
  have hLookup : entity.lookup? (pascalCase node.property.name.toList) = some node.property := by
    rw [lookup?_pascalCase hNames hName, hProperty]
  rw [resolveChunk_of_knows hKnows hLookup, PathNode.respelled, hRoot]

private theorem pascalCase_ne_nil {state : σ} (hNumbered : KnowsNumbered metadata state)
    {type : String} {node : PathNode} {rest : List PathNode}
    (hTraced : Traced metadata state type (node :: rest)) :
    pascalCase node.property.name.toList ≠ [] := by
  obtain ⟨_, ⟨entity, hKnows, hProperty⟩, _⟩ := hTraced
  exact ne_nil_of_opensWord (opensWord_pascalCase
    (hNumbered type entity hKnows node.property (List.mem_of_find?_eq_some hProperty)))

theorem resolveChunks_singleton {chunk : List Char} (hChunk : chunk ≠ []) (source type : String)
    (state : σ) :
    resolveChunks metadata source chunk [] type state =
      resolveChunk metadata source chunk type state := by
  cases chunk with
  | nil => exact absurd rfl hChunk
  | cons c rest => rfl

/-- Chunks that are read one after the other give one path after the other. -/
theorem resolveChunks_cons {chunk next : List Char} {more : List (List Char)} (hChunk : chunk ≠ [])
    {source type : String} {state after final : σ} {path rest : PropertyPath}
    (hFirst : resolveChunk metadata source chunk type state = (.ok path, after))
    (hRest : resolveChunks metadata source next more path.leafType after = (.ok rest, final)) :
    resolveChunks metadata source chunk (next :: more) type state =
      (.ok (path.append rest), final) := by
  cases chunk with
  | nil => exact absurd rfl hChunk
  | cons c others => simp [resolveChunks, hFirst, hRest]

/-- Each chunk of a canonical spelling is read as the step that it spells. -/
theorem resolveChunks_pascalCase {state : σ} (hNumbered : KnowsNumbered metadata state)
    {type : String} {head : PathNode} {tail : List PathNode}
    (hTraced : Traced metadata state type (head :: tail)) (source : String) :
    resolveChunks metadata source (pascalCase head.property.name.toList)
        (tail.map fun node => pascalCase node.property.name.toList) type state =
      (.ok (PropertyPath.respelled ⟨head, tail⟩), state) := by
  induction tail generalizing head type with
  | nil =>
      rw [List.map_nil, resolveChunks_singleton (pascalCase_ne_nil hNumbered hTraced),
        resolveChunk_pascalCase hNumbered hTraced]
      rfl
  | cons next others ih =>
      have hFirst := resolveChunk_pascalCase hNumbered hTraced source
      have hRest := ih hTraced.2.2
      exact resolveChunks_cons (pascalCase_ne_nil hNumbered hTraced) hFirst hRest

/-- The property names of a path are snake case names. -/
def PropertyPath.HasSnakeNames (path : PropertyPath) : Prop :=
  ∀ node ∈ path.nodes, isSnakeName node.property.name.toList = true

/-- The canonical spelling is joined by separators. -/
theorem PropertyPath.canonicalText_eq (path : PropertyPath) (separator : Char) :
    path.canonicalText separator =
      [separator].intercalate ((path.nodes.map (·.property.name.toList)).map pascalCase) := by
  simp [PropertyPath.canonicalText, PropertyPath.properties, Function.comp_def]

/-- The canonical spelling of a traced path resolves to the path, and nothing changes, if no spelling
of a property can be divided. -/
theorem resolvePath_canonicalText_of_undivided {state : σ} (hNumbered : KnowsNumbered metadata state)
    {separator : Char} {root : String} {path : PropertyPath}
    (hTraced : Traced metadata state root path.nodes)
    (hUndivided : ∀ node ∈ path.nodes, ∀ c ∈ pascalCase node.property.name.toList,
      endsChunk separator c = false) :
    resolvePath metadata separator (path.canonicalText separator) root state =
      (.ok path.respelled, state) := by
  obtain ⟨head, tail⟩ := path
  have hChars : ∀ piece ∈ pascalCase head.property.name.toList ::
        tail.map (fun node => pascalCase node.property.name.toList),
      ∀ c ∈ piece, endsChunk separator c = false := by
    intro piece hPiece c hChar
    rw [← List.map_cons (f := fun node : PathNode => pascalCase node.property.name.toList),
      List.mem_map] at hPiece
    obtain ⟨node, hNode, rfl⟩ := hPiece
    exact hUndivided node hNode c hChar
  have hText : PropertyPath.canonicalText separator ⟨head, tail⟩ =
      [separator].intercalate (pascalCase head.property.name.toList ::
        tail.map fun node => pascalCase node.property.name.toList) := by
    simp [PropertyPath.canonicalText_eq, PropertyPath.nodes, Function.comp_def]
  have hSeparator : endsChunk separator separator = true := by simp [endsChunk]
  have hChunks := chunks_intercalate hSeparator _ _ hChars
  have hDivided := resolveChunks_pascalCase hNumbered hTraced
  unfold resolvePath
  rw [hText, hChunks]
  dsimp only
  split
  · simp [firstSuccess, hDivided]
  · exact hDivided _

/-- Neither an underscore nor a dot occurs in the spelling of a snake case name. -/
theorem endsChunk_of_mem_pascalCase {name : List Char} (hName : isSnakeName name = true) {c : Char}
    (hChar : c ∈ pascalCase name) : endsChunk '_' c = false := by
  have hAlphanum := isAlphanum_of_mem_pascalCase hName hChar
  simp only [endsChunk, Bool.or_eq_false_iff, beq_eq_false_iff_ne]
  constructor
  · rintro rfl
    exact absurd hAlphanum (by decide)
  · rintro rfl
    exact absurd hAlphanum (by decide)

/-- The canonical spelling of a traced path resolves to the path, and nothing changes. -/
theorem resolvePath_canonicalText {state : σ} (hNumbered : KnowsNumbered metadata state)
    {root : String} {path : PropertyPath} (hTraced : Traced metadata state root path.nodes)
    (hNames : path.HasSnakeNames) :
    resolvePath metadata '_' (path.canonicalText '_') root state =
      (.ok path.respelled, state) :=
  resolvePath_canonicalText_of_undivided hNumbered hTraced fun node hNode _ hChar =>
    endsChunk_of_mem_pascalCase (hNames node hNode) hChar

end DerivedQuery
