import DerivedQuery.Metadata
import DerivedQuery.Path.Basic
import DerivedQuery.Search

/-!
# Path resolution

A source text is read against a root type in two ways that are tried one after the other.

First the text is divided at every separator and every dot, and the chunks are read from left to
right, each in the type in which the chunk before it ended. If this fails and the separator stands
in the text, the separator may be part of a property name, and the text is read once more as a
single chunk.

A chunk is read greedily: if the whole of it names a property, that property is taken. Otherwise it
is cut before a capital, the last capital first, so that the longest head which names a property is
tried first; if the rest cannot be read in the type of that property, the next shorter head is
tried. When nothing succeeds, the error is that of the longest head, or says that the chunk itself
matches nothing.

The reading of a chunk recurses on the right part of a `Cut`, which is shorter than the chunk.

## Main definitions

* `resolveChunk`, `resolveChunks`, `resolvePath`
-/

namespace DerivedQuery

open Text

variable {σ : Type}

/-- The heads of a chunk that name a property, longest first, with the rest to be read. -/
def namedHeads (entity : Entity) (chunk : List Char) : List (Cut chunk × Property) :=
  (cuts capitalGaps chunk).reverse.filterMap fun cut =>
    (entity.lookup? cut.left).map fun property => (cut, property)

/-- Reads a chunk in a type. -/
def resolveChunk (metadata : Metadata σ) (source : String) (chunk : List Char) (type : String)
    (state : σ) : Except PathError PropertyPath × σ :=
  let unresolved : PathError := { sourcePath := source, unresolved := String.ofList chunk, typeName := type }
  if metadata.isTerminal type then
    (.error unresolved, state)
  else
    match metadata.entityFor type state with
    | (.error cause, after) => (.error { unresolved with cause := some cause }, after)
    | (.ok entity, after) =>
        match entity.lookup? chunk with
        | some property => (.ok (.single ⟨property, String.ofList chunk, type⟩), after)
        | none =>
            firstSuccess
              (fun (head : Cut chunk × Property) state =>
                match resolveChunk metadata source head.1.right head.2.actualType state with
                | (.error error, final) => (.error error, final)
                | (.ok rest, final) =>
                    (.ok (rest.cons ⟨head.2, String.ofList head.1.left, type⟩), final))
              (fun final => (.error unresolved, final))
              (namedHeads entity chunk) after
termination_by chunk.length
decreasing_by exact head.1.right_length_lt

/-- Reads chunks one after the other, each in the type in which the one before it ended. An empty
chunk matches nothing. -/
def resolveChunks (metadata : Metadata σ) (source : String) :
    (chunk : List Char) → (more : List (List Char)) → (type : String) → σ →
      Except PathError PropertyPath × σ
  | [], _, type, state =>
      (.error { sourcePath := source, unresolved := "", typeName := type }, state)
  | chunk, [], type, state => resolveChunk metadata source chunk type state
  | chunk, next :: more, type, state =>
      match resolveChunk metadata source chunk type state with
      | (.error error, after) => (.error error, after)
      | (.ok path, after) =>
          match resolveChunks metadata source next more path.leafType after with
          | (.error error, final) => (.error error, final)
          | (.ok rest, final) => (.ok (path.append rest), final)

/-- A separator or a dot ends a chunk. -/
def endsChunk (separator c : Char) : Bool :=
  c == separator || c == '.'

/-- Reads a source text as a property path of the root type. -/
def resolvePath (metadata : Metadata σ) (separator : Char) (source : List Char) (root : String)
    (state : σ) : Except PathError PropertyPath × σ :=
  let divided := fun state =>
    let (chunk, more) := chunks (endsChunk separator) source
    resolveChunks metadata (String.ofList source) chunk more root state
  if source.contains separator then
    firstSuccess (fun (_ : Unit) => divided)
      (resolveChunk metadata (String.ofList source) source root) [()] state
  else
    divided state

end DerivedQuery
