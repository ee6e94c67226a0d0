import DerivedQuery.Proofs.Entity.Descriptor
import DerivedQuery.Proofs.Path.Spelling
import Mathlib.Data.Set.Function

/-!
# Looking up what a name is spelled like

A property is written in a method name with capitals, and is looked up by three spellings of what is
written there. Only the last one, snake case, takes back what the capitals did. The two that are
tried before it cannot lead astray: what they give either holds a capital, which no numbered name
does, or is the name itself.

The numbered names are the texts of the form `[a-z][a-z0-9]*(_[a-z0-9]+)*`. So the pieces of such a
text and the underscores between them can be taken apart and put together again.

## Main results

* `isNumberedName_iff_form`: the form of a numbered name
* `injOn_pascalCase`: different numbered names are spelled differently
* `pascalCase_inverted`: snake case restores a numbered name, and in an entity of numbered names each
  property is found by the spelling of its name
-/

namespace DerivedQuery

namespace Text

private theorem append_flatMap_eq_intercalate (separator : Char) (first : List Char)
    (more : List (List Char)) :
    first ++ more.flatMap (separator :: ·) = [separator].intercalate (first :: more) := by
  induction more generalizing first with
  | nil => simp
  | cons second others ih =>
      rw [List.flatMap_cons, List.cons_append, ih, List.intercalate_cons_cons, List.append_assoc,
        List.singleton_append]

/-- A text and further ones, each behind a separator, are the chunks of what they make up. -/
theorem chunks_form {isSeparator : Char → Bool} {separator : Char}
    (hSeparator : isSeparator separator = true) {first : List Char} {more : List (List Char)}
    (hChars : ∀ piece ∈ first :: more, ∀ c ∈ piece, isSeparator c = false) :
    chunks isSeparator (first ++ more.flatMap (separator :: ·)) = (first, more) := by
  rw [append_flatMap_eq_intercalate]
  exact chunks_intercalate hSeparator first more hChars

end Text

namespace Spelling

open Text

/-! ## The form of a numbered name -/

theorem ne_underscore_of_isPieceChar {c : Char} (hChar : isPieceChar c = true) :
    (c == '_') = false := by
  rw [beq_eq_false_iff_ne]
  rintro rfl
  exact absurd hChar (by decide)

/-- **A numbered name** is a letter with further letters and digits behind it, and then any number of
pieces of letters and digits, each behind an underscore. -/
theorem isNumberedName_iff_form {name : List Char} :
    isNumberedName name = true ↔ ∃ (c : Char) (rest : List Char) (more : List (List Char)),
      name = (c :: rest) ++ more.flatMap ('_' :: ·) ∧ c.isLower = true ∧
        (∀ d ∈ rest, isPieceChar d = true) ∧ ∀ piece ∈ more, isPiece piece = true := by
  rw [isNumberedName_iff]
  constructor
  · rintro ⟨c, rest, more, hChunks, hParts⟩
    have hJoined := chunks_joined '_' name
    rw [hChunks] at hJoined
    exact ⟨c, rest, more, hJoined.symm, hParts⟩
  · rintro ⟨c, rest, more, rfl, hLower, hRest, hMore⟩
    refine ⟨c, rest, more, chunks_form (by simp) ?_, hLower, hRest, hMore⟩
    intro piece hPiece d hD
    apply ne_underscore_of_isPieceChar
    rcases List.mem_cons.mp hPiece with rfl | hLater
    · rcases List.mem_cons.mp hD with rfl | hInside
      · rw [isPieceChar, hLower, Bool.true_or]
      · exact hRest d hInside
    · have hChars := hMore piece hLater
      rw [isPiece, Bool.and_eq_true, List.all_eq_true] at hChars
      exact hChars.2 d hD

/-! ## The spelling and what it refers to -/

/-- Different numbered names have different spellings. -/
theorem injOn_pascalCase : Set.InjOn pascalCase {name | isNumberedName name = true} := by
  intro first hFirst second hSecond hSame
  calc first = snakeCase (pascalCase first) := (snakeCase_pascalCase hFirst).symm
    _ = snakeCase (pascalCase second) := by rw [hSame]
    _ = second := snakeCase_pascalCase hSecond

/-- **The lookup of a spelling takes the spelling back.** Snake case restores every numbered name, so
different ones are spelled differently. In an entity all of whose names are numbered, the spelling of
such a name refers to the property of this name, and so each property is found by the spelling of
its own name. -/
theorem pascalCase_inverted :
    (∀ name, isNumberedName name = true → snakeCase (pascalCase name) = name) ∧
      Set.InjOn pascalCase {name | isNumberedName name = true} ∧
      ∀ type isTerminal entity, Entity.ofDescriptor type isTerminal = .ok entity →
        (∀ property ∈ entity.properties, isNumberedName property.name.toList = true) →
        (∀ name : String, isNumberedName name.toList = true →
          entity.lookup? (pascalCase name.toList) = entity.property? name) ∧
        ∀ property ∈ entity.properties,
          entity.lookup? (pascalCase property.name.toList) = some property := by
  refine ⟨fun name => snakeCase_pascalCase, injOn_pascalCase, ?_⟩
  intro type isTerminal entity hEntity hNames
  refine ⟨fun name => lookup?_pascalCase hNames, fun property hProperty => ?_⟩
  rw [lookup?_pascalCase hNames (hNames property hProperty)]
  exact (Entity.describes_of_ofDescriptor hEntity).named property hProperty

/-- A type whose names differ in their numbers and in where their pieces end. -/
def parcel : TypeDescriptor where
  name := "Parcel"
  members :=
    [{ name := "line", declared := .named "String" },
      { name := "line_2", declared := .named "String" },
      { name := "line_2_b", declared := .named "String" },
      { name := "line_2b", declared := .named "String" },
      { name := "line2_b", declared := .named "String" }]

/-- The last three names of a parcel differ by an underscore only, and each is found by its own
spelling. -/
theorem pascalCase_inverted_parcel :
    ∃ entity, Entity.ofDescriptor parcel (fun _ => true) = .ok entity ∧
      entity.properties.map (fun property => String.ofList (pascalCase property.name.toList)) =
        ["Line", "Line_2", "Line_2B", "Line_2b", "Line2B"] ∧
      (∀ property ∈ entity.properties, isNumberedName property.name.toList = true) ∧
      (∀ property ∈ entity.properties,
        snakeCase (pascalCase property.name.toList) = property.name.toList ∧
          entity.lookup? (pascalCase property.name.toList) = some property) := by
  obtain ⟨hRestored, _, hFound⟩ := pascalCase_inverted
  have hOk : ∃ entity, Entity.ofDescriptor parcel (fun _ => true) = .ok entity := by
    rw [ofDescriptor_isOk_iff]
    decide
  obtain ⟨entity, hEntity⟩ := hOk
  have hProperties := TypeSource.eq_of_ofDescriptor hEntity
  have hNames : ∀ property ∈ entity.properties, isNumberedName property.name.toList = true := by
    rw [hProperties]
    decide
  obtain ⟨_, hOwn⟩ := hFound parcel (fun _ => true) entity hEntity hNames
  refine ⟨entity, hEntity, ?_, hNames, fun property hProperty => ⟨?_, hOwn property hProperty⟩⟩
  · rw [hProperties]
    decide +kernel
  · exact hRestored property.name.toList (hNames property hProperty)

end Spelling

end DerivedQuery
