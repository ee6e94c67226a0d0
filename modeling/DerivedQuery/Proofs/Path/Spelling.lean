import DerivedQuery.Path.Spelling
import DerivedQuery.Proofs.Text.Ascii
import DerivedQuery.Proofs.Text.Runs
import Mathlib.Data.List.Basic

/-!
# Spelling snake case names with capitals

A *numbered name* has pieces of lowercase letters and digits between single underscores, and starts
with a letter (`zip_code`, `line_2_b`); in a *snake case name* every piece starts with a letter. Its
spelling with capitals can be read back: snake case restores a numbered name from it, and among
properties with numbered names it refers to that one alone. For a snake case name the runs of the
spelling are the capitalized pieces.

## Main results

* `snakeCase_pascalCase`: snake case restores a numbered name
* `lookup?_pascalCase`: the property that the spelling of a numbered name refers to
* `runs_pascalCase`: the runs of the spelling of a snake case name
-/

namespace DerivedQuery.Text

/-- Nothing but the separators is lost between chunks. -/
theorem chunks_joined (separator : Char) (text : List Char) :
    (chunks (· == separator) text).1 ++ (chunks (· == separator) text).2.flatMap (separator :: ·) =
      text := by
  induction text with
  | nil => rfl
  | cons c rest ih =>
      by_cases hSeparator : c = separator
      · simp [chunks, hSeparator, ih]
      · simp [chunks, hSeparator, ih]

/-- Characters that do not separate belong to the first chunk. -/
theorem chunks_append {isSeparator : Char → Bool} {piece : List Char}
    (hPiece : ∀ c ∈ piece, isSeparator c = false) (rest : List Char) :
    chunks isSeparator (piece ++ rest) =
      (piece ++ (chunks isSeparator rest).1, (chunks isSeparator rest).2) := by
  induction piece with
  | nil => rfl
  | cons c more ih =>
      have hHead : isSeparator c = false := hPiece c List.mem_cons_self
      have hMore := ih fun d hD => hPiece d (List.mem_cons_of_mem c hD)
      simp [chunks, hMore, hHead]

/-- What is behind a separator starts with a chunk of its own. -/
theorem chunk_behind_mem {isSeparator : Char → Bool} {separator : Char}
    (hSeparator : isSeparator separator = true) (front back : List Char) :
    (chunks isSeparator back).1 ∈ (chunks isSeparator (front ++ separator :: back)).2 := by
  induction front with
  | nil => simp [chunks, hSeparator]
  | cons c rest ih =>
      rw [List.cons_append, chunks]
      dsimp only
      split
      · exact List.mem_cons_of_mem _ ih
      · exact ih

/-- Texts without separators are the chunks of what they are joined to. -/
theorem chunks_intercalate {isSeparator : Char → Bool} {separator : Char}
    (hSeparator : isSeparator separator = true) (first : List Char) (more : List (List Char))
    (hChars : ∀ piece ∈ first :: more, ∀ c ∈ piece, isSeparator c = false) :
    chunks isSeparator ([separator].intercalate (first :: more)) = (first, more) := by
  induction more generalizing first with
  | nil =>
      have hFirst := chunks_append (hChars first List.mem_cons_self) []
      simpa [chunks] using hFirst
  | cons second others ih =>
      have hLater := ih second fun piece hPiece => hChars piece (List.mem_cons_of_mem first hPiece)
      rw [List.intercalate_cons_cons, List.append_assoc,
        chunks_append (hChars first List.mem_cons_self)]
      simp [chunks, hSeparator, hLater]

end DerivedQuery.Text

namespace DerivedQuery.Spelling

open Text

/-! ## Names -/

/-- A lowercase letter or a digit of ASCII. -/
def isPieceChar (c : Char) : Bool :=
  c.isLower || c.isDigit

/-- A piece that starts with a letter. -/
def isLetterPiece : List Char → Bool
  | [] => false
  | c :: rest => c.isLower && rest.all isPieceChar

/-- A piece that may start with a digit. -/
def isPiece (piece : List Char) : Bool :=
  !piece.isEmpty && piece.all isPieceChar

/-- A name whose pieces between underscores hold lowercase letters and digits, and whose first
piece starts with a letter. -/
def isNumberedName (name : List Char) : Bool :=
  isLetterPiece (chunks (· == '_') name).1 && (chunks (· == '_') name).2.all isPiece

/-- A name all of whose pieces between underscores start with a letter. -/
def isSnakeName (name : List Char) : Bool :=
  isLetterPiece (chunks (· == '_') name).1 && (chunks (· == '_') name).2.all isLetterPiece

theorem isPiece_of_isLetterPiece {piece : List Char} (hPiece : isLetterPiece piece = true) :
    isPiece piece = true := by
  cases piece with
  | nil => simp [isLetterPiece] at hPiece
  | cons c rest =>
      simp only [isLetterPiece, Bool.and_eq_true] at hPiece
      simp [isPiece, isPieceChar, hPiece.1]
      simpa [isPieceChar] using hPiece.2

theorem isNumberedName_of_isSnakeName {name : List Char} (hName : isSnakeName name = true) :
    isNumberedName name = true := by
  simp only [isSnakeName, isNumberedName, Bool.and_eq_true, List.all_eq_true] at hName ⊢
  exact ⟨hName.1, fun piece hPiece => isPiece_of_isLetterPiece (hName.2 piece hPiece)⟩

/-- The parts of a numbered name. -/
theorem isNumberedName_iff {name : List Char} :
    isNumberedName name = true ↔ ∃ c rest more, chunks (· == '_') name = (c :: rest, more) ∧
      c.isLower = true ∧ (∀ d ∈ rest, isPieceChar d = true) ∧
        ∀ piece ∈ more, isPiece piece = true := by
  constructor
  · intro hName
    simp only [isNumberedName, Bool.and_eq_true, List.all_eq_true] at hName
    obtain ⟨hFirst, hMore⟩ := hName
    cases hChunks : chunks (· == '_') name with
    | mk first more =>
        rw [hChunks] at hFirst hMore
        cases first with
        | nil => simp [isLetterPiece] at hFirst
        | cons c rest =>
            simp only [isLetterPiece, Bool.and_eq_true, List.all_eq_true] at hFirst
            exact ⟨c, rest, more, rfl, hFirst.1, hFirst.2, hMore⟩
  · rintro ⟨c, rest, more, hChunks, hLower, hRest, hMore⟩
    simp only [isNumberedName, hChunks, isLetterPiece, Bool.and_eq_true, List.all_eq_true]
    exact ⟨⟨hLower, hRest⟩, hMore⟩

/-- A numbered name starts with a lowercase letter. -/
theorem isLower_of_isNumberedName {c : Char} {rest : List Char}
    (hName : isNumberedName (c :: rest) = true) : c.isLower = true := by
  obtain ⟨first, piece, more, hChunks, hLower, _⟩ := isNumberedName_iff.mp hName
  have hJoined := chunks_joined '_' (c :: rest)
  rw [hChunks, List.cons_append, List.cons.injEq] at hJoined
  rw [← hJoined.1]
  exact hLower

/-- Behind an underscore a numbered name goes on with a letter or a digit. -/
theorem exists_pieceChar_behind_underscore {front back : List Char}
    (hName : isNumberedName (front ++ '_' :: back) = true) :
    ∃ c rest, back = c :: rest ∧ isPieceChar c = true := by
  simp only [isNumberedName, Bool.and_eq_true, List.all_eq_true] at hName
  have hPiece := hName.2 _ (chunk_behind_mem (by simp) front back)
  cases back with
  | nil => simp [chunks, isPiece] at hPiece
  | cons c rest =>
      refine ⟨c, rest, rfl, ?_⟩
      by_cases hUnderscore : c = '_'
      · simp [chunks, hUnderscore, isPiece] at hPiece
      · have hFirst : (c == '_') = false := by simpa using hUnderscore
        simp only [chunks, hFirst, isPiece, Bool.false_eq_true, if_false, List.all_cons,
          Bool.and_eq_true] at hPiece
        exact hPiece.2.1

/-! ## Characters of pieces -/

theorem isUppercase_of_isPieceChar {c : Char} (hChar : isPieceChar c = true) :
    isUppercase c = false := by
  rw [isPieceChar, Bool.or_eq_true] at hChar
  rcases hChar with hLower | hDigit
  · exact isUppercase_of_isLower hLower
  · exact isUppercase_of_isDigit hDigit

private theorem snakeCaseChar_of_isPieceChar {c : Char} (hChar : isPieceChar c = true) :
    snakeCaseChar c = [c] := by
  simp [snakeCaseChar, isUppercase_of_isPieceChar hChar]

private theorem snakeCaseChar_toUpper {c : Char} (hLower : c.isLower = true) :
    snakeCaseChar c.toUpper = ['_', c] := by
  simp [snakeCaseChar, isUppercase_toUpper hLower, lowercase_toUpper hLower]

private theorem isAlphanum_of_isPieceChar {c : Char} (hChar : isPieceChar c = true) :
    c.isAlphanum = true := by
  rw [isPieceChar, Bool.or_eq_true] at hChar
  rcases hChar with hLower | hDigit
  · have hAlpha : (c.isUpper || c.isLower) = true := by simp [hLower]
    exact Bool.or_eq_true_iff.mpr (Or.inl hAlpha)
  · simp [Char.isAlphanum, hDigit]

private theorem flatMap_snakeCaseChar {piece : List Char}
    (hPiece : ∀ c ∈ piece, isPieceChar c = true) :
    piece.flatMap snakeCaseChar = piece := by
  induction piece with
  | nil => rfl
  | cons c rest ih =>
      rw [List.flatMap_cons, snakeCaseChar_of_isPieceChar (hPiece c List.mem_cons_self),
        ih fun d hD => hPiece d (List.mem_cons_of_mem c hD)]
      rfl

private theorem capitalize_cons {c : Char} (hLower : c.isLower = true) (rest : List Char) :
    capitalize (c :: rest) = c.toUpper :: rest := by
  simp [capitalize, uppercase_of_isLower hLower]

/-- A later piece with a letter in front is capitalized; one with a digit in front keeps its
underscore. -/
theorem laterPiece_cons {c : Char} {rest : List Char} (hPiece : isPiece (c :: rest) = true) :
    (c.isLower = true ∧ laterPiece (c :: rest) = c.toUpper :: rest) ∨
      (c.isDigit = true ∧ laterPiece (c :: rest) = '_' :: c :: rest) := by
  simp only [isPiece, List.all_cons, isPieceChar, Bool.and_eq_true, Bool.or_eq_true] at hPiece
  rcases hPiece.2.1 with hLower | hDigit
  · refine Or.inl ⟨hLower, ?_⟩
    simp [laterPiece, isAlphabetic_of_isLower hLower, capitalize_cons hLower]
  · refine Or.inr ⟨hDigit, ?_⟩
    simp [laterPiece, isAlphabetic_of_isDigit hDigit, capitalize, uppercase_of_isDigit hDigit]

/-- Snake case restores a later piece together with its underscore. -/
theorem flatMap_snakeCaseChar_laterPiece {piece : List Char} (hPiece : isPiece piece = true) :
    (laterPiece piece).flatMap snakeCaseChar = '_' :: piece := by
  cases piece with
  | nil => simp [isPiece] at hPiece
  | cons c rest =>
      have hRest : rest.flatMap snakeCaseChar = rest := by
        apply flatMap_snakeCaseChar
        simp only [isPiece, List.all_cons, Bool.and_eq_true, List.all_eq_true] at hPiece
        exact hPiece.2.2
      rcases laterPiece_cons hPiece with ⟨hLower, hLater⟩ | ⟨hDigit, hLater⟩
      · rw [hLater, List.flatMap_cons, snakeCaseChar_toUpper hLower, hRest]
        rfl
      · have hUnderscore : snakeCaseChar '_' = ['_'] := by decide
        have hChar : isPieceChar c = true := by simp [isPieceChar, hDigit]
        rw [hLater, List.flatMap_cons, List.flatMap_cons, hUnderscore,
          snakeCaseChar_of_isPieceChar hChar, hRest]
        rfl

/-! ## The spelling of a numbered name -/

/-- The first piece is capitalized, and each later one is spelled in its place. -/
theorem pascalCase_of_chunks {name : List Char} {c : Char} {rest : List Char}
    {more : List (List Char)} (hChunks : chunks (· == '_') name = (c :: rest, more))
    (hLower : c.isLower = true) (hMore : ∀ piece ∈ more, isPiece piece = true) :
    pascalCase name = c.toUpper :: (rest ++ more.flatMap laterPiece) := by
  have hPieces : pieces name = (c :: rest) :: more := by
    rw [pieces, hChunks]
    apply List.filter_eq_self.mpr
    intro piece hPiece
    rcases List.mem_cons.mp hPiece with rfl | hLater
    · rfl
    · have hNonempty := hMore piece hLater
      simp only [isPiece, Bool.and_eq_true] at hNonempty
      exact hNonempty.1
  simp [pascalCase, hPieces, capitalize_cons hLower]

/-- The spelling of a numbered name holds letters, digits and underscores only. -/
theorem isAlphanum_or_underscore_of_mem {name : List Char} (hName : isNumberedName name = true)
    {c : Char} (hChar : c ∈ pascalCase name) : c.isAlphanum = true ∨ c = '_' := by
  obtain ⟨first, rest, more, hChunks, hLower, hRest, hMore⟩ := isNumberedName_iff.mp hName
  rw [pascalCase_of_chunks hChunks hLower hMore, List.mem_cons, List.mem_append,
    List.mem_flatMap] at hChar
  rcases hChar with rfl | hFirst | ⟨piece, hPiece, hLater⟩
  · exact Or.inl (isAlphanum_toUpper hLower)
  · exact Or.inl (isAlphanum_of_isPieceChar (hRest c hFirst))
  · have hChars := hMore piece hPiece
    cases piece with
    | nil => simp [isPiece] at hChars
    | cons d others =>
        have hInside : ∀ e ∈ d :: others, isPieceChar e = true := by
          simp only [isPiece, Bool.and_eq_true, List.all_eq_true] at hChars
          exact hChars.2
        rcases laterPiece_cons hChars with ⟨hLetter, hSpelled⟩ | ⟨_, hSpelled⟩
        · rw [hSpelled, List.mem_cons] at hLater
          rcases hLater with rfl | hOthers
          · exact Or.inl (isAlphanum_toUpper hLetter)
          · exact Or.inl (isAlphanum_of_isPieceChar
              (hInside c (List.mem_cons_of_mem d hOthers)))
        · rw [hSpelled, List.mem_cons] at hLater
          rcases hLater with rfl | hKept
          · exact Or.inr rfl
          · exact Or.inl (isAlphanum_of_isPieceChar (hInside c hKept))

/-- The spelling of a numbered name starts with a capital. -/
theorem opensWord_pascalCase {name : List Char} (hName : isNumberedName name = true) :
    opensWord (pascalCase name) = true := by
  obtain ⟨c, rest, more, hChunks, hLower, _, hMore⟩ := isNumberedName_iff.mp hName
  rw [pascalCase_of_chunks hChunks hLower hMore, opensWord_cons]
  exact isUppercase_toUpper hLower

/-- Snake case restores a numbered name. -/
theorem snakeCase_pascalCase {name : List Char} (hName : isNumberedName name = true) :
    snakeCase (pascalCase name) = name := by
  obtain ⟨c, rest, more, hChunks, hLower, hRest, hMore⟩ := isNumberedName_iff.mp hName
  have hLater : (more.flatMap laterPiece).flatMap snakeCaseChar = more.flatMap ('_' :: ·) := by
    rw [List.flatMap_assoc]
    exact List.flatMap_congr fun piece hPiece =>
      flatMap_snakeCaseChar_laterPiece (hMore piece hPiece)
  have hJoined := chunks_joined '_' name
  rw [hChunks] at hJoined
  calc snakeCase (pascalCase name)
      = [c] ++ (rest ++ more.flatMap laterPiece).flatMap snakeCaseChar := by
        rw [pascalCase_of_chunks hChunks hLower hMore, snakeCase,
          if_pos (isUppercase_toUpper hLower), lowercase_toUpper hLower]
    _ = (c :: rest) ++ more.flatMap ('_' :: ·) := by
        rw [List.flatMap_append, flatMap_snakeCaseChar hRest, hLater]
        rfl
    _ = name := hJoined

/-- A numbered name holds no uppercase character. -/
theorem isUppercase_of_mem {name : List Char} (hName : isNumberedName name = true) {c : Char}
    (hChar : c ∈ name) : isUppercase c = false := by
  obtain ⟨first, rest, more, hChunks, hLower, hRest, hMore⟩ := isNumberedName_iff.mp hName
  have hJoined := chunks_joined '_' name
  rw [hChunks] at hJoined
  rw [← hJoined, List.mem_append, List.mem_cons, List.mem_flatMap] at hChar
  rcases hChar with (rfl | hFirst) | ⟨piece, hPiece, hLater⟩
  · exact isUppercase_of_isLower hLower
  · exact isUppercase_of_isPieceChar (hRest c hFirst)
  · rcases List.mem_cons.mp hLater with rfl | hInside
    · decide
    · have hChars := hMore piece hPiece
      simp only [isPiece, Bool.and_eq_true, List.all_eq_true] at hChars
      exact isUppercase_of_isPieceChar (hChars.2 c hInside)

/-- The uncapitalized spelling of a numbered name is the name itself or holds a capital. -/
theorem uncapitalize_pascalCase {name : List Char} (hName : isNumberedName name = true) :
    uncapitalize (pascalCase name) = name ∨
      ∃ c ∈ uncapitalize (pascalCase name), isUppercase c = true := by
  obtain ⟨c, rest, more, hChunks, hLower, hRest, hMore⟩ := isNumberedName_iff.mp hName
  have hJoined := chunks_joined '_' name
  rw [hChunks] at hJoined
  rw [pascalCase_of_chunks hChunks hLower hMore, uncapitalize, lowercase_toUpper hLower]
  by_cases hKept : ∀ piece ∈ more, laterPiece piece = '_' :: piece
  · left
    rw [List.flatMap_congr hKept]
    exact hJoined
  · right
    simp only [not_forall] at hKept
    obtain ⟨piece, hPiece, hChanged⟩ := hKept
    cases piece with
    | nil =>
        have hNonempty := hMore [] hPiece
        simp [isPiece] at hNonempty
    | cons d others =>
        rcases laterPiece_cons (hMore _ hPiece) with ⟨hLetter, hLater⟩ | ⟨_, hLater⟩
        · refine ⟨d.toUpper, ?_, isUppercase_toUpper hLetter⟩
          simp only [List.cons_append, List.nil_append, List.mem_cons, List.mem_append,
            List.mem_flatMap]
          exact Or.inr (Or.inr ⟨_, hPiece, by rw [hLater]; exact List.mem_cons_self⟩)
        · exact absurd hLater hChanged

/-! ## Looking up a spelling -/

/-- In an entity of numbered names no property has another name. -/
theorem property?_eq_none_of_not_numbered {entity : Entity}
    (hNames : ∀ property ∈ entity.properties, isNumberedName property.name.toList = true)
    {text : List Char} (hText : isNumberedName text = false) :
    entity.property? (String.ofList text) = none := by
  apply List.find?_eq_none.mpr
  intro property hProperty hName
  have hSame : property.name.toList = text := by
    rw [beq_iff_eq.mp hName, String.toList_ofList]
  have hNumbered := hNames property hProperty
  rw [hSame, hText] at hNumbered
  simp at hNumbered

/-- In particular no property has a name with a capital in it. -/
theorem property?_eq_none_of_isUppercase {entity : Entity}
    (hNames : ∀ property ∈ entity.properties, isNumberedName property.name.toList = true)
    {text : List Char} {c : Char} (hChar : c ∈ text) (hUpper : isUppercase c = true) :
    entity.property? (String.ofList text) = none := by
  apply property?_eq_none_of_not_numbered hNames
  rw [Bool.eq_false_iff]
  intro hName
  rw [isUppercase_of_mem hName hChar] at hUpper
  simp at hUpper

/-- Among properties with numbered names, the spelling of such a name refers to the property of
that name and to no other. -/
theorem lookup?_pascalCase {entity : Entity}
    (hNames : ∀ property ∈ entity.properties, isNumberedName property.name.toList = true)
    {name : String} (hName : isNumberedName name.toList = true) :
    entity.lookup? (pascalCase name.toList) = entity.property? name := by
  have hSnake : String.ofList (snakeCase (pascalCase name.toList)) = name := by
    rw [snakeCase_pascalCase hName, String.ofList_toList]
  have hVerbatim : entity.property? (String.ofList (pascalCase name.toList)) = none := by
    obtain ⟨c, rest, more, hChunks, hLower, _, hMore⟩ := isNumberedName_iff.mp hName
    apply property?_eq_none_of_isUppercase hNames _ (isUppercase_toUpper hLower)
    rw [pascalCase_of_chunks hChunks hLower hMore]
    exact List.mem_cons_self
  rw [Entity.lookup?, hVerbatim, hSnake]
  rcases uncapitalize_pascalCase hName with hSame | ⟨c, hChar, hUpper⟩
  · rw [hSame, String.ofList_toList]
    cases entity.property? name <;> rfl
  · rw [property?_eq_none_of_isUppercase hNames hChar hUpper]
    rfl

/-! ## The runs of a spelling -/

theorem opensWord_capitalize {piece : List Char} (hPiece : isLetterPiece piece = true) :
    opensWord (capitalize piece) = true := by
  cases piece with
  | nil => simp [isLetterPiece] at hPiece
  | cons c rest =>
      simp only [isLetterPiece, Bool.and_eq_true] at hPiece
      rw [capitalize_cons hPiece.1, opensWord_cons]
      exact isUppercase_toUpper hPiece.1

private theorem runs_capitalize {piece : List Char} (hPiece : isLetterPiece piece = true) :
    runs (capitalize piece) = [capitalize piece] := by
  cases piece with
  | nil => simp [isLetterPiece] at hPiece
  | cons c rest =>
      simp only [isLetterPiece, Bool.and_eq_true, List.all_eq_true] at hPiece
      rw [capitalize_cons hPiece.1]
      exact runs_singleton _ fun d hD => isUppercase_of_isPieceChar (hPiece.2 d hD)

/-- The pieces of a snake case name all start with a letter, and the spelling joins them. -/
theorem pascalCase_of_isSnakeName {name : List Char} (hName : isSnakeName name = true) :
    pieces name ≠ [] ∧ (∀ piece ∈ pieces name, isLetterPiece piece = true) ∧
      pascalCase name = ((pieces name).map capitalize).flatten := by
  cases hChunks : chunks (· == '_') name with
  | mk first more =>
      simp only [isSnakeName, hChunks, Bool.and_eq_true, List.all_eq_true] at hName
      obtain ⟨hFirst, hMore⟩ := hName
      have hLetters : ∀ piece ∈ first :: more, isLetterPiece piece = true := by
        intro piece hPiece
        rcases List.mem_cons.mp hPiece with rfl | hLater
        · exact hFirst
        · exact hMore piece hLater
      have hPieces : pieces name = first :: more := by
        rw [pieces, hChunks]
        apply List.filter_eq_self.mpr
        intro piece hPiece
        have hKept := isPiece_of_isLetterPiece (hLetters piece hPiece)
        simp only [isPiece, Bool.and_eq_true] at hKept
        exact hKept.1
      have hLater : ∀ piece ∈ more, laterPiece piece = capitalize piece := by
        intro piece hPiece
        have hLower := hMore piece hPiece
        cases piece with
        | nil => simp [isLetterPiece] at hLower
        | cons c rest =>
            simp only [isLetterPiece, Bool.and_eq_true] at hLower
            simp [laterPiece, isAlphabetic_of_isLower hLower.1]
      refine ⟨by simp [hPieces], hPieces ▸ hLetters, ?_⟩
      rw [pascalCase, hPieces]
      simp only [List.map_cons, List.flatten_cons, List.flatMap_congr hLater]
      rfl

/-- The spelling of a snake case name holds letters and digits only. -/
theorem isAlphanum_of_mem_pascalCase {name : List Char} (hName : isSnakeName name = true) {c : Char}
    (hChar : c ∈ pascalCase name) : c.isAlphanum = true := by
  obtain ⟨_, hLetters, hJoined⟩ := pascalCase_of_isSnakeName hName
  rw [hJoined, List.mem_flatten] at hChar
  obtain ⟨word, hWord, hInside⟩ := hChar
  obtain ⟨piece, hPiece, rfl⟩ := List.mem_map.mp hWord
  have hLetter := hLetters piece hPiece
  cases piece with
  | nil => simp [isLetterPiece] at hLetter
  | cons d rest =>
      simp only [isLetterPiece, Bool.and_eq_true, List.all_eq_true] at hLetter
      rw [capitalize_cons hLetter.1, List.mem_cons] at hInside
      rcases hInside with rfl | hRest
      · exact isAlphanum_toUpper hLetter.1
      · exact isAlphanum_of_isPieceChar (hLetter.2 c hRest)

/-- The runs of the spelling of a snake case name are its capitalized pieces. -/
theorem runs_pascalCase {name : List Char} (hName : isSnakeName name = true) :
    runs (pascalCase name) = (pieces name).map capitalize := by
  obtain ⟨_, hLetters, hJoined⟩ := pascalCase_of_isSnakeName hName
  have hOpens : ∀ word ∈ (pieces name).map capitalize, opensWord word = true := by
    intro word hWord
    obtain ⟨piece, hPiece, rfl⟩ := List.mem_map.mp hWord
    exact opensWord_capitalize (hLetters piece hPiece)
  rw [hJoined, runs_flatten hOpens, List.flatMap_map,
    List.flatMap_congr fun piece hPiece => runs_capitalize (hLetters piece hPiece)]
  exact List.flatMap_pure_eq_map capitalize (pieces name)

end DerivedQuery.Spelling
