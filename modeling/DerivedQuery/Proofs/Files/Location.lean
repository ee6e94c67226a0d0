import DerivedQuery.Files.Location
import Mathlib.Data.List.TakeWhile

/-!
# The names of locations

Slashes and single dots may be written anywhere in a location, so its text says more than where it
leads. What it leads through are its names, and all that is done with locations is described in them:
joining puts names behind each other, and seeing a location from a directory takes the names of the
directory away. So the names of the rest depend on the names of the location alone, not on its text.

The other way round the rest determines the location, as far as its names go. It has lost the names
of the directory; but a location is left as it is only if it is not below the directory, and then it
is an absolute one, while the rest of a location below the directory never is.

## Main definitions

* `Location.Within`: a location that is below a directory or does not depend on it

## Main results

* `Location.names_join`: the names of joined locations
* `Location.relativeTo_cases`: what a location looks like from a directory
* `Location.names_eq_of_relativeTo_eq`: the names of a location are known from its rest
* `Location.extension?_eq_some_iff`: how a name ends with an extension
-/

namespace DerivedQuery.Files.Location

variable {directory location other : Location}

/-! ## Names of a text -/

theorem names_append (front back : List Char) :
    names ⟨front ++ '/' :: back⟩ = names ⟨front⟩ ++ names ⟨back⟩ := by
  simp only [names, pieces, List.splitOn_append_cons_self, List.filter_append]

private theorem names_slash (back : List Char) : names ⟨'/' :: back⟩ = names ⟨back⟩ :=
  names_append [] back

/-- A text without a slash is a single name, unless it means nothing. -/
theorem names_piece {piece : List Char} (hPiece : '/' ∉ piece) (hSome : piece ≠ [])
    (hDot : piece ≠ ['.']) : names ⟨piece⟩ = [piece] := by
  rw [names, pieces, List.splitOn_eq_singleton hPiece]
  simp [hSome, hDot]

private theorem nil_not_mem_names (location : Location) : [] ∉ location.names := by
  simp [names]

private theorem names_skipNothing (text : List Char) : names ⟨skipNothing text⟩ = names ⟨text⟩ := by
  fun_induction skipNothing text with
  | case1 rest ih => rw [ih, names_slash]
  | case2 rest ih =>
      have hDot : names ⟨['.'] ++ '/' :: rest⟩ = names ⟨['.']⟩ ++ names ⟨rest⟩ := names_append _ _
      rw [ih]
      exact hDot.symm
  | case3 => rfl
  | case4 => rfl

/-- What is left without slashes and single dots starts with a name. -/
theorem skipNothing_starts (text : List Char) :
    (skipNothing text).head? ≠ some '/' ∧ (skipNothing text).takeWhile (· != '/') ≠ ['.'] := by
  fun_induction skipNothing text with
  | case1 rest ih => exact ih
  | case2 rest ih => exact ih
  | case3 => simp
  | case4 text hSlash hDotSlash hDot =>
      refine ⟨?_, ?_⟩
      · cases text with
        | nil => simp
        | cons c rest =>
            simp only [List.head?_cons, ne_eq, Option.some.injEq]
            rintro rfl
            exact hSlash rest rfl
      · intro hAlone
        have hText := List.takeWhile_append_dropWhile (p := (· != '/')) (l := text)
        rw [hAlone] at hText
        cases hRest : text.dropWhile (· != '/') with
        | nil =>
            rw [hRest] at hText
            exact hDot hText.symm
        | cons c rest =>
            have hFirst := List.head?_dropWhile_not (· != '/') text
            rw [hRest] at hFirst hText
            have hSlashed : c = '/' := by simpa using hFirst
            exact hDotSlash rest (by rw [← hText, hSlashed]; rfl)

/-- A text leads nowhere, or it starts with its first name. -/
theorem names_cases (text : List Char) :
    (skipNothing text = [] ∧ names ⟨text⟩ = []) ∨
      ∃ name rest, skipNothing text = name ++ rest ∧ (skipNothing text).takeWhile (· != '/') = name ∧
        name ≠ [] ∧ names ⟨text⟩ = name :: names ⟨rest⟩ := by
  obtain ⟨hHead, hDot⟩ := skipNothing_starts text
  rw [← names_skipNothing text]
  generalize skipNothing text = start at hHead hDot
  have hStart := List.takeWhile_append_dropWhile (p := (· != '/')) (l := start)
  have hPlain : '/' ∉ start.takeWhile (· != '/') := fun hMem => by
    simpa using List.mem_takeWhile_imp hMem
  cases hName : start.takeWhile (· != '/') with
  | nil =>
      cases start with
      | nil => exact Or.inl ⟨rfl, rfl⟩
      | cons c rest =>
          have hFirst : c ≠ '/' := by simpa using hHead
          simp [hFirst] at hName
  | cons c more =>
      rw [hName] at hStart hPlain hDot
      refine Or.inr ⟨c :: more, start.dropWhile (· != '/'), hStart.symm, rfl, by simp, ?_⟩
      cases hRest : start.dropWhile (· != '/') with
      | nil =>
          rw [hRest, List.append_nil] at hStart
          rw [← hStart, names_piece hPlain (by simp) hDot]
          rfl
      | cons d rest =>
          have hSlash : d = '/' := by
            have hFirst := List.head?_dropWhile_not (· != '/') start
            rw [hRest] at hFirst
            simpa using hFirst
          rw [hRest, hSlash] at hStart
          rw [← hStart, names_append, names_piece hPlain (by simp) hDot, hSlash, names_slash]
          rfl

/-! ## Joining -/

/-- The names of a location below a directory stand behind those of the directory. -/
theorem names_join (directory : Location) (hRelative : location.isAbsolute = false) :
    (directory.join location).names = directory.names ++ location.names := by
  unfold join
  rw [hRelative, if_neg Bool.false_ne_true]
  split
  · rename_i hEnd
    rcases List.eq_nil_or_concat directory.text with hText | ⟨front, last, hText⟩
    · rw [hText, List.nil_append, show directory = ⟨[]⟩ from congrArg mk hText]
      rfl
    · rw [List.concat_eq_append] at hText
      have hSlash : last = '/' := by simpa [hText] using hEnd
      have hDirectory : directory = ⟨front ++ '/' :: []⟩ := by
        rw [← hSlash]
        exact congrArg mk hText
      have hNone : names ⟨[]⟩ = [] := rfl
      rw [hDirectory]
      simp only [List.append_assoc, List.cons_append, List.nil_append, names_append, hNone,
        List.append_nil]
  · exact names_append directory.text location.text

private theorem isAbsolute_join (hDirectory : directory.isAbsolute = true) :
    (directory.join location).isAbsolute = true := by
  have hHead : directory.text.head? = some '/' := by simpa [isAbsolute] using hDirectory
  unfold join
  split
  · assumption
  · split <;> simp [isAbsolute, hHead]

/-- The location is below the directory, or it is an absolute one. -/
def Within (directory location : Location) : Prop :=
  directory.names <+: location.names ∨ location.isAbsolute = true

theorem within_join (directory location : Location) : Within directory (directory.join location) := by
  cases hAbsolute : location.isAbsolute with
  | true =>
      refine Or.inr ?_
      unfold join
      rwa [if_pos hAbsolute]
  | false => exact Or.inl (names_join directory hAbsolute ▸ List.prefix_append _ _)

theorem Within.join (hWithin : Within directory location) (further : Location) :
    Within directory (location.join further) := by
  rcases hWithin with hBelow | hAbsolute
  · rcases within_join location further with hFurther | hAbsolute
    · exact Or.inl (hBelow.trans hFurther)
    · exact Or.inr hAbsolute
  · exact Or.inr (isAbsolute_join hAbsolute)

/-! ## Seen from a directory -/

/-- The text behind some names, if the location starts with them. -/
theorem behindNames?_cases {names : List (List Char)} (hNames : [] ∉ names) (text : List Char) :
    (∃ rest, behindNames? names text = some rest ∧ rest.head? ≠ some '/' ∧
        Location.names ⟨text⟩ = names ++ Location.names ⟨rest⟩) ∨
      (behindNames? names text = none ∧ ¬names <+: Location.names ⟨text⟩) := by
  induction names generalizing text with
  | nil =>
      refine Or.inl ⟨skipNothing text, rfl, (skipNothing_starts text).1, ?_⟩
      rw [names_skipNothing, List.nil_append]
  | cons name more ih =>
      rw [List.mem_cons, not_or] at hNames
      rw [behindNames?]
      rcases names_cases text with ⟨hNothing, hNone⟩ | ⟨first, rest, hText, hFirst, _, hAll⟩
      · refine Or.inr ⟨?_, by simp [hNone]⟩
        rw [hNothing, if_neg (by simpa using hNames.1)]
      · rw [hFirst, hAll, hText]
        by_cases hName : first = name
        · rw [if_pos hName, ← hName, List.drop_left, List.cons_prefix_cons]
          rcases ih hNames.2 rest with ⟨behind, hBehind, hHead, hRest⟩ | ⟨hBehind, hRest⟩
          · exact Or.inl ⟨behind, hBehind, hHead, by rw [hRest, List.cons_append]⟩
          · exact Or.inr ⟨hBehind, fun hPrefix => hRest hPrefix.2⟩
        · rw [if_neg hName, List.cons_prefix_cons]
          exact Or.inr ⟨rfl, fun hPrefix => hName hPrefix.1.symm⟩

/-- A location below a directory loses the names of the directory; another one is left as it is. -/
theorem relativeTo_cases (directory location : Location) :
    (location.names = directory.names ++ (directory.relativeTo location).names ∧
        (directory.relativeTo location).isAbsolute = false) ∨
      (directory.relativeTo location = location ∧ ¬directory.names <+: location.names) := by
  unfold relativeTo relativeTo?
  rcases behindNames?_cases (nil_not_mem_names directory) location.text with
    ⟨rest, hBehind, hHead, hNames⟩ | ⟨hBehind, hNames⟩
  · refine Or.inl ?_
    rw [hBehind]
    exact ⟨hNames, by simpa [isAbsolute] using hHead⟩
  · exact Or.inr ⟨by rw [hBehind]; rfl, hNames⟩

/-- What is left of the names does not depend on how a location is written. -/
theorem names_relativeTo_congr (hNames : location.names = other.names) :
    (directory.relativeTo location).names = (directory.relativeTo other).names := by
  rcases relativeTo_cases directory location with ⟨hBelow, _⟩ | ⟨hSame, hOutside⟩
  · rcases relativeTo_cases directory other with ⟨hOther, _⟩ | ⟨_, hOutside⟩
    · rw [hBelow, hOther] at hNames
      exact List.append_cancel_left hNames
    · rw [← hNames, hBelow] at hOutside
      exact absurd (List.prefix_append _ _) hOutside
  · rcases relativeTo_cases directory other with ⟨hOther, _⟩ | ⟨hOther, _⟩
    · rw [hNames, hOther] at hOutside
      exact absurd (List.prefix_append _ _) hOutside
    · rw [hSame, hOther, hNames]

/-- Locations that look alike from a directory have the same names. -/
theorem names_eq_of_relativeTo_eq (hLocation : Within directory location)
    (hOther : Within directory other)
    (hSame : directory.relativeTo location = directory.relativeTo other) :
    location.names = other.names := by
  rcases relativeTo_cases directory location with ⟨hBelow, hRest⟩ | ⟨hLeft, hOutside⟩
  · rcases relativeTo_cases directory other with ⟨hBelowToo, _⟩ | ⟨hLeftToo, hOutsideToo⟩
    · rw [hBelow, hBelowToo, hSame]
    · rw [hSame, hLeftToo, hOther.resolve_left hOutsideToo] at hRest
      simp at hRest
  · rcases relativeTo_cases directory other with ⟨_, hRest⟩ | ⟨hLeftToo, _⟩
    · rw [← hSame, hLeft, hLocation.resolve_left hOutside] at hRest
      simp at hRest
    · rw [← hLeft, hSame, hLeftToo]

/-! ## Extensions -/

/-- The text behind the last dot of a name. -/
theorem behindLastDot_eq_iff {name extension : List Char} (hExtension : '.' ∉ extension) :
    (name.reverse.takeWhile (· != '.')).reverse = extension ∧ extension.length + 1 < name.length ↔
      ∃ stem, name = stem ++ '.' :: extension ∧ stem ≠ [] := by
  constructor
  · rintro ⟨hBehind, hLength⟩
    have hName := List.takeWhile_append_dropWhile (p := (· != '.')) (l := name.reverse)
    rw [List.reverse_eq_iff.mp hBehind] at hName
    cases hRest : name.reverse.dropWhile (· != '.') with
    | nil =>
        have hLengths := congrArg List.length hName
        simp only [hRest, List.length_append, List.length_reverse, List.length_nil] at hLengths
        omega
    | cons c rest =>
        have hDot : c = '.' := by
          have hFirst := List.head?_dropWhile_not (· != '.') name.reverse
          rw [hRest] at hFirst
          simpa using hFirst
        rw [hRest, hDot] at hName
        have hText : name = rest.reverse ++ '.' :: extension := by
          rw [← List.reverse_inj, ← hName]
          simp
        refine ⟨rest.reverse, hText, ?_⟩
        rintro hNil
        rw [hText, hNil] at hLength
        simp at hLength
  · rintro ⟨stem, rfl, hStem⟩
    have hPlain : ∀ c ∈ extension.reverse, (c != '.') = true := by
      intro c hMem
      have hDifferent : c ≠ '.' := fun hDot => hExtension (hDot ▸ List.mem_reverse.mp hMem)
      simpa using hDifferent
    have hStemLength := List.length_pos_iff.mpr hStem
    refine ⟨?_, by simp only [List.length_append, List.length_cons]; omega⟩
    rw [List.reverse_append, List.reverse_cons, List.append_assoc,
      List.takeWhile_append_of_pos hPlain]
    simp

/-- A location has an extension if its last name ends with a dot and the extension, behind something
else. -/
theorem extension?_eq_some_iff {extension : List Char} (hExtension : '.' ∉ extension)
    (hSome : extension ≠ []) :
    location.extension? = some extension ↔
      ∃ above stem, location.names = above ++ [stem ++ '.' :: extension] ∧ stem ≠ [] := by
  unfold extension?
  cases hLast : location.names.getLast? with
  | none =>
      rw [List.getLast?_eq_none_iff.mp hLast]
      simp
  | some name =>
      obtain ⟨above, hNames⟩ := List.getLast?_eq_some_iff.mp hLast
      have hEnds : (∃ front stem, location.names = front ++ [stem ++ '.' :: extension] ∧ stem ≠ []) ↔
          ∃ stem, name = stem ++ '.' :: extension ∧ stem ≠ [] := by
        rw [hNames]
        constructor
        · rintro ⟨front, stem, hSame, hStem⟩
          exact ⟨stem, by simpa using (List.append_inj' hSame rfl).2, hStem⟩
        · rintro ⟨stem, rfl, hStem⟩
          exact ⟨above, stem, rfl, hStem⟩
      rw [hEnds, ← behindLastDot_eq_iff hExtension]
      simp only [bind, Option.bind]
      split
      · rename_i hUp
        -- behind the last of two dots there is nothing
        simp [hUp, hSome.symm]
      · generalize (name.reverse.takeWhile (· != '.')).reverse = behind
        split
        · rename_i hLength
          rw [Option.some.injEq]
          exact ⟨fun hBehind => ⟨hBehind, hBehind ▸ hLength⟩, And.left⟩
        · rename_i hLength
          simp only [reduceCtorEq, false_iff, not_and]
          rintro rfl
          exact hLength

end DerivedQuery.Files.Location
