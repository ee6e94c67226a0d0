import DerivedQuery.Proofs.Query.Grammar
import DerivedQuery.Proofs.Registration

/-!
# The keyword of a part

A part may end with several tokens of the vocabulary at once (`In`, `NotIn`, `IsNotIn`), and a
property name may end with a token too. A part is read with the longest token that leaves a path in
front of it, and with the token that was registered first if it was registered for several keywords.
Only if no token leaves a path is the whole of the part a path, which is compared by the default
keyword.

The table of a vocabulary is searched from the front. So that the longest token wins is due to the
order of the table, which all registrations keep.

## Main definitions

* `DropsMarker`: the text without its marker for ignoring case
* `Scope.Leaves`: a token that leaves a path
* `KeywordReading`: the part that a text is read as

## Main results

* `isSome_comparisonOf?`, `keywordReading_of_comparisonOf?`: the search for a token
* `parsePart_exact`: which texts are read as parts, and by which keywords
-/

namespace DerivedQuery

open Text Metadata

/-! ## Markers -/

/-- The text without the marker for ignoring case that it ends with, and whether there is one. A
marker with nothing in front of it is none. -/
inductive DropsMarker (text : List Char) : List Char → Bool → Prop
  | marked {rest marker : List Char} (mem : marker ∈ ignoreCaseMarkers)
      (joined : text = rest ++ marker) (ne_nil : rest ≠ []) : DropsMarker text rest true
  | unmarked (whole : ∀ rest, ∀ marker ∈ ignoreCaseMarkers, text = rest ++ marker → rest = []) :
      DropsMarker text text false

private theorem dropsMarker_of_eq_some {text rest : List Char}
    (hDrop : dropIgnoreCase? text = some rest) :
    DropsMarker text rest true := by
  obtain ⟨marker, hMarker, hRest⟩ := List.exists_of_findSome?_eq_some hDrop
  obtain ⟨hSuffix, hNonempty⟩ := Option.filter_eq_some_iff.mp hRest
  exact .marked hMarker (dropSuffix?_eq_some_iff.mp hSuffix) (by simpa using hNonempty)

private theorem dropsMarker_of_eq_none {text : List Char} (hDrop : dropIgnoreCase? text = none) :
    DropsMarker text text false := by
  refine .unmarked fun rest marker hMarker hText => ?_
  have hNone := List.findSome?_eq_none_iff.mp hDrop marker hMarker
  rw [dropSuffix?_eq_some_iff.mpr hText] at hNone
  simpa [Option.filter] using hNone

/-! ## Tokens that leave a path -/

section Comparison

variable {σ : Type} {scope : Scope σ} {state : σ} {text : List Char} {caseMode : CaseMode}

/-- The text ends with the token of the entry, and what is in front of it resolves to the path. -/
def Scope.Leaves (scope : Scope σ) (state : σ) (text : List Char) (entry : KeywordToken)
    (path : PropertyPath) : Prop :=
  ∃ stem, stem ≠ [] ∧ text = stem ++ entry.token.toList ∧ scope.Resolves state stem path

private theorem stem?_bind_eq_some_iff {entry : KeywordToken} {path : PropertyPath} :
    (Vocabulary.stem? text entry).bind (scope.pathOf? state) = some path ↔
      scope.Leaves state text entry path := by
  rw [Option.bind_eq_some_iff, Scope.Leaves]
  apply exists_congr
  intro stem
  rw [stem?_eq_some_iff, pathOf?_eq_some_iff, and_assoc, and_left_comm]

/-- The search goes through the entries of the vocabulary. -/
theorem comparisonOf?_eq (scope : Scope σ) (state : σ) (text : List Char) (caseMode : CaseMode) :
    scope.comparisonOf? state text caseMode =
      (scope.vocabulary.entries.findSome? fun entry =>
        ((Vocabulary.stem? text entry).bind (scope.pathOf? state)).map
          ({ path := ·, keyword := entry.keyword, caseMode })).or
      ((scope.pathOf? state text).map ({ path := ·, keyword := .default, caseMode })) := by
  rw [Scope.comparisonOf?, Vocabulary.candidates, ← List.head?_filterMap, List.filterMap_filterMap,
    List.head?_filterMap]
  congr 2
  funext entry
  cases Vocabulary.stem? text entry <;> rfl

/-- A text is read if it is a path or some token leaves a path. -/
theorem isSome_comparisonOf? :
    (scope.comparisonOf? state text caseMode).isSome = true ↔
      (∃ path, scope.Resolves state text path) ∨
        ∃ entry ∈ scope.vocabulary.entries, ∃ path, scope.Leaves state text entry path := by
  rw [comparisonOf?_eq, Option.isSome_or, Bool.or_eq_true, List.findSome?_isSome_iff,
    Option.isSome_map, isSome_pathOf?, or_comm]
  apply or_congr_right
  apply exists_congr
  intro entry
  rw [Option.isSome_map, Option.isSome_iff_exists]
  simp only [stem?_bind_eq_some_iff]

private theorem comparisonOf?_nil : scope.comparisonOf? state [] caseMode = none := by
  rw [← Option.not_isSome_iff_eq_none, isSome_comparisonOf?]
  rintro (⟨path, hPath⟩ | ⟨entry, _, path, stem, hStem, hText, _⟩)
  · exact not_resolves_nil hPath
  · exact hStem (List.append_eq_nil_iff.mp hText.symm).1

/-! ## The preferred token -/

/-- Tokens of one size that a text ends with are the same. -/
theorem token_eq_of_suffix {entry other : KeywordToken} (hEntry : entry.token.toList <:+ text)
    (hOther : other.token.toList <:+ text) (hSize : other.size = entry.size) :
    other.token = entry.token := by
  have hSame : ∀ first second : KeywordToken, first.token.toList <:+ second.token.toList →
      first.size = second.size → first.token = second.token := by
    rintro first second ⟨front, hFront⟩ hSizes
    have hBytes := congrArg byteLength hFront
    rw [byteLength_append] at hBytes
    have hNone : front = [] := by
      apply byteLength_eq_zero
      simp only [KeywordToken.size] at hSizes
      omega
    rw [hNone, List.nil_append] at hFront
    exact String.toList_inj.mp hFront
  rcases List.suffix_or_suffix_of_suffix hEntry hOther with hShorter | hLonger
  · exact (hSame entry other hShorter hSize.symm).symm
  · exact hSame other entry hLonger hSize

/-- How a text without a marker is read as a part, if the entries of the vocabulary were registered
in this order. -/
inductive KeywordReading (scope : Scope σ) (state : σ) (entries : List KeywordToken)
    (text : List Char) (part : Part) : Prop
  | token {entry : KeywordToken} {before after : List KeywordToken}
      (leaves : scope.Leaves state text entry part.path) (keyword : part.keyword = entry.keyword)
      (longest : ∀ other ∈ entries, entry.size < other.size →
        ¬∃ path, scope.Leaves state text other path)
      (registered : entries = before ++ entry :: after)
      (first : ∀ other ∈ before, other.size = entry.size → ¬other.token.toList <:+ text) :
      KeywordReading scope state entries text part
  | alone (whole : scope.Resolves state text part.path) (keyword : part.keyword = .default)
      (none : ∀ entry ∈ entries, ¬∃ path, scope.Leaves state text entry path) :
      KeywordReading scope state entries text part

variable {registrations : List Registration} {part : Part}

/-- Among the entries with the token at which the search ends, the first registered one is found. -/
theorem exists_registered_of_search {entry : KeywordToken} {before after : List KeywordToken}
    (hEntries : (Vocabulary.ofRegistrations registrations).entries = before ++ entry :: after)
    (hBefore : ∀ other ∈ before, other.token ≠ entry.token) :
    ∃ earlier later, Vocabulary.registered registrations = earlier ++ entry :: later ∧
      ∀ other ∈ earlier, other.token ≠ entry.token := by
  have hTable : (Vocabulary.ofRegistrations registrations).entries.find?
      (·.token == entry.token) = some entry := by
    rw [hEntries, List.find?_eq_some_iff_append]
    exact ⟨by simp, before, after, rfl, by simpa using hBefore⟩
  rw [Vocabulary.find?_ofRegistrations, List.find?_eq_some_iff_append] at hTable
  obtain ⟨_, earlier, later, hRegistered, hEarlier⟩ := hTable
  exact ⟨earlier, later, hRegistered, by simpa using hEarlier⟩

/-- **The search finds the longest token**, and the first registered one among several. -/
theorem keywordReading_of_comparisonOf?
    (hVocabulary : scope.vocabulary = .ofRegistrations registrations)
    (hPart : scope.comparisonOf? state text caseMode = some part) :
    KeywordReading scope state (Vocabulary.registered registrations) text part ∧
      part.caseMode = caseMode := by
  rw [comparisonOf?_eq, hVocabulary, Option.or_eq_some_iff] at hPart
  rcases hPart with hToken | ⟨hNone, hWhole⟩
  · obtain ⟨before, entry, after, hEntries, hHere, hBefore⟩ := List.findSome?_eq_some_iff.mp hToken
    obtain ⟨path, hPath, rfl⟩ := Option.map_eq_some_iff.mp hHere
    obtain ⟨stem, hStem, hText, hResolves⟩ := stem?_bind_eq_some_iff.mp hPath
    have hPassed : ∀ other ∈ before, ¬∃ path, scope.Leaves state text other path := by
      rintro other hOther ⟨otherPath, hOtherLeaves⟩
      have hSkipped := hBefore other hOther
      rw [stem?_bind_eq_some_iff.mpr hOtherLeaves] at hSkipped
      simp at hSkipped
    obtain ⟨earlier, later, hRegistered, hEarlier⟩ := exists_registered_of_search hEntries
      fun other hOther hSame => hPassed other hOther ⟨path, stem, hStem, by rw [hSame]; exact hText,
        hResolves⟩
    refine ⟨.token ⟨stem, hStem, hText, hResolves⟩ rfl ?_ hRegistered ?_, rfl⟩
    · intro other hOther hLonger hOtherLeaves
      have hOrder := Vocabulary.ordered_ofRegistrations registrations
      have hMem := Vocabulary.mem_ofRegistrations.mpr hOther
      rw [hEntries] at hOrder hMem
      rcases List.mem_append.mp hMem with hFront | hBack
      · exact hPassed other hFront hOtherLeaves
      · rcases List.mem_cons.mp hBack with rfl | hBehind
        · exact Nat.lt_irrefl _ hLonger
        · have hShorter := List.rel_of_pairwise_cons (List.pairwise_append.mp hOrder).2.1 hBehind
          omega
    · intro other hOther hSize hSuffix
      exact hEarlier other hOther (token_eq_of_suffix ⟨stem, hText.symm⟩ hSuffix hSize)
  · obtain ⟨path, hPath, rfl⟩ := Option.map_eq_some_iff.mp hWhole
    refine ⟨.alone (pathOf?_eq_some_iff.mp hPath) rfl ?_, rfl⟩
    rintro entry hEntry ⟨other, hLeaves⟩
    have hSkipped := List.findSome?_eq_none_iff.mp hNone entry
      (Vocabulary.mem_ofRegistrations.mpr hEntry)
    rw [stem?_bind_eq_some_iff.mpr hLeaves] at hSkipped
    simp at hSkipped

/-- The case mode of a part with or without a marker of its own. -/
def Scope.caseModeFor (scope : Scope σ) (marked : Bool) : CaseMode :=
  if marked then .ignored else scope.defaultCaseMode

private theorem caseModeFor_eq_ignored_iff {marked : Bool} :
    scope.caseModeFor marked = .ignored ↔ marked = true := by
  cases marked with
  | false => cases hAll : scope.ignoreAllCase <;> simp [Scope.caseModeFor, Scope.defaultCaseMode, hAll]
  | true => simp [Scope.caseModeFor]

/-- A part is read by what its marker leaves. -/
theorem exists_yields_parsePart (hSteady : scope.metadata.Steady state) (text : List Char)
    (position : Nat) :
    ∃ rest marked, DropsMarker text rest marked ∧
      scope.metadata.Yields state (scope.comparisonOf? state rest (scope.caseModeFor marked))
        (parsePart scope ⟨text, position⟩) := by
  unfold parsePart
  dsimp only [Fragment.upTo]
  cases hDrop : dropIgnoreCase? text with
  | some front =>
      exact ⟨front, true, dropsMarker_of_eq_some hDrop,
        yields_parseComparison hSteady front .ignored position⟩
  | none =>
      refine ⟨text, false, dropsMarker_of_eq_none hDrop, ?_⟩
      cases text with
      | nil =>
          rw [comparisonOf?_nil]
          exact yields_error state _
      | cons c rest => exact yields_parseComparison hSteady (c :: rest) scope.defaultCaseMode position

/-- **A part gets the longest keyword that leaves a path.** What is left of the text without its
marker is read if it is a path or a token of the vocabulary leaves one. Then the part is that of the
longest token which leaves a path, and of the first registered one among several of this length; the
default keyword stands for a whole path which no token divides. The part ignores case by itself if
and only if there is a marker. -/
theorem parsePart_exact (hSteady : scope.metadata.Steady state)
    (hVocabulary : scope.vocabulary = .ofRegistrations registrations) (text : List Char)
    (position : Nat) :
    ∃ rest marked, DropsMarker text rest marked ∧
      ((∃ part after, parsePart scope ⟨text, position⟩ state = (.ok part, after)) ↔
        (∃ path, scope.Resolves state rest path) ∨
          ∃ entry ∈ Vocabulary.registered registrations, ∃ path,
            scope.Leaves state rest entry path) ∧
      ∀ part after, parsePart scope ⟨text, position⟩ state = (.ok part, after) →
        KeywordReading scope state (Vocabulary.registered registrations) rest part ∧
          (part.caseMode = .ignored ↔ marked = true) := by
  obtain ⟨rest, marked, hDrops, hYields⟩ := exists_yields_parsePart hSteady text position
  refine ⟨rest, marked, hDrops, ?_, fun part after hResult => ?_⟩
  · have hSome := @isSome_comparisonOf? _ scope state rest (scope.caseModeFor marked)
    simp only [hVocabulary, Vocabulary.mem_ofRegistrations] at hSome
    rw [← hSome]
    rcases hYields.cases (.refl state) with ⟨part, after, hRead, hValue, _⟩ |
      ⟨error, after, hRead, hValue, _⟩
    · simp [hRead, hValue]
    · simp [hRead, hValue]
  · have hFound := (hYields.of_eq (.refl state) hResult).2
    obtain ⟨hReading, hMode⟩ := keywordReading_of_comparisonOf? hVocabulary hFound.symm
    rw [hMode]
    exact ⟨hReading, caseModeFor_eq_ignored_iff⟩

end Comparison

/-- Members, with a property name that ends with a token. -/
def memberships : Registry :=
  { inspector := .ofCatalog
      { types :=
          [{ name := "Member"
             members :=
               [{ name := "name", declared := .named "String" },
                 { name := "active_in", declared := .named "String" }] }] } }

private theorem memberships_coherent : memberships.source.Coherent :=
  memberships.coherent_of_answers (by decide +kernel)

/-- A keyword with a token that a built-in keyword has already. -/
def outside : List Registration :=
  [.custom "Outside" 1 ["NotIn", "Outside"]]

/-- Criteria for members. -/
def memberScope : Scope Registry.State :=
  { metadata := memberships.metadata
    vocabulary := .ofRegistrations outside
    separator := '_'
    root := "Member"
    ignoreAllCase := false }

/-- `NotIn` wins over `In`, and its built-in keyword over the added one. -/
theorem parsePart_memberships : memberScope.metadata.Steady {} ∧ ∃ part after,
    parsePart memberScope ⟨"ActiveInNotInIgnoreCase".toList, 6⟩ {} = (.ok part, after) ∧
    part.path.properties.map (·.name) = ["active_in"] ∧ part.keyword = .builtin .notIn ∧
    ∃ rest, DropsMarker "ActiveInNotInIgnoreCase".toList rest true ∧
      KeywordReading memberScope {} (Vocabulary.registered outside) rest part := by
  have hSteady : memberScope.metadata.Steady {} :=
    Registry.steady_stateAfter _ _ [] memberships_coherent
  have hPart : (parsePart memberScope ⟨"ActiveInNotInIgnoreCase".toList, 6⟩ {}).1.toOption.map
      (fun part => (part.path.properties.map (·.name), part.keyword, part.caseMode)) =
      some (["active_in"], .builtin .notIn, .ignored) := by
    decide +kernel
  obtain ⟨part, after, hResult, hFields⟩ := exists_of_toOption_map hPart
  simp only [Prod.mk.injEq] at hFields
  obtain ⟨hNames, hKeyword, hMode⟩ := hFields
  obtain ⟨rest, marked, hDrops, _, hReading⟩ := parsePart_exact hSteady rfl _ 6
  obtain ⟨hToken, hMarked⟩ := hReading part after hResult
  rw [hMarked.mp hMode] at hDrops
  exact ⟨hSteady, part, after, hResult, hNames, hKeyword, rest, hDrops, hToken⟩

end DerivedQuery
