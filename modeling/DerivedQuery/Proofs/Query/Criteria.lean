import DerivedQuery.Proofs.Query.Joined
import DerivedQuery.Proofs.Vocabulary
import DerivedQuery.Query.Canonical
import DerivedQuery.Query.Criteria

/-!
# Reading criteria back

A part that was read has a traced path and a keyword of the vocabulary, and its case mode is either
its own or that of the whole method. This is all that is needed to read the canonical spelling of
the part again, provided that the property names are plain: the spelling ends with a keyword token
and perhaps a case marker, no connector occurs in it, and the first attempt at each step succeeds.

## Main results

* `reads_parseCriteria`: what criteria are read as
* `parsePart_canonical`, `parseCriteria_canonical`: criteria are read back from their spelling
-/

namespace DerivedQuery

open Text Spelling Metadata

variable {σ : Type} {scope : Scope σ}

/-! ## What parts are read as -/

/-- The keyword is the default one, or the vocabulary has a token for it. -/
def Vocabulary.Denotes (vocabulary : Vocabulary) (keyword : Keyword) : Prop :=
  keyword = .default ∨ ∃ entry ∈ vocabulary.entries, entry.keyword = keyword

theorem denotes_of_mem_candidates {vocabulary : Vocabulary} {segment : List Char}
    {candidate : List Char × Keyword} (hCandidate : candidate ∈ vocabulary.candidates segment) :
    vocabulary.Denotes candidate.2 := by
  obtain ⟨entry, hEntry, hSome⟩ := List.mem_filterMap.mp hCandidate
  obtain ⟨stem, _, rfl⟩ := Option.map_eq_some_iff.mp hSome
  exact Or.inr ⟨entry, hEntry, rfl⟩

section Parts

-- what holds of every part that is read by some path and some keyword of the vocabulary
variable {P : Part → σ → Prop}
  (hParts : ∀ fragment caseMode path keyword,
    (caseMode = .ignored ∨ caseMode = scope.defaultCaseMode) → scope.vocabulary.Denotes keyword →
      scope.metadata.Reads P (parsePartAs scope fragment caseMode path keyword))

include hParts

private theorem reads_parseComparison_of_parts (fragment : Fragment) {caseMode : CaseMode}
    (hMode : caseMode = .ignored ∨ caseMode = scope.defaultCaseMode) :
    scope.metadata.Reads P (parseComparison scope fragment caseMode) := by
  unfold parseComparison
  apply reads_firstSuccess
  · exact hParts _ _ _ _ hMode (Or.inl rfl)
  · intro candidate hCandidate
    exact hParts _ _ _ _ hMode (denotes_of_mem_candidates hCandidate)

private theorem reads_parsePart_of_parts (fragment : Fragment) :
    scope.metadata.Reads P (parsePart scope fragment) := by
  unfold parsePart
  split
  · exact reads_parseComparison_of_parts hParts _ (Or.inl rfl)
  · split
    · exact reads_error _
    · exact reads_parseComparison_of_parts hParts _ (Or.inr rfl)

/-- Criteria are read as non-empty groups of parts, and there is at least one group. -/
theorem reads_parseCriteria_of_parts (hStable : scope.metadata.Stable P) (fragment : Fragment) :
    scope.metadata.Reads (AllEntries (AllEntries P)) (parseCriteria scope fragment) := by
  apply reads_parseJoined (stable_allEntries hStable)
  intro group
  exact reads_parseJoined hStable (reads_parsePart_of_parts hParts) _ _ group

end Parts

/-- The part as a scope reads it: its path leads from the root through known entities, and it has a
case mode of its own or that of the whole method. -/
structure Part.ReadIn (scope : Scope σ) (part : Part) (state : σ) : Prop where
  traced : Traced scope.metadata state scope.root part.path.nodes
  builtin : ∃ operator, part.keyword = .builtin operator
  caseMode : part.caseMode = .ignored ∨ part.caseMode = scope.defaultCaseMode

theorem stable_readIn (hRemembers : scope.metadata.Remembers) :
    scope.metadata.Stable (Part.ReadIn scope) :=
  fun _ _ _ hLeads hPart =>
    ⟨hPart.traced.of_leads hRemembers hLeads, hPart.builtin, hPart.caseMode⟩

/-- A part has the keyword and the case mode that it is read with. -/
theorem reads_parsePartAs (hRemembers : scope.metadata.Remembers) (fragment : Fragment)
    (caseMode : CaseMode) (path : List Char) (keyword : Keyword) :
    scope.metadata.Reads
      (fun part state => Traced scope.metadata state scope.root part.path.nodes ∧
        part.keyword = keyword ∧ part.caseMode = caseMode)
      (parsePartAs scope fragment caseMode path keyword) := by
  intro state
  have hPath := reads_resolvePath hRemembers scope.separator path scope.root
  unfold parsePartAs Scope.resolve
  split
  · rename_i hResult
    obtain ⟨hLeads, hTraced⟩ := hPath.of_eq hResult
    refine ⟨hLeads, ?_⟩
    simp only [Except.ok.injEq, forall_eq', and_true]
    exact hTraced _ rfl
  · rename_i hResult
    exact ⟨(hPath.of_eq hResult).1, by simp⟩

private theorem builtin_of_denotes {keyword : Keyword}
    (hKeyword : Vocabulary.builtin.Denotes keyword) :
    ∃ operator, keyword = .builtin operator := by
  rcases hKeyword with rfl | ⟨entry, hEntry, rfl⟩
  · exact ⟨.equals, rfl⟩
  · rw [Vocabulary.mem_builtin, Vocabulary.builtinEntries, List.mem_flatMap] at hEntry
    obtain ⟨keyword, hKeyword, hToken⟩ := hEntry
    obtain ⟨operator, _, rfl⟩ := List.mem_map.mp hKeyword
    obtain ⟨token, _, rfl⟩ := List.mem_map.mp hToken
    exact ⟨operator, rfl⟩

/-- Criteria are read as parts with built-in keywords, if there are no others. -/
theorem reads_parseCriteria (hRemembers : scope.metadata.Remembers)
    (hVocabulary : scope.vocabulary = .builtin) (fragment : Fragment) :
    scope.metadata.Reads (AllEntries (AllEntries (Part.ReadIn scope)))
      (parseCriteria scope fragment) := by
  refine reads_parseCriteria_of_parts ?_ (stable_readIn hRemembers) fragment
  intro group caseMode path keyword hMode hKeyword state
  rw [hVocabulary] at hKeyword
  obtain ⟨hLeads, hPart⟩ := reads_parsePartAs hRemembers group caseMode path keyword state
  refine ⟨hLeads, fun part hRead => ?_⟩
  obtain ⟨hTraced, rfl, rfl⟩ := hPart part hRead
  exact ⟨hTraced, builtin_of_denotes hKeyword, hMode⟩

/-! ## The spelling of a part -/

/-- The part as it is read from its canonical spelling. -/
def Part.respelled (part : Part) : Part :=
  { part with path := part.path.respelled }

/-- The words of the markers for ignoring case. -/
def caseWords : List (List Char) :=
  ["All".toList, "Ignore".toList, "Case".toList]

theorem caseWord_not_mem : ∀ word ∈ caseWords, word ∉ connectiveWords ++ keywordWords := by
  decide +kernel

/-- The marker that a part is spelled with. -/
def Part.marker (part : Part) : List Char :=
  if part.caseMode = .ignored then "IgnoreCase".toList else []

theorem Part.toList_canonical {part : Part} {operator : Operator}
    (hKeyword : part.keyword = .builtin operator) :
    (part.canonical .builtin '_').toList =
      part.path.canonicalText '_' ++ (operator.canonicalToken.toList ++ part.marker) := by
  simp only [Part.canonical, PropertyPath.canonical, Part.marker, hKeyword, Vocabulary.tokenFor?,
    Option.getD_some, String.toList_append, String.toList_ofList, List.append_assoc]
  split <;> rfl

private theorem runs_marker (part : Part) : ∀ word ∈ runs part.marker, word ∈ caseWords := by
  unfold Part.marker
  split <;> decide

private theorem endsWordBefore_marker (part : Part) : endsWordBefore part.marker = true := by
  unfold Part.marker
  split <;> decide

/-- A part that was read and whose spelling can be read: its property names are plain. -/
structure Part.SpelledIn (scope : Scope σ) (part : Part) (state : σ) : Prop
    extends Part.ReadIn scope part state where
  names : part.path.HasPlainNames

theorem Part.SpelledIn.opensWord {part : Part} {state : σ} (hPart : part.SpelledIn scope state) :
    opensWord (part.canonical .builtin '_').toList = true := by
  obtain ⟨operator, hOperator⟩ := hPart.builtin
  rw [Part.toList_canonical hOperator]
  exact opensWord_append (freeText_canonicalText hPart.names).2

/-- No connective stands in the spelling of a part. -/
theorem Part.SpelledIn.connective_not_mem {part : Part} {state : σ}
    (hPart : part.SpelledIn scope state) {word : List Char} (hWord : word ∈ connectiveWords) :
    word ∉ runs (part.canonical .builtin '_').toList := by
  obtain ⟨operator, hOperator⟩ := hPart.builtin
  rw [Part.toList_canonical hOperator,
    runs_append_word _ (opensWord_canonicalToken operator) (endsWordBefore_marker part)]
  intro hMem
  rcases List.mem_append.mp hMem with hPath | hRest
  · exact (freeText_canonicalText hPart.names).1.connective_not_mem hWord hPath
  · rcases List.mem_append.mp hRest with hToken | hMarker
    · exact connective_not_mem_keywordWords word hWord (runs_canonicalToken operator hToken)
    · exact caseWord_not_mem word (runs_marker part word hMarker) (List.mem_append_left _ hWord)

/-- What ends with a keyword token does not end with a word of another kind. -/
theorem dropSuffix?_canonicalToken {word : List Char} {initial : List (List Char)} {last : List Char}
    (hWord : Text.opensWord word = true) (hRuns : runs word = initial ++ [last])
    (hLast : last ∉ keywordWords) (front : List Char) (operator : Operator) :
    dropSuffix? word (front ++ operator.canonicalToken.toList) = none := by
  apply dropSuffix?_eq_none hWord hRuns
  have hOpens := opensWord_canonicalToken operator
  obtain ⟨found, hFound⟩ := Option.ne_none_iff_exists'.mp
    (mt List.getLast?_eq_none_iff.mp (runs_ne_nil (ne_nil_of_opensWord hOpens)))
  rw [runs_append front (endsWordBefore_of_opensWord hOpens), List.getLast?_append, hFound,
    Option.some_or]
  intro hSame
  apply hLast
  rw [← Option.some.inj hSame]
  exact runs_canonicalToken operator (List.mem_of_getLast? hFound)

/-! ## Reading criteria back -/

theorem parsePartAs_canonicalText {state : σ} (hNumbered : KnowsNumbered scope.metadata state)
    (hSeparator : scope.separator = '_') {part : Part}
    (hTraced : Traced scope.metadata state scope.root part.path.nodes)
    (hNames : part.path.HasPlainNames) (fragment : Fragment) :
    parsePartAs scope fragment part.caseMode (part.path.canonicalText '_') part.keyword state =
      (.ok part.respelled, state) := by
  have hPath := resolvePath_canonicalText hNumbered hTraced hNames.hasSnakeNames
  unfold parsePartAs Scope.resolve
  rw [hSeparator, hPath]
  rfl

/-- In front of a keyword token, the path is read first. -/
theorem parseComparison_canonical {state : σ} (hNumbered : KnowsNumbered scope.metadata state)
    (hSeparator : scope.separator = '_') (hVocabulary : scope.vocabulary = .builtin) {part : Part}
    (hTraced : Traced scope.metadata state scope.root part.path.nodes)
    (hNames : part.path.HasPlainNames) {operator : Operator}
    (hKeyword : part.keyword = .builtin operator) {fragment : Fragment}
    (hText : fragment.text = part.path.canonicalText '_' ++ operator.canonicalToken.toList) :
    parseComparison scope fragment part.caseMode state = (.ok part.respelled, state) := by
  obtain ⟨hFree, hOpens⟩ := freeText_canonicalText hNames
  obtain ⟨others, hCandidates⟩ :=
    candidates_canonicalToken hFree (ne_nil_of_opensWord hOpens) operator
  have hPart := parsePartAs_canonicalText hNumbered hSeparator hTraced hNames fragment
  rw [hKeyword] at hPart
  unfold parseComparison
  rw [hVocabulary, hText, hCandidates]
  simp [firstSuccess, hPart]

/-- A marker behind a text is dropped. -/
theorem dropIgnoreCase?_marker {front : List Char} (hFront : front ≠ []) :
    dropIgnoreCase? (front ++ "IgnoreCase".toList) = some front := by
  simp [dropIgnoreCase?, ignoreCaseMarkers, dropSuffix?, dropPrefix?, hFront]

/-- A text that ends with a keyword token has no marker. -/
theorem dropIgnoreCase?_canonicalToken (front : List Char) (operator : Operator) :
    dropIgnoreCase? (front ++ operator.canonicalToken.toList) = none := by
  have hCase : "Case".toList ∉ keywordWords :=
    fun hMem => caseWord_not_mem "Case".toList (by decide) (List.mem_append_right _ hMem)
  have hIgnoring := dropSuffix?_canonicalToken (show Text.opensWord "IgnoringCase".toList by decide)
    (show runs "IgnoringCase".toList = ["Ignoring".toList] ++ ["Case".toList] by decide)
    hCase front operator
  have hIgnore := dropSuffix?_canonicalToken (show Text.opensWord "IgnoreCase".toList by decide)
    (show runs "IgnoreCase".toList = ["Ignore".toList] ++ ["Case".toList] by decide)
    hCase front operator
  simp only [dropIgnoreCase?, ignoreCaseMarkers, List.findSome?_cons, List.findSome?_nil, hIgnoring,
    hIgnore, Option.filter_none]

/-- **A part is read back from its canonical spelling**, and nothing is asked for. -/
theorem parsePart_canonical {state : σ} (hNumbered : KnowsNumbered scope.metadata state)
    (hSeparator : scope.separator = '_') (hVocabulary : scope.vocabulary = .builtin) {part : Part}
    (hPart : part.SpelledIn scope state) (position : Nat) :
    parsePart scope ⟨(part.canonical .builtin '_').toList, position⟩ state =
      (.ok part.respelled, state) := by
  obtain ⟨operator, hOperator⟩ := hPart.builtin
  have hPath : part.path.canonicalText '_' ≠ [] :=
    ne_nil_of_opensWord (freeText_canonicalText hPart.names).2
  have hComparison := fun (fragment : Fragment) (hText : fragment.text = _) =>
    parseComparison_canonical hNumbered hSeparator hVocabulary hPart.traced hPart.names hOperator
      hText
  rw [Part.toList_canonical hOperator, Part.marker]
  unfold parsePart
  by_cases hMode : part.caseMode = .ignored
  · rw [if_pos hMode, ← List.append_assoc, dropIgnoreCase?_marker (by simp [hPath])]
    dsimp only
    rw [← hMode]
    exact hComparison _ rfl
  · rw [if_neg hMode, List.append_nil, dropIgnoreCase?_canonicalToken]
    dsimp only
    rw [if_neg (by simp [hPath]), ← hPart.caseMode.resolve_left hMode]
    exact hComparison _ rfl

/-! ## Groups and criteria -/

/-- The spelling of a group. -/
def groupText (group : List Part) : List Char :=
  andConnector.intercalate (group.map fun part => (part.canonical .builtin '_').toList)

/-- The spelling of criteria. -/
def criteriaText (groups : List (List Part)) : List Char :=
  orConnector.intercalate (groups.map groupText)

theorem Query.toList_canonicalCriteria {query : Query} (hSeparator : query.separator = '_') :
    (query.canonicalCriteria .builtin).toList = criteriaText query.groups := by
  simp only [Query.canonicalCriteria, criteriaText, hSeparator, String.toList_intercalate,
    List.map_map, orConnector, Function.comp_def]
  rfl

variable {state : σ} {group : List Part}

private theorem opensWord_groupText (hGroup : AllEntries (Part.SpelledIn scope) group state) :
    opensWord (groupText group) = true :=
  opensWord_intercalate hGroup.1 (fun part hPart => (hGroup.2 part hPart).opensWord) _

private theorem mem_runs_groupText (hGroup : AllEntries (Part.SpelledIn scope) group state)
    {word : List Char} (hWord : word ∈ connectiveWords) (hMem : word ∈ runs (groupText group)) :
    word = andConnector := by
  rcases mem_runs_intercalate (by decide) (fun part hPart => (hGroup.2 part hPart).opensWord) hMem
    with hConnector | ⟨part, hPart, hRun⟩
  · simpa [show runs andConnector = [andConnector] by decide] using hConnector
  · exact absurd hRun ((hGroup.2 part hPart).connective_not_mem hWord)

variable {groups : List (List Part)}

theorem opensWord_criteriaText
    (hGroups : AllEntries (AllEntries (Part.SpelledIn scope)) groups state) :
    opensWord (criteriaText groups) = true :=
  opensWord_intercalate hGroups.1 (fun group hGroup => opensWord_groupText (hGroups.2 group hGroup)) _

/-- The only connectives in the spelling of criteria are those that join it. -/
theorem mem_runs_criteriaText
    (hGroups : AllEntries (AllEntries (Part.SpelledIn scope)) groups state) {word : List Char}
    (hWord : word ∈ connectiveWords) (hMem : word ∈ runs (criteriaText groups)) :
    word = orConnector ∨ word = andConnector := by
  rcases mem_runs_intercalate (by decide)
    (fun group hGroup => opensWord_groupText (hGroups.2 group hGroup)) hMem
    with hConnector | ⟨group, hGroup, hRun⟩
  · simpa [show runs orConnector = [orConnector] by decide] using Or.inl hConnector
  · exact Or.inr (mem_runs_groupText (hGroups.2 group hGroup) hWord hRun)

/-- The spelling of criteria ends with that of a part. -/
theorem exists_criteriaText_eq_append
    (hGroups : AllEntries (AllEntries (Part.SpelledIn scope)) groups state) :
    ∃ front, ∃ part : Part, part.SpelledIn scope state ∧
      criteriaText groups = front ++ (part.canonical .builtin '_').toList := by
  obtain ⟨front, group, hGroup, hText⟩ :=
    exists_intercalate_eq_append groupText hGroups.1 orConnector
  obtain ⟨inside, part, hPart, hGroupText⟩ :=
    exists_intercalate_eq_append (fun part : Part => (part.canonical .builtin '_').toList)
      (hGroups.2 group hGroup).1 andConnector
  refine ⟨front ++ inside, part, (hGroups.2 group hGroup).2 part hPart, ?_⟩
  rw [criteriaText, hText, groupText, hGroupText, List.append_assoc]

/-- Groups are read back from their canonical spelling. -/
theorem parseGroup_canonical (hNumbered : KnowsNumbered scope.metadata state)
    (hSeparator : scope.separator = '_') (hVocabulary : scope.vocabulary = .builtin)
    (hGroup : AllEntries (Part.SpelledIn scope) group state) (position : Nat) :
    parseGroup scope ⟨groupText group, position⟩ state = (.ok (group.map Part.respelled), state) :=
  parseJoined_connector (by decide) (by decide) (fun _ hPart => hPart.opensWord)
    (fun _ hPart => hPart.connective_not_mem (by decide))
    (fun _ hPart => parsePart_canonical hNumbered hSeparator hVocabulary hPart)
    hGroup.1 hGroup.2 position

/-- **Criteria are read back from their canonical spelling.** -/
theorem parseCriteria_canonical (hNumbered : KnowsNumbered scope.metadata state)
    (hSeparator : scope.separator = '_') (hVocabulary : scope.vocabulary = .builtin)
    (hGroups : AllEntries (AllEntries (Part.SpelledIn scope)) groups state) (position : Nat) :
    parseCriteria scope ⟨criteriaText groups, position⟩ state =
      (.ok (groups.map (·.map Part.respelled)), state) := by
  have hFree : ∀ group, AllEntries (Part.SpelledIn scope) group state →
      orConnector ∉ runs (groupText group) := by
    intro group hGroup hMem
    exact absurd (mem_runs_groupText hGroup (by decide) hMem) (by decide)
  exact parseJoined_connector (by decide) (by decide) (fun _ hGroup => opensWord_groupText hGroup)
    hFree (fun _ hGroup => parseGroup_canonical hNumbered hSeparator hVocabulary hGroup)
    hGroups.1 hGroups.2 position

end DerivedQuery
