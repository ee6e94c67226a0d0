import DerivedQuery.Proofs.Query.Criteria
import DerivedQuery.Proofs.Query.Ordering
import DerivedQuery.Proofs.Query.Outline

/-!
# Reading a canonical method name back

A query that was read with the default convention is spelled as a canonical method name, and this
name is read as the same query again. Both directions meet in `Query.ReadIn`: reading a name gives a
query of this kind, and a query of this kind with plain property names can be read from its
canonical name.

Whether the whole method ignores case is not stored in a query. The canonical name asks for it if
some part or some order does, and this may differ from the name that was read first: where every
part has a marker of its own and there is no ordering, it makes no difference.

## Main results

* `reads_parse`: what is read from a method name
* `ofMethod_canonical`: how the canonical name is divided
* `parse_canonical_of_spelledIn`: the canonical name is read as the same query
-/

namespace DerivedQuery

open Text Metadata

variable {σ : Type} {metadata : Metadata σ}

/-! ## What a method name is read as -/

/-- The scope in which the default convention reads. -/
def defaultScope (metadata : Metadata σ) (root : String) (ignoreAllCase : Bool) : Scope σ :=
  { metadata, vocabulary := .builtin, separator := '_', root, ignoreAllCase }

/-- The query as the default convention reads it. -/
structure Query.ReadIn (scope : Scope σ) (query : Query) (state : σ) : Prop where
  groups : query.groups ≠ [] → AllEntries (AllEntries (Part.ReadIn scope)) query.groups state
  ordering : query.ordering ≠ [] → AllEntries (Order.ReadIn scope) query.ordering state
  limit : ∀ limit ∈ query.limit, IsLimit limit
  rootType : query.rootType = scope.root
  separator : query.separator = '_'

section Reads

variable {scope : Scope σ}

private theorem reads_readCriteria (hRemembers : scope.metadata.Remembers)
    (hVocabulary : scope.vocabulary = .builtin) (criteria : Fragment) :
    scope.metadata.Reads
      (fun groups state => groups ≠ [] → AllEntries (AllEntries (Part.ReadIn scope)) groups state)
      (MethodParser.readCriteria scope criteria) := by
  unfold MethodParser.readCriteria
  intro state
  split
  · exact ⟨.refl state, by simp⟩
  · obtain ⟨hLeads, hEntries⟩ := reads_parseCriteria hRemembers hVocabulary criteria state
    exact ⟨hLeads, fun groups hGroups _ => hEntries groups hGroups⟩

private theorem reads_readOrdering (hRemembers : scope.metadata.Remembers)
    (ordering : Option Fragment) :
    scope.metadata.Reads
      (fun orders state => orders ≠ [] → AllEntries (Order.ReadIn scope) orders state)
      (MethodParser.readOrdering scope ordering) := by
  unfold MethodParser.readOrdering
  intro state
  split
  · exact ⟨.refl state, by simp⟩
  · obtain ⟨hLeads, hEntries⟩ := reads_parseOrdering hRemembers _ state
    exact ⟨hLeads, fun orders hOrders _ => hEntries orders hOrders⟩

end Reads

private theorem reads_readOutline (hRemembers : metadata.Remembers) (root : String)
    {outline : Outline} (hLimit : ∀ limit ∈ outline.limit, IsLimit limit) :
    metadata.Reads (Query.ReadIn (defaultScope metadata root outline.ignoreAllCase))
      (MethodParser.default.readOutline metadata root outline) := by
  have hScope : (defaultScope metadata root outline.ignoreAllCase).metadata.Remembers := hRemembers
  have hStable := stable_allEntries (stable_allEntries (stable_readIn hScope))
  intro state
  unfold MethodParser.readOutline
  dsimp only
  split
  · rename_i hCriteria
    exact ⟨((reads_readCriteria hScope rfl outline.criteria).of_eq hCriteria).1, by simp⟩
  · rename_i groups between hCriteria
    obtain ⟨hLeads, hGroups⟩ := (reads_readCriteria hScope rfl outline.criteria).of_eq hCriteria
    split
    · rename_i hOrdering
      have hLater := ((reads_readOrdering hScope outline.ordering).of_eq hOrdering).1
      exact ⟨hLeads.trans hLater, by simp⟩
    · rename_i ordering final hOrdering
      obtain ⟨hLater, hOrders⟩ := (reads_readOrdering hScope outline.ordering).of_eq hOrdering
      refine ⟨hLeads.trans hLater, ?_⟩
      simp only [Except.ok.injEq, forall_eq']
      -- the ordering is read behind the criteria, whose paths stay traced
      exact ⟨fun hSome => hStable _ _ _ hLater (hGroups _ rfl hSome), hOrders _ rfl, hLimit, rfl, rfl⟩

/-- A method name is read as a query of traced paths, for one mode of ignoring case. -/
theorem reads_parse (hRemembers : metadata.Remembers) (method root : String) :
    metadata.Reads
      (fun query state =>
        ∃ ignoreAllCase, Query.ReadIn (defaultScope metadata root ignoreAllCase) query state)
      (MethodParser.default.parse metadata method root) := by
  unfold MethodParser.parse
  split
  · exact reads_error _
  · rename_i outline hOutline
    intro state
    obtain ⟨hLeads, hQuery⟩ := reads_readOutline hRemembers root (limit_of_ofMethod hOutline) state
    exact ⟨hLeads, fun query hRead => ⟨_, hQuery query hRead⟩⟩

/-! ## Ignoring case everywhere -/

theorem ignoresAllCase_of_mem_parts {query : Query} {part : Part} (hPart : part ∈ query.parts)
    (hMode : part.caseMode = .ignoredIfPossible) : query.ignoresAllCase = true := by
  rw [Query.ignoresAllCase, Bool.or_eq_true, List.any_eq_true]
  exact Or.inl ⟨part, hPart, by simp [hMode]⟩

theorem ignoresAllCase_of_mem_ordering {query : Query} {order : Order}
    (hOrder : order ∈ query.ordering) (hMode : order.ignoreCase = true) :
    query.ignoresAllCase = true := by
  rw [Query.ignoresAllCase, Bool.or_eq_true, List.any_eq_true]
  refine Or.inr ?_
  rw [List.any_eq_true]
  exact ⟨order, hOrder, hMode⟩

theorem mem_parts {query : Query} {part : Part} :
    part ∈ query.parts ↔ ∃ group ∈ query.groups, part ∈ group := by
  rw [Query.parts, List.mem_flatten]

section IgnoreCase

variable {root : String} {ignoreAllCase : Bool} {state : σ} {query : Query}

theorem Query.ReadIn.part (hQuery : query.ReadIn (defaultScope metadata root ignoreAllCase) state)
    {part : Part} (hPart : part ∈ query.parts) :
    part.ReadIn (defaultScope metadata root ignoreAllCase) state := by
  obtain ⟨group, hGroup, hMem⟩ := mem_parts.mp hPart
  have hGroups := hQuery.groups (List.ne_nil_of_mem hGroup)
  exact (hGroups.2 group hGroup).2 part hMem

theorem Query.ReadIn.order (hQuery : query.ReadIn (defaultScope metadata root ignoreAllCase) state)
    {order : Order} (hOrder : order ∈ query.ordering) :
    order.ReadIn (defaultScope metadata root ignoreAllCase) state :=
  (hQuery.ordering (List.ne_nil_of_mem hOrder)).2 order hOrder

/-- If the method did not ignore case everywhere, nothing in the query asks for it. -/
theorem Query.ReadIn.ignoresAllCase_eq_false
    (hQuery : query.ReadIn (defaultScope metadata root false) state) :
    query.ignoresAllCase = false := by
  rw [Query.ignoresAllCase, Bool.or_eq_false_iff, List.any_eq_false, List.any_eq_false]
  constructor
  · intro part hPart
    rcases (hQuery.part hPart).caseMode with hMode | hMode
    · simp [hMode]
    · simp [hMode, defaultScope, Scope.defaultCaseMode]
  · intro order hOrder
    simp [(hQuery.order hOrder).ignoreCase, defaultScope]

/-- The query may as well have been read with the mode that its canonical name asks for. -/
theorem Query.ReadIn.canonical
    (hQuery : query.ReadIn (defaultScope metadata root ignoreAllCase) state) :
    query.ReadIn (defaultScope metadata root query.ignoresAllCase) state := by
  cases ignoreAllCase with
  | false =>
      rw [hQuery.ignoresAllCase_eq_false]
      exact hQuery
  | true =>
      refine ⟨fun hSome => ⟨hSome, fun group hGroup => ?_⟩, fun hSome => ⟨hSome, fun order hOrder => ?_⟩,
        hQuery.limit, hQuery.rootType, hQuery.separator⟩
      · refine ⟨((hQuery.groups hSome).2 group hGroup).1, fun part hPart => ?_⟩
        have hMem : part ∈ query.parts := mem_parts.mpr ⟨group, hGroup, hPart⟩
        have hRead := hQuery.part hMem
        refine ⟨hRead.traced, hRead.builtin, ?_⟩
        rcases hRead.caseMode with hMode | hMode
        · exact Or.inl hMode
        · rw [ignoresAllCase_of_mem_parts hMem hMode]
          exact Or.inr hMode
      · have hRead := hQuery.order hOrder
        rw [ignoresAllCase_of_mem_ordering hOrder hRead.ignoreCase]
        exact hRead

end IgnoreCase

/-! ## The canonical name -/

/-- The marker for ignoring case everywhere. -/
def Query.caseMarker (query : Query) : List Char :=
  if query.ignoresAllCase then "AllIgnoreCase".toList else []

/-- The ordering clause with the words in front of it. -/
def Query.orderingClause (query : Query) : List Char :=
  if query.ordering.isEmpty then [] else orderByToken ++ orderingText query.ordering

/-- The query selects everything in any order: its canonical name ends with the subject. -/
def Query.IsBare (query : Query) : Prop :=
  query.parts = [] ∧ query.ordering = [] ∧ query.ignoresAllCase = false

theorem toList_canonicalSubject (query : Query) :
    query.canonicalSubject.toList =
      query.intent.introducer.toList ++ subjectText query.distinct query.limit := by
  rw [Query.canonicalSubject, String.toList_append, String.toList_append, List.append_assoc,
    subjectText]
  cases query.distinct <;> rfl

private theorem toList_canonical_of_isBare {query : Query} (hBare : query.IsBare) :
    (query.canonical .builtin).toList =
      query.intent.introducer.toList ++ subjectText query.distinct query.limit := by
  obtain ⟨hParts, hOrdering, hCase⟩ := hBare
  rw [Query.canonical, if_pos (by simp [Query.hasPredicate, hParts, hOrdering, hCase]),
    toList_canonicalSubject]

private theorem toList_canonicalOrdering {query : Query} (hSeparator : query.separator = '_') :
    query.canonicalOrdering.toList = query.orderingClause := by
  rw [Query.canonicalOrdering, Query.orderingClause]
  split
  · rfl
  · rw [String.toList_append, String.toList_join, orderingText, hSeparator, List.flatMap_map,
      List.flatMap_def]
    rfl

theorem toList_canonical {query : Query} (hBare : ¬query.IsBare) (hSeparator : query.separator = '_') :
    (query.canonical .builtin).toList =
      query.intent.introducer.toList ++ (subjectText query.distinct query.limit ++ ("By".toList ++
        (criteriaText query.groups ++ query.caseMarker ++ query.orderingClause))) := by
  have hBody : ¬(!query.hasPredicate && query.ordering.isEmpty && !query.ignoresAllCase) = true := by
    intro hNone
    apply hBare
    simpa [Query.hasPredicate, Query.IsBare, and_assoc] using hNone
  rw [Query.canonical, if_neg hBody]
  simp only [String.toList_append, toList_canonicalSubject, Query.toList_canonicalCriteria hSeparator,
    toList_canonicalOrdering hSeparator, List.append_assoc, Query.caseMarker]
  cases query.ignoresAllCase <;> rfl

/-! ## Dividing the canonical name -/

/-- A query that was read and whose spelling can be read. -/
structure Query.SpelledIn (metadata : Metadata σ) (query : Query) (state : σ) : Prop where
  read : query.ReadIn (defaultScope metadata query.rootType query.ignoresAllCase) state
  partNames : ∀ part ∈ query.parts, part.path.HasPlainNames
  orderNames : ∀ order ∈ query.ordering, order.path.HasPlainNames

section Spelled

variable {query : Query} {state : σ}

theorem Query.SpelledIn.groups (hQuery : query.SpelledIn metadata state) (hSome : query.groups ≠ []) :
    AllEntries
      (AllEntries (Part.SpelledIn (defaultScope metadata query.rootType query.ignoresAllCase)))
      query.groups state := by
  have hGroups := hQuery.read.groups hSome
  refine ⟨hSome, fun group hGroup => ⟨(hGroups.2 group hGroup).1, fun part hPart => ?_⟩⟩
  exact ⟨(hGroups.2 group hGroup).2 part hPart,
    hQuery.partNames part (mem_parts.mpr ⟨group, hGroup, hPart⟩)⟩

theorem Query.SpelledIn.ordering (hQuery : query.SpelledIn metadata state)
    (hSome : query.ordering ≠ []) :
    AllEntries (Order.SpelledIn (defaultScope metadata query.rootType query.ignoresAllCase))
      query.ordering state :=
  ⟨hSome, fun order hOrder =>
    ⟨(hQuery.read.ordering hSome).2 order hOrder, hQuery.orderNames order hOrder⟩⟩

/-- The only connectives in the spelling of criteria are those that join it. -/
theorem Query.SpelledIn.by_not_mem_criteriaText (hQuery : query.SpelledIn metadata state) :
    "By".toList ∉ runs (criteriaText query.groups) := by
  intro hMem
  by_cases hSome : query.groups = []
  · rw [hSome] at hMem
    simp [criteriaText] at hMem
  · rcases mem_runs_criteriaText (hQuery.groups hSome) (by decide) hMem with hOr | hAnd
    · exact absurd hOr (by decide)
    · exact absurd hAnd (by decide)

private theorem endsWordBefore_caseMarker (query : Query) :
    endsWordBefore query.caseMarker = true := by
  unfold Query.caseMarker
  split <;> decide

private theorem Query.SpelledIn.endsWordBefore_criteriaText
    (hQuery : query.SpelledIn metadata state) :
    endsWordBefore (criteriaText query.groups) = true := by
  by_cases hSome : query.groups = []
  · rw [hSome]
    rfl
  · exact endsWordBefore_of_opensWord (opensWord_criteriaText (hQuery.groups hSome))

/-- In front of the ordering clause there is no `By`. -/
theorem Query.SpelledIn.by_not_mem_front (hQuery : query.SpelledIn metadata state) :
    "By".toList ∉ runs (criteriaText query.groups ++ query.caseMarker) := by
  rw [runs_append _ (endsWordBefore_caseMarker query), List.mem_append]
  rintro (hCriteria | hMarker)
  · exact hQuery.by_not_mem_criteriaText hCriteria
  · unfold Query.caseMarker at hMarker
    split at hMarker
    · exact absurd hMarker (by decide)
    · simp at hMarker

private theorem Query.SpelledIn.by_not_mem_orderingText (hQuery : query.SpelledIn metadata state) :
    "By".toList ∉ runs (orderingText query.ordering) := by
  refine not_mem_orderingText
    (fun order hOrder => (hQuery.ordering (List.ne_nil_of_mem hOrder)).2 order hOrder) (by decide) ?_
  intro direction
  cases direction <;> decide

/-- A part does not end with the marker for ignoring case everywhere. -/
theorem dropSuffix?_part {scope : Scope σ} {part : Part} (hPart : part.SpelledIn scope state)
    (front : List Char) : ∀ marker ∈ ignoreAllCaseMarkers,
      dropSuffix? marker (front ++ (part.canonical .builtin '_').toList) = none := by
  obtain ⟨operator, hOperator⟩ := hPart.builtin
  have hWords : ∀ word ∈ caseWords, word ∉ keywordWords :=
    fun word hWord hMem => caseWord_not_mem word hWord (List.mem_append_right _ hMem)
  rw [Part.toList_canonical hOperator, ← List.append_assoc, ← List.append_assoc, Part.marker]
  intro marker hMarker
  split
  · -- a marker of the part itself has a keyword token in front of it, and not `All`
    have hAll := dropSuffix?_canonicalToken (show opensWord "All".toList = true by decide)
      (show runs "All".toList = [] ++ ["All".toList] by decide) (hWords _ (by decide))
      (front ++ part.path.canonicalText '_') operator
    simp only [ignoreAllCaseMarkers, List.mem_cons, List.not_mem_nil, or_false] at hMarker
    rcases hMarker with rfl | rfl
    · simp [dropSuffix?, dropPrefix?]
    · simpa [dropSuffix?, dropPrefix?] using hAll
  · rw [List.append_nil]
    have hCase := hWords "Case".toList (by decide)
    simp only [ignoreAllCaseMarkers, List.mem_cons, List.not_mem_nil, or_false] at hMarker
    rcases hMarker with rfl | rfl
    · exact dropSuffix?_canonicalToken (by decide)
        (show runs "AllIgnoringCase".toList = ["All".toList, "Ignoring".toList] ++ ["Case".toList]
          by decide) hCase _ operator
    · exact dropSuffix?_canonicalToken (by decide)
        (show runs "AllIgnoreCase".toList = ["All".toList, "Ignore".toList] ++ ["Case".toList]
          by decide) hCase _ operator

/-- The criteria are read without the marker, and the marker tells the mode. -/
theorem Query.SpelledIn.dropIgnoreAllCase (hQuery : query.SpelledIn metadata state)
    {fragment : Fragment} (hText : fragment.text = criteriaText query.groups ++ query.caseMarker) :
    (DerivedQuery.dropIgnoreAllCase fragment).1.text = criteriaText query.groups ∧
      (DerivedQuery.dropIgnoreAllCase fragment).2 = query.ignoresAllCase := by
  cases hCase : query.ignoresAllCase with
  | true =>
      rw [Query.caseMarker, if_pos hCase] at hText
      rw [dropIgnoreAllCase_marker hText]
      exact ⟨rfl, rfl⟩
  | false =>
      rw [Query.caseMarker, if_neg (by simp [hCase]), List.append_nil] at hText
      rw [dropIgnoreAllCase_of_none]
      · exact ⟨hText, rfl⟩
      · rw [hText]
        by_cases hSome : query.groups = []
        · rw [hSome]
          decide
        · obtain ⟨front, part, hPart, hCriteria⟩ :=
            exists_criteriaText_eq_append (hQuery.groups hSome)
          rw [hCriteria]
          exact dropSuffix?_part hPart front

/-- The outline divides a name into the parts of the query. -/
structure Outline.Divides (outline : Outline) (query : Query) : Prop where
  intent : outline.intent = query.intent
  distinct : outline.distinct = query.distinct
  limit : outline.limit = query.limit
  criteria : outline.criteria.text = criteriaText query.groups
  ignoreAllCase : outline.ignoreAllCase = query.ignoresAllCase
  ordering : outline.ordering.map (·.text) =
    if query.ordering = [] then none else some (orderingText query.ordering)

theorem Query.SpelledIn.splitOrdering (hQuery : query.SpelledIn metadata state) {body : Fragment}
    (hBody : body.text =
      criteriaText query.groups ++ query.caseMarker ++ query.orderingClause) :
    ∃ front clause, DerivedQuery.splitOrdering body = .ok (front, clause) ∧
      front.text = criteriaText query.groups ++ query.caseMarker ∧
      clause.map (·.text) =
        if query.ordering = [] then none else some (orderingText query.ordering) := by
  by_cases hSome : query.ordering = []
  · have hFront : body.text = criteriaText query.groups ++ query.caseMarker := by
      rw [hBody, Query.orderingClause, hSome]
      simp
    refine ⟨body, none, splitOrdering_of_not_mem ?_, hFront, by simp [hSome]⟩
    rw [hFront]
    exact hQuery.by_not_mem_front
  · rw [Query.orderingClause, if_neg (by simpa using hSome)] at hBody
    have hOpens : opensWord (orderingText query.ordering) = true := by
      rw [orderingText, ← intercalate_nil_eq_flatten]
      exact opensWord_intercalate hSome
        (fun order hOrder => ((hQuery.ordering hSome).2 order hOrder).opensWord) []
    obtain ⟨clause, hSplit, hClause⟩ :=
      splitOrdering_append hQuery.by_not_mem_front hQuery.by_not_mem_orderingText hOpens hBody
    exact ⟨_, _, hSplit, rfl, by simp [hSome, hClause]⟩

/-- A query that selects everything in any order has no group. -/
theorem Query.SpelledIn.groups_of_isBare (hQuery : query.SpelledIn metadata state)
    (hBare : query.IsBare) : query.groups = [] := by
  cases hGroups : query.groups with
  | nil => rfl
  | cons group rest =>
      have hMem : group ∈ query.groups := by rw [hGroups]; exact List.mem_cons_self
      have hNonempty := ((hQuery.groups (List.ne_nil_of_mem hMem)).2 group hMem).1
      obtain ⟨part, more, hPart⟩ := List.exists_cons_of_ne_nil hNonempty
      have hParts : part ∈ query.parts :=
        mem_parts.mpr ⟨group, hMem, by rw [hPart]; exact List.mem_cons_self⟩
      rw [hBare.1] at hParts
      simp at hParts

/-- **The canonical name is divided where it was put together.** -/
theorem ofMethod_canonical (hQuery : query.SpelledIn metadata state) :
    ∃ outline, Outline.ofMethod MethodParser.default.introducers (query.canonical .builtin).toList =
      .ok outline ∧ outline.Divides query := by
  have hIntroducer : query.intent.introducer.toList ≠ [] := by
    cases query.intent <;> decide
  by_cases hBare : query.IsBare
  · obtain ⟨body, hSubject, hBody⟩ :=
      readSubject_canonical query.intent query.distinct hQuery.read.limit
    have hGroups := hQuery.groups_of_isBare hBare
    have hSplit : DerivedQuery.splitOrdering body = .ok (body, none) :=
      splitOrdering_of_not_mem (by simp [hBody])
    have hFront : body.text = criteriaText query.groups ++ query.caseMarker := by
      rw [hBody, hGroups, Query.caseMarker, if_neg (by simp [hBare.2.2])]
      rfl
    have hCase := hQuery.dropIgnoreAllCase hFront
    rw [toList_canonical_of_isBare hBare]
    refine ⟨_, ofMethod_eq_ok_iff.mpr ⟨by simp [hIntroducer], _, _, _, _, _, _, hSubject, hSplit, rfl⟩,
      rfl, rfl, rfl, hCase.1, hCase.2, by simp [hBare.2.1]⟩
  · have hEnds : endsWordBefore
        (criteriaText query.groups ++ query.caseMarker ++ query.orderingClause) = true := by
      apply endsWordBefore_append
      · exact endsWordBefore_append hQuery.endsWordBefore_criteriaText
          (endsWordBefore_caseMarker query)
      · unfold Query.orderingClause
        split
        · rfl
        · exact endsWordBefore_of_opensWord (opensWord_append (by decide))
    obtain ⟨body, hSubject, hBody⟩ :=
      readSubject_canonical_by query.intent query.distinct hQuery.read.limit hEnds
    obtain ⟨front, clause, hSplit, hFront, hClause⟩ := hQuery.splitOrdering hBody
    have hCase := hQuery.dropIgnoreAllCase hFront
    rw [toList_canonical hBare hQuery.read.separator]
    exact ⟨_, ofMethod_eq_ok_iff.mpr ⟨by simp [hIntroducer], _, _, _, _, _, _, hSubject, hSplit, rfl⟩,
      rfl, rfl, rfl, hCase.1, hCase.2, hClause⟩

end Spelled

/-! ## Reading it back -/

/-- The query as it is read from its canonical name. -/
def Query.respelled (query : Query) : Query :=
  { query with
    groups := query.groups.map (·.map Part.respelled)
    ordering := query.ordering.map Order.respelled }

/-- An outline is read by its criteria and then by its ordering. -/
theorem readOutline_eq_ok {root : String} {outline : Outline} {state between after : σ}
    {groups : List (List Part)} {ordering : List Order}
    (hCriteria : MethodParser.readCriteria (defaultScope metadata root outline.ignoreAllCase)
      outline.criteria state = (.ok groups, between))
    (hOrdering : MethodParser.readOrdering (defaultScope metadata root outline.ignoreAllCase)
      outline.ordering between = (.ok ordering, after)) :
    MethodParser.default.readOutline metadata root outline state =
      (.ok
        { intent := outline.intent
          distinct := outline.distinct
          limit := outline.limit
          groups
          ordering
          rootType := root
          separator := '_' }, after) := by
  unfold defaultScope at hCriteria hOrdering
  unfold MethodParser.readOutline MethodParser.default defaultSeparator
  dsimp only
  rw [hCriteria]
  dsimp only
  rw [hOrdering]

/-- **A query is read back from its canonical name**, and nothing is asked for. -/
theorem parse_canonical_of_spelledIn {state : σ} (hNumbered : KnowsNumbered metadata state)
    {query : Query} (hQuery : query.SpelledIn metadata state) :
    MethodParser.default.parse metadata (query.canonical .builtin) query.rootType state =
      (.ok query.respelled, state) := by
  obtain ⟨outline, hOutline, hDivides⟩ := ofMethod_canonical hQuery
  have hScope : KnowsNumbered
      (defaultScope metadata query.rootType query.ignoresAllCase).metadata state := hNumbered
  have hCriteria : MethodParser.readCriteria
      (defaultScope metadata query.rootType query.ignoresAllCase) outline.criteria state =
        (.ok (query.groups.map (·.map Part.respelled)), state) := by
    unfold MethodParser.readCriteria
    rw [hDivides.criteria]
    by_cases hSome : query.groups = []
    · rw [hSome]
      rfl
    · have hOpens := opensWord_criteriaText (hQuery.groups hSome)
      have hFragment : outline.criteria =
          ⟨criteriaText query.groups, outline.criteria.position⟩ := by
        rw [← hDivides.criteria]
      rw [if_neg (by simp [ne_nil_of_opensWord hOpens]), hFragment]
      exact parseCriteria_canonical hScope rfl rfl (hQuery.groups hSome) _
  have hOrdering : MethodParser.readOrdering
      (defaultScope metadata query.rootType query.ignoresAllCase) outline.ordering state =
        (.ok (query.ordering.map Order.respelled), state) := by
    have hText := hDivides.ordering
    unfold MethodParser.readOrdering
    by_cases hSome : query.ordering = []
    · rw [if_pos hSome, Option.map_eq_none_iff] at hText
      rw [hText, hSome]
      rfl
    · rw [if_neg hSome, Option.map_eq_some_iff] at hText
      obtain ⟨clause, hClause, hOrders⟩ := hText
      have hFragment : clause = ⟨orderingText query.ordering, clause.position⟩ := by
        rw [← hOrders]
      rw [hClause]
      dsimp only
      rw [hFragment]
      exact parseOrdering_canonical hScope rfl (hQuery.ordering hSome) _
  rw [← hDivides.ignoreAllCase] at hCriteria hOrdering
  unfold MethodParser.parse
  rw [hOutline]
  dsimp only
  rw [readOutline_eq_ok hCriteria hOrdering, hDivides.intent, hDivides.distinct, hDivides.limit,
    Query.respelled, hQuery.read.separator]

end DerivedQuery
