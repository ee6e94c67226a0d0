import DerivedQuery.Proofs.Path.Greedy
import DerivedQuery.Proofs.Query.Entries
import DerivedQuery.Proofs.Registry.Closure
import DerivedQuery.Query.Criteria

/-!
# The grammar of criteria

Criteria are groups joined by `Or`, and groups are parts joined by `And`. A connector counts only
between two pieces of which the second starts with an uppercase character, but not every such place
has to be a joint: `ColorOrSize` may be one property. So a text may have several readings, and the
search for one goes back and forth on two levels, in a state that changes on the way.

If the source of metadata is steady, each text has one value as a part, wherever it stands and
whatever has been tried before. Then the search is exact: it finds a reading if there is one. The
cuts of a text are tried from the left, and everything behind a cut is searched before the next cut
is tried. So the first piece is the shortest one behind which a reading exists, and this holds again
for what is behind it.

## Main definitions

* `Division`, `ShortestFirst`: texts as joined pieces, and the preferred one among them
* `CriteriaReading`, `PreferredReading`: the same on both levels

## Main results

* `exists_division`, `isSome_of_division`: the search is sound and complete
* `parseCriteria_exact`: criteria are accepted if and only if they have a reading
-/

namespace DerivedQuery

open Text Metadata

/-! ## Divisions -/

/-- The pieces make up the text if the connector joins them. Each of them is accepted and holds a
character, and behind a connector a piece starts with an uppercase character. -/
structure Division (connector : List Char) (Accepts : List Char → Prop) (text : List Char)
    (pieces : List (List Char)) : Prop where
  ne_nil : pieces ≠ []
  joined : connector.intercalate pieces = text
  accepted : ∀ piece ∈ pieces, piece ≠ [] ∧ Accepts piece
  opens : ∀ piece ∈ pieces.tail, opensWord piece = true

/-- No division of the text has a shorter first piece, and so it is again with the text behind the
first piece and its connector. -/
def ShortestFirst (connector : List Char) (Accepts : List Char → Prop) : List (List Char) → Prop
  | [] => True
  | piece :: rest =>
      (∀ other others, Division connector Accepts (connector.intercalate (piece :: rest))
        (other :: others) → piece.length ≤ other.length) ∧
      ShortestFirst connector Accepts rest

section Division

variable {connector : List Char} {Accepts : List Char → Prop} {text piece second : List Char}
  {rest : List (List Char)}

theorem intercalate_cons_cons (connector piece second : List Char) (rest : List (List Char)) :
    connector.intercalate (piece :: second :: rest) =
      piece ++ (connector ++ connector.intercalate (second :: rest)) := by
  rw [List.intercalate_cons_cons, List.append_assoc]

/-- A joined text starts as its first piece does. -/
theorem opensWord_intercalate_cons (connector : List Char) (rest : List (List Char))
    (hPiece : piece ≠ []) :
    opensWord (connector.intercalate (piece :: rest)) = opensWord piece := by
  obtain ⟨c, more, rfl⟩ := List.exists_cons_of_ne_nil hPiece
  cases rest with
  | nil => simp [opensWord]
  | cons second others => simp [opensWord]

/-- The text as a whole. -/
theorem division_singleton (hPiece : piece ≠ []) (hAccepts : Accepts piece) :
    Division connector Accepts piece [piece] where
  ne_nil := List.cons_ne_nil piece []
  joined := List.intercalate_singleton
  accepted other hOther := by
    rw [List.mem_singleton.mp hOther]
    exact ⟨hPiece, hAccepts⟩
  opens other hOther := absurd hOther List.not_mem_nil

/-- A cut at the connector in front of a divided text. -/
theorem Division.of_cut (cut : Cut text) (hGap : cut.gap = connector) (hAccepts : Accepts cut.left)
    {pieces : List (List Char)} (hDivision : Division connector Accepts cut.right pieces) :
    Division connector Accepts text (cut.left :: pieces) := by
  obtain ⟨second, rest, rfl⟩ := List.exists_cons_of_ne_nil hDivision.ne_nil
  have hSecond := (hDivision.accepted second List.mem_cons_self).1
  refine ⟨List.cons_ne_nil _ _, ?_, fun piece hPiece => ?_, fun piece hPiece => ?_⟩
  · rw [intercalate_cons_cons, hDivision.joined, ← hGap, cut.joined]
  · rcases List.mem_cons.mp hPiece with rfl | hLater
    · exact ⟨cut.left_ne_nil, hAccepts⟩
    · exact hDivision.accepted piece hLater
  · rcases List.mem_cons.mp hPiece with rfl | hLater
    · rw [← opensWord_intercalate_cons connector rest hSecond, hDivision.joined]
      exact cut.right_opens
    · exact hDivision.opens piece hLater

/-- What is behind the first piece is divided as well. -/
theorem Division.behind (hDivision : Division connector Accepts text (piece :: second :: rest)) :
    Division connector Accepts (connector.intercalate (second :: rest)) (second :: rest) :=
  ⟨List.cons_ne_nil _ _, rfl,
    fun other hOther => hDivision.accepted other (List.mem_cons_of_mem piece hOther),
    fun other hOther => hDivision.opens other (List.mem_cons_of_mem second hOther)⟩

/-- The first joint of a division is a cut of the text. -/
def Division.cut (hDivision : Division connector Accepts text (piece :: second :: rest)) :
    Cut text where
  left := piece
  gap := connector
  right := connector.intercalate (second :: rest)
  joined := by rw [← hDivision.joined, intercalate_cons_cons]
  left_ne_nil := (hDivision.accepted piece List.mem_cons_self).1
  right_opens := by
    have hSecond : second ∈ piece :: second :: rest := by simp
    rw [opensWord_intercalate_cons connector rest (hDivision.accepted second hSecond).1]
    exact hDivision.opens second List.mem_cons_self

/-! ### Divisions as entries -/

/-- The cuts of a division are at the connector. -/
abbrev IsConnected (connector : List Char) (left gap : List Char) : Prop :=
  gap ∈ connectorGaps connector left

/-- The texts of readable entries are a division. -/
theorem division_texts (hNil : ¬Accepts []) (entries : Entries text)
    (hReadable : entries.Readable (IsConnected connector) Accepts) :
    Division connector Accepts text entries.texts := by
  induction entries with
  | single text =>
      have hText : text ≠ [] := by
        rintro rfl
        exact hNil hReadable
      exact division_singleton hText hReadable
  | cons cut rest ih =>
      obtain ⟨hGap, hFirst, hRest⟩ := hReadable
      exact (ih hRest).of_cut cut (List.mem_singleton.mp hGap) hFirst

/-- Every division is made of the texts of readable entries. -/
theorem Division.exists_entries {pieces : List (List Char)}
    (hDivision : Division connector Accepts text pieces) :
    ∃ entries : Entries text, entries.Readable (IsConnected connector) Accepts ∧
      entries.texts = pieces := by
  induction pieces generalizing text with
  | nil => exact absurd rfl hDivision.ne_nil
  | cons piece rest ih =>
      have hPiece := (hDivision.accepted piece List.mem_cons_self).2
      cases rest with
      | nil =>
          obtain rfl : piece = text := by rw [← hDivision.joined, List.intercalate_singleton]
          exact ⟨.single piece, hPiece, rfl⟩
      | cons second others =>
          obtain ⟨entries, hReadable, hTexts⟩ := ih hDivision.behind
          refine ⟨.cons hDivision.cut entries, ⟨List.mem_singleton.mpr rfl, hPiece, hReadable⟩, ?_⟩
          change piece :: entries.texts = piece :: second :: others
          rw [hTexts]

/-- The first piece of a division is no shorter than what starts before all readable entries. -/
theorem length_head_le {entries : Entries text}
    (hFirst : ∀ other : Entries text, other.Readable (IsConnected connector) Accepts →
      entries.StartsBefore other)
    (hDivision : Division connector Accepts text (piece :: rest)) :
    entries.head.length ≤ piece.length := by
  obtain ⟨other, hReadable, hTexts⟩ := hDivision.exists_entries
  have hHead : other.head = piece := by
    cases other <;> exact (List.cons.inj hTexts).1
  rw [← hHead]
  rcases hFirst other hReadable with hShorter | ⟨hSame, _⟩
  · exact Nat.le_of_lt hShorter
  · exact Nat.le_of_eq hSame

/-- The texts of preferred entries are the preferred division. -/
theorem shortestFirst_texts (hNil : ¬Accepts []) (entries : Entries text)
    (hReadable : entries.Readable (IsConnected connector) Accepts)
    (hPreferred : entries.Preferred (IsConnected connector) Accepts) :
    ShortestFirst connector Accepts entries.texts := by
  induction entries with
  | single text =>
      refine ⟨fun other others hOther => ?_, trivial⟩
      rw [List.intercalate_singleton] at hOther
      exact length_head_le hPreferred hOther
  | cons cut rest ih =>
      have hJoined := (division_texts hNil _ hReadable).joined
      refine ⟨fun other others hOther => ?_, ih hReadable.2.2 hPreferred.2⟩
      rw [← Entries.texts, hJoined] at hOther
      exact length_head_le hPreferred.1 hOther

end Division

/-! ## The search for a division -/

section Search

variable {β : Type} {connector : List Char} {value : List Char → Option β}
  {found : List Char → Option (List β)} {text : List Char}

/-- What is found in a text is what the first cut has on both sides, or else the value of the text
as a whole. -/
def Searches (connector : List Char) (value : List Char → Option β)
    (found : List Char → Option (List β)) : Prop :=
  ∀ text, found text =
    ((cuts (connectorGaps connector) text).findSome? (bothSides value found)).or
      ((value text).map ([·]))

/-- **The search is complete.** -/
theorem isSome_of_division (hSearches : Searches connector value found) {pieces : List (List Char)}
    (hDivision : Division connector (fun piece => (value piece).isSome = true) text pieces) :
    (found text).isSome = true := by
  obtain ⟨entries, hReadable, _⟩ := hDivision.exists_entries
  exact isSome_of_readable hSearches entries hReadable

/-- **The search is sound**, and it prefers short pieces. -/
theorem exists_division (hSearches : Searches connector value found) (hNil : value [] = none)
    {values : List β} (hFound : found text = some values) :
    ∃ pieces, Division connector (fun piece => (value piece).isSome = true) text pieces ∧
      ShortestFirst connector (fun piece => (value piece).isSome = true) pieces ∧
      List.Forall₂ (fun piece result => value piece = some result) pieces values := by
  have hEmpty : ¬(value []).isSome = true := by rw [hNil]; simp
  obtain ⟨entries, hReadable, hPreferred, hValues⟩ :=
    exists_entries hSearches (fun _ => List.pairwise_singleton _ _) hFound
  exact ⟨entries.texts, division_texts hEmpty entries hReadable,
    shortestFirst_texts hEmpty entries hReadable hPreferred, hValues⟩

/-- The reader of a joined list is a search. -/
theorem searches_parseJoined {σ : Type} {metadata : Metadata σ} {state : σ}
    {entry : Fragment → σ → Except SyntaxError β × σ}
    (hEntry : ∀ text position, metadata.Yields state (value text) (entry ⟨text, position⟩))
    (connector : List Char) :
    ∃ found, Searches connector value found ∧ ∀ text position,
      metadata.Yields state (found text)
        (parseJoined entry (connectorGaps connector) connector ⟨text, position⟩) :=
  exists_searchesCuts_parseJoined hEntry (connectorGaps connector) connector

end Search

/-! ## Parts -/

section Criteria

variable {σ : Type} {scope : Scope σ} {state : σ}

/-- The text resolves to the path from the root of the scope. -/
def Scope.Resolves (scope : Scope σ) (state : σ) (text : List Char) (path : PropertyPath) : Prop :=
  ∃ after, scope.resolve text state = (.ok path, after)

/-- The path that a text resolves to. -/
def Scope.pathOf? (scope : Scope σ) (state : σ) (text : List Char) : Option PropertyPath :=
  (scope.resolve text state).1.toOption

theorem pathOf?_eq_some_iff {text : List Char} {path : PropertyPath} :
    scope.pathOf? state text = some path ↔ scope.Resolves state text path := by
  unfold Scope.pathOf? Scope.Resolves
  rcases scope.resolve text state with ⟨result | result, after⟩ <;> simp [Except.toOption]

theorem isSome_pathOf? {text : List Char} :
    (scope.pathOf? state text).isSome = true ↔ ∃ path, scope.Resolves state text path := by
  rw [Option.isSome_iff_exists]
  exact exists_congr fun _ => pathOf?_eq_some_iff

/-- The empty text is no path. -/
theorem not_resolves_nil {path : PropertyPath} : ¬scope.Resolves state [] path := by
  rintro ⟨after, hPath⟩
  simp [Scope.resolve, resolvePath, chunks, resolveChunks] at hPath

/-- A text resolves to the same path whatever has been requested before. -/
theorem yields_resolve (hSteady : scope.metadata.Steady state) (text : List Char) :
    scope.metadata.Yields state (scope.pathOf? state text) (scope.resolve text) := by
  obtain ⟨resolved, hResolved⟩ := yields_resolvePath hSteady scope.separator text scope.root
  rw [Scope.pathOf?, Scope.resolve, hResolved.eq]
  exact hResolved

private theorem yields_parsePartAs (hSteady : scope.metadata.Steady state) (fragment : Fragment)
    (caseMode : CaseMode) (path : List Char) (keyword : Keyword) :
    scope.metadata.Yields state ((scope.pathOf? state path).map ({ path := ·, keyword, caseMode }))
      (parsePartAs scope fragment caseMode path keyword) := by
  intro later hLater
  unfold parsePartAs
  rcases (yields_resolve hSteady path).cases hLater with ⟨result, after, hRead, hValue, hLeads⟩ |
    ⟨error, after, hRead, hValue, hLeads⟩
  · rw [hRead, hValue]
    exact ⟨hLeads, rfl⟩
  · rw [hRead, hValue]
    exact ⟨hLeads, rfl⟩

/-- What a text without a case marker is read as: the part of its first keyword token which leaves a
path, or else the path alone. -/
def Scope.comparisonOf? (scope : Scope σ) (state : σ) (text : List Char) (caseMode : CaseMode) :
    Option Part :=
  ((scope.vocabulary.candidates text).findSome? fun candidate =>
    (scope.pathOf? state candidate.1).map ({ path := ·, keyword := candidate.2, caseMode })).or
  ((scope.pathOf? state text).map ({ path := ·, keyword := .default, caseMode }))

theorem yields_parseComparison (hSteady : scope.metadata.Steady state) (text : List Char)
    (caseMode : CaseMode) (position : Nat) :
    scope.metadata.Yields state (scope.comparisonOf? state text caseMode)
      (parseComparison scope ⟨text, position⟩ caseMode) := by
  unfold parseComparison
  exact yields_firstSuccess (yields_parsePartAs hSteady _ caseMode text .default) _
    fun candidate _ => yields_parsePartAs hSteady _ caseMode candidate.1 candidate.2

/-- What a text is read as if it is one part. -/
def Scope.partOf? (scope : Scope σ) (state : σ) (text : List Char) : Option Part :=
  (parsePart scope ⟨text, 0⟩ state).1.toOption

/-- A part is read as the same wherever it stands, whatever has been requested before. -/
theorem yields_parsePart (hSteady : scope.metadata.Steady state) (text : List Char)
    (position : Nat) :
    scope.metadata.Yields state (scope.partOf? state text) (parsePart scope ⟨text, position⟩) := by
  have hPart : ∃ value, ∀ position,
      scope.metadata.Yields state value (parsePart scope ⟨text, position⟩) := by
    unfold parsePart
    dsimp only [Fragment.upTo]
    cases dropIgnoreCase? text with
    | some front => exact ⟨_, yields_parseComparison hSteady front .ignored⟩
    | none =>
        cases text with
        | nil => exact ⟨none, fun position => yields_error state _⟩
        | cons c rest => exact ⟨_, yields_parseComparison hSteady (c :: rest) scope.defaultCaseMode⟩
  obtain ⟨value, hValue⟩ := hPart
  rw [Scope.partOf?, (hValue 0).eq]
  exact hValue position

/-- The text is read as a part. -/
def Scope.IsPart (scope : Scope σ) (state : σ) (text : List Char) : Prop :=
  (scope.partOf? state text).isSome = true

private theorem partOf?_nil (scope : Scope σ) (state : σ) : scope.partOf? state [] = none := by
  rfl

/-! ## Criteria -/

/-- The text consists of parts. -/
def Scope.IsGroup (scope : Scope σ) (state : σ) (text : List Char) : Prop :=
  ∃ parts, Division andConnector (scope.IsPart state) text parts

/-- The text as groups, and each group as parts. -/
structure CriteriaReading (scope : Scope σ) (state : σ) (text : List Char)
    (reading : List (List (List Char))) : Prop where
  groups : Division orConnector (scope.IsGroup state) text (reading.map andConnector.intercalate)
  parts : ∀ parts ∈ reading,
    Division andConnector (scope.IsPart state) (andConnector.intercalate parts) parts

/-- The reading with the shortest first group, the shortest second group behind it and so on, and
in each group with the shortest first part and so on. -/
structure PreferredReading (scope : Scope σ) (state : σ) (text : List Char)
    (reading : List (List (List Char))) : Prop
    extends CriteriaReading scope state text reading where
  shortestGroups :
    ShortestFirst orConnector (scope.IsGroup state) (reading.map andConnector.intercalate)
  shortestParts : ∀ parts ∈ reading, ShortestFirst andConnector (scope.IsPart state) parts

section Levels

variable {groupOf? : List Char → Option (List Part)}
  {criteriaOf? : List Char → Option (List (List Part))} {text : List Char}

private theorem isSome_iff_isGroup
    (hGroups : Searches andConnector (scope.partOf? state) groupOf?) :
    (groupOf? text).isSome = true ↔ scope.IsGroup state text := by
  constructor
  · intro hSome
    obtain ⟨parts, hParts⟩ := Option.isSome_iff_exists.mp hSome
    obtain ⟨pieces, hDivision, _⟩ := exists_division hGroups (partOf?_nil scope state) hParts
    exact ⟨pieces, hDivision⟩
  · rintro ⟨pieces, hDivision⟩
    exact isSome_of_division hGroups hDivision

/-- Groups that were found in their texts, as the texts of their parts. -/
theorem exists_parts_of_groups (hGroups : Searches andConnector (scope.partOf? state) groupOf?)
    {pieces : List (List Char)} {groups : List (List Part)}
    (hFound : List.Forall₂ (fun piece group => groupOf? piece = some group) pieces groups) :
    ∃ reading : List (List (List Char)), reading.map andConnector.intercalate = pieces ∧
      (∀ parts ∈ reading,
        Division andConnector (scope.IsPart state) (andConnector.intercalate parts) parts ∧
          ShortestFirst andConnector (scope.IsPart state) parts) ∧
      List.Forall₂ (List.Forall₂ fun piece part => scope.partOf? state piece = some part)
        reading groups := by
  induction hFound with
  | nil => exact ⟨[], rfl, by simp, .nil⟩
  | @cons piece group rest others hPiece hRest ih =>
      obtain ⟨parts, hDivision, hShortest, hParts⟩ :=
        exists_division hGroups (partOf?_nil scope state) hPiece
      obtain ⟨reading, hTexts, hAll, hReadings⟩ := ih
      refine ⟨parts :: reading, by rw [List.map_cons, hDivision.joined, hTexts], ?_,
        .cons hParts hReadings⟩
      intro other hOther
      rcases List.mem_cons.mp hOther with rfl | hLater
      · rw [hDivision.joined]
        exact ⟨hDivision, hShortest⟩
      · exact hAll other hLater

/-- What is found on both levels is the preferred reading. -/
theorem exists_preferredReading (hGroups : Searches andConnector (scope.partOf? state) groupOf?)
    (hCriteria : Searches orConnector groupOf? criteriaOf?) {groups : List (List Part)}
    (hFound : criteriaOf? text = some groups) :
    ∃ reading, PreferredReading scope state text reading ∧
      List.Forall₂ (List.Forall₂ fun piece part => scope.partOf? state piece = some part)
        reading groups := by
  have hIsGroup : (fun text => (groupOf? text).isSome = true) = scope.IsGroup state :=
    funext fun _ => propext (isSome_iff_isGroup hGroups)
  have hGroupNil : groupOf? [] = none := by
    rw [hGroups [], partOf?_nil]
    rfl
  obtain ⟨pieces, hDivision, hShortest, hPieces⟩ := exists_division hCriteria hGroupNil hFound
  obtain ⟨reading, rfl, hParts, hReading⟩ := exists_parts_of_groups hGroups hPieces
  rw [hIsGroup] at hDivision hShortest
  exact ⟨reading,
    ⟨⟨hDivision, fun parts hMem => (hParts parts hMem).1⟩, hShortest,
      fun parts hMem => (hParts parts hMem).2⟩,
    hReading⟩

end Levels

/-- **Criteria are accepted if and only if they have a reading**, and what is read is the preferred
one of their readings. The text of each part is read as the part that is returned, at every position
and whatever has been requested before. -/
theorem parseCriteria_exact (hSteady : scope.metadata.Steady state) (text : List Char)
    (position : Nat) :
    ((∃ groups after, parseCriteria scope ⟨text, position⟩ state = (.ok groups, after)) ↔
      ∃ reading, CriteriaReading scope state text reading) ∧
    ∀ groups after, parseCriteria scope ⟨text, position⟩ state = (.ok groups, after) →
      ∃ reading, PreferredReading scope state text reading ∧
        List.Forall₂ (List.Forall₂ fun piece part =>
          ∀ position later, scope.metadata.Leads state later →
            ∃ final, parsePart scope ⟨piece, position⟩ later = (.ok part, final))
          reading groups := by
  obtain ⟨groupOf?, hGroups, hGroupYields⟩ :=
    searches_parseJoined (yields_parsePart hSteady) andConnector
  obtain ⟨criteriaOf?, hCriteria, hCriteriaYields⟩ :=
    searches_parseJoined hGroupYields orConnector
  have hYields : scope.metadata.Yields state (criteriaOf? text)
      (parseCriteria scope ⟨text, position⟩) := hCriteriaYields text position
  have hRead : ∀ groups after, parseCriteria scope ⟨text, position⟩ state = (.ok groups, after) →
      ∃ reading, PreferredReading scope state text reading ∧
        List.Forall₂ (List.Forall₂ fun piece part => scope.partOf? state piece = some part)
          reading groups := by
    intro groups after hResult
    have hFound := (hYields.of_eq (.refl state) hResult).2
    exact exists_preferredReading hGroups hCriteria hFound.symm
  refine ⟨⟨?_, ?_⟩, fun groups after hResult => ?_⟩
  · rintro ⟨groups, after, hResult⟩
    obtain ⟨reading, hReading, _⟩ := hRead groups after hResult
    exact ⟨reading, hReading.toCriteriaReading⟩
  · rintro ⟨reading, hReading⟩
    have hDivision := hReading.groups
    have hIsGroup : scope.IsGroup state = fun text => (groupOf? text).isSome = true :=
      funext fun _ => propext (isSome_iff_isGroup hGroups).symm
    rw [hIsGroup] at hDivision
    obtain ⟨groups, hSome⟩ := Option.isSome_iff_exists.mp (isSome_of_division hCriteria hDivision)
    rw [hSome] at hYields
    obtain ⟨after, hResult, _⟩ := hYields.succeeds (.refl state)
    exact ⟨groups, after, hResult⟩
  · obtain ⟨reading, hReading, hParts⟩ := hRead groups after hResult
    refine ⟨reading, hReading, hParts.imp fun parts group hGroup => hGroup.imp ?_⟩
    intro piece part hPart position later hLater
    have hPiece := yields_parsePart hSteady piece position
    rw [hPart] at hPiece
    obtain ⟨final, hResult, _⟩ := hPiece.succeeds hLater
    exact ⟨final, hResult⟩

end Criteria

/-- Garments, with connectors in the names of two properties. -/
def garments : Registry :=
  { inspector := .ofCatalog
      { types :=
          [{ name := "Garment"
             members :=
               [{ name := "name", declared := .named "String" },
                 { name := "color_or_size", declared := .named "String" },
                 { name := "land_and_sea", declared := .named "String" }] }] } }

/-- Criteria for garments. -/
def garmentScope : Scope Registry.State :=
  { metadata := garments.metadata
    vocabulary := .builtin
    separator := '_'
    root := "Garment"
    ignoreAllCase := false }

private theorem garments_coherent : garments.source.Coherent :=
  garments.coherent_of_answers (by decide +kernel)

/-- Connectors in property names are no joints. -/
theorem parseCriteria_garments : garmentScope.metadata.Steady {} ∧
    ∃ groups after, parseCriteria garmentScope
        ⟨"NameOrColorOrSizeAndLandAndSea".toList, 6⟩ {} = (.ok groups, after) ∧
      groups.map (·.map (·.path.properties.map (·.name))) =
        [[["name"]], [["color_or_size"], ["land_and_sea"]]] ∧
      ∃ reading,
        PreferredReading garmentScope {} "NameOrColorOrSizeAndLandAndSea".toList reading := by
  have hSteady : garmentScope.metadata.Steady {} :=
    Registry.steady_stateAfter _ _ [] garments_coherent
  have hNames : (parseCriteria garmentScope
      ⟨"NameOrColorOrSizeAndLandAndSea".toList, 6⟩ {}).1.toOption.map
        (·.map (·.map (·.path.properties.map (·.name)))) =
      some [[["name"]], [["color_or_size"], ["land_and_sea"]]] := by
    decide +kernel
  obtain ⟨groups, hGroups, hProperties⟩ := Option.map_eq_some_iff.mp hNames
  cases hResult : parseCriteria garmentScope ⟨"NameOrColorOrSizeAndLandAndSea".toList, 6⟩ {} with
  | mk result after =>
      rw [hResult] at hGroups
      cases result with
      | error error => simp [Except.toOption] at hGroups
      | ok found =>
          obtain ⟨reading, hReading, _⟩ := (parseCriteria_exact hSteady _ 6).2 found after hResult
          simp only [Except.toOption, Option.some.injEq] at hGroups
          exact ⟨hSteady, found, after, rfl, hGroups ▸ hProperties, reading, hReading⟩

end DerivedQuery
