import DerivedQuery.Proofs.Convention
import DerivedQuery.Proofs.Path.Reading
import DerivedQuery.Proofs.Query.Canonical

/-!
# What the words of a canonical name denote

A canonical name is written with the introducer of its intent and with one token for each keyword.
A convention may have other introducers, and it may give one token to several keywords. So the
parser that has read a query need not understand the words that the query is written back with.

Its introducers are matched as whole words in front of a canonical name, and among the entries of a
token the one that was registered first wins. So what a word denotes shows in the configuration
itself, without regard to the order in which introducers and tokens are matched. For the built-in
keywords all is well: their tokens are registered before all others.

## Main definitions

* `Query.KeepsIntent`: the introducer that is written denotes the intent of the query
* `Vocabulary.Keeps`: the token that is written for a keyword denotes this keyword

## Main results

* `keywords_of_parse`: the keywords of a query are those of the vocabulary
* `TypeSource.keeps_iff`: when the words of a canonical name denote what they are written for
* `keeps_of_nodup`: a sufficient condition on the convention alone
-/

namespace DerivedQuery

open Text Metadata

variable {σ : Type} {metadata : Metadata σ} {parser : MethodParser} {query : Query}

/-! ## The keywords of a query -/

/-- How a parser reads the criteria of a method. -/
def MethodParser.scope (parser : MethodParser) (metadata : Metadata σ) (root : String)
    (ignoreAllCase : Bool) : Scope σ :=
  { metadata, vocabulary := parser.vocabulary, separator := parser.separator, root, ignoreAllCase }

/-- The groups of a query are read from the criteria of its method. -/
theorem exists_readCriteria_of_parse {method root : String} {state after : σ}
    (hParse : parser.parse metadata method root state = (.ok query, after)) :
    ∃ outline between, Outline.ofMethod parser.introducers method.toList = .ok outline ∧
      MethodParser.readCriteria (parser.scope metadata root outline.ignoreAllCase) outline.criteria
        state = (.ok query.groups, between) := by
  unfold MethodParser.parse at hParse
  split at hParse
  · simp at hParse
  · rename_i outline hOutline
    unfold MethodParser.readOutline at hParse
    dsimp only at hParse
    split at hParse
    · simp at hParse
    · rename_i groups between hCriteria
      split at hParse
      · simp at hParse
      · rw [Prod.mk.injEq, Except.ok.injEq] at hParse
        refine ⟨outline, between, hOutline, ?_⟩
        rw [← hParse.1]
        exact hCriteria

/-- The keywords of a query that was read are those of the vocabulary. -/
theorem keywords_of_parse (hRemembers : metadata.Remembers) {method root : String}
    {state after : σ} (hParse : parser.parse metadata method root state = (.ok query, after))
    {part : Part} (hPart : part ∈ query.parts) : parser.vocabulary.Denotes part.keyword := by
  obtain ⟨outline, between, _, hGroups⟩ := exists_readCriteria_of_parse hParse
  have hParts : ∀ fragment caseMode path keyword,
      (caseMode = .ignored ∨
        caseMode = (parser.scope metadata root outline.ignoreAllCase).defaultCaseMode) →
      parser.vocabulary.Denotes keyword →
      metadata.Reads (fun part _ => parser.vocabulary.Denotes part.keyword)
        (parsePartAs (parser.scope metadata root outline.ignoreAllCase) fragment caseMode path
          keyword) := by
    intro fragment caseMode path keyword _ hKeyword state
    have hScope : (parser.scope metadata root outline.ignoreAllCase).metadata.Remembers := hRemembers
    obtain ⟨hLeads, hRead⟩ := reads_parsePartAs hScope fragment caseMode path keyword state
    refine ⟨hLeads, fun part hResult => ?_⟩
    obtain ⟨_, rfl, _⟩ := hRead part hResult
    exact hKeyword
  have hCriteria := reads_parseCriteria_of_parts hParts (fun _ _ _ _ => id) outline.criteria
  unfold MethodParser.readCriteria at hGroups
  split at hGroups
  · rw [Prod.mk.injEq, Except.ok.injEq] at hGroups
    rw [Query.parts, ← hGroups.1] at hPart
    simp at hPart
  · obtain ⟨group, hGroup, hMem⟩ := mem_parts.mp hPart
    have hAll := (hCriteria.of_eq hGroups).2 query.groups rfl
    exact (hAll.2 group hGroup).2 part hMem

/-! ## The token that is written -/

namespace Vocabulary

variable {vocabulary : Vocabulary} {keyword : Keyword}

/-- The longest of some tokens is one of them. -/
theorem exists_longest? {tokens : List String} (hTokens : tokens ≠ []) :
    ∃ token ∈ tokens, longest? tokens = some token := by
  induction tokens with
  | nil => exact absurd rfl hTokens
  | cons token rest ih =>
      rw [longest?]
      cases rest with
      | nil => exact ⟨token, List.mem_cons_self, rfl⟩
      | cons next others =>
          obtain ⟨best, hBest, hLongest⟩ := ih (List.cons_ne_nil next others)
          rw [hLongest]
          dsimp only
          split
          · exact ⟨best, List.mem_cons_of_mem token hBest, rfl⟩
          · exact ⟨token, List.mem_cons_self, rfl⟩

theorem mem_tokensFor {token : String} :
    token ∈ vocabulary.tokensFor keyword ↔ ⟨token, keyword⟩ ∈ vocabulary.entries := by
  simp only [tokensFor, List.mem_map, List.mem_filter, beq_iff_eq]
  constructor
  · rintro ⟨entry, ⟨hEntry, rfl⟩, rfl⟩
    exact hEntry
  · intro hEntry
    exact ⟨_, ⟨hEntry, rfl⟩, rfl⟩

/-- For a keyword of the vocabulary some token is written; that of a host keyword is registered for
it. -/
theorem exists_tokenFor? (hKeyword : vocabulary.Denotes keyword) :
    ∃ token, vocabulary.tokenFor? keyword = some token ∧
      (keyword.isCustom = true → ⟨token, keyword⟩ ∈ vocabulary.entries) := by
  cases keyword with
  | builtin operator => exact ⟨operator.canonicalToken, rfl, by simp [Keyword.isCustom]⟩
  | custom name arity =>
      obtain ⟨entry, hEntry, hSame⟩ := hKeyword.resolve_left (by simp [Keyword.default])
      have hToken : entry.token ∈ vocabulary.tokensFor (.custom name arity) :=
        mem_tokensFor.mpr (hSame ▸ hEntry)
      obtain ⟨token, hMem, hLongest⟩ := exists_longest? (List.ne_nil_of_mem hToken)
      exact ⟨token, hLongest, fun _ => mem_tokensFor.mp hMem⟩

/-- The first entry of the token that is written for a keyword denotes this keyword. -/
def Keeps (vocabulary : Vocabulary) (keyword : Keyword) : Prop :=
  ∃ token, vocabulary.tokenFor? keyword = some token ∧
    (vocabulary.entries.find? (·.token == token)).map (·.keyword) = some keyword

private theorem keeps_of_tokenFor? {token : String}
    (hToken : vocabulary.tokenFor? keyword = some token) :
    vocabulary.Keeps keyword ↔
      (vocabulary.entries.find? (·.token == token)).map (·.keyword) = some keyword := by
  constructor
  · rintro ⟨other, hOther, hFirst⟩
    rw [hToken, Option.some.injEq] at hOther
    rw [hOther]
    exact hFirst
  · intro hFirst
    exact ⟨token, hToken, hFirst⟩

/-- Whatever is registered, the tokens of the built-in keywords keep their meaning. -/
theorem keeps_builtin (convention : Convention) (operator : Operator) :
    convention.extendedVocabulary.Keeps (.builtin operator) := by
  refine ⟨operator.canonicalToken, rfl, ?_⟩
  rw [convention.find?_extendedVocabulary, convention.find?_registered_canonicalToken]
  rfl

end Vocabulary

/-! ## The introducer that is written -/

/-- The parser's own introducers, matched against the canonical name, give the intent of the query. -/
def Query.KeepsIntent (parser : MethodParser) (query : Query) : Prop :=
  ∃ introducer rest,
    findIntroducer? parser.introducers (query.canonical parser.vocabulary).toList =
      some (introducer, rest) ∧ introducer.intent = query.intent

/-- Behind the introducer of a canonical name a new word begins. -/
theorem exists_canonical_eq_append (query : Query) (vocabulary : Vocabulary) :
    ∃ rest, (query.canonical vocabulary).toList = query.intent.introducer.toList ++ rest ∧
      endsWordBefore rest = true := by
  have hSubject := endsWordBefore_subjectText query.distinct query.limit
  unfold Query.canonical
  split
  · exact ⟨_, toList_canonicalSubject query, hSubject⟩
  · simp only [String.toList_append, toList_canonicalSubject, List.append_assoc]
    refine ⟨_, rfl, endsWordBefore_append hSubject (endsWordBefore_of_opensWord ?_)⟩
    exact opensWord_append (by decide)

/-- The intent is kept if the first introducer of its word, in the order of the configuration, has
this intent. -/
theorem keepsIntent_iff {convention : Convention}
    (hParser : MethodParser.ofConvention convention = .ok parser) :
    query.KeepsIntent parser ↔
      (convention.introducers.find? (·.word == query.intent.introducer)).map (·.intent) =
        some query.intent := by
  obtain ⟨hValid, rfl⟩ := ofConvention_eq_ok_iff.mp hParser
  obtain ⟨_, hWords, _⟩ := Convention.validate_eq_ok_iff.mp hValid
  have hSorted : ∀ introducer ∈ convention.sortedIntroducers,
      isIntroducerWord introducer.word = true :=
    fun introducer hMem => hWords introducer (List.mem_mergeSort.mp hMem)
  obtain ⟨rest, hText, hRest⟩ := exists_canonical_eq_append query convention.extendedVocabulary
  have hFind := findIntroducer?_word hSorted (isIntroducerWord_introducer query.intent) hRest
  rw [convention.find?_sortedIntroducers] at hFind
  simp only [Query.KeepsIntent, hText, hFind]
  cases convention.introducers.find? (·.word == query.intent.introducer) <;> simp

/-! ## Conventions -/

/-- **When the words of a canonical name denote what they are written for.** For each keyword of a
query some token is written. It denotes the keyword exactly if its first registration does, which it
always does for a built-in keyword; and the introducer denotes the intent exactly if the first one
of this word does that is configured. -/
theorem TypeSource.keeps_iff {convention : Convention}
    (hParser : MethodParser.ofConvention convention = .ok parser) (source : TypeSource)
    (budget : Nat) {method root : String} {state after : Registry.State}
    (hParse : parser.parse (source.metadata budget) method root state = (.ok query, after)) :
    (query.KeepsIntent parser ↔
        (convention.introducers.find? (·.word == query.intent.introducer)).map (·.intent) =
          some query.intent) ∧
      ∀ part ∈ query.parts, ∃ token, parser.vocabulary.tokenFor? part.keyword = some token ∧
        (parser.vocabulary.Keeps part.keyword ↔
          (convention.registered.find? (·.token == token)).map (·.keyword) = some part.keyword) ∧
        (part.keyword.isCustom = false → parser.vocabulary.Keeps part.keyword) := by
  refine ⟨keepsIntent_iff hParser, fun part hPart => ?_⟩
  have hKeyword := keywords_of_parse (remembers source budget) hParse hPart
  obtain ⟨_, rfl⟩ := ofConvention_eq_ok_iff.mp hParser
  obtain ⟨token, hToken, _⟩ := Vocabulary.exists_tokenFor? hKeyword
  refine ⟨token, hToken, ?_, fun hBuiltin => ?_⟩
  · rw [Vocabulary.keeps_of_tokenFor? hToken, convention.find?_extendedVocabulary]
  · cases hOperator : part.keyword with
    | builtin operator => exact Vocabulary.keeps_builtin convention operator
    | custom name arity =>
        rw [hOperator] at hBuiltin
        simp [Keyword.isCustom] at hBuiltin

/-- If the introducers are the default ones and no token is registered twice, every keyword and the
intent are kept. -/
theorem keeps_of_nodup {convention : Convention}
    (hParser : MethodParser.ofConvention convention = .ok parser)
    (hIntroducers : convention.introducers = defaultIntroducers)
    (hTokens : (convention.registered.map (·.token)).Nodup) :
    query.KeepsIntent parser ∧
      ∀ keyword, parser.vocabulary.Denotes keyword → parser.vocabulary.Keeps keyword := by
  constructor
  · rw [keepsIntent_iff hParser, hIntroducers]
    cases query.intent <;> decide
  · intro keyword hKeyword
    obtain ⟨_, rfl⟩ := ofConvention_eq_ok_iff.mp hParser
    obtain ⟨token, hToken, hEntry⟩ := Vocabulary.exists_tokenFor? hKeyword
    cases keyword with
    | builtin operator => exact Vocabulary.keeps_builtin convention operator
    | custom name arity =>
        have hRegistered := hEntry rfl
        rw [convention.entries_extendedVocabulary, Vocabulary.mem_insertAll] at hRegistered
        replace hRegistered := hRegistered.resolve_right List.not_mem_nil
        rw [Vocabulary.keeps_of_tokenFor? hToken, convention.find?_extendedVocabulary,
          Vocabulary.find?_of_nodup hTokens hRegistered]
        rfl

/-- A convention with two words for the same intent and two tokens for a keyword of the host. -/
def synonyms : Convention :=
  { introducers := [⟨"fetch", .find⟩, ⟨"find", .find⟩]
    customKeywords := [{ name := "Fuzzy", tokens := ["Fuzzy", "Resembles"] }] }

/-- A convention with another word for an intent, and with a keyword of the host one of whose tokens
is taken. -/
def renamings : Convention :=
  { introducers := [⟨"fetch", .find⟩]
    customKeywords := [{ name := "Fuzzy", tokens := ["GreaterThan", "Fuzzy"] }] }

theorem ofConvention_synonyms : MethodParser.ofConvention synonyms =
    .ok ⟨synonyms.introducers, synonyms.extendedVocabulary, '_'⟩ := by
  have hSorted : synonyms.sortedIntroducers = synonyms.introducers := by
    simp [Convention.sortedIntroducers, synonyms, List.mergeSort,
      List.MergeSort.Internal.splitInTwo, byteLength, Char.utf8Size]
  rw [ofConvention_eq_ok_iff, hSorted]
  exact ⟨by decide +kernel, rfl⟩

private theorem ofConvention_renamings : MethodParser.ofConvention renamings =
    .ok ⟨renamings.introducers, renamings.extendedVocabulary, '_'⟩ := by
  have hSorted : renamings.sortedIntroducers = renamings.introducers := by
    simp [Convention.sortedIntroducers, renamings]
  rw [ofConvention_eq_ok_iff, hSorted]
  exact ⟨by decide +kernel, rfl⟩

/-- Other words are written than those that were read, and they denote the same. -/
theorem keeps_synonyms : ∃ parser query after,
    MethodParser.ofConvention synonyms = .ok parser ∧
    parser.parse contacts.metadata "fetchByAddressBookTitleFuzzy" "Person" {} = (.ok query, after) ∧
    query.canonical parser.vocabulary = "findByAddress_BookTitleResembles" ∧
    query.KeepsIntent parser ∧ ∀ part ∈ query.parts, parser.vocabulary.Keeps part.keyword := by
  let parser : MethodParser := ⟨synonyms.introducers, synonyms.extendedVocabulary, '_'⟩
  have hSeen : (parser.parse contacts.metadata "fetchByAddressBookTitleFuzzy" "Person"
      {}).1.toOption.map (fun query => (query.canonical parser.vocabulary, query.intent,
        query.parts.map (·.keyword))) =
      some ("findByAddress_BookTitleResembles", .find, [.custom "Fuzzy" 1]) := by
    decide +kernel
  obtain ⟨query, after, hParse, hQuery⟩ := exists_of_toOption_map hSeen
  simp only [Prod.mk.injEq] at hQuery
  obtain ⟨hText, hIntent, hKeywords⟩ := hQuery
  obtain ⟨hKeepsIntent, hKeeps⟩ :=
    TypeSource.keeps_iff ofConvention_synonyms contacts.source contacts.budget hParse
  refine ⟨parser, query, after, ofConvention_synonyms, hParse, hText, ?_, fun part hPart => ?_⟩
  · rw [hKeepsIntent, hIntent]
    decide
  · have hKeyword : part.keyword = .custom "Fuzzy" 1 := by
      have hMem := List.mem_map_of_mem (f := fun part : Part => part.keyword) hPart
      rw [hKeywords] at hMem
      exact List.mem_singleton.mp hMem
    obtain ⟨token, hToken, hFirst, _⟩ := hKeeps part hPart
    have hWritten : parser.vocabulary.tokenFor? (.custom "Fuzzy" 1) = some "Resembles" := by
      decide +kernel
    rw [hKeyword, hWritten, Option.some.injEq] at hToken
    rw [hFirst, hKeyword, ← hToken]
    decide +kernel

/-- The introducer that is written is no introducer of the convention, and the token denotes a
built-in keyword. -/
theorem not_keeps_renamings : ∃ parser query after,
    MethodParser.ofConvention renamings = .ok parser ∧
    parser.parse contacts.metadata "fetchByAddressBookTitleFuzzy" "Person" {} = (.ok query, after) ∧
    query.canonical parser.vocabulary = "findByAddress_BookTitleGreaterThan" ∧
    ¬query.KeepsIntent parser ∧
    ∃ part ∈ query.parts, ¬parser.vocabulary.Keeps part.keyword := by
  let parser : MethodParser := ⟨renamings.introducers, renamings.extendedVocabulary, '_'⟩
  have hSeen : (parser.parse contacts.metadata "fetchByAddressBookTitleFuzzy" "Person"
      {}).1.toOption.map (fun query => (query.canonical parser.vocabulary, query.intent,
        query.parts.map (·.keyword))) =
      some ("findByAddress_BookTitleGreaterThan", .find, [.custom "Fuzzy" 1]) := by
    decide +kernel
  obtain ⟨query, after, hParse, hQuery⟩ := exists_of_toOption_map hSeen
  simp only [Prod.mk.injEq] at hQuery
  obtain ⟨hText, hIntent, hKeywords⟩ := hQuery
  refine ⟨parser, query, after, ofConvention_renamings, hParse, hText, ?_, ?_⟩
  · rintro ⟨introducer, rest, hFound, _⟩
    rw [hText] at hFound
    have hNone : findIntroducer? parser.introducers "findByAddress_BookTitleGreaterThan".toList =
        none := by
      decide
    rw [hNone] at hFound
    simp at hFound
  · have hMem : Keyword.custom "Fuzzy" 1 ∈ query.parts.map (·.keyword) := by
      rw [hKeywords]
      exact List.mem_singleton.mpr rfl
    obtain ⟨part, hPart, hKeyword⟩ := List.mem_map.mp hMem
    refine ⟨part, hPart, ?_⟩
    have hWritten : parser.vocabulary.tokenFor? (.custom "Fuzzy" 1) = some "GreaterThan" := by
      decide +kernel
    rw [hKeyword, Vocabulary.keeps_of_tokenFor? hWritten]
    decide +kernel

end DerivedQuery
