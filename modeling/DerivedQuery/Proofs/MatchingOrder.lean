import DerivedQuery.Proofs.Convention
import Mathlib.Data.List.Forall2

/-!
# The matching order of a vocabulary

Which keyword a criterion gets is decided by the order of the table: its entries are tried from the
first one to the last. This order depends on the registered tokens alone, in the order in which they
were registered. It is the stable sort of all of them by decreasing length, the tokens of the
built-in keywords in front.

The table reaches it without ever being sorted as a whole. Each entry is put in its place when it is
registered, and this is what sorting the extended table again would do with it.

What a segment may end with is tried in the same order. So the text that is left in front of a token
grows from candidate to candidate, and of several tokens of one length the one that was registered
first is tried first.

## Main definitions

* `Vocabulary.longerFirst`: the order of the entries
* `Vocabulary.sortedStepwise`: the table that is sorted again after every registration
* `Vocabulary.MatchingOrder`, `Vocabulary.CandidateOrder`: what the order of a table and of its
  candidates is

## Main results

* `Vocabulary.insertAll_eq_mergeSort`: putting entries in their places is sorting
* `Vocabulary.entries_eq_mergeSort_registered`: the order of a vocabulary, of its candidates, and of
  the vocabulary of a convention
-/

namespace DerivedQuery.Vocabulary

open Text

/-! ## Longer tokens first -/

/-- The first entry has a token at least as long as that of the second one. -/
def longerFirst (first second : KeywordToken) : Bool :=
  decide (second.size ≤ first.size)

private theorem longerFirst_trans (first second third : KeywordToken)
    (hFirst : longerFirst first second = true) (hSecond : longerFirst second third = true) :
    longerFirst first third = true := by
  simp only [longerFirst, decide_eq_true_eq] at *
  omega

private theorem longerFirst_total (first second : KeywordToken) :
    (longerFirst first second || longerFirst second first) = true := by
  simp only [longerFirst, Bool.or_eq_true, decide_eq_true_eq]
  omega

/-- Entries of one size are not told apart. -/
theorem tied_longerFirst (first second : KeywordToken) :
    tied longerFirst first second = (second.size == first.size) := by
  rw [Bool.eq_iff_iff]
  simp only [tied, longerFirst, Bool.and_eq_true, decide_eq_true_eq, beq_iff_eq]
  omega

/-- A table in order is a sort of all tables with the same entries of each size. -/
theorem eq_mergeSort_of_filter_size {table history : List KeywordToken} (hTable : Ordered table)
    (hSizes : ∀ size, table.filter (·.size == size) = history.filter (·.size == size)) :
    table = history.mergeSort longerFirst := by
  apply (eq_mergeSort_iff longerFirst_trans longerFirst_total).mpr
  constructor
  · apply hTable.imp
    intro first second hShorter
    exact decide_eq_true hShorter
  · intro entry
    have hClass : tied longerFirst entry = (·.size == entry.size) :=
      funext (tied_longerFirst entry)
    rw [hClass]
    exact hSizes entry.size

/-- **Putting entries in their places is sorting the extended table.** -/
theorem insertAll_eq_mergeSort (entries : List KeywordToken) {table : List KeywordToken}
    (hTable : Ordered table) :
    insertAll entries table = (table ++ entries).mergeSort longerFirst := by
  apply eq_mergeSort_of_filter_size (ordered_insertAll entries hTable)
  intro size
  have hSize : ∀ entry : KeywordToken, (entry.size == size) = true → entry.size = size :=
    fun _ hEntry => beq_iff_eq.mp hEntry
  rw [filter_insertAll hSize entries hTable, List.filter_append]

/-! ## The table of a vocabulary -/

/-- The table that is sorted after each registration anew, with the new entries at its end. -/
def sortedStepwise (registrations : List Registration) : List KeywordToken :=
  registrations.foldl (fun table registration => (table ++ registration.entries).mergeSort longerFirst)
    (builtinEntries.mergeSort longerFirst)

/-- A registration sorts the table with the new entries at its end. -/
theorem entries_register_eq_mergeSort {vocabulary : Vocabulary} (hOrdered : Ordered vocabulary.entries)
    (registration : Registration) :
    (vocabulary.register registration).entries =
      (vocabulary.entries ++ registration.entries).mergeSort longerFirst := by
  rw [entries_register, insertAll_eq_mergeSort _ hOrdered]

private theorem entries_foldl_register_eq_mergeSort {vocabulary : Vocabulary}
    (hOrdered : Ordered vocabulary.entries) (registrations : List Registration) :
    (registrations.foldl register vocabulary).entries =
      registrations.foldl
        (fun table registration => (table ++ registration.entries).mergeSort longerFirst)
        vocabulary.entries := by
  induction registrations generalizing vocabulary with
  | nil => rfl
  | cons registration rest ih =>
      have hNext : Ordered (vocabulary.register registration).entries := by
        rw [entries_register]
        exact ordered_insertAll _ hOrdered
      rw [List.foldl_cons, List.foldl_cons, ih hNext, entries_register_eq_mergeSort hOrdered]

/-- Sorting again after every registration leads to the same table. -/
theorem entries_ofRegistrations_eq_sortedStepwise (registrations : List Registration) :
    (ofRegistrations registrations).entries = sortedStepwise registrations := by
  have hBuiltin : builtin.entries = builtinEntries.mergeSort longerFirst := by
    rw [entries_builtin, insertAll_eq_mergeSort _ List.Pairwise.nil, List.nil_append]
  rw [ofRegistrations, entries_foldl_register_eq_mergeSort ordered_builtin, sortedStepwise, hBuiltin]

/-- The table holds the entries of a history and no others, longer tokens first, and those of one
size in the order of the history. -/
structure MatchingOrder (history table : List KeywordToken) : Prop where
  perm : table.Perm history
  ordered : Ordered table
  stable : ∀ size, table.filter (·.size == size) = history.filter (·.size == size)

/-- The table of a vocabulary has the matching order of what was registered. -/
theorem matchingOrder_ofRegistrations (registrations : List Registration) :
    MatchingOrder (registered registrations) (ofRegistrations registrations).entries := by
  have hSorted : (ofRegistrations registrations).entries =
      (registered registrations).mergeSort longerFirst := by
    rw [entries_ofRegistrations, insertAll_eq_mergeSort _ List.Pairwise.nil, List.nil_append]
  refine ⟨?_, ordered_ofRegistrations registrations, fun size => ?_⟩
  · rw [hSorted]
    exact List.mergeSort_perm _ _
  · rw [hSorted]
    apply filter_mergeSort longerFirst_trans longerFirst_total
    intro first second hFirst hSecond
    rw [longerFirst, beq_iff_eq.mp hFirst, beq_iff_eq.mp hSecond]
    simp

/-! ## The candidates of a segment -/

/-- The token of the entry is a proper suffix of the segment. -/
def EndsProperly (segment : List Char) (entry : KeywordToken) : Prop :=
  entry.token.toList <:+ segment ∧ entry.token.toList ≠ segment

instance (segment : List Char) : DecidablePred (EndsProperly segment) :=
  fun _ => inferInstanceAs (Decidable (_ ∧ _))

/-- The candidates of a segment, shorter texts in front of the token first. For each length of this
text they are the entries of the history whose token is a proper suffix that leaves this length, in
the order of the history. -/
structure CandidateOrder (history : List KeywordToken) (segment : List Char)
    (found : List (List Char × Keyword)) : Prop where
  ordered : found.Pairwise fun first second => byteLength first.1 ≤ byteLength second.1
  exact : ∀ length, List.Forall₂
    (fun (entry : KeywordToken) candidate =>
      segment = candidate.1 ++ entry.token.toList ∧ candidate.2 = entry.keyword)
    (history.filter fun entry =>
      decide (EndsProperly segment entry ∧ byteLength segment = length + entry.size))
    (found.filter (byteLength ·.1 == length))

/-- The candidate of an entry, if the text in front of its token has a given length. -/
def candidateOfLength? (segment : List Char) (length : Nat) (entry : KeywordToken) :
    Option (List Char × Keyword) :=
  ((stem? segment entry).map fun stem => (stem, entry.keyword)).filter (byteLength ·.1 == length)

private theorem candidateOfLength?_eq_some_iff {segment : List Char} {length : Nat}
    {entry : KeywordToken} {candidate : List Char × Keyword} :
    candidateOfLength? segment length entry = some candidate ↔
      (segment = candidate.1 ++ entry.token.toList ∧ candidate.2 = entry.keyword) ∧
        candidate.1 ≠ [] ∧ byteLength candidate.1 = length := by
  obtain ⟨stem, keyword⟩ := candidate
  simp only [candidateOfLength?, Option.filter_eq_some_iff, Option.map_eq_some_iff,
    stem?_eq_some_iff, Prod.mk.injEq, beq_iff_eq]
  constructor
  · rintro ⟨⟨_, ⟨hSegment, hStem⟩, rfl, rfl⟩, hLength⟩
    exact ⟨⟨hSegment, rfl⟩, hStem, hLength⟩
  · rintro ⟨⟨hSegment, rfl⟩, hStem, hLength⟩
    exact ⟨⟨stem, ⟨hSegment, hStem⟩, rfl, rfl⟩, hLength⟩

/-- An entry has a candidate if its token is a proper suffix that leaves the length. -/
theorem isSome_candidateOfLength? (segment : List Char) (length : Nat) (entry : KeywordToken) :
    (candidateOfLength? segment length entry).isSome =
      decide (EndsProperly segment entry ∧ byteLength segment = length + entry.size) := by
  rw [Bool.eq_iff_iff, decide_eq_true_eq, Option.isSome_iff_exists]
  simp only [candidateOfLength?_eq_some_iff]
  constructor
  · rintro ⟨⟨stem, keyword⟩, ⟨hSegment, _⟩, hStem, hLength⟩
    dsimp only at hSegment hStem hLength
    refine ⟨⟨⟨stem, hSegment.symm⟩, fun hWhole => hStem ?_⟩, ?_⟩
    · rw [hSegment] at hWhole
      exact List.append_left_eq_self.mp hWhole.symm
    · rw [hSegment, byteLength_append, hLength]
      rfl
  · rintro ⟨⟨⟨stem, hSegment⟩, hProper⟩, hLength⟩
    refine ⟨(stem, entry.keyword), ⟨hSegment.symm, rfl⟩, ?_, ?_⟩
    · rintro rfl
      exact hProper hSegment
    · rw [← hSegment, byteLength_append, KeywordToken.size] at hLength
      exact Nat.add_right_cancel hLength

/-- A search gives one value for each element that has one, in the order of the elements. -/
theorem forall₂_filterMap {α β : Type} {R : α → β → Prop} {f : α → Option β} {test : α → Bool}
    (hTest : ∀ a, (f a).isSome = test a) (hRel : ∀ a b, f a = some b → R a b) (list : List α) :
    List.Forall₂ R (list.filter test) (list.filterMap f) := by
  induction list with
  | nil => exact .nil
  | cons a rest ih =>
      rw [List.filter_cons, List.filterMap_cons, ← hTest a]
      cases hValue : f a with
      | none => simpa using ih
      | some b => simpa using List.Forall₂.cons (hRel a b hValue) ih

/-- Candidates that leave one length come from tokens of one size. -/
theorem filterMap_candidateOfLength? (segment : List Char) (length : Nat)
    {table history : List KeywordToken} (hOrder : MatchingOrder history table) :
    table.filterMap (candidateOfLength? segment length) =
      history.filterMap (candidateOfLength? segment length) := by
  have hSize : ∀ list : List KeywordToken, list.filterMap (candidateOfLength? segment length) =
      (list.filter (·.size == byteLength segment - length)).filterMap
        (candidateOfLength? segment length) := by
    intro list
    rw [List.filterMap_filter]
    apply List.filterMap_congr
    intro entry _
    split
    · rfl
    · rename_i hOther
      rw [← Option.not_isSome_iff_eq_none, isSome_candidateOfLength?, decide_eq_true_eq]
      rintro ⟨_, hLength⟩
      rw [beq_iff_eq] at hOther
      omega
  rw [hSize table, hOrder.stable, ← hSize history]

/-- The candidates of a table in matching order. -/
theorem candidateOrder_of_matchingOrder {vocabulary : Vocabulary} {history : List KeywordToken}
    (hOrder : MatchingOrder history vocabulary.entries) (segment : List Char) :
    CandidateOrder history segment (vocabulary.candidates segment) where
  ordered := by
    rw [candidates, List.pairwise_filterMap]
    apply hOrder.ordered.imp
    intro first second hShorter candidate hCandidate other hOther
    obtain ⟨stem, hStem, rfl⟩ := Option.map_eq_some_iff.mp hCandidate
    obtain ⟨longer, hLonger, rfl⟩ := Option.map_eq_some_iff.mp hOther
    -- both texts are completed to the segment by their tokens
    have hFirst := congrArg byteLength (stem?_eq_some_iff.mp hStem).1
    have hSecond := congrArg byteLength (stem?_eq_some_iff.mp hLonger).1
    rw [byteLength_append] at hFirst hSecond
    simp only [KeywordToken.size] at hShorter
    dsimp only
    omega
  exact length := by
    have hFound : (vocabulary.candidates segment).filter (byteLength ·.1 == length) =
        history.filterMap (candidateOfLength? segment length) := by
      rw [candidates, List.filter_filterMap]
      exact filterMap_candidateOfLength? segment length hOrder
    rw [hFound]
    exact forall₂_filterMap (isSome_candidateOfLength? segment length)
      (fun _ _ hValue => (candidateOfLength?_eq_some_iff.mp hValue).1) history

/-! ## The vocabulary of a convention -/

/-- What a convention registers: its aliases in order, of these keywords, and then the keywords of
the host in order. -/
def registrationsOf (convention : Convention) (keywords : List Keyword) : List Registration :=
  List.zipWith (fun keyword entry => .alias keyword entry.token) keywords convention.aliases ++
    convention.customKeywords.map fun keyword =>
      .custom keyword.name keyword.arity keyword.tokens

/-- Each alias of a valid convention is one of a known keyword. -/
theorem exists_keywords_of_validate {convention : Convention} (hValid : convention.validate = .ok ()) :
    ∃ keywords : List Keyword,
      convention.aliases.map (Keyword.ofName? ·.keyword) = keywords.map some := by
  obtain ⟨_, _, hAliases, _⟩ := Convention.validate_eq_ok_iff.mp hValid
  generalize convention.aliases = aliases at hAliases
  induction aliases with
  | nil => exact ⟨[], rfl⟩
  | cons entry rest ih =>
      obtain ⟨keyword, hKeyword⟩ :=
        Option.isSome_iff_exists.mp (hAliases entry List.mem_cons_self).1
      obtain ⟨keywords, hRest⟩ :=
        ih fun other hOther => hAliases other (List.mem_cons_of_mem entry hOther)
      exact ⟨keyword :: keywords, by rw [List.map_cons, hKeyword, hRest, List.map_cons]⟩

private theorem registrations_eq {convention : Convention} {keywords : List Keyword}
    (hKeywords : convention.aliases.map (Keyword.ofName? ·.keyword) = keywords.map some) :
    convention.registrations = registrationsOf convention keywords := by
  rw [Convention.registrations, registrationsOf]
  congr 1
  generalize convention.aliases = aliases at hKeywords
  induction aliases generalizing keywords with
  | nil => simp
  | cons entry rest ih =>
      cases keywords with
      | nil => simp at hKeywords
      | cons keyword others =>
          rw [List.map_cons, List.map_cons, List.cons.injEq] at hKeywords
          rw [List.filterMap_cons, hKeywords.1, List.zipWith_cons_cons, ← ih hKeywords.2]
          rfl

/-- A valid convention has the vocabulary of its registrations. -/
theorem vocabulary_of_validate {convention : Convention} (hValid : convention.validate = .ok ())
    {keywords : List Keyword}
    (hKeywords : convention.aliases.map (Keyword.ofName? ·.keyword) = keywords.map some) :
    convention.vocabulary = .ok (ofRegistrations (registrationsOf convention keywords)) := by
  rw [Convention.vocabulary, hValid, ← registrations_eq hKeywords, ← Convention.extendedVocabulary_eq]
  rfl

/-- **The order of a vocabulary depends on the registered tokens alone.** Whatever is registered, the
table is the stable sort of the built-in tokens and then the registered ones, longer tokens first,
and so it is if the table is sorted again after every registration. The candidates of a segment are
the registered tokens that are proper suffixes of it, in this order. A valid convention has the
vocabulary of its aliases and then its keywords. -/
theorem entries_eq_mergeSort_registered (registrations : List Registration)
    (convention : Convention) :
    (ofRegistrations registrations).entries =
        (registered registrations).mergeSort longerFirst ∧
      (ofRegistrations registrations).entries = sortedStepwise registrations ∧
      MatchingOrder (registered registrations) (ofRegistrations registrations).entries ∧
      (∀ segment, CandidateOrder (registered registrations) segment
        ((ofRegistrations registrations).candidates segment)) ∧
      (convention.validate = .ok () → ∃ keywords : List Keyword,
        convention.aliases.map (Keyword.ofName? ·.keyword) = keywords.map some ∧
          convention.vocabulary = .ok (ofRegistrations (registrationsOf convention keywords))) := by
  have hOrder := matchingOrder_ofRegistrations registrations
  refine ⟨eq_mergeSort_of_filter_size hOrder.ordered hOrder.stable,
    entries_ofRegistrations_eq_sortedStepwise registrations, hOrder,
    candidateOrder_of_matchingOrder hOrder, fun hValid => ?_⟩
  obtain ⟨keywords, hKeywords⟩ := exists_keywords_of_validate hValid
  exact ⟨keywords, hKeywords, vocabulary_of_validate hValid hKeywords⟩

/-- A token that is registered twice, one beyond ASCII, and the empty one. -/
def thresholdRegistrations : List Registration :=
  [.alias (.builtin .greaterThan) "Über", .custom "Limit" 1 ["Above", ""],
    .alias (.builtin .after) "Above"]

/-- A convention with an alias and a keyword of the host. -/
def thresholdConvention : Convention :=
  { aliases := [⟨"GreaterThan", "Above"⟩], customKeywords := [{ name := "Limit", tokens := ["Limit"] }] }

/-- Of two keywords with the token `Above`, the one that was registered first is tried first, and the
empty token last. -/
theorem entries_eq_mergeSort_registered_thresholds :
    (ofRegistrations thresholdRegistrations).candidates "AgeAbove".toList =
        [("Age".toList, .custom "Limit" 1), ("Age".toList, .builtin .after),
          ("AgeAbove".toList, .custom "Limit" 1)] ∧
      CandidateOrder (registered thresholdRegistrations) "AgeAbove".toList
        ((ofRegistrations thresholdRegistrations).candidates "AgeAbove".toList) ∧
      thresholdConvention.validate = .ok () ∧
      ∃ keywords, keywords = [.builtin .greaterThan] ∧ thresholdConvention.vocabulary =
        .ok (ofRegistrations (registrationsOf thresholdConvention keywords)) := by
  have hValid : thresholdConvention.validate = .ok () := by decide +kernel
  obtain ⟨_, _, _, hCandidates, hVocabulary⟩ :=
    entries_eq_mergeSort_registered thresholdRegistrations thresholdConvention
  obtain ⟨keywords, hKeywords, hEqual⟩ := hVocabulary hValid
  refine ⟨by decide +kernel, hCandidates _, hValid, keywords, ?_, hEqual⟩
  have hKnown : thresholdConvention.aliases.map (Keyword.ofName? ·.keyword) =
      [.builtin .greaterThan].map some := by
    decide +kernel
  rw [hKnown] at hKeywords
  exact (List.map_injective_iff.mpr (fun _ _ => Option.some.inj) hKeywords).symm

end DerivedQuery.Vocabulary
