import DerivedQuery.Proofs.Query.Denotation
import DerivedQuery.Proofs.Query.Pointer
import Mathlib.Algebra.Order.BigOperators.Group.List
import Mathlib.Data.List.MinMax

/-!
# How many arguments a method binds

The arguments of a method are those of its parts. They are counted in a 64-bit word, part by part,
and the count overflows if a sum on the way does not fit. The sums only grow, so this happens
exactly if all parts together bind more arguments than a word can count; otherwise the count is the
number of arguments.

Two things bound the sum. A part takes at least one character and is joined to the next one by at
least two, so a name of `n` characters has at most `(n + 2) / 3` parts. And no part binds more
arguments than the greediest keyword of the naming convention. The built-in keywords bind two
arguments at most, so with them the arguments of every name that fits in memory can be counted. A
valid convention however may give any number of arguments to a keyword of the host, and then the
count of a short name can overflow.

## Main definitions

* `Query.arguments`: the number of arguments, however large it is
* `Convention.greatestArity`: the most arguments that one part can bind

## Main results

* `Query.argumentCount?_eq_ite`: the count is the number of arguments, unless it overflows
* `returns_parseCriteria`: how many parts there are, and their keywords
* `argumentCount_of_parse`: when the arguments of a method name can be counted
-/

namespace DerivedQuery

open Text

variable {σ : Type}

/-! ## The sum and its word -/

namespace Query

/-- The number of arguments that all parts bind together. -/
def arguments (query : Query) : Nat :=
  (query.parts.map (·.keyword.arity)).sum

/-- A count that overflows stays below the bound up to the part at which it does. -/
private theorem foldlM_checkedAdd? (parts : List Part) {start : Nat}
    (hStart : start < UInt64.size) :
    parts.foldlM (fun count part => argumentCount?.checkedAdd? count part.keyword.arity) start =
      if start + (parts.map (·.keyword.arity)).sum < UInt64.size then
        some (start + (parts.map (·.keyword.arity)).sum)
      else none := by
  induction parts generalizing start with
  | nil => simp [hStart]
  | cons part rest ih =>
      rw [List.foldlM_cons, List.map_cons, List.sum_cons, ← Nat.add_assoc]
      unfold argumentCount?.checkedAdd?
      by_cases hNext : start + part.keyword.arity < UInt64.size
      · rw [if_pos hNext]
        exact ih hNext
      · rw [if_neg hNext, if_neg (by omega)]
        rfl

/-- The count is the number of arguments, unless it overflows. -/
theorem argumentCount?_eq_ite (query : Query) :
    query.argumentCount? =
      if query.arguments < UInt64.size then some query.arguments else none := by
  have hSum := foldlM_checkedAdd? query.parts (by decide : 0 < UInt64.size)
  simp only [Nat.zero_add] at hSum
  rw [argumentCount?, hSum, arguments]

/-- The arguments can be counted as long as their number is a 64-bit number. -/
theorem argumentCount?_eq_arguments_iff (query : Query) :
    query.argumentCount? = some query.arguments ↔ query.arguments < UInt64.size := by
  rw [argumentCount?_eq_ite]
  split <;> simp [*]

theorem argumentCount?_eq_none_iff (query : Query) :
    query.argumentCount? = none ↔ UInt64.size ≤ query.arguments := by
  rw [argumentCount?_eq_ite]
  split <;> simp <;> omega

end Query

/-! ## The greediest keyword -/

namespace Convention

/-- The most arguments that a keyword binds: a built-in one binds two at most. -/
def greatestArity (convention : Convention) : Nat :=
  (2 :: convention.customKeywords.map (·.arity)).foldr max 0

private theorem two_le_greatestArity (convention : Convention) : 2 ≤ convention.greatestArity :=
  List.le_max_of_le' 0 List.mem_cons_self (Nat.le_refl 2)

private theorem arity_le_greatestArity {convention : Convention} {keyword : CustomKeyword}
    (hKeyword : keyword ∈ convention.customKeywords) :
    keyword.arity ≤ convention.greatestArity :=
  List.le_max_of_le' 0 (List.mem_cons_of_mem 2 (List.mem_map_of_mem hKeyword)) (Nat.le_refl _)

private theorem builtin_arity_le_two (operator : Operator) :
    (Keyword.builtin operator).arity ≤ 2 := by
  cases operator <;> decide

/-- Every keyword of the vocabulary is a built-in one or one of the host. -/
theorem arity_of_denotes {convention : Convention} {keyword : Keyword}
    (hKeyword : convention.extendedVocabulary.Denotes keyword) :
    keyword.arity ≤ convention.greatestArity := by
  cases keyword with
  | builtin operator =>
      exact Nat.le_trans (builtin_arity_le_two operator) convention.two_le_greatestArity
  | custom name arity =>
      obtain ⟨entry, hEntry, hSame⟩ := hKeyword.resolve_left (by simp [Keyword.default])
      rw [entries_extendedVocabulary, Vocabulary.mem_insertAll] at hEntry
      replace hEntry := hEntry.resolve_right List.not_mem_nil
      simp only [registered, List.mem_append] at hEntry
      -- only the keywords of the host are not built-in ones
      rcases hEntry with hBuiltin | hAlias | hHost
      · obtain ⟨builtin, hBuiltins, hToken⟩ := List.mem_flatMap.mp hBuiltin
        obtain ⟨operator, _, rfl⟩ := List.mem_map.mp hBuiltins
        obtain ⟨token, _, rfl⟩ := List.mem_map.mp hToken
        simp at hSame
      · obtain ⟨named, _, hFound⟩ := List.mem_filterMap.mp hAlias
        obtain ⟨found, hName, rfl⟩ := Option.map_eq_some_iff.mp hFound
        obtain ⟨operator, _, hOperator⟩ :=
          List.mem_map.mp (List.mem_of_find?_eq_some hName)
        simp [← hOperator] at hSame
      · obtain ⟨host, hHostMem, hToken⟩ := List.mem_flatMap.mp hHost
        obtain ⟨token, _, rfl⟩ := List.mem_map.mp hToken
        simp only [Keyword.custom.injEq] at hSame
        exact hSame.2 ▸ arity_le_greatestArity hHostMem

end Convention

/-! ## The parts of criteria -/

section Parts

variable (scope : Scope σ)

/-- A part is compared by a keyword of the vocabulary. -/
theorem returns_parsePartAs (fragment : Fragment) (caseMode : CaseMode) (path : List Char)
    {keyword : Keyword} (hKeyword : scope.vocabulary.Denotes keyword) :
    Returns (fun part => scope.vocabulary.Denotes part.keyword)
      (parsePartAs scope fragment caseMode path keyword) := by
  intro state part after hRead
  unfold parsePartAs at hRead
  split at hRead
  · simp only [Prod.mk.injEq, Except.ok.injEq] at hRead
    rw [← hRead.1]
    exact hKeyword
  · simp at hRead

private theorem returns_parseComparison (fragment : Fragment) (caseMode : CaseMode) :
    Returns (fun part => scope.vocabulary.Denotes part.keyword)
      (parseComparison scope fragment caseMode) := by
  apply returns_firstSuccess
  · exact returns_parsePartAs scope fragment caseMode fragment.text (Or.inl rfl)
  · intro candidate hCandidate
    exact returns_parsePartAs scope fragment caseMode candidate.1
      (denotes_of_mem_candidates hCandidate)

private theorem returns_parsePart (fragment : Fragment) :
    Returns (fun part => scope.vocabulary.Denotes part.keyword) (parsePart scope fragment) := by
  unfold parsePart
  split
  · exact returns_parseComparison scope _ .ignored
  · split
    · exact returns_error
    · exact returns_parseComparison scope fragment scope.defaultCaseMode

/-- The entries have a property, and with connectors of two characters and more between them there
is room for all of them in the text. -/
structure FitInto {β : Type} (P : β → Prop) (size : β → Nat) (fragment : Fragment)
    (entries : List β) : Prop where
  each : ∀ entry ∈ entries, P entry
  room : 3 * (entries.map size).sum ≤ fragment.text.length + 2

/-- If every entry fits into its text, so does the whole list. -/
theorem returns_parseJoined_fitInto {β : Type} {P : β → Prop} {size : β → Nat}
    {entry : Fragment → σ → Except SyntaxError β × σ} {connector : List Char}
    (hConnector : 2 ≤ connector.length)
    (hEntry : ∀ fragment : Fragment, fragment.text ≠ [] →
      Returns (fun value => P value ∧ 3 * size value ≤ fragment.text.length + 2) (entry fragment))
    {fragment : Fragment} (hText : fragment.text ≠ []) :
    Returns (FitInto P size fragment)
      (parseJoined entry (connectorGaps connector) connector fragment) := by
  refine returns_parseJoined hEntry ?_ ?_ connector hText
  · intro fragment value hValue
    exact ⟨by simpa using hValue.1, by simpa using hValue.2⟩
  · intro fragment cut hGap value values hValue hValues
    have hLength := congrArg List.length cut.joined
    have hLeft := hValue.2
    have hRight := hValues.room
    simp only [List.length_append, List.mem_singleton.mp hGap] at hLength
    simp only [Fragment.left, Fragment.right] at hLeft hRight
    refine ⟨List.forall_mem_cons.mpr ⟨hValue.1, hValues.each⟩, ?_⟩
    rw [List.map_cons, List.sum_cons]
    omega

/-- The keywords of criteria are those of the vocabulary, and the parts fit into the text. -/
theorem returns_parseCriteria {fragment : Fragment} (hText : fragment.text ≠ []) :
    Returns (FitInto (fun group : List Part => ∀ part ∈ group, scope.vocabulary.Denotes part.keyword)
      List.length fragment) (parseCriteria scope fragment) := by
  refine returns_parseJoined_fitInto (by decide) ?_ hText
  intro fragment hGroup
  have hParts : Returns
      (FitInto (fun part : Part => scope.vocabulary.Denotes part.keyword) (fun _ => 1) fragment)
      (parseGroup scope fragment) := by
    refine returns_parseJoined_fitInto (by decide) ?_ hGroup
    intro fragment hPart
    have hLength := List.length_pos_iff.mpr hPart
    exact (returns_parsePart scope fragment).mono fun part hDenotes => ⟨hDenotes, by omega⟩
  exact hParts.mono fun group hFits => ⟨hFits.each, by simpa using hFits.room⟩

end Parts

/-! ## Method names -/

section Methods

variable {parser : MethodParser} {metadata : Metadata σ} {method root : String} {state after : σ}
  {query : Query}

theorem Fragment.Piece.length_le {whole piece : Fragment} (hPiece : whole.Piece piece) :
    piece.text.length ≤ whole.text.length := by
  obtain ⟨before, rest, hText, _⟩ := hPiece
  rw [hText, List.length_append, List.length_append]
  omega

/-- The keywords of a query are those of its parser's vocabulary, and its parts fit into the method
name. -/
theorem parts_of_parse (hParse : parser.parse metadata method root state = (.ok query, after)) :
    (∀ part ∈ query.parts, parser.vocabulary.Denotes part.keyword) ∧
      3 * query.parts.length ≤ method.length + 2 := by
  obtain ⟨outline, between, hOutline, hGroups⟩ := exists_readCriteria_of_parse hParse
  have hPiece := (piece_of_ofMethod hOutline).1.length_le
  rw [String.length_toList] at hPiece
  unfold MethodParser.readCriteria at hGroups
  split at hGroups
  · rw [Prod.mk.injEq, Except.ok.injEq] at hGroups
    rw [Query.parts, ← hGroups.1]
    simp
  · rename_i hText
    have hFits := returns_parseCriteria _ (by simpa using hText) _ _ _ hGroups
    refine ⟨fun part hPart => ?_, ?_⟩
    · obtain ⟨group, hGroup, hMem⟩ := List.mem_flatten.mp hPart
      exact hFits.each group hGroup part hMem
    · have hRoom := hFits.room
      rw [Query.parts, List.length_flatten]
      omega

/-- **When the arguments of a method name can be counted.** If their number is a 64-bit number, the
count is this number, and otherwise it overflows. The number is bounded by that of the parts, which
the length of the name bounds, and by the keyword of the convention that binds the most arguments;
so whether the count can overflow shows in the convention and the length of the name alone. -/
theorem argumentCount_of_parse {convention : Convention}
    (hParser : MethodParser.ofConvention convention = .ok parser)
    (hParse : parser.parse metadata method root state = (.ok query, after)) :
    (query.argumentCount? = some query.arguments ↔ query.arguments < UInt64.size) ∧
      (query.argumentCount? = none ↔ UInt64.size ≤ query.arguments) ∧
      query.arguments ≤ convention.greatestArity * query.parts.length ∧
      3 * query.parts.length ≤ method.length + 2 ∧
      (convention.greatestArity * (method.length + 2) < 3 * UInt64.size →
        query.argumentCount? = some query.arguments) := by
  obtain ⟨_, rfl⟩ := ofConvention_eq_ok_iff.mp hParser
  obtain ⟨hKeywords, hParts⟩ := parts_of_parse hParse
  have hArguments : query.arguments ≤ convention.greatestArity * query.parts.length := by
    rw [Query.arguments, Nat.mul_comm]
    have hSum := List.sum_le_card_nsmul (query.parts.map (·.keyword.arity)) convention.greatestArity
      (List.forall_mem_map.mpr fun part hPart => Convention.arity_of_denotes (hKeywords part hPart))
    simpa using hSum
  refine ⟨query.argumentCount?_eq_arguments_iff, query.argumentCount?_eq_none_iff, hArguments,
    hParts, ?_⟩
  intro hSmall
  apply query.argumentCount?_eq_arguments_iff.mpr
  have hMost : convention.greatestArity * (3 * query.parts.length) ≤
      convention.greatestArity * (method.length + 2) := Nat.mul_le_mul_left _ hParts
  rw [Nat.mul_left_comm] at hMost
  omega

/-- A part compared by a keyword of the host and one without a token. -/
theorem argumentCount_synonyms : ∃ parser query after,
    MethodParser.ofConvention synonyms = .ok parser ∧
    parser.parse contacts.metadata "fetchByAddressBookTitleFuzzyOrAddress" "Person" {} =
      (.ok query, after) ∧
    query.arguments = 2 ∧ query.argumentCount? = some query.arguments := by
  let parser : MethodParser := ⟨synonyms.introducers, synonyms.extendedVocabulary, '_'⟩
  have hSeen : (parser.parse contacts.metadata "fetchByAddressBookTitleFuzzyOrAddress" "Person"
      {}).1.toOption.map (·.arguments) = some 2 := by
    decide +kernel
  obtain ⟨query, after, hParse, hArguments⟩ := exists_of_toOption_map hSeen
  obtain ⟨_, _, _, _, hExact⟩ := argumentCount_of_parse ofConvention_synonyms hParse
  exact ⟨parser, query, after, ofConvention_synonyms, hParse, hArguments, hExact (by decide +kernel)⟩

/-- A valid convention with a keyword that binds as many arguments as a 64-bit word can count. -/
def insatiable : Convention :=
  { introducers := [⟨"find", .find⟩]
    customKeywords := [{ name := "Bulk", tokens := ["Bulk"], arity := UInt64.size - 1 }] }

/-- One more argument than a word can count, and the count overflows. -/
theorem argumentCount_insatiable : ∃ parser query after,
    MethodParser.ofConvention insatiable = .ok parser ∧
    parser.parse contacts.metadata "findByAddressBulkAndAddressBook" "Person" {} =
      (.ok query, after) ∧
    (∀ keyword ∈ insatiable.customKeywords, keyword.arity < UInt64.size) ∧
    query.arguments = UInt64.size ∧ query.argumentCount? = none := by
  let parser : MethodParser := ⟨insatiable.introducers, insatiable.extendedVocabulary, '_'⟩
  have hParser : MethodParser.ofConvention insatiable = .ok parser := by
    have hSorted : insatiable.sortedIntroducers = insatiable.introducers := by
      simp [Convention.sortedIntroducers, insatiable]
    rw [ofConvention_eq_ok_iff, hSorted]
    exact ⟨by decide +kernel, rfl⟩
  have hSeen : (parser.parse contacts.metadata "findByAddressBulkAndAddressBook" "Person"
      {}).1.toOption.map (fun query => (query.arguments, query.argumentCount?)) =
      some (UInt64.size, none) := by
    decide +kernel
  obtain ⟨query, after, hParse, hCounts⟩ := exists_of_toOption_map hSeen
  simp only [Prod.mk.injEq] at hCounts
  exact ⟨parser, query, after, hParser, hParse, by decide, hCounts.1, hCounts.2⟩

end Methods

end DerivedQuery
