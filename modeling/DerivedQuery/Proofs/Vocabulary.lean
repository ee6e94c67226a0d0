import DerivedQuery.Proofs.Path.Resolution
import DerivedQuery.Proofs.Tables
import DerivedQuery.Vocabulary
import Mathlib.Data.List.Nodup

/-!
# Reading the token of a keyword

A vocabulary keeps its tokens in the order of their lengths, longest first, so of all the tokens
that a text ends with the longest is tried first. Tokens of one length stay in the order of their
registration.

The tokens of the built-in keywords are made of a few words (`Is`, `Not`, `Less`, `Than`, …), and
five more words join criteria and orders or stand at their ends. A property name is *plain* if it
is a snake case name and none of its capitalized pieces is one of these words. The spelling of a
path through plain names then has no reserved word among its runs, so a keyword token behind it can
be read in one way only: every other token that the text ends with is an ending of this token.

## Main results

* `Vocabulary.ordered_builtin`, `Vocabulary.find?_of_ordered`: the longest token comes first
* `Vocabulary.find?_insertAll`: of all entries with a token the first registered one comes first
* `freeText_canonicalText`: the spelling of a path through plain names is free of reserved words
* `candidates_canonicalToken`: behind such a text the canonical token of a keyword is read first
-/

namespace DerivedQuery

open Text Spelling

/-! ## The order of the tokens -/

namespace Vocabulary

/-- No token is longer than one in front of it. -/
def Ordered (table : List KeywordToken) : Prop :=
  table.Pairwise fun first second => second.size ≤ first.size

theorem mem_insert {entry other : KeywordToken} {table : List KeywordToken} :
    other ∈ insert entry table ↔ other = entry ∨ other ∈ table := by
  induction table with
  | nil => simp [insert]
  | cons first rest ih =>
      rw [insert]
      split
      · rw [List.mem_cons, ih, List.mem_cons, or_left_comm]
      · rw [List.mem_cons]

theorem insertAll_append (first second table : List KeywordToken) :
    insertAll (first ++ second) table = insertAll second (insertAll first table) :=
  List.foldl_append

theorem mem_insertAll {entries table : List KeywordToken} {other : KeywordToken} :
    other ∈ insertAll entries table ↔ other ∈ entries ∨ other ∈ table := by
  induction entries generalizing table with
  | nil => simp [insertAll]
  | cons entry rest ih =>
      have hRest := @ih (insert entry table)
      rw [mem_insert] at hRest
      rw [List.mem_cons, or_assoc, or_left_comm]
      exact hRest

/-- Registering a token keeps the order. -/
theorem ordered_insert (entry : KeywordToken) {table : List KeywordToken} (hTable : Ordered table) :
    Ordered (insert entry table) := by
  induction table with
  | nil => exact List.pairwise_singleton _ _
  | cons first rest ih =>
      obtain ⟨hFirst, hRest⟩ := List.pairwise_cons.mp hTable
      rw [insert]
      split
      · rename_i hShorter
        refine List.pairwise_cons.mpr ⟨fun other hOther => ?_, ih hRest⟩
        rcases mem_insert.mp hOther with rfl | hLater
        · exact hShorter
        · exact hFirst other hLater
      · rename_i hLonger
        refine List.pairwise_cons.mpr ⟨fun other hOther => ?_, hTable⟩
        rcases List.mem_cons.mp hOther with rfl | hLater
        · omega
        · have hBound := hFirst other hLater
          omega

theorem ordered_insertAll (entries : List KeywordToken) {table : List KeywordToken}
    (hTable : Ordered table) : Ordered (insertAll entries table) := by
  induction entries generalizing table with
  | nil => exact hTable
  | cons entry rest ih => exact ih (ordered_insert entry hTable)

/-- Among entries of one size a new one comes last. -/
theorem filter_insert {test : KeywordToken → Bool} {size : Nat}
    (hSize : ∀ entry, test entry = true → entry.size = size) (entry : KeywordToken)
    {table : List KeywordToken} (hTable : Ordered table) :
    (insert entry table).filter test = table.filter test ++ [entry].filter test := by
  induction table with
  | nil => rw [insert, List.filter_nil, List.nil_append]
  | cons first rest ih =>
      obtain ⟨hFirst, hRest⟩ := List.pairwise_cons.mp hTable
      rw [insert]
      split
      · rw [List.filter_cons, List.filter_cons, ih hRest]
        split <;> rfl
      · rename_i hLonger
        cases hTest : test entry with
        | false => simp [List.filter_cons, hTest]
        | true =>
            -- everything behind the new entry is shorter
            have hNone : (first :: rest).filter test = [] := by
              apply List.filter_eq_nil_iff.mpr
              intro other hOther hSame
              have hEntry := hSize entry hTest
              have hOtherSize := hSize other hSame
              rcases List.mem_cons.mp hOther with rfl | hLater
              · omega
              · have hBound := hFirst other hLater
                omega
            rw [List.filter_cons, if_pos hTest, hNone, List.filter_cons, if_pos hTest]
            rfl

/-- Entries of one size stay in the order of their registration. -/
theorem filter_insertAll {test : KeywordToken → Bool} {size : Nat}
    (hSize : ∀ entry, test entry = true → entry.size = size) (entries : List KeywordToken)
    {table : List KeywordToken} (hTable : Ordered table) :
    (insertAll entries table).filter test = table.filter test ++ entries.filter test := by
  induction entries generalizing table with
  | nil => rw [List.filter_nil, List.append_nil]; rfl
  | cons entry rest ih =>
      have hRest := ih (ordered_insert entry hTable)
      rw [filter_insert hSize entry hTable, List.append_assoc, ← List.filter_append] at hRest
      exact hRest

/-- Of all entries with a token, the one that was registered first is matched first. -/
theorem find?_insertAll (token : String) (entries : List KeywordToken) :
    (insertAll entries []).find? (·.token == token) = entries.find? (·.token == token) := by
  have hSize : ∀ entry : KeywordToken, (entry.token == token) = true →
      entry.size = byteLength token.toList := by
    intro entry hToken
    rw [KeywordToken.size, beq_iff_eq.mp hToken]
  have hEmpty : Ordered [] := List.Pairwise.nil
  have hFilter := filter_insertAll hSize entries hEmpty
  rw [← List.head?_filter, hFilter, List.filter_nil, List.nil_append, List.head?_filter]

/-- If no token is registered twice, each entry is the first one of its token. -/
theorem find?_of_nodup {entries : List KeywordToken} (hTokens : (entries.map (·.token)).Nodup)
    {entry : KeywordToken} (hEntry : entry ∈ entries) :
    entries.find? (·.token == entry.token) = some entry :=
  find?_of_nodup_map hTokens hEntry

theorem entries_builtin : builtin.entries = insertAll builtinEntries [] := by
  simp only [builtin]

theorem mem_builtin {entry : KeywordToken} :
    entry ∈ builtin.entries ↔ entry ∈ builtinEntries := by
  rw [entries_builtin, mem_insertAll]
  simp

theorem ordered_builtin : Ordered builtin.entries := by
  rw [entries_builtin]
  exact ordered_insertAll builtinEntries List.Pairwise.nil

/-- The first token of a sort is the longest one, if there is a single longest one. -/
theorem find?_of_ordered {table : List KeywordToken} (hTable : Ordered table)
    {test : KeywordToken → Bool} {longest : KeywordToken} (hMem : longest ∈ table)
    (hTest : test longest = true)
    (hLongest : ∀ entry ∈ table, test entry = true → longest.size ≤ entry.size → entry = longest) :
    table.find? test = some longest := by
  induction table with
  | nil => simp at hMem
  | cons first rest ih =>
      obtain ⟨hFirst, hRest⟩ := List.pairwise_cons.mp hTable
      rw [List.find?_cons]
      rcases List.mem_cons.mp hMem with rfl | hLater
      · simp [hTest]
      · split
        · rename_i hHere
          rw [hLongest first List.mem_cons_self hHere (hFirst longest hLater)]
        · exact ih hRest hLater fun entry hEntry =>
            hLongest entry (List.mem_cons_of_mem first hEntry)

end Vocabulary

/-- What is in front of a token is not empty. -/
theorem stem?_eq_some_iff {text : List Char} {entry : KeywordToken} {stem : List Char} :
    Vocabulary.stem? text entry = some stem ↔ text = stem ++ entry.token.toList ∧ stem ≠ [] := by
  rw [Vocabulary.stem?, Option.filter_eq_some_iff, dropSuffix?_eq_some_iff]
  simp

/-! ## Reserved words -/

/-- The words that the tokens of the built-in keywords are made of. -/
def keywordWords : List (List Char) :=
  Vocabulary.builtinEntries.flatMap fun entry => runs entry.token.toList

/-- The words that join criteria and orders, or stand at their ends. -/
def connectiveWords : List (List Char) :=
  ["And".toList, "Or".toList, "By".toList, "Asc".toList, "Desc".toList]

def reservedWords : List (List Char) :=
  connectiveWords ++ keywordWords

/-- No run of the text is a reserved word. -/
def FreeText (text : List Char) : Prop :=
  ∀ word ∈ runs text, word ∉ reservedWords

/-- A snake case name without reserved words among its capitalized pieces. -/
def isPlainName (name : List Char) : Bool :=
  isSnakeName name && (pieces name).all fun piece => !reservedWords.contains (capitalize piece)

theorem isSnakeName_of_isPlainName {name : List Char} (hName : isPlainName name = true) :
    isSnakeName name = true := by
  simp only [isPlainName, Bool.and_eq_true] at hName
  exact hName.1

theorem connective_not_mem_keywordWords : ∀ word ∈ connectiveWords, word ∉ keywordWords := by
  decide +kernel

private theorem underscore_not_mem_reserved : ∀ word ∈ reservedWords, '_' ∉ word := by
  decide +kernel

theorem FreeText.not_mem {text word : List Char} (hText : FreeText text)
    (hWord : word ∈ reservedWords) : word ∉ runs text :=
  fun hMem => hText word hMem hWord

theorem FreeText.connective_not_mem {text word : List Char} (hText : FreeText text)
    (hWord : word ∈ connectiveWords) : word ∉ runs text :=
  hText.not_mem (List.mem_append_left _ hWord)

theorem FreeText.append {left right : List Char} (hLeft : FreeText left) (hRight : FreeText right)
    (hOpens : opensWord right = true) : FreeText (left ++ right) := by
  intro word hWord
  rw [runs_append left (endsWordBefore_of_opensWord hOpens), List.mem_append] at hWord
  rcases hWord with hFirst | hSecond
  · exact hLeft word hFirst
  · exact hRight word hSecond

/-- No reserved word ends with an underscore. -/
theorem FreeText.append_underscore {text : List Char} (hText : FreeText text) (hNonempty : text ≠ []) :
    FreeText (text ++ ['_']) := by
  obtain ⟨initial, last, hRuns, hLonger⟩ :=
    runs_append_singleton hNonempty (show isUppercase '_' = false by decide)
  intro word hWord hReserved
  rw [hLonger, List.mem_append, List.mem_singleton] at hWord
  rcases hWord with hInitial | rfl
  · exact hText word (by rw [hRuns]; exact List.mem_append_left _ hInitial) hReserved
  · exact underscore_not_mem_reserved _ hReserved (by simp)

/-! ## Spellings of plain names -/

theorem freeText_pascalCase {name : List Char} (hName : isPlainName name = true) :
    FreeText (pascalCase name) := by
  intro word hWord hReserved
  rw [runs_pascalCase (isSnakeName_of_isPlainName hName), List.mem_map] at hWord
  obtain ⟨piece, hPiece, rfl⟩ := hWord
  simp only [isPlainName, Bool.and_eq_true, List.all_eq_true] at hName
  have hAllowed := hName.2 piece hPiece
  simp [hReserved] at hAllowed

private theorem opensWord_pascalCase_of_isPlainName {name : List Char}
    (hName : isPlainName name = true) :
    opensWord (pascalCase name) = true :=
  opensWord_pascalCase (isNumberedName_of_isSnakeName (isSnakeName_of_isPlainName hName))

/-- Plain names, spelled with capitals and joined by underscores. -/
theorem freeText_intercalate {names : List (List Char)}
    (hNames : ∀ name ∈ names, isPlainName name = true) (hNonempty : names ≠ []) :
    FreeText (['_'].intercalate (names.map pascalCase)) ∧
      opensWord (['_'].intercalate (names.map pascalCase)) = true := by
  induction names with
  | nil => exact absurd rfl hNonempty
  | cons name rest ih =>
      have hName := hNames name List.mem_cons_self
      have hFree := freeText_pascalCase hName
      have hOpens := opensWord_pascalCase_of_isPlainName hName
      cases rest with
      | nil =>
          rw [List.map_cons, List.map_nil, List.intercalate_singleton]
          exact ⟨hFree, hOpens⟩
      | cons next more =>
          obtain ⟨hRestFree, hRestOpens⟩ :=
            ih (fun other hOther => hNames other (List.mem_cons_of_mem name hOther)) (by simp)
          rw [List.map_cons, List.map_cons, List.intercalate_cons_cons]
          constructor
          · exact (hFree.append_underscore (ne_nil_of_opensWord hOpens)).append hRestFree hRestOpens
          · rw [List.append_assoc]
            exact opensWord_append hOpens

/-- The property names of a path are plain. -/
def PropertyPath.HasPlainNames (path : PropertyPath) : Prop :=
  ∀ node ∈ path.nodes, isPlainName node.property.name.toList = true

theorem PropertyPath.HasPlainNames.hasSnakeNames {path : PropertyPath}
    (hPath : path.HasPlainNames) : path.HasSnakeNames :=
  fun node hNode => isSnakeName_of_isPlainName (hPath node hNode)

/-- The spelling of a path through plain names is free of reserved words, and opens a word. -/
theorem freeText_canonicalText {path : PropertyPath} (hPath : path.HasPlainNames) :
    FreeText (path.canonicalText '_') ∧ opensWord (path.canonicalText '_') = true := by
  rw [path.canonicalText_eq]
  apply freeText_intercalate
  · intro name hName
    obtain ⟨node, hNode, rfl⟩ := List.mem_map.mp hName
    exact hPath node hNode
  · simp [PropertyPath.nodes]

/-! ## Keyword tokens -/

theorem opensWord_token {entry : KeywordToken} (hEntry : entry ∈ Vocabulary.builtin.entries) :
    opensWord entry.token.toList = true := by
  have hAll : ∀ entry ∈ Vocabulary.builtinEntries, opensWord entry.token.toList = true := by
    decide +kernel
  exact hAll entry (Vocabulary.mem_builtin.mp hEntry)

private theorem runs_token {entry : KeywordToken} (hEntry : entry ∈ Vocabulary.builtin.entries)
    {word : List Char} (hWord : word ∈ runs entry.token.toList) : word ∈ keywordWords :=
  List.mem_flatMap.mpr ⟨entry, Vocabulary.mem_builtin.mp hEntry, hWord⟩

/-- No token denotes two keywords. -/
theorem nodup_builtin_tokens : (Vocabulary.builtinEntries.map (·.token)).Nodup := by
  decide +kernel

private theorem eq_of_token_eq {first second : KeywordToken}
    (hFirst : first ∈ Vocabulary.builtin.entries)
    (hSecond : second ∈ Vocabulary.builtin.entries) (hToken : first.token = second.token) :
    first = second :=
  List.inj_on_of_nodup_map nodup_builtin_tokens (Vocabulary.mem_builtin.mp hFirst)
    (Vocabulary.mem_builtin.mp hSecond) hToken

theorem canonicalToken_mem (operator : Operator) :
    ⟨operator.canonicalToken, .builtin operator⟩ ∈ Vocabulary.builtin.entries := by
  rw [Vocabulary.mem_builtin, Vocabulary.builtinEntries, List.mem_flatMap]
  refine ⟨.builtin operator, List.mem_map.mpr ⟨operator, operator.mem_all, rfl⟩, ?_⟩
  exact List.mem_map.mpr ⟨operator.canonicalToken, List.head_mem operator.tokens_ne_nil, rfl⟩

theorem opensWord_canonicalToken (operator : Operator) :
    opensWord operator.canonicalToken.toList = true := by
  have hToken := opensWord_token (canonicalToken_mem operator)
  exact hToken

theorem runs_canonicalToken (operator : Operator) {word : List Char}
    (hWord : word ∈ runs operator.canonicalToken.toList) : word ∈ keywordWords := by
  have hToken := @runs_token _ (canonicalToken_mem operator) word
  exact hToken hWord

/-- Among the tokens that a canonical token ends with, it comes first itself. -/
theorem find?_canonicalToken (operator : Operator) :
    Vocabulary.builtin.entries.find?
        (fun entry => (dropSuffix? entry.token.toList operator.canonicalToken.toList).isSome) =
      some ⟨operator.canonicalToken, .builtin operator⟩ := by
  apply Vocabulary.find?_of_ordered Vocabulary.ordered_builtin (canonicalToken_mem operator)
  · rw [dropSuffix?_eq_some_iff.mpr (List.nil_append _).symm]
    rfl
  · intro entry hEntry hSuffix hLength
    obtain ⟨front, hFront⟩ := Option.isSome_iff_exists.mp hSuffix
    rw [dropSuffix?_eq_some_iff] at hFront
    have hBytes := congrArg byteLength hFront
    rw [byteLength_append] at hBytes
    have hNone : front = [] := by
      apply byteLength_eq_zero
      simp only [KeywordToken.size] at hLength
      omega
    rw [hNone, List.nil_append] at hFront
    exact eq_of_token_eq hEntry (canonicalToken_mem operator) (String.toList_inj.mp hFront.symm)

/-- A token that ends behind a text without keyword words does not begin in it. -/
theorem exists_token_eq_append {path token stem other : List Char} (hPath : FreeText path)
    (hOther : opensWord other = true) (hToken : opensWord token = true)
    (hWords : ∀ word ∈ runs other, word ∈ keywordWords)
    (hText : path ++ token = stem ++ other) : ∃ front, token = front ++ other := by
  rcases List.append_eq_append_iff.mp hText with ⟨front, _, hFront⟩ | ⟨inside, hInside, hLonger⟩
  · exact ⟨front, hFront⟩
  · cases inside with
    | nil => exact ⟨[], by rw [hLonger]; rfl⟩
    | cons c rest =>
        -- the part of the other token inside of the path would be made of keyword words
        have hOpens : opensWord (c :: rest) = true := by
          rw [hLonger] at hOther
          simpa using hOther
        obtain ⟨word, more, hRuns⟩ := List.exists_cons_of_ne_nil (runs_ne_nil (List.cons_ne_nil c rest))
        have hKeyword : word ∈ keywordWords := by
          apply hWords
          rw [hLonger, runs_append _ (endsWordBefore_of_opensWord hToken), hRuns]
          simp
        have hRun : word ∈ runs path := by
          rw [hInside, runs_append _ (endsWordBefore_of_opensWord hOpens), hRuns]
          simp
        exact absurd (List.mem_append_right _ hKeyword) (hPath word hRun)

/-- The first result of a search is that of the first element which has one. -/
theorem filterMap_eq_cons_of_find? {α γ : Type} {entries : List α} {test : α → Bool} {f : α → Option γ}
    {first : α} {value : γ} (hFind : entries.find? test = some first) (hValue : f first = some value)
    (hTest : ∀ entry ∈ entries, (f entry).isSome → test entry = true) :
    ∃ others, entries.filterMap f = value :: others := by
  induction entries with
  | nil => simp at hFind
  | cons entry rest ih =>
      rw [List.find?_cons] at hFind
      split at hFind
      · simp only [Option.some.injEq] at hFind
        rw [hFind, List.filterMap_cons, hValue]
        exact ⟨_, rfl⟩
      · rename_i hSkip
        have hNone : f entry = none := by
          cases hResult : f entry with
          | none => rfl
          | some other =>
              have hEntry := hTest entry List.mem_cons_self (by simp [hResult])
              rw [hSkip] at hEntry
              simp at hEntry
        rw [List.filterMap_cons, hNone]
        exact ih hFind fun other hOther => hTest other (List.mem_cons_of_mem entry hOther)

/-- **Behind a text without reserved words the canonical token of a keyword is read first.** -/
theorem candidates_canonicalToken {path : List Char} (hPath : FreeText path)
    (hNonempty : path ≠ []) (operator : Operator) :
    ∃ others, Vocabulary.builtin.candidates (path ++ operator.canonicalToken.toList) =
      (path, .builtin operator) :: others := by
  rw [Vocabulary.candidates]
  apply filterMap_eq_cons_of_find? (find?_canonicalToken operator)
  · have hDrop : dropSuffix? operator.canonicalToken.toList
        (path ++ operator.canonicalToken.toList) = some path := dropSuffix?_eq_some_iff.mpr rfl
    simp [Vocabulary.stem?, hDrop, Option.filter, hNonempty]
  · intro entry hEntry hSome
    rw [Option.isSome_map, Option.isSome_iff_exists] at hSome
    obtain ⟨stem, hStem⟩ := hSome
    have hText := dropSuffix?_eq_some_iff.mp (Option.filter_eq_some_iff.mp hStem).1
    obtain ⟨front, hFront⟩ := exists_token_eq_append hPath (opensWord_token hEntry)
      (opensWord_canonicalToken operator) (fun _ => runs_token hEntry) hText
    rw [dropSuffix?_eq_some_iff.mpr hFront]
    rfl

end DerivedQuery
