import DerivedQuery.Proofs.Convention
import DerivedQuery.Proofs.Path.Reading
import DerivedQuery.Proofs.Query.Outline
import DerivedQuery.Proofs.Query.Relocation
import DerivedQuery.Proofs.Text.Cuts

/-!
# What an introducer means

An introducer gives a method name its intent and nothing else. The text behind it is divided, read
and blamed as it would be anywhere: subject, limit, ordering clause and criteria are found in the
text alone, and their positions are counted from where the text starts. So two names that differ in
their introducers denote the same query up to the intent, or they fail in the same way, with
positions as far apart as the introducers are.

Introducers are matched longest first, and one may begin with another. But in front of a new word
only the whole introducer fits, so the word in a name selects the first introducer that is
configured for this word, whatever else is.

A name without an introducer is read like the criteria behind `findBy`.

## Main definitions

* `Convention.intentOf?`: the intent that a word denotes
* `Outline.placed`, `placedReading`: outlines and outcomes behind an introducer

## Main results

* `ofSubject_moved`, `readOutline_placed`: the text behind an introducer is read alike everywhere
* `parse_introduced`: a name is read like the text behind its introducer
* `introducer_selects_intent`: the introducer only selects the intent
-/

namespace DerivedQuery

open Text

variable {σ : Type}

/-! ## Dividing a fragment elsewhere -/

section Dividing

variable (distance : Nat) (fragment : Fragment)

private theorem splitSubject_moved : splitSubject (fragment.moved distance) =
    ((splitSubject fragment).1.moved distance, (splitSubject fragment).2.moved distance) := by
  unfold splitSubject
  rw [Fragment.text_moved]
  split
  · rw [Fragment.behind_moved]
  · split <;> simp only [Fragment.behind_moved, Fragment.upTo_moved]

private theorem readLimit_moved :
    readLimit (fragment.moved distance) = (readLimit fragment).mapError (.moved distance) := by
  unfold readLimit
  rw [Fragment.text_moved]
  split
  · rfl
  · split
    · rfl
    · rw [Fragment.behind_moved]
      rfl

private theorem splitOrdering_moved : splitOrdering (fragment.moved distance) =
    ((splitOrdering fragment).map fun divided =>
      (divided.1.moved distance, divided.2.map (·.moved distance))).mapError (.moved distance) := by
  unfold splitOrdering
  rw [Fragment.text_moved]
  split
  · rfl
  · split
    · rw [Fragment.behind_moved]
      rfl
    · split
      · rw [Fragment.behind_moved]
        rfl
      · rw [Fragment.behind_moved]
        rfl

private theorem dropIgnoreAllCase_moved : dropIgnoreAllCase (fragment.moved distance) =
    ((dropIgnoreAllCase fragment).1.moved distance, (dropIgnoreAllCase fragment).2) := by
  unfold dropIgnoreAllCase
  rw [Fragment.text_moved]
  split <;> rfl

end Dividing

/-! ## Outlines -/

namespace Outline

/-- The outline of the text behind a subject. -/
def ofBody (intent : Intent) (distinct : Bool) (limit : Option Nat) (body : Fragment) :
    Except SyntaxError Outline := do
  let (front, ordering) ← splitOrdering body
  let (criteria, ignoreAllCase) := dropIgnoreAllCase front
  return { intent, distinct, limit, criteria, ignoreAllCase, ordering }

/-- The outline of the text behind an introducer. -/
def ofSubject (intent : Intent) (fragment : Fragment) : Except SyntaxError Outline := do
  let (subject, body) := splitSubject fragment
  let limit ← readLimit subject
  ofBody intent (containsToken "Distinct".toList subject.text) limit body

/-- The outline, if the intent is another one and the name goes on further behind. -/
def placed (intent : Intent) (distance : Nat) (outline : Outline) : Outline :=
  { outline with
    intent
    criteria := outline.criteria.moved distance
    ordering := outline.ordering.map (·.moved distance) }

/-- What becomes of a division, if the intent is another one and the name goes on further behind. -/
def placedDivision (intent : Intent) (distance : Nat) :
    Except SyntaxError Outline → Except SyntaxError Outline
  | .ok outline => .ok (outline.placed intent distance)
  | .error error => .error (error.moved distance)

private theorem ofBody_moved (intent other : Intent) (distinct : Bool) (limit : Option Nat)
    (distance : Nat) (body : Fragment) : ofBody intent distinct limit (body.moved distance) =
      placedDivision intent distance (ofBody other distinct limit body) := by
  unfold ofBody
  rw [splitOrdering_moved]
  cases splitOrdering body with
  | error error => rfl
  | ok divided =>
      simp only [Except.map, Except.mapError, bind, Except.bind, dropIgnoreAllCase_moved]
      rfl

/-- The text behind an introducer is divided alike everywhere. -/
theorem ofSubject_moved (intent other : Intent) (distance : Nat) (fragment : Fragment) :
    ofSubject intent (fragment.moved distance) =
      placedDivision intent distance (ofSubject other fragment) := by
  unfold ofSubject
  rw [splitSubject_moved]
  dsimp only [Fragment.text_moved]
  rw [readLimit_moved]
  cases readLimit (splitSubject fragment).1 with
  | error error => rfl
  | ok limit => exact ofBody_moved intent other _ limit distance (splitSubject fragment).2

/-- A name with an introducer is divided behind it. -/
theorem ofMethod_of_findIntroducer? {introducers : List Introducer} {method rest : List Char}
    {introducer : Introducer} (hMethod : method ≠ [])
    (hFind : findIntroducer? introducers method = some (introducer, rest)) :
    ofMethod introducers method =
      ofSubject introducer.intent ⟨rest, byteLength introducer.word.toList⟩ := by
  have hNonempty : method.isEmpty = false := by simpa using hMethod
  unfold ofMethod readSubject ofSubject
  rw [hNonempty, hFind]
  dsimp only
  cases readLimit (splitSubject ⟨rest, byteLength introducer.word.toList⟩).1 <;> rfl

/-- A name without an introducer is a body. -/
theorem ofMethod_of_findIntroducer?_eq_none {introducers : List Introducer} {method : List Char}
    (hMethod : method ≠ []) (hFind : findIntroducer? introducers method = none) :
    ofMethod introducers method = ofBody .find false none ⟨method, 0⟩ := by
  have hNonempty : method.isEmpty = false := by simpa using hMethod
  unfold ofMethod readSubject
  rw [hNonempty, hFind]
  rfl

end Outline

/-! ## Reading an outline elsewhere -/

/-- What becomes of an outcome, if the intent is another one and the name goes on further behind. -/
def placedReading (intent : Intent) (distance : Nat) :
    Except SyntaxError Query × σ → Except SyntaxError Query × σ
  | (.ok query, after) => (.ok { query with intent }, after)
  | (.error error, after) => (.error (error.moved distance), after)

section Reading

variable (parser : MethodParser) (metadata : Metadata σ) (root : String)

private theorem readCriteria_moved (scope : Scope σ) (distance : Nat) (criteria : Fragment)
    (state : σ) :
    MethodParser.readCriteria scope (criteria.moved distance) state =
      mapErrors (.moved distance) (MethodParser.readCriteria scope criteria state) := by
  unfold MethodParser.readCriteria
  rw [Fragment.text_moved]
  split
  · rfl
  · exact relocates_parseCriteria scope distance criteria state

private theorem readOrdering_moved (scope : Scope σ) (distance : Nat) (ordering : Option Fragment)
    (state : σ) : MethodParser.readOrdering scope (ordering.map (·.moved distance)) state =
      mapErrors (.moved distance) (MethodParser.readOrdering scope ordering state) := by
  cases ordering with
  | none => rfl
  | some clause => exact relocates_parseOrdering scope distance clause state

theorem readOutline_placed (intent : Intent) (distance : Nat) (outline : Outline) (state : σ) :
    parser.readOutline metadata root (outline.placed intent distance) state =
      placedReading intent distance (parser.readOutline metadata root outline state) := by
  unfold MethodParser.readOutline Outline.placed
  dsimp only
  rw [readCriteria_moved]
  obtain ⟨groups, between⟩ := MethodParser.readCriteria _ outline.criteria state
  cases groups with
  | error error => rfl
  | ok groups =>
      dsimp only [mapErrors_ok]
      rw [readOrdering_moved]
      obtain ⟨ordering, after⟩ := MethodParser.readOrdering _ outline.ordering between
      cases ordering <;> rfl

/-- Reads the query of an outline, if there is one. -/
def MethodParser.readDivided (outline : Except SyntaxError Outline) (state : σ) :
    Except SyntaxError Query × σ :=
  match outline with
  | .error error => (.error error, state)
  | .ok outline => parser.readOutline metadata root outline state

private theorem parse_eq_readDivided (method : String) (state : σ) :
    parser.parse metadata method root state =
      parser.readDivided metadata root (Outline.ofMethod parser.introducers method.toList) state :=
  rfl

private theorem readDivided_placed (intent : Intent) (distance : Nat)
    (outline : Except SyntaxError Outline) (state : σ) :
    parser.readDivided metadata root (Outline.placedDivision intent distance outline) state =
      placedReading intent distance (parser.readDivided metadata root outline state) := by
  cases outline with
  | error error => rfl
  | ok outline => exact readOutline_placed parser metadata root intent distance outline state

end Reading

/-! ## Introducers of a convention -/

/-- The intent of the first introducer that is configured for a word. -/
def Convention.intentOf? (convention : Convention) (word : String) : Option Intent :=
  (convention.introducers.find? (·.word == word)).map (·.intent)

section Introducers

variable {convention : Convention} {parser : MethodParser} {metadata : Metadata σ} {root : String}

private theorem ne_nil_of_isIntroducerWord {word : String} (hWord : isIntroducerWord word = true) :
    word.toList ≠ [] := by
  simp only [isIntroducerWord, Bool.and_eq_true, Bool.not_eq_true', List.isEmpty_eq_false_iff] at hWord
  exact hWord.1

/-- **A name is read like the text behind its introducer**, which starts behind the word and has the
intent that the word denotes. -/
theorem parse_introduced (hParser : MethodParser.ofConvention convention = .ok parser)
    {word : String} (hWord : word ∈ convention.introducers.map (·.word)) {rest : String}
    (hRest : endsWordBefore rest.toList = true) (metadata : Metadata σ) (root : String)
    (state : σ) :
    ∃ intent, convention.intentOf? word = some intent ∧
      parser.parse metadata (word ++ rest) root state =
        placedReading intent word.utf8ByteSize
          (parser.readDivided metadata root (Outline.ofSubject .find ⟨rest.toList, 0⟩) state) := by
  obtain ⟨hValid, rfl⟩ := ofConvention_eq_ok_iff.mp hParser
  obtain ⟨_, hIntroducers, _, _⟩ := Convention.validate_eq_ok_iff.mp hValid
  obtain ⟨introducer, hMem, rfl⟩ := List.mem_map.mp hWord
  have hValidWord := hIntroducers introducer hMem
  have hSorted : ∀ other ∈ convention.sortedIntroducers, isIntroducerWord other.word = true :=
    fun other hOther => hIntroducers other (List.mem_mergeSort.mp hOther)
  -- some introducer is configured for the word, and the first one is found
  have hSome : (convention.introducers.find? (·.word == introducer.word)).isSome = true :=
    List.find?_isSome.mpr ⟨introducer, hMem, beq_self_eq_true _⟩
  obtain ⟨first, hFirst⟩ := Option.isSome_iff_exists.mp hSome
  have hSame : first.word = introducer.word := by
    have hTest := List.find?_some hFirst
    exact beq_iff_eq.mp hTest
  have hFind := findIntroducer?_word hSorted hValidWord hRest
  rw [convention.find?_sortedIntroducers, hFirst, Option.map_some, ← String.toList_append] at hFind
  have hMethod : (introducer.word ++ rest).toList ≠ [] := by
    rw [String.toList_append]
    exact List.append_ne_nil_of_left_ne_nil (ne_nil_of_isIntroducerWord hValidWord) _
  refine ⟨first.intent, by rw [Convention.intentOf?, hFirst]; rfl, ?_⟩
  have hMoved := Outline.ofSubject_moved first.intent .find introducer.word.utf8ByteSize
    ⟨rest.toList, 0⟩
  rw [parse_eq_readDivided, Outline.ofMethod_of_findIntroducer? hMethod hFind, hSame,
    byteLength_eq_utf8ByteSize, String.ofList_toList, ← readDivided_placed, ← hMoved]
  simp only [Fragment.moved, Nat.zero_add]

/-- No introducer starts with a capital. -/
theorem findIntroducer?_of_opensWord {introducers : List Introducer}
    (hIntroducers : ∀ introducer ∈ introducers, isIntroducerWord introducer.word = true)
    {method : List Char} (hMethod : opensWord method = true) :
    findIntroducer? introducers method = none := by
  apply List.findSome?_eq_none_iff.mpr
  intro introducer hMem
  have hWord := hIntroducers introducer hMem
  cases hDrop : dropPrefix? introducer.word.toList method with
  | none => rfl
  | some rest =>
      rw [dropPrefix?_eq_some_iff.mp hDrop] at hMethod
      simp only [isIntroducerWord, Bool.and_eq_true, List.all_eq_true] at hWord
      cases hText : introducer.word.toList with
      | nil => simp [hText] at hWord
      | cons c more =>
          rw [hText] at hMethod hWord
          rw [List.cons_append, opensWord_cons,
            isUppercase_of_isLower (hWord.2 c List.mem_cons_self)] at hMethod
          simp at hMethod

/-- Behind `findBy` there are the criteria at once. -/
theorem ofSubject_by {text : List Char} (hText : endsWordBefore text = true) :
    Outline.ofSubject .find ⟨"By".toList ++ text, 4⟩ = Outline.ofBody .find false none ⟨text, 6⟩ := by
  have hFind : findToken? "By".toList ("By".toList ++ text) = some ([], text) := by
    have hDrop : dropPrefix? "By".toList ("By".toList ++ text) = some text :=
      dropPrefix?_eq_some_iff.mpr rfl
    change findToken? "By".toList ('B' :: ('y' :: text)) = _
    rw [findToken?]
    change dropPrefix? "By".toList ('B' :: ('y' :: text)) = _ at hDrop
    rw [hDrop, Option.filter_some, if_pos hText]
  unfold Outline.ofSubject splitSubject
  rw [hFind]
  rfl

/-- **A name without an introducer is read like the criteria behind `findBy`**: both are a body
that selects records. -/
theorem parse_findBy {criteria : String} (hCriteria : opensWord criteria.toList = true)
    (metadata : Metadata σ) (root : String) (state : σ) :
    ∃ outcome, MethodParser.default.parse metadata criteria root state =
        placedReading .find 0 outcome ∧
      MethodParser.default.parse metadata ("findBy" ++ criteria) root state =
        placedReading .find 6 outcome := by
  have hIntroducers : ∀ introducer ∈ MethodParser.default.introducers,
      isIntroducerWord introducer.word = true := by
    rw [introducers_default]
    decide
  have hNone := findIntroducer?_of_opensWord hIntroducers hCriteria
  have hBy : endsWordBefore ("By".toList ++ criteria.toList) = true := by
    change isUppercase 'B' = true
    decide
  have hFind := findIntroducer?_canonical .find hBy
  have hMethod : (Intent.find.introducer.toList ++ ("By".toList ++ criteria.toList)) ≠ [] := by
    simp [Intent.introducer]
  have hText : ("findBy" ++ criteria).toList =
      Intent.find.introducer.toList ++ ("By".toList ++ criteria.toList) := by
    rw [String.toList_append]
    rfl
  have hBare := Outline.ofMethod_of_findIntroducer?_eq_none (ne_nil_of_opensWord hCriteria) hNone
  have hBehind := Outline.ofMethod_of_findIntroducer? hMethod hFind
  have hBody := ofSubject_by (endsWordBefore_of_opensWord hCriteria)
  have hMoved := Outline.ofBody_moved .find .find false none 6 ⟨criteria.toList, 0⟩
  have hHere := Outline.ofBody_moved .find .find false none 0 ⟨criteria.toList, 0⟩
  refine ⟨MethodParser.default.readDivided metadata root
    (Outline.ofBody .find false none ⟨criteria.toList, 0⟩) state, ?_, ?_⟩
  · rw [parse_eq_readDivided, hBare, ← readDivided_placed, ← hHere]
    rfl
  · rw [parse_eq_readDivided, hText, hBehind, ← readDivided_placed, ← hMoved]
    exact congrArg (fun outline => MethodParser.default.readDivided metadata root outline state) hBody

/-- **The introducer only selects the intent.** Names that differ in their introducers denote the
same query up to the intent, or they fail alike at positions as far apart as the introducers are.
And with the default convention, a name without an introducer is read like the criteria behind
`findBy`. -/
theorem introducer_selects_intent (hParser : MethodParser.ofConvention convention = .ok parser)
    (metadata : Metadata σ) (root : String) (state : σ) :
    (∀ first ∈ convention.introducers.map (·.word), ∀ second ∈ convention.introducers.map (·.word),
      ∀ rest : String, endsWordBefore rest.toList = true →
        ∃ intent other, convention.intentOf? first = some intent ∧
          convention.intentOf? second = some other ∧
          ((∃ (query : Query) (after : σ),
              parser.parse metadata (first ++ rest) root state =
                (.ok { query with intent := intent }, after) ∧
              parser.parse metadata (second ++ rest) root state =
                (.ok { query with intent := other }, after)) ∨
            ∃ (error : SyntaxError) (after : σ),
              parser.parse metadata (first ++ rest) root state =
                (.error { error with position := error.position + first.utf8ByteSize }, after) ∧
              parser.parse metadata (second ++ rest) root state =
                (.error { error with position := error.position + second.utf8ByteSize }, after))) ∧
      ∀ criteria : String, opensWord criteria.toList = true →
        (∃ (query : Query) (after : σ),
          MethodParser.default.parse metadata criteria root state = (.ok query, after) ∧
          MethodParser.default.parse metadata ("findBy" ++ criteria) root state =
            (.ok query, after)) ∨
        ∃ (error : SyntaxError) (after : σ),
          MethodParser.default.parse metadata criteria root state = (.error error, after) ∧
          MethodParser.default.parse metadata ("findBy" ++ criteria) root state =
            (.error { error with position := error.position + 6 }, after) := by
  constructor
  · intro first hFirst second hSecond rest hRest
    obtain ⟨intent, hIntent, hReading⟩ :=
      parse_introduced hParser hFirst hRest metadata root state
    obtain ⟨other, hOther, hAnother⟩ :=
      parse_introduced hParser hSecond hRest metadata root state
    refine ⟨intent, other, hIntent, hOther, ?_⟩
    rw [hReading, hAnother]
    cases parser.readDivided metadata root (Outline.ofSubject .find ⟨rest.toList, 0⟩) state with
    | mk result after =>
        cases result with
        | ok query => exact Or.inl ⟨query, after, rfl, rfl⟩
        | error error => exact Or.inr ⟨error, after, rfl, rfl⟩
  · intro criteria hCriteria
    obtain ⟨⟨result, after⟩, hBare, hBehind⟩ :=
      parse_findBy hCriteria metadata root state
    rw [hBare, hBehind]
    cases result with
    | ok query => exact Or.inl ⟨_, after, rfl, rfl⟩
    | error error => exact Or.inr ⟨error, after, rfl, rfl⟩

end Introducers

/-- A convention in which one introducer begins with another, and one is configured twice. -/
def overlapping : Convention :=
  { introducers := [⟨"get", .find⟩, ⟨"getall", .stream⟩, ⟨"get", .count⟩] }

private theorem ofConvention_overlapping : MethodParser.ofConvention overlapping =
    .ok ⟨[⟨"getall", .stream⟩, ⟨"get", .find⟩, ⟨"get", .count⟩], .builtin, '_'⟩ := by
  have hSorted : overlapping.sortedIntroducers =
      [⟨"getall", .stream⟩, ⟨"get", .find⟩, ⟨"get", .count⟩] := by
    simp [Convention.sortedIntroducers, overlapping, List.mergeSort,
      List.MergeSort.Internal.splitInTwo, byteLength, Char.utf8Size]
  rw [ofConvention_eq_ok_iff, hSorted]
  exact ⟨by decide +kernel, rfl⟩

/-- Each of the words selects the intent that is configured for it first. -/
theorem introducer_selects_intent_overlapping : ∃ (parser : MethodParser) (query : Query)
    (after : Registry.State),
    MethodParser.ofConvention overlapping = .ok parser ∧
    parser.parse contacts.metadata "getFirst3ByAddress_BookTitle" "Person" {} =
      (.ok { query with intent := .find }, after) ∧
    parser.parse contacts.metadata "getallFirst3ByAddress_BookTitle" "Person" {} =
      (.ok { query with intent := .stream }, after) := by
  let parser : MethodParser :=
    ⟨[⟨"getall", .stream⟩, ⟨"get", .find⟩, ⟨"get", .count⟩], .builtin, '_'⟩
  have hSome : (parser.parse contacts.metadata "getFirst3ByAddress_BookTitle" "Person"
      {}).1.toOption.isSome = true := by
    decide +kernel
  obtain ⟨intent, other, hIntent, hOther, hReadings⟩ :=
    (introducer_selects_intent ofConvention_overlapping contacts.metadata "Person" {}).1 "get"
      (by decide) "getall" (by decide) "First3ByAddress_BookTitle" (by decide)
  rw [show overlapping.intentOf? "get" = some .find by decide, Option.some.injEq] at hIntent
  rw [show overlapping.intentOf? "getall" = some .stream by decide, Option.some.injEq] at hOther
  subst hIntent hOther
  rcases hReadings with ⟨query, after, hFirst, hSecond⟩ | ⟨error, after, hFirst, _⟩
  · exact ⟨parser, query, after, ofConvention_overlapping, hFirst, hSecond⟩
  · rw [show "getFirst3ByAddress_BookTitle" = "get" ++ "First3ByAddress_BookTitle" by decide,
      hFirst] at hSome
    simp [Except.toOption] at hSome

end DerivedQuery
