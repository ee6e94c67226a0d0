import DerivedQuery.Proofs.Text.Ascii
import DerivedQuery.Proofs.Text.Runs
import DerivedQuery.Query.Canonical
import DerivedQuery.Query.Parser
import Mathlib.Data.List.TakeWhile

/-!
# Dividing a canonical method name

The outline of a method name is found by its fixed words alone. In a canonical name each of these
words stands where it is written, and a text in which `By` is no run cannot hold an earlier `By` or
`OrderBy`; so the name is divided where it was put together. Criteria and ordering enter here as
texts only, with what must not occur in them.

## Main results

* `limit_of_ofMethod`: a limit is positive and below 2^64
* `readSubject_canonical`, `readSubject_canonical_by`: introducer and subject are read back
* `splitOrdering_of_not_mem`, `splitOrdering_append`: where the ordering clause begins
-/

namespace DerivedQuery

open Text

/-! ## Limits -/

/-- The numbers that can be limits. -/
def IsLimit (limit : Nat) : Prop :=
  0 < limit ∧ limit < UInt64.size

/-- Which digits have a value that a limit can have. -/
theorem limitValue?_eq_some_iff {digits : List Char} {limit : Nat} (hDigits : digits ≠ []) :
    limitValue? digits = some limit ↔
      (∀ c ∈ digits, c.isDigit = true) ∧ decimalValue digits = limit ∧ IsLimit limit := by
  rw [limitValue?, if_neg (by simpa using hDigits)]
  constructor
  · intro hValue
    split at hValue
    · rename_i hBounds
      simp only [Bool.and_eq_true, decide_eq_true_eq, List.all_eq_true] at hBounds
      rw [← Option.some.inj hValue]
      exact ⟨hBounds.1.1, rfl, hBounds.1.2, hBounds.2⟩
    · simp at hValue
  · rintro ⟨hAscii, rfl, hPositive, hSmall⟩
    rw [if_pos]
    simp only [Bool.and_eq_true, decide_eq_true_eq, List.all_eq_true]
    exact ⟨⟨hAscii, hPositive⟩, hSmall⟩

private theorem isLimit_of_limitValue? {digits : List Char} {limit : Nat}
    (hValue : limitValue? digits = some limit) : IsLimit limit := by
  cases digits with
  | nil =>
      rw [← Option.some.inj hValue]
      exact ⟨by decide, by decide⟩
  | cons c rest => exact ((limitValue?_eq_some_iff (List.cons_ne_nil c rest)).mp hValue).2.2

private theorem isLimit_of_readLimit {subject : Fragment} {found : Option Nat}
    (hRead : readLimit subject = .ok found) : ∀ limit ∈ found, IsLimit limit := by
  unfold readLimit at hRead
  split at hRead
  · simp only [Except.ok.injEq] at hRead
    simp [← hRead]
  · split at hRead
    · rename_i hValue
      simp only [Except.ok.injEq] at hRead
      rw [← hRead]
      intro other hOther
      rw [← Option.some.inj hOther]
      exact isLimit_of_limitValue? hValue
    · simp at hRead

private theorem isLimit_of_readSubject {introducers : List Introducer} {method : List Char}
    {intent : Intent} {distinct : Bool} {found : Option Nat} {body : Fragment}
    (hRead : readSubject introducers method = .ok (intent, distinct, found, body)) :
    ∀ limit ∈ found, IsLimit limit := by
  unfold readSubject at hRead
  split at hRead
  · simp only [Except.ok.injEq, Prod.mk.injEq] at hRead
    simp [← hRead.2.2.1]
  · rename_i introducer rest _
    cases hLimit : readLimit (splitSubject ⟨rest, byteLength introducer.word.toList⟩).1 with
    | error error => simp [hLimit, bind, Except.bind] at hRead
    | ok limit =>
        simp only [hLimit, bind, Except.bind, pure, Except.pure, Except.ok.injEq,
          Prod.mk.injEq] at hRead
        rw [← hRead.2.2.1]
        exact isLimit_of_readLimit hLimit

/-- What an outline is made of. -/
theorem ofMethod_eq_ok_iff {introducers : List Introducer} {method : List Char}
    {outline : Outline} :
    Outline.ofMethod introducers method = .ok outline ↔
      method ≠ [] ∧ ∃ intent distinct limit body front ordering,
        readSubject introducers method = .ok (intent, distinct, limit, body) ∧
          splitOrdering body = .ok (front, ordering) ∧
          outline =
            { intent, distinct, limit, criteria := (dropIgnoreAllCase front).1
              ignoreAllCase := (dropIgnoreAllCase front).2, ordering } := by
  constructor
  · intro hOutline
    unfold Outline.ofMethod at hOutline
    cases method with
    | nil => simp [throw, throwThe, MonadExceptOf.throw, bind, Except.bind] at hOutline
    | cons c rest =>
        cases hSubject : readSubject introducers (c :: rest) with
        | error error => simp [hSubject, bind, Except.bind] at hOutline
        | ok subject =>
            obtain ⟨intent, distinct, limit, body⟩ := subject
            cases hOrdering : splitOrdering body with
            | error error => simp [hSubject, hOrdering, bind, Except.bind] at hOutline
            | ok divided =>
                simp [hSubject, hOrdering, bind, Except.bind, pure, Except.pure] at hOutline
                exact ⟨by simp, intent, distinct, limit, body, divided.1, divided.2, rfl, hOrdering,
                  hOutline.symm⟩
  · rintro ⟨hMethod, intent, distinct, limit, body, front, ordering, hSubject, hOrdering, rfl⟩
    have hNonempty : method.isEmpty = false := by simpa using hMethod
    simp [Outline.ofMethod, hNonempty, hSubject, hOrdering, bind, Except.bind, pure, Except.pure]

/-- A limit is positive and below 2^64. -/
theorem limit_of_ofMethod {introducers : List Introducer} {method : List Char} {outline : Outline}
    (hOutline : Outline.ofMethod introducers method = .ok outline) :
    ∀ limit ∈ outline.limit, IsLimit limit := by
  obtain ⟨_, intent, distinct, limit, body, front, ordering, hSubject, _, rfl⟩ :=
    ofMethod_eq_ok_iff.mp hOutline
  exact isLimit_of_readSubject hSubject

private theorem decimalValue_toDigits (limit : Nat) :
    decimalValue (Nat.toDigits 10 limit) = limit :=
  Nat.ofDigitChars_ten_toDigits

theorem isDigit_of_mem_toDigits {limit : Nat} {c : Char} (hChar : c ∈ Nat.toDigits 10 limit) :
    c.isDigit = true :=
  Nat.isDigit_of_mem_toDigits (by decide) (by decide) hChar

theorem limitValue?_toDigits {limit : Nat} (hLimit : IsLimit limit) :
    limitValue? (Nat.toDigits 10 limit) = some limit := by
  rw [limitValue?_eq_some_iff Nat.toDigits_ne_nil]
  exact ⟨fun _ hChar => isDigit_of_mem_toDigits hChar, decimalValue_toDigits limit, hLimit⟩

/-! ## The subject -/

/-- The spelling of a subject without its introducer. -/
def subjectText (distinct : Bool) (limit : Option Nat) : List Char :=
  (if distinct then "Distinct".toList else []) ++ (Query.canonicalLimit limit).toList

private theorem toList_canonicalLimit {limit : Nat} (hMany : limit ≠ 1) :
    (Query.canonicalLimit (some limit)).toList = "Top".toList ++ Nat.toDigits 10 limit := by
  unfold Query.canonicalLimit
  split
  · simp_all
  · simp_all
  · rename_i other _ hLimit
    rw [String.toList_append, ← Option.some.inj hLimit, Nat.toString_eq_ofList_toDigits]
    simp

/-- The spelling of a limit is one word. -/
theorem toList_canonicalLimit_cases (limit : Option Nat) :
    (Query.canonicalLimit limit).toList = [] ∨
      ∃ c rest, (Query.canonicalLimit limit).toList = c :: rest ∧ (c = 'F' ∨ c = 'T') ∧
        ∀ d ∈ rest, isUppercase d = false := by
  have hLetters : ∀ word : List Char, word.all (·.isLower) = true →
      ∀ d ∈ word, isUppercase d = false :=
    fun word hWord d hD => isUppercase_of_isLower (List.all_eq_true.mp hWord d hD)
  cases limit with
  | none => exact Or.inl rfl
  | some limit =>
      right
      by_cases hOne : limit = 1
      · rw [hOne]
        exact ⟨'F', "irst".toList, rfl, Or.inl rfl, hLetters _ (by decide)⟩
      · rw [toList_canonicalLimit hOne]
        refine ⟨'T', "op".toList ++ Nat.toDigits 10 limit, rfl, Or.inr rfl, fun d hD => ?_⟩
        rcases List.mem_append.mp hD with hWord | hDigit
        · exact hLetters _ (by decide) d hWord
        · exact isUppercase_of_isDigit (isDigit_of_mem_toDigits hDigit)

/-- The runs of a subject start with the letters of its three words. -/
theorem head_of_mem_runs_subjectText {distinct : Bool} {limit : Option Nat} {word : List Char}
    (hWord : word ∈ runs (subjectText distinct limit)) :
    ∃ c rest, word = c :: rest ∧ c ∈ ['D', 'F', 'T'] := by
  have hLimit : endsWordBefore (Query.canonicalLimit limit).toList = true ∧
      ∀ word ∈ runs (Query.canonicalLimit limit).toList,
        ∃ c rest, word = c :: rest ∧ c ∈ ['D', 'F', 'T'] := by
    rcases toList_canonicalLimit_cases limit with hNone | ⟨c, rest, hText, hHead, hRest⟩
    · rw [hNone]
      exact ⟨rfl, by simp⟩
    · rw [hText, runs_singleton c hRest]
      constructor
      · rw [endsWordBefore_cons]
        rcases hHead with rfl | rfl <;> decide
      · intro other hOther
        rw [List.mem_singleton] at hOther
        refine ⟨c, rest, hOther, ?_⟩
        rcases hHead with rfl | rfl <;> decide
  rw [subjectText, runs_append _ hLimit.1, List.mem_append] at hWord
  rcases hWord with hDistinct | hLater
  · cases distinct with
    | false => simp at hDistinct
    | true =>
        have hRuns : runs "Distinct".toList = ["Distinct".toList] := by decide
        simp only [if_true, hRuns, List.mem_singleton] at hDistinct
        exact ⟨'D', "istinct".toList, hDistinct, by decide⟩
  · exact hLimit.2 word hLater

private theorem by_not_mem_runs_subjectText (distinct : Bool) (limit : Option Nat) :
    "By".toList ∉ runs (subjectText distinct limit) := by
  intro hMem
  obtain ⟨c, rest, hWord, hHead⟩ := head_of_mem_runs_subjectText hMem
  rw [← (List.cons.inj hWord).1] at hHead
  exact absurd hHead (by decide)

/-- A subject does not end with `Order`. -/
theorem dropSuffix?_order_subjectText (distinct : Bool) (limit : Option Nat) :
    dropSuffix? "Order".toList (subjectText distinct limit) = none := by
  apply dropSuffix?_eq_none (show opensWord "Order".toList = true by decide)
    (show runs "Order".toList = [] ++ ["Order".toList] by decide)
  intro hLast
  obtain ⟨c, rest, hWord, hHead⟩ := head_of_mem_runs_subjectText (List.mem_of_getLast? hLast)
  rw [← (List.cons.inj hWord).1] at hHead
  exact absurd hHead (by decide)

/-! ## Reading the subject back -/

theorem limitHere?_eq_none {c : Char} {rest : List Char} (hFirst : c ≠ 'F') (hTop : c ≠ 'T') :
    limitHere? (c :: rest) = none := by
  simp [limitHere?, limitWords, dropPrefix?, hFirst.symm, hTop.symm]

/-- No limit begins before the letters of its words. -/
theorem findLimit?_append {front : List Char} (hFront : ∀ c ∈ front, c ≠ 'F' ∧ c ≠ 'T')
    (rest : List Char) :
    findLimit? (front ++ rest) = (findLimit? rest).map fun found => (front ++ found.1, found.2) := by
  induction front with
  | nil => simp
  | cons c more ih =>
      obtain ⟨hFirst, hTop⟩ := hFront c List.mem_cons_self
      rw [List.cons_append, findLimit?, limitHere?_eq_none hFirst hTop,
        ih fun d hD => hFront d (List.mem_cons_of_mem c hD)]
      simp [Option.map_map, Function.comp_def]

theorem findLimit?_top {digits : List Char} (hDigits : ∀ c ∈ digits, c.isDigit = true) :
    findLimit? ("Top".toList ++ digits) = some ([], "Top".toList, digits) := by
  have hDecimal : ∀ c ∈ digits, isDecimalDigit c = true :=
    fun c hChar => isDecimalDigit_of_isDigit (hDigits c hChar)
  have hBehind : digits.dropWhile isDecimalDigit = [] := List.dropWhile_eq_nil_iff.mpr hDecimal
  have hTaken : digits.takeWhile isDecimalDigit = digits := List.takeWhile_eq_self_iff.mpr hDecimal
  have hHere : limitHere? ("Top".toList ++ digits) = some ("Top".toList, digits) := by
    simp [limitHere?, limitWords, dropPrefix?, hBehind, hTaken]
  rw [show "Top".toList ++ digits = 'T' :: ("op".toList ++ digits) from rfl] at hHere ⊢
  rw [findLimit?, hHere]

/-- The limit of a subject is read back. -/
theorem readLimit_subjectText (distinct : Bool) {limit : Option Nat}
    (hLimit : ∀ value ∈ limit, IsLimit value) (position : Nat) :
    readLimit ⟨subjectText distinct limit, position⟩ = .ok limit := by
  have hFront : ∀ c ∈ if distinct then "Distinct".toList else [], c ≠ 'F' ∧ c ≠ 'T' := by
    cases distinct <;> simp
  unfold readLimit
  dsimp only
  rw [subjectText, findLimit?_append hFront]
  cases limit with
  | none => rfl
  | some value =>
      have hValue := hLimit value rfl
      by_cases hOne : value = 1
      · subst hOne
        have hFound : findLimit? (Query.canonicalLimit (some 1)).toList =
            some ([], "First".toList, []) := by decide
        rw [hFound]
        rfl
      · rw [toList_canonicalLimit hOne,
          findLimit?_top fun _ hChar => isDigit_of_mem_toDigits hChar]
        simp only [Option.map_some, limitValue?_toDigits hValue]

private theorem containsToken_append (token rest : List Char) :
    containsToken token (token ++ rest) = true := by
  cases token with
  | nil => cases rest <;> simp [containsToken, dropPrefix?]
  | cons c more =>
      have hDrop : dropPrefix? (c :: more) (c :: more ++ rest) = some rest :=
        dropPrefix?_eq_some_iff.mpr rfl
      rw [List.cons_append] at hDrop ⊢
      simp [containsToken, hDrop]

private theorem containsToken_eq_false {c : Char} {text : List Char} (hChar : c ∉ text)
    (more : List Char) :
    containsToken (c :: more) text = false := by
  induction text with
  | nil => rfl
  | cons d rest ih =>
      rw [List.mem_cons, not_or] at hChar
      simp [containsToken, dropPrefix?, hChar.1, ih hChar.2]

/-- Distinctness is read back. -/
theorem containsToken_subjectText (distinct : Bool) (limit : Option Nat) :
    containsToken "Distinct".toList (subjectText distinct limit) = distinct := by
  cases distinct with
  | true => exact containsToken_append _ _
  | false =>
      apply containsToken_eq_false
      rcases toList_canonicalLimit_cases limit with hNone | ⟨c, rest, hText, hHead, hRest⟩
      · simp [subjectText, hNone]
      · simp only [subjectText, Bool.false_eq_true, if_false, List.nil_append, hText, List.mem_cons,
          not_or]
        constructor
        · rcases hHead with rfl | rfl <;> decide
        · intro hMem
          exact absurd (hRest _ hMem) (by decide)

/-! ## Introducers -/

theorem runs_introducer {word : String} (hWord : isIntroducerWord word = true) :
    runs word.toList = [word.toList] := by
  simp only [isIntroducerWord, Bool.and_eq_true, List.all_eq_true] at hWord
  cases hText : word.toList with
  | nil => simp [hText] at hWord
  | cons c rest =>
      rw [hText] at hWord
      exact runs_singleton c fun d hD =>
        isUppercase_of_isLower (hWord.2 d (List.mem_cons_of_mem c hD))

/-- In front of a new word an introducer is matched as a whole. -/
theorem dropPrefix?_introducer {word other : String} (hWord : isIntroducerWord word = true)
    (hOther : isIntroducerWord other = true) {rest : List Char} (hRest : endsWordBefore rest = true) :
    (dropPrefix? other.toList (word.toList ++ rest)).filter endsWordBefore =
      if other == word then some rest else none := by
  cases hSame : other == word with
  | true =>
      have hDrop : dropPrefix? other.toList (word.toList ++ rest) = some rest := by
        rw [dropPrefix?_eq_some_iff, beq_iff_eq.mp hSame]
      rw [hDrop, Option.filter_some, if_pos hRest]
      rfl
  | false =>
      rw [if_neg (by simp), Option.eq_none_iff_forall_ne_some]
      intro front hFront
      obtain ⟨hDrop, hEnds⟩ := Option.filter_eq_some_iff.mp hFront
      have hRuns := congrArg runs (dropPrefix?_eq_some_iff.mp hDrop)
      rw [runs_append _ hRest, runs_append _ hEnds, runs_introducer hWord,
        runs_introducer hOther] at hRuns
      have hEqual : other = word := String.toList_inj.mp (List.cons.inj hRuns).1.symm
      rw [hEqual, beq_self_eq_true] at hSame
      simp at hSame

/-- The introducer that is found in front of a new word is the first one of this very word. -/
theorem findIntroducer?_word {introducers : List Introducer}
    (hIntroducers : ∀ introducer ∈ introducers, isIntroducerWord introducer.word = true)
    {word : String} (hWord : isIntroducerWord word = true) {rest : List Char}
    (hRest : endsWordBefore rest = true) :
    findIntroducer? introducers (word.toList ++ rest) =
      (introducers.find? (·.word == word)).map fun introducer => (introducer, rest) := by
  induction introducers with
  | nil => rfl
  | cons first others ih =>
      have hFirst := hIntroducers first List.mem_cons_self
      have hOthers := ih fun introducer hMem =>
        hIntroducers introducer (List.mem_cons_of_mem first hMem)
      unfold findIntroducer? at hOthers ⊢
      rw [List.findSome?_cons, dropPrefix?_introducer hWord hFirst hRest, List.find?_cons]
      cases first.word == word with
      | true => rfl
      | false => exact hOthers

theorem isIntroducerWord_introducer (intent : Intent) :
    isIntroducerWord intent.introducer = true := by
  cases intent <;> decide

/-- The default introducers in matching order. -/
theorem introducers_default : MethodParser.default.introducers =
    [⟨"search", .find⟩, ⟨"stream", .stream⟩, ⟨"exists", .exists⟩, ⟨"delete", .delete⟩,
      ⟨"remove", .delete⟩, ⟨"query", .find⟩, ⟨"count", .count⟩, ⟨"find", .find⟩, ⟨"read", .find⟩,
      ⟨"get", .find⟩] := by
  simp [MethodParser.default, Convention.sortedIntroducers, defaultIntroducers, List.mergeSort,
    List.MergeSort.Internal.splitInTwo, byteLength, Char.utf8Size]

/-- The introducer in front of a new word is found. -/
theorem findIntroducer?_canonical (intent : Intent) {rest : List Char}
    (hRest : endsWordBefore rest = true) :
    findIntroducer? MethodParser.default.introducers (intent.introducer.toList ++ rest) =
      some (⟨intent.introducer, intent⟩, rest) := by
  have hIntroducers : ∀ introducer ∈ MethodParser.default.introducers,
      isIntroducerWord introducer.word = true := by
    rw [introducers_default]
    decide
  have hFound : MethodParser.default.introducers.find? (·.word == intent.introducer) =
      some ⟨intent.introducer, intent⟩ := by
    rw [introducers_default]
    cases intent <;> decide
  rw [findIntroducer?_word hIntroducers (isIntroducerWord_introducer intent) hRest, hFound]
  rfl

/-! ## Introducer and subject -/

theorem endsWordBefore_append {left right : List Char} (hLeft : endsWordBefore left = true)
    (hRight : endsWordBefore right = true) : endsWordBefore (left ++ right) = true := by
  cases left with
  | nil => exact hRight
  | cons c rest => simpa using hLeft

theorem endsWordBefore_subjectText (distinct : Bool) (limit : Option Nat) :
    endsWordBefore (subjectText distinct limit) = true := by
  apply endsWordBefore_append
  · cases distinct <;> decide
  · rcases toList_canonicalLimit_cases limit with hNone | ⟨c, rest, hText, hHead, _⟩
    · rw [hNone]
      rfl
    · rw [hText, endsWordBefore_cons]
      rcases hHead with rfl | rfl <;> decide

section Subject

variable (intent : Intent) (distinct : Bool) {limit : Option Nat}

private theorem readSubject_of_splitSubject (hLimit : ∀ value ∈ limit, IsLimit value)
    {rest : List Char} (hRest : endsWordBefore rest = true) {body : Fragment} {position : Nat}
    (hSplit : splitSubject ⟨rest, byteLength intent.introducer.toList⟩ =
      (⟨subjectText distinct limit, position⟩, body)) :
    readSubject MethodParser.default.introducers (intent.introducer.toList ++ rest) =
      .ok (intent, distinct, limit, body) := by
  unfold readSubject
  rw [findIntroducer?_canonical intent hRest]
  dsimp only
  rw [hSplit]
  simp only [readLimit_subjectText distinct hLimit, containsToken_subjectText, bind, Except.bind,
    pure, Except.pure]

/-- A name that ends with its subject has nothing behind it. -/
theorem readSubject_canonical (hLimit : ∀ value ∈ limit, IsLimit value) :
    ∃ body, readSubject MethodParser.default.introducers
        (intent.introducer.toList ++ subjectText distinct limit) =
          .ok (intent, distinct, limit, body) ∧ body.text = [] := by
  have hFind : findToken? "By".toList (subjectText distinct limit) = none :=
    findToken?_eq_none (by decide) (show runs "By".toList = [] ++ ["By".toList] by decide)
      (by_not_mem_runs_subjectText distinct limit)
  have hSplit : splitSubject ⟨subjectText distinct limit, byteLength intent.introducer.toList⟩ =
      (⟨subjectText distinct limit, byteLength intent.introducer.toList⟩,
        Fragment.behind ⟨subjectText distinct limit, byteLength intent.introducer.toList⟩
          (subjectText distinct limit) []) := by
    unfold splitSubject
    dsimp only
    rw [hFind]
  exact ⟨_, readSubject_of_splitSubject intent distinct hLimit
    (endsWordBefore_subjectText distinct limit) hSplit, rfl⟩

/-- What stands behind `By` is the body of the name. -/
theorem readSubject_canonical_by (hLimit : ∀ value ∈ limit, IsLimit value) {text : List Char}
    (hText : endsWordBefore text = true) :
    ∃ body, readSubject MethodParser.default.introducers
        (intent.introducer.toList ++ (subjectText distinct limit ++ ("By".toList ++ text))) =
          .ok (intent, distinct, limit, body) ∧ body.text = text := by
  have hFind : findToken? "By".toList (subjectText distinct limit ++ ("By".toList ++ text)) =
      some (subjectText distinct limit, text) :=
    findToken?_append (by decide) (show runs "By".toList = [] ++ ["By".toList] by decide)
      List.not_mem_nil (by_not_mem_runs_subjectText distinct limit) hText
  have hSplit : ∀ position, splitSubject
      ⟨subjectText distinct limit ++ ("By".toList ++ text), position⟩ =
        (⟨subjectText distinct limit, position⟩,
          Fragment.behind ⟨subjectText distinct limit ++ ("By".toList ++ text), position⟩
            (subjectText distinct limit ++ "By".toList) text) := by
    intro position
    unfold splitSubject
    dsimp only
    rw [hFind]
    dsimp only
    rw [dropSuffix?_order_subjectText]
    rfl
  have hBy : opensWord ("By".toList ++ text) = true := opensWord_append (by decide)
  have hRest := endsWordBefore_append (endsWordBefore_subjectText distinct limit)
    (endsWordBefore_of_opensWord hBy)
  exact ⟨_, readSubject_of_splitSubject intent distinct hLimit hRest (hSplit _), rfl⟩

end Subject

/-! ## Ordering clause and case marker -/

theorem runs_orderByToken : runs orderByToken = ["Order".toList] ++ ["By".toList] := by
  decide

/-- Without a `By` there is no ordering clause. -/
theorem splitOrdering_of_not_mem {body : Fragment} (hBody : "By".toList ∉ runs body.text) :
    splitOrdering body = .ok (body, none) := by
  unfold splitOrdering
  rw [findToken?_eq_none (by decide) runs_orderByToken hBody]

/-- The ordering clause begins at the only `OrderBy`. -/
theorem splitOrdering_append {front ordering : List Char} (hFront : "By".toList ∉ runs front)
    (hOrdering : "By".toList ∉ runs ordering) (hOpens : opensWord ordering = true)
    {body : Fragment} (hBody : body.text = front ++ (orderByToken ++ ordering)) :
    ∃ clause, splitOrdering body = .ok (body.upTo front, some clause) ∧ clause.text = ordering := by
  have hFind := findToken?_append (show opensWord orderByToken = true by decide) runs_orderByToken
    (by decide) hFront (endsWordBefore_of_opensWord hOpens)
  have hNone := findToken?_eq_none (show opensWord orderByToken = true by decide) runs_orderByToken
    hOrdering
  refine ⟨body.behind (front ++ orderByToken) ordering, ?_, rfl⟩
  unfold splitOrdering
  rw [hBody, hFind]
  dsimp only
  rw [hNone]
  simp [ne_nil_of_opensWord hOpens]

/-- The marker for ignoring case everywhere is dropped. -/
theorem dropIgnoreAllCase_marker {fragment : Fragment} {criteria : List Char}
    (hText : fragment.text = criteria ++ "AllIgnoreCase".toList) :
    dropIgnoreAllCase fragment = (fragment.upTo criteria, true) := by
  simp [dropIgnoreAllCase, ignoreAllCaseMarkers, hText, dropSuffix?, dropPrefix?]

/-- Without such a marker nothing is dropped. -/
theorem dropIgnoreAllCase_of_none {fragment : Fragment}
    (hNone : ∀ marker ∈ ignoreAllCaseMarkers, dropSuffix? marker fragment.text = none) :
    dropIgnoreAllCase fragment = (fragment, false) := by
  unfold dropIgnoreAllCase
  rw [List.findSome?_eq_none_iff.mpr hNone]

end DerivedQuery
