import DerivedQuery.Proofs.Query.Outline
import DerivedQuery.Proofs.Text.Pattern
import Mathlib.Data.List.Induction
import Mathlib.Data.Nat.Digits.Defs

/-!
# The limit of a subject

A limit is one of two words, the decimal digits behind it, and a capital letter or the end of the
subject. The words also begin other words: `Firstnames` and `Topics` are no limits, and a limit may
stand behind them. The first limit of the subject counts.

Decimal digits are those of all scripts, but only ASCII digits have a value here. A limit without
digits is one. Digits that have no value, or one that is zero or does not fit into 64 bits, make the
subject invalid, even if a valid limit follows.

The limit can also be searched with a pattern of words, a run of digits and a capital letter or the
end. Since no digit is a capital letter, the run takes all digits that there are.

## Main definitions

* `LimitAt`, `FirstLimit`: where a limit stands, and the first one
* `placeValue`: the number that digits stand for by their places
* `LimitOutcome`: what the first limit of a subject means
* `accumulate?`: reading digits into a register of 64 bits
* `limitPattern`, `searchLimit`: searching a limit with a pattern

## Main results

* `findLimit?_eq_some_iff`, `findLimit?_eq_none_iff`: the first limit is found
* `accumulate?_eq_some_iff`: the register overflows if the value does not fit
* `readLimit_eq_searchLimit`: the search with the pattern gives the same limits and errors
* `readLimit_exact`: the limit of every subject
-/

namespace DerivedQuery

open Text

/-! ## Where a limit stands -/

/-- Behind the front of a text stands a limit: one of its words and all decimal digits that follow
it, and then a capital letter or the end of the text. -/
structure LimitAt (text front word digits rest : List Char) : Prop where
  text : text = front ++ (word ++ (digits ++ rest))
  word : word = "First".toList ∨ word = "Top".toList
  digits : ∀ c ∈ digits, isDecimalDigit c = true
  maximal : ∀ c ∈ rest.head?, isDecimalDigit c = false
  ends : ∀ c ∈ rest.head?, isCapitalLetter c = true

/-- The limit behind this front is the first one of the text. -/
structure FirstLimit (text front word digits : List Char) : Prop where
  here : ∃ rest, LimitAt text front word digits rest
  first : ∀ {other word digits rest : List Char}, LimitAt text other word digits rest →
    front.length ≤ other.length

/-! ## Digits and capital letters -/

/-- The runs of digits and those of uppercase characters lie apart. -/
theorem decimalDigitRanges_apart : decimalDigitRanges.all (fun digits =>
    uppercaseRanges.all fun letters =>
      decide (digits.last < letters.first) || decide (letters.last < digits.first)) = true := by
  decide +kernel

/-- No decimal digit is a capital letter. -/
theorem isCapitalLetter_of_isDecimalDigit {c : Char} (hDigit : isDecimalDigit c = true) :
    isCapitalLetter c = false := by
  have hUppercase : isUppercase c = false := by
    by_cases hAscii : c.toNat < 128
    · rw [isDecimalDigit, if_pos hAscii] at hDigit
      exact isUppercase_of_isDigit hDigit
    · rw [isDecimalDigit, if_neg hAscii] at hDigit
      rw [isUppercase, if_neg hAscii, Bool.eq_false_iff]
      intro hLetter
      obtain ⟨digits, hDigits, hIn⟩ := List.any_eq_true.mp hDigit
      obtain ⟨letters, hLetters, hAlso⟩ := List.any_eq_true.mp hLetter
      have hApart := List.all_eq_true.mp
        (List.all_eq_true.mp decimalDigitRanges_apart digits hDigits) letters hLetters
      simp only [CodeRun.contains, Bool.and_eq_true, decide_eq_true_eq] at hIn hAlso
      simp only [Bool.or_eq_true, decide_eq_true_eq] at hApart
      omega
  rw [isCapitalLetter, hUppercase, Bool.false_and]

/-! ## The first limit is found -/

section Find

variable {text front word digits rest : List Char}

/-- A limit at the beginning of a text is read from the word and what follows it. -/
theorem limitHere?_append (hWord : word = "First".toList ∨ word = "Top".toList)
    (rest : List Char) :
    limitHere? (word ++ rest) =
      if (rest.dropWhile isDecimalDigit).head?.all isCapitalLetter then
        some (word, rest.takeWhile isDecimalDigit)
      else
        none := by
  rw [limitHere?, limitWords, List.findSome?_cons, List.findSome?_cons, List.findSome?_nil]
  rcases hWord with rfl | rfl
  · have hFirst : dropPrefix? "First".toList ("First".toList ++ rest) = some rest :=
      dropPrefix?_eq_some_iff.mpr rfl
    have hTop : dropPrefix? "Top".toList ("First".toList ++ rest) = none := rfl
    rw [hFirst, hTop, Option.bind_some, Option.bind_none]
    cases (rest.dropWhile isDecimalDigit).head?.all isCapitalLetter <;> rfl
  · have hFirst : dropPrefix? "First".toList ("Top".toList ++ rest) = none := rfl
    have hTop : dropPrefix? "Top".toList ("Top".toList ++ rest) = some rest :=
      dropPrefix?_eq_some_iff.mpr rfl
    rw [hFirst, hTop, Option.bind_some, Option.bind_none]
    cases (rest.dropWhile isDecimalDigit).head?.all isCapitalLetter <;> rfl

private theorem limitHere?_eq_some_iff :
    limitHere? text = some (word, digits) ↔ ∃ rest, LimitAt text [] word digits rest := by
  constructor
  · intro hHere
    obtain ⟨found, hWord, hFound⟩ := List.exists_of_findSome?_eq_some hHere
    obtain ⟨rest, hDrop, hEnds⟩ := Option.bind_eq_some_iff.mp hFound
    split at hEnds
    · rename_i hCapital
      simp only [Option.some.injEq, Prod.mk.injEq] at hEnds
      obtain ⟨rfl, rfl⟩ := hEnds
      refine ⟨rest.dropWhile isDecimalDigit, ?_, by simpa [limitWords] using hWord,
        fun c => List.mem_takeWhile_imp, ?_, ?_⟩
      · rw [List.takeWhile_append_dropWhile, List.nil_append]
        exact dropPrefix?_eq_some_iff.mp hDrop
      · intro c hHead
        have hOther := List.head?_dropWhile_not isDecimalDigit rest
        rwa [Option.mem_def.mp hHead] at hOther
      · simpa [Option.all_eq_true] using hCapital
    · simp at hEnds
  · rintro ⟨rest, hText, hWord, hDigits, hMaximal, hEnds⟩
    rw [hText, List.nil_append, limitHere?_append hWord, List.takeWhile_append_of_pos hDigits,
      List.dropWhile_append_of_pos hDigits]
    cases rest with
    | nil => simp
    | cons c behind =>
        have hOther : isDecimalDigit c = false := hMaximal c rfl
        have hCapital : isCapitalLetter c = true := hEnds c rfl
        simp [hOther, hCapital]

/-- Behind its first character, a text has the limits of the rest. -/
theorem limitAt_cons_iff {c d : Char} :
    LimitAt (c :: text) (d :: front) word digits rest ↔ c = d ∧ LimitAt text front word digits rest := by
  constructor
  · rintro ⟨hText, hWord, hDigits, hMaximal, hEnds⟩
    obtain ⟨hHead, hTail⟩ := List.cons.inj hText
    exact ⟨hHead, hTail, hWord, hDigits, hMaximal, hEnds⟩
  · rintro ⟨rfl, hText, hWord, hDigits, hMaximal, hEnds⟩
    exact ⟨congrArg (List.cons c) hText, hWord, hDigits, hMaximal, hEnds⟩

/-- If no limit stands at the beginning of a text, each limit stands in what follows. -/
theorem limitAt_behind {c : Char} (hHere : limitHere? (c :: text) = none)
    (hLimit : LimitAt (c :: text) front word digits rest) :
    ∃ more, front = c :: more ∧ LimitAt text more word digits rest := by
  cases front with
  | nil =>
      rw [limitHere?_eq_some_iff.mpr ⟨rest, hLimit⟩] at hHere
      simp at hHere
  | cons d more =>
      obtain ⟨rfl, hMore⟩ := limitAt_cons_iff.mp hLimit
      exact ⟨more, rfl, hMore⟩

private theorem not_limitAt_nil : ¬LimitAt [] front word digits rest := by
  rintro ⟨hText, hWord, -⟩
  obtain ⟨-, hBehind⟩ := List.append_eq_nil_iff.mp hText.symm
  obtain ⟨rfl, -⟩ := List.append_eq_nil_iff.mp hBehind
  simp at hWord

/-- **The first limit is found.** -/
theorem findLimit?_eq_some_iff :
    findLimit? text = some (front, word, digits) ↔ FirstLimit text front word digits := by
  induction text generalizing front with
  | nil =>
      constructor
      · intro hFound
        simp [findLimit?] at hFound
      · rintro ⟨⟨rest, hLimit⟩, -⟩
        exact absurd hLimit not_limitAt_nil
  | cons c text ih =>
      rw [findLimit?]
      cases hHere : limitHere? (c :: text) with
      | some found =>
          obtain ⟨rest, hLimit⟩ := limitHere?_eq_some_iff.mp hHere
          constructor
          · intro hFound
            simp only [Option.some.injEq, Prod.mk.injEq] at hFound
            obtain ⟨rfl, hPair⟩ := hFound
            exact ⟨⟨rest, by simpa [hPair] using hLimit⟩, fun _ => Nat.zero_le _⟩
          · rintro ⟨⟨behind, hOther⟩, hFirst⟩
            obtain rfl := List.eq_nil_of_length_eq_zero (Nat.le_zero.mp (hFirst hLimit))
            rw [limitHere?_eq_some_iff.mpr ⟨behind, hOther⟩] at hHere
            simp [← Option.some.inj hHere]
      | none =>
          constructor
          · intro hFound
            obtain ⟨⟨left, found⟩, hFind, hPair⟩ := Option.map_eq_some_iff.mp hFound
            simp only [Prod.mk.injEq] at hPair
            obtain ⟨rfl, rfl⟩ := hPair
            obtain ⟨⟨rest, hLimit⟩, hFirst⟩ := ih.mp hFind
            refine ⟨⟨rest, limitAt_cons_iff.mpr ⟨rfl, hLimit⟩⟩, fun hOther => ?_⟩
            obtain ⟨more, rfl, hMore⟩ := limitAt_behind hHere hOther
            exact Nat.succ_le_succ (hFirst hMore)
          · rintro ⟨⟨rest, hLimit⟩, hFirst⟩
            obtain ⟨left, rfl, hLeft⟩ := limitAt_behind hHere hLimit
            have hFind := ih.mpr ⟨⟨rest, hLeft⟩, fun hOther =>
              Nat.le_of_succ_le_succ (hFirst (limitAt_cons_iff.mpr ⟨rfl, hOther⟩))⟩
            simp [hFind]

/-- Nothing is found only if there is no limit. -/
theorem findLimit?_eq_none_iff :
    findLimit? text = none ↔ ∀ front word digits rest, ¬LimitAt text front word digits rest := by
  constructor
  · intro hNone front word digits rest hLimit
    induction text generalizing front with
    | nil => exact not_limitAt_nil hLimit
    | cons c text ih =>
        rw [findLimit?] at hNone
        cases hHere : limitHere? (c :: text) with
        | some found => simp [hHere] at hNone
        | none =>
            obtain ⟨more, -, hMore⟩ := limitAt_behind hHere hLimit
            rw [hHere] at hNone
            exact ih (Option.map_eq_none_iff.mp hNone) more hMore
  · intro hNone
    cases hFound : findLimit? text with
    | none => rfl
    | some found =>
        obtain ⟨⟨rest, hLimit⟩, -⟩ := findLimit?_eq_some_iff.mp hFound
        exact absurd hLimit (hNone _ _ _ rest)

end Find

/-! ## The value of digits -/

section Digits

variable {digits : List Char} {value : Nat}

/-- The value of an ASCII digit. -/
def digitValue (c : Char) : Nat :=
  c.toNat - '0'.toNat

/-- The number that digits stand for by their places. -/
def placeValue (digits : List Char) : Nat :=
  Nat.ofDigits 10 (digits.reverse.map digitValue)

private theorem placeValue_append (front : List Char) (c : Char) :
    placeValue (front ++ [c]) = 10 * placeValue front + digitValue c := by
  rw [placeValue, List.reverse_append, List.reverse_singleton, List.singleton_append, List.map_cons,
    Nat.ofDigits_cons, Nat.add_comm, placeValue]

/-- Digits that are read from left to right have their place value. -/
theorem decimalValue_eq (digits : List Char) : decimalValue digits = placeValue digits := by
  induction digits using List.reverseRecOn with
  | nil => rfl
  | append_singleton front c ih =>
      rw [placeValue_append, ← ih, decimalValue, List.foldl_append]
      rfl

/-- Shifts an ASCII digit into a register of 64 bits, unless it overflows. -/
def shiftIn? (register : Nat) (c : Char) : Option Nat :=
  if c.isDigit && 10 * register + digitValue c < UInt64.size then
    some (10 * register + digitValue c)
  else
    none

/-- Reads digits one after the other into a register of 64 bits. -/
def accumulate? (digits : List Char) : Option Nat :=
  digits.foldlM shiftIn? 0

private theorem shiftIn?_eq_some_iff {register : Nat} {c : Char} :
    shiftIn? register c = some value ↔
      c.isDigit = true ∧ 10 * register + digitValue c = value ∧ value < UInt64.size := by
  unfold shiftIn?
  split
  · rename_i hShift
    simp only [Bool.and_eq_true, decide_eq_true_eq] at hShift
    constructor
    · intro hValue
      rw [← Option.some.inj hValue]
      exact ⟨hShift.1, rfl, hShift.2⟩
    · rintro ⟨_, rfl, _⟩
      rfl
  · rename_i hShift
    simp only [Bool.and_eq_true, decide_eq_true_eq] at hShift
    constructor
    · intro hValue
      simp at hValue
    · rintro ⟨hDigit, rfl, hSmall⟩
      exact absurd ⟨hDigit, hSmall⟩ hShift

/-- **The register overflows** only if the value of all digits does not fit. -/
theorem accumulate?_eq_some_iff :
    accumulate? digits = some value ↔
      (∀ c ∈ digits, c.isDigit = true) ∧ placeValue digits = value ∧ value < UInt64.size := by
  induction digits using List.reverseRecOn generalizing value with
  | nil =>
      constructor
      · intro hValue
        rw [← Option.some.inj hValue]
        exact ⟨by simp, rfl, by decide⟩
      · rintro ⟨_, rfl, _⟩
        rfl
  | append_singleton front c ih =>
      have hStep : accumulate? (front ++ [c]) =
          (accumulate? front).bind fun register => shiftIn? register c := by
        simp [accumulate?, List.foldlM_append]
      rw [hStep, Option.bind_eq_some_iff, placeValue_append]
      constructor
      · rintro ⟨register, hRegister, hShift⟩
        obtain ⟨hFront, rfl, _⟩ := ih.mp hRegister
        obtain ⟨hDigit, hValue, hSmall⟩ := shiftIn?_eq_some_iff.mp hShift
        refine ⟨fun d hD => ?_, hValue, hSmall⟩
        rcases List.mem_append.mp hD with hOld | hNew
        · exact hFront d hOld
        · rwa [List.mem_singleton.mp hNew]
      · rintro ⟨hAscii, hValue, hSmall⟩
        have hFront : ∀ d ∈ front, d.isDigit = true :=
          fun d hD => hAscii d (List.mem_append_left [c] hD)
        have hDigit : c.isDigit = true := hAscii c (by simp)
        have hLess : placeValue front < UInt64.size := by omega
        exact ⟨placeValue front, ih.mpr ⟨hFront, rfl, hLess⟩,
          shiftIn?_eq_some_iff.mpr ⟨hDigit, hValue, hSmall⟩⟩

/-- The value of a limit is what the register holds, if it is not zero. -/
theorem limitValue?_eq_accumulate? (hDigits : digits ≠ []) :
    limitValue? digits = (accumulate? digits).filter (0 < ·) := by
  apply Option.ext
  intro value
  rw [limitValue?_eq_some_iff hDigits, decimalValue_eq, Option.filter_eq_some_iff,
    accumulate?_eq_some_iff, IsLimit, decide_eq_true_eq]
  tauto

end Digits

/-! ## Searching with a pattern -/

/-- A word and a run of digits, both of interest, and then a capital letter or the end. -/
def limitPattern : Pattern :=
  .both (.group (.either (.word "First".toList) (.word "Top".toList)))
    (.both (.group (.many isDecimalDigit)) (.either (.one isCapitalLetter) .finish))

/-- Searches the limit of a subject with the pattern and reads its digits one after the other. -/
def searchLimit (subject : Fragment) : Except SyntaxError (Option Nat) :=
  match limitPattern.search? subject.text with
  | some (front, [word, digits]) =>
      if digits.isEmpty then
        .ok (some 1)
      else
        match accumulate? digits with
        | none | some 0 => .error (.about .invalidLimit (subject.behind front (word ++ digits)))
        | some limit => .ok (some limit)
  | _ => .ok none

/-- What follows the digits of a limit matches in one way or not at all. -/
theorem matchesOf_ending (rest : List Char) :
    (Pattern.either (.one isCapitalLetter) .finish).matchesOf rest =
      if rest.head?.all isCapitalLetter then [⟨rest.take 1, [], rest.drop 1⟩] else [] := by
  cases rest with
  | nil => rfl
  | cons c behind => cases hCapital : isCapitalLetter c <;> simp [Pattern.matchesOf, hCapital]

/-- The run of digits gives nothing back, since no digit is a capital letter. -/
theorem matchesOf_digits (rest : List Char) :
    (Pattern.both (.group (.many isDecimalDigit))
        (.either (.one isCapitalLetter) .finish)).matchesOf rest =
      if (rest.dropWhile isDecimalDigit).head?.all isCapitalLetter then
        [⟨rest.takeWhile isDecimalDigit ++ (rest.dropWhile isDecimalDigit).take 1,
          [rest.takeWhile isDecimalDigit], (rest.dropWhile isDecimalDigit).drop 1⟩]
      else
        [] := by
  rw [Pattern.matchesOf_run, matchesOf_ending]
  · split <;> rfl
  · intro c behind hDigit
    rw [matchesOf_ending]
    simp [isCapitalLetter_of_isDecimalDigit hDigit]

/-- The ways to match are those behind each of the words. -/
theorem matchesOf_limitPattern (text : List Char) :
    limitPattern.matchesOf text = limitWords.flatMap fun word =>
      (dropPrefix? word text).toList.flatMap fun rest =>
        ((Pattern.both (.group (.many isDecimalDigit))
          (.either (.one isCapitalLetter) .finish)).matchesOf rest).map fun right =>
            ⟨word ++ right.taken, word :: right.groups, right.rest⟩ := by
  have hWord : ∀ word : List Char, (Pattern.word word).matchesOf text =
      (dropPrefix? word text).toList.map fun rest => ⟨word, [], rest⟩ := by
    intro word
    rw [Pattern.matchesOf]
    cases dropPrefix? word text <;> rfl
  rw [limitPattern, Pattern.matchesOf, Pattern.matchesOf, Pattern.matchesOf, hWord, hWord,
    List.map_append, List.flatMap_append, List.map_map, List.map_map, List.flatMap_map,
    List.flatMap_map, limitWords, List.flatMap_cons, List.flatMap_cons, List.flatMap_nil,
    List.append_nil]
  rfl

/-- The preferred way to match at the beginning of a text is the limit there. -/
theorem head?_matchesOf_limitPattern (text : List Char) :
    (limitPattern.matchesOf text).head?.map (·.groups) =
      (limitHere? text).map fun found => [found.1, found.2] := by
  rw [matchesOf_limitPattern, List.head?_flatMap, limitHere?, List.map_findSome?,
    List.map_findSome?]
  congr 1
  funext word
  dsimp only [Function.comp]
  cases dropPrefix? word text with
  | none => rfl
  | some rest =>
      rw [Option.toList_some, List.flatMap_singleton, matchesOf_digits, Option.bind_some]
      split <;> rfl

/-- The search with the pattern finds the first limit. -/
theorem search?_limitPattern (text : List Char) :
    limitPattern.search? text =
      (findLimit? text).map fun (front, word, digits) => (front, [word, digits]) := by
  induction text with
  | nil => rfl
  | cons c text ih =>
      have hHead := head?_matchesOf_limitPattern (c :: text)
      rw [Pattern.search?, findLimit?]
      cases hHere : limitHere? (c :: text) with
      | none =>
          rw [hHere, Option.map_none, Option.map_eq_none_iff] at hHead
          rw [hHead, ih]
          simp [Option.map_map, Function.comp_def]
      | some found =>
          rw [hHere, Option.map_some, Option.map_eq_some_iff] at hHead
          obtain ⟨preferred, hPreferred, hGroups⟩ := hHead
          rw [hPreferred]
          simp [hGroups]

/-- **The search with the pattern gives the same limits and errors.** -/
theorem readLimit_eq_searchLimit (subject : Fragment) : readLimit subject = searchLimit subject := by
  unfold readLimit searchLimit
  rw [search?_limitPattern]
  cases findLimit? subject.text with
  | none => rfl
  | some found =>
      obtain ⟨front, word, digits⟩ := found
      by_cases hDigits : digits = []
      · subst hDigits
        rfl
      · have hEmpty : digits.isEmpty = false := by simpa using hDigits
        simp only [Option.map_some, limitValue?_eq_accumulate? hDigits, hEmpty]
        rcases accumulate? digits with _ | _ | limit <;> simp [Option.filter_some]

/-! ## The limit of a subject -/

/-- What the first limit of a subject means: nothing if there is none, one if it has no digits, and
else the value of ASCII digits that is positive and fits into 64 bits. Other digits are at fault,
together with their word. -/
inductive LimitOutcome (subject : Fragment) : Except SyntaxError (Option Nat) → Prop
  | none
      (hNone : ∀ front word digits rest, ¬LimitAt subject.text front word digits rest) :
      LimitOutcome subject (.ok none)
  | bare {front word : List Char} (hFirst : FirstLimit subject.text front word []) :
      LimitOutcome subject (.ok (some 1))
  | number {front word digits : List Char} (hFirst : FirstLimit subject.text front word digits)
      (hDigits : digits ≠ []) (hAscii : ∀ c ∈ digits, c.isDigit = true)
      (hPositive : 1 ≤ placeValue digits) (hSmall : placeValue digits ≤ 2 ^ 64 - 1) :
      LimitOutcome subject (.ok (some (placeValue digits)))
  | invalid {front word digits : List Char} (hFirst : FirstLimit subject.text front word digits)
      (hDigits : digits ≠ [])
      (hValue : ¬((∀ c ∈ digits, c.isDigit = true) ∧ 1 ≤ placeValue digits ∧
        placeValue digits ≤ 2 ^ 64 - 1)) :
      LimitOutcome subject (.error
        { kind := .invalidLimit
          fragment := String.ofList (word ++ digits)
          position := subject.position + byteLength front })

private theorem isLimit_iff {value : Nat} : IsLimit value ↔ 1 ≤ value ∧ value ≤ 2 ^ 64 - 1 := by
  have hSize : UInt64.size = 2 ^ 64 := rfl
  rw [IsLimit, hSize]
  omega

/-- The limit that is read is what the first limit means. -/
theorem readLimit_eq_iff {subject : Fragment} {outcome : Except SyntaxError (Option Nat)} :
    readLimit subject = outcome ↔ LimitOutcome subject outcome := by
  constructor
  · rintro rfl
    unfold readLimit
    cases hFind : findLimit? subject.text with
    | none => exact .none (findLimit?_eq_none_iff.mp hFind)
    | some found =>
        obtain ⟨front, word, digits⟩ := found
        have hFirst := findLimit?_eq_some_iff.mp hFind
        by_cases hDigits : digits = []
        · subst hDigits
          exact .bare hFirst
        · dsimp only
          cases hValue : limitValue? digits with
          | some limit =>
              obtain ⟨hAscii, rfl, hLimit⟩ := (limitValue?_eq_some_iff hDigits).mp hValue
              rw [decimalValue_eq] at hLimit ⊢
              obtain ⟨hPositive, hSmall⟩ := isLimit_iff.mp hLimit
              exact .number hFirst hDigits hAscii hPositive hSmall
          | none =>
              refine .invalid hFirst hDigits ?_
              rintro ⟨hAscii, hLimit⟩
              rw [(limitValue?_eq_some_iff hDigits).mpr
                ⟨hAscii, decimalValue_eq digits, isLimit_iff.mpr hLimit⟩] at hValue
              simp at hValue
  · intro hOutcome
    unfold readLimit
    cases hOutcome with
    | none hNone => rw [findLimit?_eq_none_iff.mpr hNone]
    | bare hFirst =>
        rw [findLimit?_eq_some_iff.mpr hFirst]
        rfl
    | number hFirst hDigits hAscii hPositive hSmall =>
        rw [findLimit?_eq_some_iff.mpr hFirst]
        dsimp only
        rw [(limitValue?_eq_some_iff hDigits).mpr
          ⟨hAscii, decimalValue_eq _, isLimit_iff.mpr ⟨hPositive, hSmall⟩⟩]
    | @invalid front word digits hFirst hDigits hValue =>
        have hNone : limitValue? digits = Option.none := by
          rw [Option.eq_none_iff_forall_ne_some]
          intro limit hLimit
          obtain ⟨hAscii, rfl, hBounds⟩ := (limitValue?_eq_some_iff hDigits).mp hLimit
          rw [decimalValue_eq] at hBounds
          exact hValue ⟨hAscii, isLimit_iff.mp hBounds⟩
        rw [findLimit?_eq_some_iff.mpr hFirst]
        dsimp only
        rw [hNone]
        rfl

/-- A number behind `Top` is read back, with or without `Distinct` in front. -/
theorem readLimit_top (distinct : Bool) {limit : Nat} (hLimit : IsLimit limit) (position : Nat) :
    readLimit ⟨(if distinct then "Distinct".toList else []) ++ ("Top" ++ toString limit).toList,
      position⟩ = .ok (some limit) := by
  have hFront : ∀ c ∈ if distinct then "Distinct".toList else [], c ≠ 'F' ∧ c ≠ 'T' := by
    cases distinct <;> simp
  have hTop : ("Top" ++ toString limit).toList = "Top".toList ++ Nat.toDigits 10 limit := by
    rw [String.toList_append, Nat.toString_eq_ofList_toDigits]
    simp
  unfold readLimit
  dsimp only
  rw [hTop, findLimit?_append hFront, findLimit?_top fun _ hChar => isDigit_of_mem_toDigits hChar]
  simp only [Option.map_some, limitValue?_toDigits hLimit]

/-- **The limit of a subject is read exactly.** Every subject has one outcome, which is what its first
limit means. A search with the pattern, with the digits read into a register one after the other, has
the same outcome. Every number from 1 to 2^64 - 1 is the limit of a subject that gives it behind
`Top`. -/
theorem readLimit_exact :
    (∀ subject outcome, readLimit subject = outcome ↔ LimitOutcome subject outcome) ∧
      (∀ subject, readLimit subject = searchLimit subject) ∧
      ∀ (distinct : Bool) (limit position : Nat), 1 ≤ limit → limit ≤ 2 ^ 64 - 1 →
        readLimit ⟨(if distinct then "Distinct".toList else []) ++ ("Top" ++ toString limit).toList,
          position⟩ = .ok (some limit) := by
  refine ⟨fun _ _ => readLimit_eq_iff, readLimit_eq_searchLimit, ?_⟩
  intro distinct limit position hPositive hSmall
  exact readLimit_top distinct (isLimit_iff.mpr ⟨hPositive, hSmall⟩) position

/-- Words that only begin like a limit are passed over. A leading zero has no weight, and one more
than fits into 64 bits is at fault. -/
theorem readLimit_exact_topics :
    readLimit ⟨"FirstnamesTop03Users".toList, 4⟩ = .ok (some 3) ∧
      readLimit ⟨"TopicsFirst18446744073709551616".toList, 4⟩ =
        .error ⟨.invalidLimit, "First18446744073709551616", 10, none⟩ ∧
      readLimit ⟨"DistinctTop18446744073709551615".toList, 4⟩ =
        .ok (some 18446744073709551615) := by
  have hNames : FirstLimit "FirstnamesTop03Users".toList "Firstnames".toList "Top".toList
      "03".toList := findLimit?_eq_some_iff.mp (by decide)
  have hThree : placeValue "03".toList = 3 := by
    rw [← decimalValue_eq]
    decide
  have hTopics : FirstLimit "TopicsFirst18446744073709551616".toList "Topics".toList
      "First".toList "18446744073709551616".toList := findLimit?_eq_some_iff.mp (by decide)
  have hLarge : placeValue "18446744073709551616".toList = 2 ^ 64 := by
    rw [← decimalValue_eq]
    decide
  obtain ⟨hOutcome, _, hTop⟩ := readLimit_exact
  refine ⟨?_, ?_, hTop true 18446744073709551615 4 (by decide) (by decide)⟩
  · rw [← hThree]
    exact (hOutcome _ _).mpr (.number hNames (by decide) (by simp) (by omega) (by omega))
  · have hFault := (hOutcome ⟨"TopicsFirst18446744073709551616".toList, 4⟩ _).mpr
      (.invalid hTopics (by decide) (by omega))
    exact hFault

end DerivedQuery
