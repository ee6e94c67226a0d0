import DerivedQuery.Text.Cut

/-!
# Runs of a text

A reader of method names sees a text as a sequence of *runs*, each of which starts at an uppercase
character (the first one perhaps not). The fixed words of a method name are runs or sequences of
runs, and a place where such a word stands and ends is a place in the sequence of runs.

Everything about runs follows from one equation: they are additive at the end of a word
(`runs_append`). A text with a word in it therefore has the runs of the word among its own, and a
word whose last run does not occur in a text does not stand there.

## Main results

* `runs_append`, `flatten_runs`, `runs_singleton`
* `runs_append_singleton`: a character that is not uppercase belongs to the last run
* `exists_run_of_runs_append_eq`: the place of a shorter beginning in the sequence of runs
* `findToken?_append`: the first place of a word, behind a text without its last run
* `findToken?_eq_none`: a word whose last run does not occur is not found
-/

namespace DerivedQuery.Text

/-! ## Word starts -/

@[simp]
theorem opensWord_cons (c : Char) (rest : List Char) : opensWord (c :: rest) = isUppercase c := by
  simp [opensWord]

@[simp]
theorem endsWordBefore_cons (c : Char) (rest : List Char) :
    endsWordBefore (c :: rest) = isUppercase c := by
  simp [endsWordBefore]

@[simp]
theorem endsWordBefore_nil : endsWordBefore [] = true :=
  rfl

theorem ne_nil_of_opensWord {text : List Char} (hOpens : opensWord text = true) : text ≠ [] := by
  rintro rfl
  simp [opensWord] at hOpens

/-- A text that opens a word can stand behind any word. -/
theorem endsWordBefore_of_opensWord {text : List Char} (hOpens : opensWord text = true) :
    endsWordBefore text = true := by
  cases text with
  | nil => rfl
  | cons c rest => simpa using hOpens

theorem opensWord_append {text rest : List Char} (hOpens : opensWord text = true) :
    opensWord (text ++ rest) = true := by
  cases text with
  | nil => simp [opensWord] at hOpens
  | cons c more => simpa using hOpens

/-! ## Runs -/

/-- The text cut before every uppercase character. -/
def runs : List Char → List (List Char)
  | [] => []
  | c :: rest =>
      match runs rest with
      | [] => [[c]]
      | run :: more => if opensWord rest then [c] :: run :: more else (c :: run) :: more

@[simp]
theorem runs_nil : runs [] = [] :=
  rfl

/-- Before a word a run ends. -/
theorem runs_cons_of_opensWord {rest : List Char} (c : Char) (hOpens : opensWord rest = true) :
    runs (c :: rest) = [c] :: runs rest := by
  rw [runs]
  cases hRuns : runs rest with
  | nil => rfl
  | cons run more => simp [hOpens]

@[simp]
theorem flatten_runs (text : List Char) : (runs text).flatten = text := by
  induction text with
  | nil => rfl
  | cons c rest ih =>
      rw [runs]
      cases hRuns : runs rest with
      | nil =>
          rw [hRuns] at ih
          simp [← ih]
      | cons run more =>
          rw [hRuns] at ih
          simp only [List.flatten_cons] at ih
          dsimp only
          split <;> simp [ih]

theorem runs_ne_nil {text : List Char} (hText : text ≠ []) : runs text ≠ [] := by
  intro hRuns
  have hFlatten := flatten_runs text
  rw [hRuns] at hFlatten
  exact hText hFlatten.symm

/-- **Runs are additive at the end of a word.** -/
theorem runs_append (left : List Char) {right : List Char} (hRight : endsWordBefore right = true) :
    runs (left ++ right) = runs left ++ runs right := by
  induction left with
  | nil => rfl
  | cons c rest ih =>
      cases rest with
      | nil =>
          cases right with
          | nil => simp
          | cons d more =>
              have hOpens : opensWord (d :: more) = true := by simpa using hRight
              rw [List.cons_append, List.nil_append, runs_cons_of_opensWord c hOpens]
              rfl
      | cons d more =>
          have hNonempty : runs (d :: more) ≠ [] := runs_ne_nil (by simp)
          obtain ⟨run, others, hRuns⟩ := List.exists_cons_of_ne_nil hNonempty
          rw [List.cons_append, runs, ih, hRuns, runs, hRuns]
          simp only [List.cons_append, opensWord_cons]
          split <;> rfl

/-- A text without an uppercase character after its first one is a single run. -/
theorem runs_singleton (c : Char) {rest : List Char} (hRest : ∀ d ∈ rest, isUppercase d = false) :
    runs (c :: rest) = [c :: rest] := by
  induction rest generalizing c with
  | nil => rfl
  | cons d more ih =>
      have hMore := ih d fun e hE => hRest e (List.mem_cons_of_mem d hE)
      have hOpens : opensWord (d :: more) = false := by
        simpa using hRest d List.mem_cons_self
      rw [runs, hMore]
      simp [hOpens]

/-- A character that is not uppercase belongs to the last run. -/
theorem runs_append_singleton {text : List Char} (hText : text ≠ []) {c : Char}
    (hChar : isUppercase c = false) :
    ∃ initial last, runs text = initial ++ [last] ∧ runs (text ++ [c]) = initial ++ [last ++ [c]] := by
  induction text with
  | nil => exact absurd rfl hText
  | cons d rest ih =>
      cases rest with
      | nil => exact ⟨[], [d], rfl, by simp [runs, hChar]⟩
      | cons e more =>
          obtain ⟨initial, last, hRuns, hLonger⟩ := ih (by simp)
          by_cases hOpens : isUppercase e = true
          · refine ⟨[d] :: initial, last, ?_, ?_⟩
            · rw [runs_cons_of_opensWord d (by simpa using hOpens), hRuns]
              rfl
            · rw [List.cons_append, runs_cons_of_opensWord d (by simpa using hOpens), hLonger]
              rfl
          · have hGo : ∀ run others tail, runs (e :: tail) = run :: others →
                runs (d :: e :: tail) = (d :: run) :: others := by
              intro run others tail hTail
              rw [runs, hTail]
              simp [hOpens]
            cases initial with
            | nil => exact ⟨[], d :: last, hGo last [] more hRuns, hGo (last ++ [c]) [] _ hLonger⟩
            | cons first others =>
                exact ⟨(d :: first) :: others, last, hGo first _ more hRuns, hGo first _ _ hLonger⟩

private theorem endsWordBefore_flatten {words : List (List Char)}
    (hWords : ∀ word ∈ words, opensWord word = true) : endsWordBefore words.flatten = true := by
  cases words with
  | nil => rfl
  | cons word rest =>
      exact endsWordBefore_of_opensWord (opensWord_append (hWords word List.mem_cons_self))

/-- The runs of several words are the runs of each. -/
theorem runs_flatten {words : List (List Char)} (hWords : ∀ word ∈ words, opensWord word = true) :
    runs words.flatten = words.flatMap runs := by
  induction words with
  | nil => rfl
  | cons word rest ih =>
      have hRest : ∀ other ∈ rest, opensWord other = true :=
        fun other hOther => hWords other (List.mem_cons_of_mem word hOther)
      rw [List.flatten_cons, runs_append word (endsWordBefore_flatten hRest), ih hRest,
        List.flatMap_cons]

/-- If the runs of one text are continued to the same sequence as those of a longer one, then the
longer one has further runs, and they stand at the beginning of what follows the shorter one. -/
theorem exists_run_of_runs_append_eq {short long : List Char} {first second : List (List Char)}
    (hRuns : runs short ++ first = runs long ++ second) (hShort : short.length < long.length) :
    ∃ run more, runs long = runs short ++ run :: more ∧ first = run :: more ++ second := by
  rcases List.append_eq_append_iff.mp hRuns with ⟨between, hLong, hFirst⟩ | ⟨between, hLong, _⟩
  · cases between with
    | nil =>
        have hFlatten := congrArg List.flatten hLong
        rw [List.append_nil, flatten_runs, flatten_runs] at hFlatten
        rw [hFlatten] at hShort
        omega
    | cons run more => exact ⟨run, more, hLong, hFirst⟩
  · -- the runs of the longer text cannot be a beginning of those of the shorter one
    have hFlatten := congrArg (fun lists => lists.flatten.length) hLong
    simp only [flatten_runs, List.flatten_append, List.length_append] at hFlatten
    omega

/-! ## Words in a text -/

/-- Where a word stands and ends, its runs stand among those of the text. -/
theorem runs_append_word (front : List Char) {word rest : List Char} (hWord : opensWord word = true)
    (hRest : endsWordBefore rest = true) :
    runs (front ++ (word ++ rest)) = runs front ++ (runs word ++ runs rest) := by
  rw [runs_append front (endsWordBefore_of_opensWord (opensWord_append hWord)), runs_append word hRest]

/-- A word cannot begin inside of a text and end in it or in the same word behind it, unless its
last run occurs in the text. -/
theorem not_word_before {front word rest shorter other : List Char} {initial : List (List Char)}
    {last : List Char} (hWord : opensWord word = true) (hRuns : runs word = initial ++ [last])
    (hInitial : last ∉ initial) (hFront : last ∉ runs front) (hRest : endsWordBefore rest = true)
    (hOther : endsWordBefore other = true) (hShorter : shorter.length < front.length) :
    front ++ (word ++ rest) ≠ shorter ++ (word ++ other) := by
  intro hText
  have hBoth : runs shorter ++ (runs word ++ runs other) = runs front ++ (runs word ++ runs rest) := by
    rw [← runs_append_word shorter hWord hOther, ← runs_append_word front hWord hRest, hText]
  obtain ⟨run, more, hLong, hFirst⟩ := exists_run_of_runs_append_eq hBoth hShorter
  rw [hRuns] at hFirst
  -- the last run of the earlier word stands where the longer text or the word still goes on
  have hLength : initial.length < ((run :: more) ++ initial).length := by
    simp only [List.length_append, List.length_cons]
    omega
  have hLast : ((run :: more) ++ initial)[initial.length] = last := by
    have hAt := congrArg (fun lists => lists[initial.length]?) hFirst
    simp only [List.append_assoc] at hAt
    rw [List.getElem?_append_right (Nat.le_refl _), Nat.sub_self, ← List.append_assoc,
      List.getElem?_append_left hLength, List.getElem?_eq_getElem hLength] at hAt
    simpa using hAt.symm
  have hMem : last ∈ (run :: more) ++ initial := hLast ▸ List.getElem_mem hLength
  rcases List.mem_append.mp hMem with hRun | hEarlier
  · apply hFront
    rw [hLong]
    exact List.mem_append_right _ hRun
  · exact hInitial hEarlier

theorem findToken?_eq_some {token text front rest : List Char}
    (hFind : findToken? token text = some (front, rest)) :
    text = front ++ (token ++ rest) ∧ endsWordBefore rest = true := by
  fun_induction findToken? token text generalizing front rest with
  | case1 => simp at hFind
  | case2 c text right hHere =>
      simp only [Option.some.injEq, Prod.mk.injEq] at hFind
      obtain ⟨rfl, rfl⟩ := hFind
      obtain ⟨hDrop, hEnds⟩ := Option.filter_eq_some_iff.mp hHere
      exact ⟨by rw [dropPrefix?_eq_some_iff.mp hDrop, List.nil_append], hEnds⟩
  | case3 c text hHere ih =>
      obtain ⟨⟨left, right⟩, hLater, hPair⟩ := Option.map_eq_some_iff.mp hFind
      simp only [Prod.mk.injEq] at hPair
      obtain ⟨rfl, rfl⟩ := hPair
      obtain ⟨hText, hEnds⟩ := ih hLater
      exact ⟨by rw [hText]; rfl, hEnds⟩

/-- A token that ends a word somewhere is found there or earlier. -/
theorem exists_findToken?_eq_some {token rest : List Char} (front : List Char) (hToken : token ≠ [])
    (hRest : endsWordBefore rest = true) :
    ∃ left right, findToken? token (front ++ (token ++ rest)) = some (left, right) ∧
      left.length ≤ front.length := by
  induction front with
  | nil =>
      obtain ⟨c, more, rfl⟩ := List.exists_cons_of_ne_nil hToken
      have hDrop : dropPrefix? (c :: more) (c :: (more ++ rest)) = some rest :=
        dropPrefix?_eq_some_iff.mpr rfl
      exact ⟨[], rest, by simp [findToken?, hDrop, Option.filter, hRest], Nat.le_refl _⟩
  | cons c more ih =>
      obtain ⟨left, right, hFind, hLength⟩ := ih
      rw [List.cons_append, findToken?]
      split
      · rename_i here _
        exact ⟨[], here, rfl, Nat.zero_le _⟩
      · exact ⟨c :: left, right, by simp [hFind], by simpa using hLength⟩

/-- The first place of a word is behind a text in which its last run does not occur. -/
theorem findToken?_append {front word rest : List Char} {initial : List (List Char)}
    {last : List Char} (hWord : opensWord word = true) (hRuns : runs word = initial ++ [last])
    (hInitial : last ∉ initial) (hFront : last ∉ runs front) (hRest : endsWordBefore rest = true) :
    findToken? word (front ++ (word ++ rest)) = some (front, rest) := by
  obtain ⟨left, right, hFind, hLength⟩ :=
    exists_findToken?_eq_some front (ne_nil_of_opensWord hWord) hRest
  obtain ⟨hText, hRight⟩ := findToken?_eq_some hFind
  rcases Nat.lt_or_eq_of_le hLength with hShorter | hSame
  · exact absurd hText (not_word_before hWord hRuns hInitial hFront hRest hRight hShorter)
  · obtain ⟨rfl, hBehind⟩ := List.append_inj hText.symm hSame
    rw [hFind, List.append_cancel_left hBehind]

/-- A word whose last run does not occur in a text is not found in it. -/
theorem findToken?_eq_none {word text : List Char} {initial : List (List Char)} {last : List Char}
    (hWord : opensWord word = true) (hRuns : runs word = initial ++ [last])
    (hText : last ∉ runs text) : findToken? word text = none := by
  cases hFind : findToken? word text with
  | none => rfl
  | some found =>
      obtain ⟨hSplit, hRest⟩ := findToken?_eq_some hFind
      apply absurd _ hText
      rw [hSplit, runs_append_word _ hWord hRest, hRuns]
      simp

/-- A text with another last run does not end with a word. -/
theorem dropSuffix?_eq_none {word text : List Char} {initial : List (List Char)} {last : List Char}
    (hWord : opensWord word = true) (hRuns : runs word = initial ++ [last])
    (hText : (runs text).getLast? ≠ some last) : dropSuffix? word text = none := by
  cases hDrop : dropSuffix? word text with
  | none => rfl
  | some front =>
      apply absurd _ hText
      rw [dropSuffix?_eq_some_iff.mp hDrop, runs_append front (endsWordBefore_of_opensWord hWord),
        hRuns, ← List.append_assoc, List.getLast?_append]
      rfl

/-- The runs of the suffix of a text are the last ones of its runs. -/
theorem runs_of_dropSuffix? {word text front : List Char} (hWord : opensWord word = true)
    (hDrop : dropSuffix? word text = some front) : runs text = runs front ++ runs word := by
  rw [dropSuffix?_eq_some_iff.mp hDrop, runs_append front (endsWordBefore_of_opensWord hWord)]

end DerivedQuery.Text
