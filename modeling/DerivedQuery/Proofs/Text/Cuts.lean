import DerivedQuery.Proofs.Text.Runs
import Mathlib.Data.List.Basic

/-!
# The places where a text may be divided

The enumeration `cuts` holds every cut whose gap the rule allows behind its left part, shortest left
part first. A reader takes the first cut on both sides of which it succeeds, so what matters most is
which cut stands in front.

## Main results

* `Cut.after?_eq_some_iff`: a cut is found behind its left part, by its gap
* `mem_cuts`, `pairwise_cuts_of_gaps`: which cuts are enumerated, and in which order
* `cuts_eq_cons`: the cut with the shortest left part stands in front
* `cuts_eq_nil`: there are no cuts if no gap is allowed anywhere
* `runs_of_cut`: the runs of the parts of a cut
-/

namespace DerivedQuery.Text

variable {text : List Char}

/-! ## Lengths in bytes -/

theorem byteLength_eq_zero (hLength : byteLength text = 0) : text = [] := by
  cases text with
  | nil => rfl
  | cons c rest =>
      have hPositive := c.utf8Size_pos
      rw [byteLength] at hLength
      omega

/-- The lengths and positions of the reader are those of strings. -/
theorem byteLength_eq_utf8ByteSize (text : List Char) :
    byteLength text = (String.ofList text).utf8ByteSize := by
  induction text with
  | nil => rfl
  | cons c rest ih =>
      rw [byteLength, ih, String.ofList_cons, String.utf8ByteSize_append,
        String.utf8ByteSize_singleton]

/-- Of two beginnings of one text, the one with fewer characters has fewer bytes. -/
theorem byteLength_lt_of_length_lt {left right rest back : List Char}
    (hText : left ++ rest = right ++ back) (hLength : left.length < right.length) :
    byteLength left < byteLength right := by
  have hStart : left <+: right :=
    List.prefix_of_prefix_length_le ⟨rest, rfl⟩ ⟨back, hText.symm⟩ (Nat.le_of_lt hLength)
  obtain ⟨more, rfl⟩ := hStart
  rw [byteLength_append]
  have hMore : byteLength more ≠ 0 := by
    intro hZero
    rw [byteLength_eq_zero hZero, List.append_nil] at hLength
    omega
  omega

/-! ## Cuts and their gaps -/

/-- A cut is found behind its left part, by its gap. -/
theorem Cut.after?_eq_some_iff {left gap rest : List Char} {joined : left ++ rest = text}
    {left_ne_nil : left ≠ []} {cut : Cut text} :
    Cut.after? left gap rest joined left_ne_nil = some cut ↔ cut.left = left ∧ cut.gap = gap := by
  constructor
  · intro hAfter
    unfold Cut.after? at hAfter
    split at hAfter
    · simp at hAfter
    · split at hAfter
      · simp only [Option.some.injEq] at hAfter
        subst hAfter
        exact ⟨rfl, rfl⟩
      · simp at hAfter
  · rintro ⟨hLeft, hGap⟩
    obtain ⟨cutLeft, cutGap, right, cutJoined, hNonempty, hOpens⟩ := cut
    dsimp only at hLeft hGap
    subst hLeft hGap
    have hRest : rest = cutGap ++ right := by
      rw [← cutJoined] at joined
      exact List.append_cancel_left joined
    have hDrop : dropPrefix? cutGap rest = some right := dropPrefix?_eq_some_iff.mpr hRest
    unfold Cut.after?
    split
    · rename_i hNone
      rw [hDrop] at hNone
      simp at hNone
    · rename_i found hFound
      rw [hDrop, Option.some.injEq] at hFound
      subst hFound
      simp [hOpens]

/-- Behind the left part of a cut, its gap is found. -/
theorem filterMap_after?_eq_cons {cut : Cut text} {allowed more : List (List Char)}
    (hAllowed : allowed = cut.gap :: more) {left rest : List Char} (hLeft : cut.left = left)
    (joined : left ++ rest = text) (left_ne_nil : left ≠ []) :
    ∃ others, allowed.filterMap (fun gap => Cut.after? left gap rest joined left_ne_nil) =
      cut :: others := by
  have hCut : Cut.after? left cut.gap rest joined left_ne_nil = some cut :=
    Cut.after?_eq_some_iff.mpr ⟨hLeft, rfl⟩
  rw [hAllowed, List.filterMap_cons, hCut]
  exact ⟨_, rfl⟩

/-- Where no cut has its left part, none is found. -/
theorem filterMap_after?_eq_nil {allowed : List (List Char)} {left rest : List Char}
    {joined : left ++ rest = text} {left_ne_nil : left ≠ []}
    (hNone : ∀ cut : Cut text, cut.left = left → cut.gap ∉ allowed) :
    allowed.filterMap (fun gap => Cut.after? left gap rest joined left_ne_nil) = [] := by
  apply List.filterMap_eq_nil_iff.mpr
  intro gap hMem
  cases hAfter : Cut.after? left gap rest joined left_ne_nil with
  | none => rfl
  | some cut =>
      obtain ⟨hLeft, hGap⟩ := Cut.after?_eq_some_iff.mp hAfter
      rw [← hGap] at hMem
      exact absurd hMem (hNone cut hLeft)

/-! ## All cuts, in order -/

/-- Left parts of one length are the same. -/
theorem Cut.left_eq_of_length {left rest : List Char} (joined : left ++ rest = text) (cut : Cut text)
    (hLength : cut.left.length = left.length) : cut.left = left := by
  have hText : cut.left ++ (cut.gap ++ cut.right) = left ++ rest := by rw [cut.joined, joined]
  exact (List.append_inj hText hLength).1

theorem mem_cutsFrom {gaps : List Char → List (List Char)} {cut : Cut text} (left rest : List Char)
    (joined : left ++ rest = text) :
    cut ∈ cutsFrom gaps left rest joined ↔
      left.length < cut.left.length ∧ cut.gap ∈ gaps cut.left := by
  induction rest generalizing left with
  | nil =>
      have hText := congrArg List.length joined
      have hCut := cut.left_length_lt
      rw [List.append_nil] at hText
      simp only [cutsFrom, List.not_mem_nil, false_iff, not_and]
      omega
  | cons c rest ih =>
      have hNext : (left ++ [c]) ++ rest = text := by simpa using joined
      have hLength : (left ++ [c]).length = left.length + 1 := by simp
      rw [cutsFrom, List.mem_append, ih, List.mem_filterMap]
      constructor
      · rintro (⟨gap, hGap, hAfter⟩ | ⟨hLonger, hGap⟩)
        · obtain ⟨hLeft, hSame⟩ := Cut.after?_eq_some_iff.mp hAfter
          rw [hLeft, hSame]
          exact ⟨by omega, hGap⟩
        · exact ⟨by omega, hGap⟩
      · rintro ⟨hLonger, hGap⟩
        by_cases hHere : cut.left.length = (left ++ [c]).length
        · have hLeft := cut.left_eq_of_length hNext hHere
          exact Or.inl ⟨cut.gap, hLeft ▸ hGap, Cut.after?_eq_some_iff.mpr ⟨hLeft, rfl⟩⟩
        · exact Or.inr ⟨by omega, hGap⟩

/-- Every cut is enumerated whose gap is allowed behind its left part. -/
theorem mem_cuts {gaps : List Char → List (List Char)} {cut : Cut text} :
    cut ∈ cuts gaps text ↔ cut.gap ∈ gaps cut.left := by
  rw [cuts, mem_cutsFrom]
  exact and_iff_right (List.length_pos_iff.mpr cut.left_ne_nil)

/-- Cuts are enumerated by their left parts, and those with one left part in the order of their
gaps. -/
theorem pairwise_cutsFrom {gaps : List Char → List (List Char)}
    {Before : List Char → List Char → Prop} (hGaps : ∀ left, (gaps left).Pairwise Before)
    (left rest : List Char) (joined : left ++ rest = text) :
    (cutsFrom gaps left rest joined).Pairwise fun first second =>
      first.left.length < second.left.length ∨
        first.left.length = second.left.length ∧ Before first.gap second.gap := by
  induction rest generalizing left with
  | nil => exact List.Pairwise.nil
  | cons c rest ih =>
      have hNext : (left ++ [c]) ++ rest = text := by simpa using joined
      rw [cutsFrom, List.pairwise_append]
      refine ⟨?_, ih _ _, ?_⟩
      · rw [List.pairwise_filterMap]
        apply (hGaps (left ++ [c])).imp
        intro gap other hBefore first hFirst second hSecond
        obtain ⟨hLeft, hGap⟩ := Cut.after?_eq_some_iff.mp hFirst
        obtain ⟨hSame, hOther⟩ := Cut.after?_eq_some_iff.mp hSecond
        rw [hLeft, hGap, hSame, hOther]
        exact Or.inr ⟨rfl, hBefore⟩
      · intro first hFirst second hSecond
        obtain ⟨gap, _, hAfter⟩ := List.mem_filterMap.mp hFirst
        rw [(Cut.after?_eq_some_iff.mp hAfter).1]
        exact Or.inl ((mem_cutsFrom _ _ hNext).mp hSecond).1

theorem pairwise_cuts_of_gaps {gaps : List Char → List (List Char)}
    {Before : List Char → List Char → Prop} (hGaps : ∀ left, (gaps left).Pairwise Before)
    (text : List Char) :
    (cuts gaps text).Pairwise fun first second =>
      first.left.length < second.left.length ∨
        first.left.length = second.left.length ∧ Before first.gap second.gap :=
  pairwise_cutsFrom hGaps [] text rfl

/-- Shorter left parts come first. -/
theorem pairwise_cuts (gaps : List Char → List (List Char)) (text : List Char) :
    (cuts gaps text).Pairwise fun first second => first.left.length ≤ second.left.length := by
  have hGaps : ∀ left, (gaps left).Pairwise fun _ _ => True :=
    fun left => List.pairwise_of_forall fun _ _ => trivial
  apply (pairwise_cuts_of_gaps hGaps text).imp
  intro first second hOrder
  rcases hOrder with hShorter | ⟨hSame, _⟩
  · exact Nat.le_of_lt hShorter
  · exact Nat.le_of_eq hSame

/-! ## The first cut -/

theorem cutsFrom_eq_cons {gaps : List Char → List (List Char)} {cut : Cut text}
    {more : List (List Char)} (hGap : gaps cut.left = cut.gap :: more)
    (hFirst : ∀ other : Cut text, other.gap ∈ gaps other.left →
      cut.left.length ≤ other.left.length)
    (left rest : List Char) (joined : left ++ rest = text)
    (hShorter : left.length < cut.left.length) :
    ∃ others, cutsFrom gaps left rest joined = cut :: others := by
  induction rest generalizing left with
  | nil =>
      -- the text ends before the left part of the cut does
      have hText := congrArg List.length joined
      have hCut := cut.left_length_lt
      rw [List.append_nil] at hText
      omega
  | cons c rest ih =>
      have hNext : (left ++ [c]) ++ rest = text := by simpa using joined
      rw [cutsFrom]
      by_cases hHere : cut.left.length = (left ++ [c]).length
      · have hLeft := cut.left_eq_of_length hNext hHere
        obtain ⟨others, hFound⟩ := filterMap_after?_eq_cons (hLeft ▸ hGap) hLeft hNext (by simp)
        exact ⟨_, by rw [hFound, List.cons_append]⟩
      · rw [List.length_append, List.length_singleton] at hHere
        rw [filterMap_after?_eq_nil, List.nil_append]
        · apply ih
          rw [List.length_append, List.length_singleton]
          omega
        · intro other hOther hMem
          have hLater := hFirst other (by rw [hOther]; exact hMem)
          rw [hOther, List.length_append, List.length_singleton] at hLater
          omega

/-- The cut with the shortest left part stands in front. -/
theorem cuts_eq_cons {gaps : List Char → List (List Char)} (cut : Cut text)
    {more : List (List Char)} (hGap : gaps cut.left = cut.gap :: more)
    (hFirst : ∀ other : Cut text, other.gap ∈ gaps other.left →
      cut.left.length ≤ other.left.length) :
    ∃ others, cuts gaps text = cut :: others :=
  cutsFrom_eq_cons hGap hFirst [] text rfl (List.length_pos_iff.mpr cut.left_ne_nil)

/-- Where no gap is allowed behind any left part, there are no cuts. -/
theorem cuts_eq_nil {gaps : List Char → List (List Char)}
    (hNone : ∀ cut : Cut text, cut.gap ∉ gaps cut.left) : cuts gaps text = [] :=
  List.eq_nil_iff_forall_not_mem.mpr fun cut hCut => hNone cut (mem_cuts.mp hCut)

/-- The runs of a text that is cut at a word are those of the left part, the word and the right
part. -/
theorem runs_of_cut (cut : Cut text) (hGap : opensWord cut.gap = true) :
    runs text = runs cut.left ++ (runs cut.gap ++ runs cut.right) := by
  have hRuns := runs_append_word cut.left hGap (endsWordBefore_of_opensWord cut.right_opens)
  rw [cut.joined] at hRuns
  exact hRuns

/-- The runs of a text that is cut without a gap are those of the left and the right part. -/
theorem runs_of_cut_of_gap_nil (cut : Cut text) (hGap : cut.gap = []) :
    runs text = runs cut.left ++ runs cut.right := by
  have hRuns := runs_append cut.left (endsWordBefore_of_opensWord cut.right_opens)
  have hText := cut.joined
  rw [hGap, List.nil_append] at hText
  rw [hText] at hRuns
  exact hRuns

/-! ## Connectors -/

/-- A text in which a word does not occur has no cut at the word. -/
theorem cuts_connectorGaps_eq_nil {word : List Char} (hWord : opensWord word = true)
    (hRuns : runs word = [word]) (hText : word ∉ runs text) :
    cuts (connectorGaps word) text = [] := by
  apply cuts_eq_nil
  intro cut hGap
  have hConnector : cut.gap = word := by simpa [connectorGaps] using hGap
  apply hText
  rw [runs_of_cut cut (by rw [hConnector]; exact hWord), hConnector, hRuns]
  simp

/-- Behind a text in which a word does not occur, the first cut at the word is there. -/
theorem cuts_connectorGaps_eq_cons {word : List Char} (hWord : opensWord word = true)
    (hRuns : runs word = [word]) (cut : Cut text) (hGap : cut.gap = word)
    (hLeft : word ∉ runs cut.left) : ∃ others, cuts (connectorGaps word) text = cut :: others := by
  apply cuts_eq_cons cut (by rw [connectorGaps, hGap])
  intro other hOther
  have hConnector : other.gap = word := by simpa [connectorGaps] using hOther
  by_contra hShorter
  have hText : cut.left ++ (word ++ cut.right) = other.left ++ (word ++ other.right) := by
    rw [← hGap, cut.joined, hGap, ← hConnector, other.joined]
  have hSingle : runs word = [] ++ [word] := hRuns
  exact not_word_before hWord hSingle List.not_mem_nil hLeft
    (endsWordBefore_of_opensWord cut.right_opens) (endsWordBefore_of_opensWord other.right_opens)
    (Nat.lt_of_not_le hShorter) hText

end DerivedQuery.Text
