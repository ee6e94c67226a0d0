import Mathlib.Data.List.Nodup

/-!
# Tables that are searched from the front

If no two entries of a table have the same key, each entry is found by its key. Otherwise the order
of the table decides which of them is found.

A stable sort puts a list in order and leaves elements that the order does not tell apart in the
order in which they were. Both facts together determine the sorted list: of two lists in order, the
first elements are not told apart, so they are the same if each class of elements stands in the same
order in both.

A table that is extended again and again may therefore be kept in order in any way that keeps these
two facts. It is the table that a single sort of all its entries gives.

## Main results

* `find?_of_nodup_map`: an entry with a key of its own is found
* `filter_mergeSort`: a sort keeps the order of elements that it does not tell apart
* `eq_mergeSort_iff`: what determines a stable sort
-/

namespace DerivedQuery

/-! ## Keys -/

/-- If no key occurs twice, each entry is the first one with its key. -/
theorem find?_of_nodup_map {α β : Type} [BEq β] [LawfulBEq β] {key : α → β} {entries : List α}
    (hKeys : (entries.map key).Nodup) {entry : α} (hEntry : entry ∈ entries) :
    entries.find? (key · == key entry) = some entry := by
  cases hFind : entries.find? (key · == key entry) with
  | none =>
      have hNone := List.find?_eq_none.mp hFind entry hEntry
      simp at hNone
  | some first =>
      have hSame : key first = key entry := by simpa using List.find?_some hFind
      rw [List.inj_on_of_nodup_map hKeys (List.mem_of_find?_eq_some hFind) hEntry hSame]

/-! ## Stable sorts -/

variable {α : Type} {le : α → α → Bool}

/-- A sort keeps the order of elements that it does not tell apart. -/
theorem filter_mergeSort (hTrans : ∀ a b c, le a b = true → le b c = true → le a c = true)
    (hTotal : ∀ a b, (le a b || le b a) = true) {test : α → Bool}
    (hSame : ∀ a b, test a = true → test b = true → le a b = true) (list : List α) :
    (list.mergeSort le).filter test = list.filter test := by
  have hOrdered : (list.filter test).Pairwise fun a b => le a b = true :=
    List.pairwise_filter.mpr (List.pairwise_of_forall fun a b hA hB => hSame a b hA hB)
  have hSublist : (list.filter test).Sublist ((list.mergeSort le).filter test) := by
    have hKept := (List.sublist_mergeSort hTrans hTotal hOrdered List.filter_sublist).filter test
    rw [List.filter_filter] at hKept
    simpa using hKept
  have hLength := ((List.mergeSort_perm list le).filter test).length_eq
  exact (hSublist.eq_of_length hLength.symm).symm

/-- A sort keeps the first of all elements that it does not tell apart. -/
theorem find?_mergeSort (hTrans : ∀ a b c, le a b = true → le b c = true → le a c = true)
    (hTotal : ∀ a b, (le a b || le b a) = true) {test : α → Bool}
    (hSame : ∀ a b, test a = true → test b = true → le a b = true) (list : List α) :
    (list.mergeSort le).find? test = list.find? test := by
  rw [← List.head?_filter, filter_mergeSort hTrans hTotal hSame, List.head?_filter]

/-- The order does not tell the two elements apart. -/
def tied (le : α → α → Bool) (a b : α) : Bool :=
  le a b && le b a

private theorem tied_self (hTotal : ∀ a b, (le a b || le b a) = true) (a : α) :
    tied le a a = true := by
  have hSelf := hTotal a a
  rw [Bool.or_self] at hSelf
  rw [tied, hSelf, Bool.and_self]

/-- Lists with the same classes have the same elements. -/
theorem mem_iff_of_filter_tied (hTotal : ∀ a b, (le a b || le b a) = true) {first second : List α}
    (hSame : ∀ a, first.filter (tied le a) = second.filter (tied le a)) {a : α} :
    a ∈ first ↔ a ∈ second := by
  have hClass := congrArg (a ∈ ·) (hSame a)
  simpa [List.mem_filter, tied_self hTotal] using hClass

/-- The first element of a list in order is a least one. -/
theorem le_of_mem_of_pairwise (hTotal : ∀ a b, (le a b || le b a) = true) {first other : α}
    {rest : List α} (hOrdered : (first :: rest).Pairwise fun a b => le a b = true)
    (hOther : other ∈ first :: rest) : le first other = true := by
  rcases List.mem_cons.mp hOther with rfl | hLater
  · simpa using hTotal other other
  · exact List.rel_of_pairwise_cons hOrdered hLater

/-- Two lists in order are the same if the elements of each class stand in the same order. -/
theorem eq_of_filter_tied (hTotal : ∀ a b, (le a b || le b a) = true) {first second : List α}
    (hFirst : first.Pairwise fun a b => le a b = true)
    (hSecond : second.Pairwise fun a b => le a b = true)
    (hSame : ∀ a, first.filter (tied le a) = second.filter (tied le a)) : first = second := by
  have hMem : ∀ {a}, a ∈ first ↔ a ∈ second := mem_iff_of_filter_tied hTotal hSame
  induction first generalizing second with
  | nil => exact (List.eq_nil_iff_forall_not_mem.mpr fun a hA => List.not_mem_nil (hMem.mpr hA)).symm
  | cons a rest ih =>
      cases second with
      | nil => exact absurd (hMem.mp List.mem_cons_self) List.not_mem_nil
      | cons b others =>
          -- each of the first elements is a least one, so they are in one class
          have hHead : a = b := by
            have hAB := le_of_mem_of_pairwise hTotal hFirst (hMem.mpr List.mem_cons_self)
            have hBA := le_of_mem_of_pairwise hTotal hSecond (hMem.mp List.mem_cons_self)
            have hTied : tied le a b = true := by rw [tied, hAB, hBA, Bool.and_self]
            have hClass := hSame a
            rw [List.filter_cons, if_pos (tied_self hTotal a), List.filter_cons, if_pos hTied]
              at hClass
            exact (List.cons.inj hClass).1
          subst hHead
          have hTails : ∀ c, rest.filter (tied le c) = others.filter (tied le c) := by
            intro c
            have hClass := hSame c
            rw [List.filter_cons, List.filter_cons] at hClass
            split at hClass
            · exact (List.cons.inj hClass).2
            · exact hClass
          rw [ih (List.pairwise_cons.mp hFirst).2 (List.pairwise_cons.mp hSecond).2 hTails
            (mem_iff_of_filter_tied hTotal hTails)]

/-- **A stable sort is determined** by being in order and by keeping the order of each class. -/
theorem eq_mergeSort_iff (hTrans : ∀ a b c, le a b = true → le b c = true → le a c = true)
    (hTotal : ∀ a b, (le a b || le b a) = true) {list sorted : List α} :
    sorted = list.mergeSort le ↔
      (sorted.Pairwise fun a b => le a b = true) ∧
        ∀ a, sorted.filter (tied le a) = list.filter (tied le a) := by
  have hOrdered := List.pairwise_mergeSort hTrans hTotal list
  have hKept : ∀ a, (list.mergeSort le).filter (tied le a) = list.filter (tied le a) := by
    intro a
    apply filter_mergeSort hTrans hTotal
    intro b c hB hC
    rw [tied, Bool.and_eq_true] at hB hC
    exact hTrans b a c hB.2 hC.1
  constructor
  · rintro rfl
    exact ⟨hOrdered, hKept⟩
  · rintro ⟨hSorted, hClasses⟩
    exact eq_of_filter_tied hTotal hSorted hOrdered fun a => by rw [hClasses, hKept]

end DerivedQuery
