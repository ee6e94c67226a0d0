import DerivedQuery.Proofs.Query.Joined
import DerivedQuery.Proofs.Vocabulary
import DerivedQuery.Query.Canonical
import DerivedQuery.Query.Ordering

/-!
# Reading an ordering clause back

The entries of an ordering clause are spelled one behind the other, with nothing between them; what
separates them is the direction at the end of each. As a direction word is the last run of an entry
and stands nowhere else in it, the first place behind a direction is the end of the first entry.

## Main results

* `reads_parseOrdering`: what an ordering clause is read as
* `parseOrder_canonical`, `parseOrdering_canonical`: an ordering is read back from its spelling
-/

namespace DerivedQuery

open Text Metadata

variable {σ : Type} {scope : Scope σ}

/-! ## What orderings are read as -/

/-- The entry as a scope reads it: its path leads from the root through known entities. -/
structure Order.ReadIn (scope : Scope σ) (order : Order) (state : σ) : Prop where
  traced : Traced scope.metadata state scope.root order.path.nodes
  ignoreCase : order.ignoreCase = scope.ignoreAllCase

private theorem stable_order_readIn (hRemembers : scope.metadata.Remembers) :
    scope.metadata.Stable (Order.ReadIn scope) :=
  fun _ _ _ hLeads hOrder => ⟨hOrder.traced.of_leads hRemembers hLeads, hOrder.ignoreCase⟩

private theorem reads_parseOrderAs (hRemembers : scope.metadata.Remembers) (fragment : Fragment)
    (path : List Char) (direction : Direction) :
    scope.metadata.Reads (Order.ReadIn scope) (parseOrderAs scope fragment path direction) := by
  intro state
  have hPath := reads_resolvePath hRemembers scope.separator path scope.root
  unfold parseOrderAs Scope.resolve
  split
  · rename_i hResult
    obtain ⟨hLeads, hTraced⟩ := hPath.of_eq hResult
    refine ⟨hLeads, ?_⟩
    simp only [Except.ok.injEq, forall_eq']
    exact ⟨hTraced _ rfl, rfl⟩
  · rename_i hResult
    exact ⟨(hPath.of_eq hResult).1, by simp⟩

private theorem reads_parseOrder (hRemembers : scope.metadata.Remembers) (fragment : Fragment) :
    scope.metadata.Reads (Order.ReadIn scope) (parseOrder scope fragment) := by
  unfold parseOrder
  split
  · exact reads_error _
  · exact reads_firstSuccess (reads_parseOrderAs hRemembers fragment _ _) [()]
      fun _ _ => reads_parseOrderAs hRemembers fragment _ _
  · split
    · exact reads_error _
    · exact reads_parseOrderAs hRemembers fragment _ _

theorem reads_parseOrdering (hRemembers : scope.metadata.Remembers) (fragment : Fragment) :
    scope.metadata.Reads (AllEntries (Order.ReadIn scope)) (parseOrdering scope fragment) :=
  reads_parseJoined (stable_order_readIn hRemembers) (reads_parseOrder hRemembers) _ _ fragment

/-! ## Directions -/

theorem dropDirection?_append (front : List Char) (direction : Direction) :
    dropDirection? (front ++ direction.token.toList) = some (front, direction) := by
  cases direction <;> simp [dropDirection?, dropSuffix?, dropPrefix?, Direction.token]

/-- A text ends with one direction word at most. -/
theorem dropDirection?_eq_some_iff {text front : List Char} {direction : Direction} :
    dropDirection? text = some (front, direction) ↔ text = front ++ direction.token.toList := by
  constructor
  · intro hDrop
    obtain ⟨found, _, hSuffix⟩ := List.exists_of_findSome?_eq_some hDrop
    obtain ⟨rest, hRest, hSame⟩ := Option.map_eq_some_iff.mp hSuffix
    obtain ⟨rfl, rfl⟩ := Prod.mk.inj hSame
    exact dropSuffix?_eq_some_iff.mp hRest
  · rintro rfl
    exact dropDirection?_append front direction

/-! ## The spelling of an entry -/

/-- The entry as it is read from its canonical spelling. -/
def Order.respelled (order : Order) : Order :=
  { order with path := order.path.respelled }

/-- An entry that was read and whose spelling can be read: its property names are plain. -/
structure Order.SpelledIn (scope : Scope σ) (order : Order) (state : σ) : Prop
    extends Order.ReadIn scope order state where
  names : order.path.HasPlainNames

theorem Order.toList_canonical (order : Order) :
    (order.canonical '_').toList = order.path.canonicalText '_' ++ order.direction.token.toList := by
  simp [Order.canonical, PropertyPath.canonical]

/-- The spelling of an ordering. -/
def orderingText (orders : List Order) : List Char :=
  (orders.map fun order => (order.canonical '_').toList).flatten

theorem intercalate_nil_eq_flatten {α : Type} (lists : List (List α)) :
    List.intercalate [] lists = lists.flatten := by
  induction lists with
  | nil => rfl
  | cons first rest ih =>
      cases rest with
      | nil => simp
      | cons second more =>
          rw [List.intercalate_cons_cons, ih]
          simp

private theorem opensWord_direction (direction : Direction) :
    opensWord direction.token.toList = true := by
  cases direction <;> decide

private theorem runs_direction (direction : Direction) :
    runs direction.token.toList = [direction.token.toList] := by
  cases direction <;> decide

private theorem direction_mem_connectiveWords (direction : Direction) :
    direction.token.toList ∈ connectiveWords := by
  cases direction <;> decide

section Spelled

variable {order : Order} {state : σ}

theorem Order.SpelledIn.opensWord (hOrder : order.SpelledIn scope state) :
    opensWord (order.canonical '_').toList = true := by
  rw [order.toList_canonical]
  exact opensWord_append (freeText_canonicalText hOrder.names).2

private theorem Order.runs_canonical (order : Order) :
    runs (order.canonical '_').toList =
      runs (order.path.canonicalText '_') ++ [order.direction.token.toList] := by
  rw [order.toList_canonical, runs_append _ (endsWordBefore_of_opensWord (opensWord_direction _)),
    runs_direction]

/-- The only connective in the spelling of an entry is its direction. -/
theorem Order.SpelledIn.eq_direction (hOrder : order.SpelledIn scope state) {word : List Char}
    (hWord : word ∈ connectiveWords) (hMem : word ∈ runs (order.canonical '_').toList) :
    word = order.direction.token.toList := by
  rw [order.runs_canonical, List.mem_append, List.mem_singleton] at hMem
  rcases hMem with hPath | hDirection
  · exact absurd hPath ((freeText_canonicalText hOrder.names).1.connective_not_mem hWord)
  · exact hDirection

/-- In front of the last run of an entry there is no connective. -/
theorem Order.SpelledIn.connective_not_mem (hOrder : order.SpelledIn scope state)
    {before behind : List (List Char)} (hRuns : runs (order.canonical '_').toList = before ++ behind)
    (hBehind : behind ≠ []) {word : List Char} (hWord : word ∈ connectiveWords) : word ∉ before := by
  have hFree := (freeText_canonicalText hOrder.names).1
  rw [order.runs_canonical] at hRuns
  intro hMem
  apply hFree.connective_not_mem hWord
  rcases List.append_eq_append_iff.mp hRuns with ⟨more, hLonger, hLast⟩ | ⟨more, hShorter, _⟩
  · -- then nothing of the direction is left behind
    have hNone : more = [] := by
      cases more with
      | nil => rfl
      | cons run others =>
          have hLength := congrArg List.length hLast
          have hPositive := List.length_pos_iff.mpr hBehind
          simp only [List.length_append, List.length_cons, List.length_nil] at hLength
          omega
    rw [hLonger, hNone, List.append_nil] at hMem
    exact hMem
  · rw [hShorter]
    exact List.mem_append_left _ hMem

end Spelled

/-! ## Cuts of a spelling -/

theorem direction_mem_of_dropDirection? {text : List Char} (hDrop : (dropDirection? text).isSome) :
    ∃ direction : Direction, direction.token.toList ∈ runs text := by
  obtain ⟨⟨front, direction⟩, hFound⟩ := Option.isSome_iff_exists.mp hDrop
  have hSuffix := dropSuffix?_eq_some_iff.mpr (dropDirection?_eq_some_iff.mp hFound)
  refine ⟨direction, ?_⟩
  rw [runs_of_dropSuffix? (opensWord_direction direction) hSuffix, runs_direction]
  simp

/-- An ordering clause may be cut at a connector, or without a gap behind a direction. -/
theorem runs_of_order_cut {text : List Char} {cut : Cut text}
    (hGap : cut.gap ∈ orderGaps cut.left) :
    andConnector ∈ runs text ∨
      (runs text = runs cut.left ++ runs cut.right ∧
        ∃ direction : Direction, direction.token.toList ∈ runs cut.left) := by
  have hConnector : cut.gap = andConnector → andConnector ∈ runs text := by
    intro hAnd
    rw [runs_of_cut cut (by rw [hAnd]; decide), hAnd,
      show runs andConnector = [andConnector] by decide]
    simp
  unfold orderGaps at hGap
  split at hGap
  · rename_i hDrop
    rcases List.mem_cons.mp hGap with hNone | hAnd
    · exact Or.inr ⟨runs_of_cut_of_gap_nil cut hNone, direction_mem_of_dropDirection? hDrop⟩
    · exact Or.inl (hConnector (List.mem_singleton.mp hAnd))
  · exact Or.inl (hConnector (List.mem_singleton.mp hGap))

section Cuts

variable {state : σ}

/-- The only connectives in an ordering are directions. -/
theorem exists_direction_of_mem_orderingText {orders : List Order}
    (hOrders : ∀ order ∈ orders, order.SpelledIn scope state) {word : List Char}
    (hWord : word ∈ connectiveWords) (hMem : word ∈ runs (orderingText orders)) :
    ∃ direction : Direction, word = direction.token.toList := by
  have hOpens : ∀ text ∈ orders.map fun order => (order.canonical '_').toList,
      opensWord text = true := by
    intro text hText
    obtain ⟨order, hOrder, rfl⟩ := List.mem_map.mp hText
    exact (hOrders order hOrder).opensWord
  rw [orderingText, runs_flatten hOpens, List.flatMap_map, List.mem_flatMap] at hMem
  obtain ⟨order, hOrder, hRun⟩ := hMem
  exact ⟨order.direction, (hOrders order hOrder).eq_direction hWord hRun⟩

theorem not_mem_orderingText {orders : List Order}
    (hOrders : ∀ order ∈ orders, order.SpelledIn scope state) {word : List Char}
    (hWord : word ∈ connectiveWords) (hOther : ∀ direction : Direction, word ≠ direction.token.toList) :
    word ∉ runs (orderingText orders) := by
  intro hMem
  obtain ⟨direction, hSame⟩ := exists_direction_of_mem_orderingText hOrders hWord hMem
  exact hOther direction hSame

private theorem andConnector_ne_direction (direction : Direction) :
    andConnector ≠ direction.token.toList := by
  cases direction <;> decide

private theorem cuts_order_eq_nil {order : Order} (hOrder : order.SpelledIn scope state) :
    cuts orderGaps (order.canonical '_').toList = [] := by
  apply cuts_eq_nil
  intro cut hGap
  rcases runs_of_order_cut hGap with hAnd | ⟨hRuns, direction, hDirection⟩
  · exact andConnector_ne_direction _ (hOrder.eq_direction (by decide) hAnd)
  · exact hOrder.connective_not_mem hRuns (runs_ne_nil (ne_nil_of_opensWord cut.right_opens))
      (direction_mem_connectiveWords direction) hDirection

/-- The first cut of several entries is at the end of the first one. -/
theorem cuts_order_eq_cons {order : Order} {more : List Order}
    (hOrder : order.SpelledIn scope state) (hMore : ∀ other ∈ more, other.SpelledIn scope state)
    (cut : Cut (orderingText (order :: more))) (hLeft : cut.left = (order.canonical '_').toList)
    (hGap : cut.gap = []) : ∃ others, cuts orderGaps _ = cut :: others := by
  have hDrop : (dropDirection? cut.left).isSome := by
    rw [hLeft, order.toList_canonical, dropDirection?_append]
    rfl
  have hGaps : orderGaps cut.left = cut.gap :: [andConnector] := by
    rw [orderGaps, if_pos hDrop, hGap]
  apply cuts_eq_cons cut hGaps
  intro other hOther
  apply Nat.le_of_not_lt
  intro hShorter
  rcases runs_of_order_cut hOther with hAnd | ⟨hRuns, direction, hDirection⟩
  · exact not_mem_orderingText (List.forall_mem_cons.mpr ⟨hOrder, hMore⟩) (by decide)
      andConnector_ne_direction hAnd
  · -- the shorter left part ends within the first entry, in front of its direction
    rw [runs_of_cut_of_gap_nil cut hGap] at hRuns
    obtain ⟨run, others, hLonger, _⟩ := exists_run_of_runs_append_eq hRuns.symm hShorter
    rw [hLeft] at hLonger
    exact hOrder.connective_not_mem hLonger (List.cons_ne_nil run others)
      (direction_mem_connectiveWords direction) hDirection

end Cuts

/-! ## Reading an ordering back -/

/-- **An entry is read back from its canonical spelling**, and nothing is asked for. -/
theorem parseOrder_canonical {state : σ} (hNumbered : KnowsNumbered scope.metadata state)
    (hSeparator : scope.separator = '_') {order : Order} (hOrder : order.SpelledIn scope state)
    (position : Nat) :
    parseOrder scope ⟨(order.canonical '_').toList, position⟩ state =
      (.ok order.respelled, state) := by
  have hNonempty : order.path.canonicalText '_' ≠ [] :=
    ne_nil_of_opensWord (freeText_canonicalText hOrder.names).2
  obtain ⟨c, rest, hText⟩ := List.exists_cons_of_ne_nil hNonempty
  have hDrop : dropDirection? (order.canonical '_').toList = some (c :: rest, order.direction) := by
    rw [order.toList_canonical, ← hText, dropDirection?_append]
  have hPath := resolvePath_canonicalText hNumbered hOrder.traced hOrder.names.hasSnakeNames
  rw [hText] at hPath
  unfold parseOrder
  simp only [hDrop, firstSuccess, parseOrderAs, Scope.resolve, hSeparator, hPath]
  rw [Order.respelled, ← hOrder.ignoreCase]

/-- **An ordering is read back from its canonical spelling.** -/
theorem parseOrdering_canonical {state : σ} (hNumbered : KnowsNumbered scope.metadata state)
    (hSeparator : scope.separator = '_') {orders : List Order}
    (hOrders : AllEntries (Order.SpelledIn scope) orders state) (position : Nat) :
    parseOrdering scope ⟨orderingText orders, position⟩ state =
      (.ok (orders.map Order.respelled), state) := by
  have hText : orderingText orders =
      List.intercalate [] (orders.map fun order => (order.canonical '_').toList) :=
    (intercalate_nil_eq_flatten _).symm
  rw [hText]
  apply parseJoined_intercalate (fun _ hOrder => hOrder.opensWord)
    (fun _ hOrder => parseOrder_canonical hNumbered hSeparator hOrder)
    (fun _ hOrder => cuts_order_eq_nil hOrder) _ hOrders.1 hOrders.2
  intro order more hOrder hMore
  rw [intercalate_nil_eq_flatten]
  exact cuts_order_eq_cons hOrder hMore

end DerivedQuery
