import DerivedQuery.Proofs.Query.Grammar
import DerivedQuery.Proofs.Query.Ordering

/-!
# The grammar of ordering clauses

An ordering clause may be cut at two kinds of places, behind a direction word, where nothing is
dropped, and at `And`. Both kinds may coincide, since the text behind a direction word may start
with `And`, and a direction word may belong to a property name. So the search for the entries goes
back and forth, and each entry is read in up to two ways: without the direction word that it ends
with, and as a path as a whole.

If the source of metadata is steady, the search is exact. A clause is accepted if it can be divided
into entries that can be read, and of all such divisions the one is read that has the shortest first
entry, the shortest second entry behind it and so on. Where a direction word is followed by `And`,
the division that keeps `And` for the next entry is preferred.

## Main definitions

* `OrderJoint`: the places where a clause may be cut
* `OrderReading`: what an entry is read as

## Main results

* `orderOf?_eq_some_iff`: an entry has one reading at most, and it is found
* `parseOrdering_exact`: ordering clauses are accepted if and only if they have a reading
-/

namespace DerivedQuery

open Text Metadata

/-! ## Joints -/

/-- A clause may be cut at `And`, or behind a direction word without dropping anything. -/
def OrderJoint (left gap : List Char) : Prop :=
  gap = andConnector ∨ gap = [] ∧ ∃ direction : Direction, direction.token.toList <:+ left

private theorem isSome_dropDirection? {text : List Char} :
    (dropDirection? text).isSome = true ↔
      ∃ direction : Direction, direction.token.toList <:+ text := by
  rw [Option.isSome_iff_exists]
  constructor
  · rintro ⟨⟨front, direction⟩, hDrop⟩
    exact ⟨direction, front, (dropDirection?_eq_some_iff.mp hDrop).symm⟩
  · rintro ⟨direction, front, hText⟩
    exact ⟨(front, direction), dropDirection?_eq_some_iff.mpr hText.symm⟩

private theorem mem_orderGaps {left gap : List Char} :
    gap ∈ orderGaps left ↔ OrderJoint left gap := by
  unfold orderGaps OrderJoint
  rw [← isSome_dropDirection?]
  split
  · rename_i hDrop
    simp [hDrop, or_comm]
  · rename_i hDrop
    simp [hDrop]

/-- The gap that drops nothing comes first. -/
theorem pairwise_orderGaps (left : List Char) :
    (orderGaps left).Pairwise fun first second => first.length ≤ second.length := by
  unfold orderGaps
  split <;> simp

/-! ## Entries -/

section Clause

variable {σ : Type} {scope : Scope σ} {state : σ}

/-- What a text is read as if it is one entry. In front of a direction word a path is ordered in this
direction. If there is no path, the direction word may belong to the name of a property. -/
inductive OrderReading (scope : Scope σ) (state : σ) (text : List Char) : Order → Prop
  | directed {front : List Char} {direction : Direction} {path : PropertyPath}
      (joined : text = front ++ direction.token.toList) (ne_nil : front ≠ [])
      (resolves : scope.Resolves state front path) :
      OrderReading scope state text ⟨path, direction, scope.ignoreAllCase⟩
  | named {front : List Char} {direction : Direction} {path : PropertyPath}
      (joined : text = front ++ direction.token.toList) (ne_nil : front ≠ [])
      (undirected : ¬∃ other, scope.Resolves state front other)
      (resolves : scope.Resolves state text path) :
      OrderReading scope state text ⟨path, .ascending, scope.ignoreAllCase⟩
  | plain {path : PropertyPath}
      (plain : ∀ direction : Direction, ¬direction.token.toList <:+ text)
      (resolves : scope.Resolves state text path) :
      OrderReading scope state text ⟨path, .ascending, scope.ignoreAllCase⟩

/-- The path of a text, ordered in a direction. -/
def Scope.orderAs? (scope : Scope σ) (state : σ) (text : List Char) (direction : Direction) :
    Option Order :=
  (scope.pathOf? state text).map (⟨·, direction, scope.ignoreAllCase⟩)

/-- What a text is read as if it is one entry. -/
def Scope.orderOf? (scope : Scope σ) (state : σ) (text : List Char) : Option Order :=
  match dropDirection? text with
  | some ([], _) => none
  | some (front, direction) =>
      (scope.orderAs? state front direction).or (scope.orderAs? state text .ascending)
  | none => scope.orderAs? state text .ascending

private theorem orderAs?_eq_some_iff {text : List Char} {direction : Direction} {order : Order} :
    scope.orderAs? state text direction = some order ↔
      ∃ path, scope.Resolves state text path ∧ ⟨path, direction, scope.ignoreAllCase⟩ = order := by
  rw [Scope.orderAs?, Option.map_eq_some_iff]
  exact exists_congr fun _ => and_congr_left fun _ => pathOf?_eq_some_iff

private theorem Scope.Resolves.orderAs? {text : List Char} {path : PropertyPath}
    (hPath : scope.Resolves state text path) (direction : Direction) :
    scope.orderAs? state text direction = some ⟨path, direction, scope.ignoreAllCase⟩ :=
  orderAs?_eq_some_iff.mpr ⟨path, hPath, rfl⟩

private theorem orderAs?_eq_none_iff {text : List Char} {direction : Direction} :
    scope.orderAs? state text direction = none ↔ ¬∃ path, scope.Resolves state text path := by
  rw [Scope.orderAs?, Option.map_eq_none_iff, ← isSome_pathOf?, Option.not_isSome_iff_eq_none]

/-- An entry has one reading at most. -/
theorem orderOf?_eq_some_iff {text : List Char} {order : Order} :
    scope.orderOf? state text = some order ↔ OrderReading scope state text order := by
  unfold Scope.orderOf?
  constructor
  · intro hOrder
    split at hOrder
    · simp at hOrder
    · rename_i front direction hFront hDrop
      have hText := dropDirection?_eq_some_iff.mp hDrop
      rcases Option.or_eq_some_iff.mp hOrder with hDirected | ⟨hNone, hNamed⟩
      · obtain ⟨path, hPath, rfl⟩ := orderAs?_eq_some_iff.mp hDirected
        exact .directed hText hFront hPath
      · obtain ⟨path, hPath, rfl⟩ := orderAs?_eq_some_iff.mp hNamed
        exact .named hText hFront (orderAs?_eq_none_iff.mp hNone) hPath
    · rename_i hDrop
      obtain ⟨path, hPath, rfl⟩ := orderAs?_eq_some_iff.mp hOrder
      refine .plain (fun direction hSuffix => ?_) hPath
      have hSome := isSome_dropDirection?.mpr ⟨direction, hSuffix⟩
      rw [hDrop] at hSome
      simp at hSome
  · intro hReading
    cases hReading with
    | @directed front direction path hText hFront hPath =>
        rw [dropDirection?_eq_some_iff.mpr hText]
        obtain ⟨c, rest, rfl⟩ := List.exists_cons_of_ne_nil hFront
        simp only [hPath.orderAs? direction, Option.some_or]
    | @named front direction path hText hFront hNone hPath =>
        rw [dropDirection?_eq_some_iff.mpr hText]
        obtain ⟨c, rest, rfl⟩ := List.exists_cons_of_ne_nil hFront
        simp only [orderAs?_eq_none_iff.mpr hNone, Option.none_or, hPath.orderAs? .ascending]
    | @plain path hPlain hPath =>
        have hDrop : dropDirection? text = none := by
          rw [← Option.not_isSome_iff_eq_none, isSome_dropDirection?]
          rintro ⟨direction, hSuffix⟩
          exact hPlain direction hSuffix
        rw [hDrop]
        exact hPath.orderAs? .ascending

/-! ## Reading entries -/

theorem yields_parseOrderAs (hSteady : scope.metadata.Steady state) (fragment : Fragment)
    (path : List Char) (direction : Direction) :
    scope.metadata.Yields state (scope.orderAs? state path direction)
      (parseOrderAs scope fragment path direction) := by
  intro later hLater
  unfold parseOrderAs Scope.orderAs?
  rcases (yields_resolve hSteady path).cases hLater with ⟨result, after, hRead, hValue, hLeads⟩ |
    ⟨error, after, hRead, hValue, hLeads⟩
  · rw [hRead, hValue]
    exact ⟨hLeads, rfl⟩
  · rw [hRead, hValue]
    exact ⟨hLeads, rfl⟩

/-- An entry is read as the same wherever it stands, whatever has been requested before. -/
theorem yields_parseOrder (hSteady : scope.metadata.Steady state) (text : List Char)
    (position : Nat) :
    scope.metadata.Yields state (scope.orderOf? state text)
      (parseOrder scope ⟨text, position⟩) := by
  have hWhole := yields_parseOrderAs hSteady ⟨text, position⟩ text .ascending
  unfold parseOrder Scope.orderOf?
  dsimp only
  cases dropDirection? text with
  | some found =>
      obtain ⟨front, direction⟩ := found
      cases front with
      | nil => exact yields_error state _
      | cons c rest =>
          have hFirst := yields_parseOrderAs hSteady ⟨text, position⟩ (c :: rest) direction
          have hSearch := yields_firstSuccess hWhole [()] fun _ _ => hFirst
          simpa using hSearch
  | none =>
      cases text with
      | nil =>
          rw [orderAs?_eq_none_iff.mpr fun ⟨_, hPath⟩ => not_resolves_nil hPath]
          exact yields_error state _
      | cons c rest => exact hWhole

/-! ## Clauses -/

/-- The text can be read as an entry. -/
def Scope.IsOrder (scope : Scope σ) (state : σ) (text : List Char) : Prop :=
  ∃ order, OrderReading scope state text order

/-- **Ordering clauses are accepted if and only if they have a reading**, and what is read is the
preferred one. The entries are cut at `And` or behind direction words. Each of them is read with the
direction that it ends with if there is a path in front of it, and as a path in ascending order
otherwise. -/
theorem parseOrdering_exact (hSteady : scope.metadata.Steady state) (text : List Char)
    (position : Nat) :
    ((∃ orders after, parseOrdering scope ⟨text, position⟩ state = (.ok orders, after)) ↔
      ∃ entries : Entries text, entries.Readable OrderJoint (scope.IsOrder state)) ∧
    ∀ orders after, parseOrdering scope ⟨text, position⟩ state = (.ok orders, after) →
      ∃ entries : Entries text, entries.Readable OrderJoint (scope.IsOrder state) ∧
        entries.Preferred OrderJoint (scope.IsOrder state) ∧
        List.Forall₂ (OrderReading scope state) entries.texts orders := by
  obtain ⟨ordersOf?, hSearches, hOrders⟩ :=
    exists_searchesCuts_parseJoined (yields_parseOrder hSteady) orderGaps andConnector
  have hYields : scope.metadata.Yields state (ordersOf? text)
      (parseOrdering scope ⟨text, position⟩) := hOrders text position
  have hJoint : (fun left gap => gap ∈ orderGaps left) = OrderJoint :=
    funext₂ fun _ _ => propext mem_orderGaps
  have hIsOrder : (fun piece => (scope.orderOf? state piece).isSome = true) =
      scope.IsOrder state := by
    funext piece
    rw [Option.isSome_iff_exists]
    exact propext (exists_congr fun _ => orderOf?_eq_some_iff)
  have hRead : ∀ orders after, parseOrdering scope ⟨text, position⟩ state = (.ok orders, after) →
      ∃ entries : Entries text, entries.Readable OrderJoint (scope.IsOrder state) ∧
        entries.Preferred OrderJoint (scope.IsOrder state) ∧
        List.Forall₂ (OrderReading scope state) entries.texts orders := by
    intro orders after hResult
    have hFound := (hYields.of_eq (.refl state) hResult).2
    obtain ⟨entries, hReadable, hPreferred, hValues⟩ :=
      exists_entries hSearches pairwise_orderGaps hFound.symm
    rw [Entries.Found, hJoint, hIsOrder] at hReadable
    rw [hJoint, hIsOrder] at hPreferred
    exact ⟨entries, hReadable, hPreferred, hValues.imp fun _ _ => orderOf?_eq_some_iff.mp⟩
  refine ⟨⟨?_, ?_⟩, hRead⟩
  · rintro ⟨orders, after, hResult⟩
    obtain ⟨entries, hReadable, _⟩ := hRead orders after hResult
    exact ⟨entries, hReadable⟩
  · rintro ⟨entries, hReadable⟩
    rw [← hJoint, ← hIsOrder] at hReadable
    obtain ⟨orders, hSome⟩ :=
      Option.isSome_iff_exists.mp (isSome_of_readable hSearches entries hReadable)
    rw [hSome] at hYields
    obtain ⟨after, hResult, _⟩ := hYields.succeeds (.refl state)
    exact ⟨orders, after, hResult⟩

end Clause

/-- Articles, with direction words in the names of two properties. -/
def articles : Registry :=
  { inspector := .ofCatalog
      { types :=
          [{ name := "Article"
             members :=
               [{ name := "name", declared := .named "String" },
                 { name := "desc_date", declared := .named "String" },
                 { name := "description", declared := .named "String" }] }] } }

private theorem articles_coherent : articles.source.Coherent :=
  articles.coherent_of_answers (by decide +kernel)

/-- Clauses for articles. -/
def articleScope : Scope Registry.State :=
  { metadata := articles.metadata
    vocabulary := .builtin
    separator := '_'
    root := "Article"
    ignoreAllCase := false }

/-- Direction words in property names are no joints, and `And` may follow a direction. -/
theorem parseOrdering_articles : articleScope.metadata.Steady {} ∧ ∃ orders after,
    parseOrdering articleScope ⟨"DescDateDescNameAscAndDescription".toList, 0⟩ {} =
      (.ok orders, after) ∧
    orders.map (fun order => (order.path.properties.map (·.name), order.direction)) =
      [(["desc_date"], .descending), (["name"], .ascending), (["description"], .ascending)] ∧
    ∃ entries : Entries "DescDateDescNameAscAndDescription".toList,
      entries.Readable OrderJoint (articleScope.IsOrder {}) ∧
      entries.Preferred OrderJoint (articleScope.IsOrder {}) := by
  have hSteady : articleScope.metadata.Steady {} :=
    Registry.steady_stateAfter _ _ [] articles_coherent
  have hNames : (parseOrdering articleScope
      ⟨"DescDateDescNameAscAndDescription".toList, 0⟩ {}).1.toOption.map
        (·.map fun order => (order.path.properties.map (·.name), order.direction)) =
      some [(["desc_date"], .descending), (["name"], .ascending), (["description"], .ascending)] := by
    decide +kernel
  obtain ⟨orders, after, hResult, hOrders⟩ := exists_of_toOption_map hNames
  obtain ⟨entries, hReadable, hPreferred, _⟩ :=
    (parseOrdering_exact hSteady _ 0).2 orders after hResult
  exact ⟨hSteady, orders, after, hResult, hOrders, entries, hReadable, hPreferred⟩

end DerivedQuery
