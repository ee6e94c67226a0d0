import DerivedQuery.Proofs.Metadata
import DerivedQuery.Proofs.Text.Cuts
import DerivedQuery.Query.Joined
import Mathlib.Data.List.Forall2

/-!
# Texts as joined entries

A text that may be cut in many places is read by a search: the first cut counts that has a value in
front of it and values behind it, and the text is a single entry if there is none. What it finds is
described without the search. `Entries` are the ways to divide a text by cuts, and one of them is
readable if its cuts are at joints and its entries are accepted. The search finds something if some
division is readable, and it finds the one with the shortest first entry, the shortest second entry
behind it and so on; behind entries of one length it drops as little as possible.

If the source of metadata is steady, `parseJoined` is such a search: what is behind a cut has one
value, wherever it stands and whatever has been tried before.

## Main definitions

* `Entries`, `Entries.Readable`, `Entries.Preferred`: divisions of a text and the preferred one
* `SearchesCuts`: a search over the cuts of a text

## Main results

* `isSome_of_readable`, `exists_entries`: the search is complete and sound
* `exists_searchesCuts_parseJoined`: the reader of joined entries is a search
-/

namespace DerivedQuery

open Text Metadata

/-! ## Divisions of a text -/

/-- A text as a single entry, or as the entry in front of a cut and those that what is behind the cut
is divided into. -/
inductive Entries : List Char → Type
  | single (text : List Char) : Entries text
  | cons {text : List Char} (cut : Cut text) (rest : Entries cut.right) : Entries text

namespace Entries

variable {text : List Char}

/-- The texts of the entries. -/
def texts : {text : List Char} → Entries text → List (List Char)
  | _, single text => [text]
  | _, cons cut rest => cut.left :: rest.texts

/-- The text of the first entry. -/
def head : Entries text → List Char
  | single text => text
  | cons cut _ => cut.left

/-- What is dropped behind the first entry. -/
def dropped : Entries text → List Char
  | single _ => []
  | cons cut _ => cut.gap

/-- The cuts are at joints, and the entries are accepted. -/
def Readable (IsJoint : List Char → List Char → Prop) (Accepts : List Char → Prop) :
    {text : List Char} → Entries text → Prop
  | _, single text => Accepts text
  | _, cons cut rest =>
      IsJoint cut.left cut.gap ∧ Accepts cut.left ∧ rest.Readable IsJoint Accepts

/-- The first entry is the shorter one, or it is the same and no more is dropped behind it. -/
def StartsBefore (entries other : Entries text) : Prop :=
  entries.head.length < other.head.length ∨
    entries.head.length = other.head.length ∧ entries.dropped.length ≤ other.dropped.length

/-- No readable division starts before this one, and so it is again behind the first entry. -/
def Preferred (IsJoint : List Char → List Char → Prop) (Accepts : List Char → Prop) :
    {text : List Char} → Entries text → Prop
  | _, single text =>
      ∀ other : Entries text, other.Readable IsJoint Accepts → (single text).StartsBefore other
  | _, cons cut rest =>
      (∀ other, other.Readable IsJoint Accepts → (cons cut rest).StartsBefore other) ∧
        rest.Preferred IsJoint Accepts

end Entries

/-! ## The search for a division -/

section Search

variable {β : Type} {gaps : List Char → List (List Char)} {value : List Char → Option β}
  {found : List Char → Option (List β)} {text : List Char}

/-- The value in front of a cut with the values behind it. -/
def bothSides (value : List Char → Option β) (found : List Char → Option (List β))
    (cut : Cut text) : Option (List β) :=
  (value cut.left).bind fun first => (found cut.right).map (first :: ·)

/-- What is found in a text is what the first cut has on both sides, or else the value of the text
as a whole. -/
def SearchesCuts (gaps : List Char → List (List Char)) (value : List Char → Option β)
    (found : List Char → Option (List β)) : Prop :=
  ∀ text, found text =
    ((cuts gaps text).findSome? (bothSides value found)).or ((value text).map ([·]))

/-- A division is readable for a search if its cuts are enumerated and its entries have values. -/
abbrev Entries.Found (gaps : List Char → List (List Char)) (value : List Char → Option β)
    (entries : Entries text) : Prop :=
  entries.Readable (fun left gap => gap ∈ gaps left) fun piece => (value piece).isSome = true

private theorem isSome_bothSides {cut : Cut text} :
    (bothSides value found cut).isSome = true ↔
      (value cut.left).isSome = true ∧ (found cut.right).isSome = true := by
  cases hFirst : value cut.left <;> simp [bothSides, hFirst]

/-- **The search is complete.** -/
theorem isSome_of_readable (hSearches : SearchesCuts gaps value found) (entries : Entries text)
    (hReadable : entries.Found gaps value) : (found text).isSome = true := by
  induction entries with
  | single text =>
      rw [hSearches text, Option.isSome_or, Option.isSome_map, Bool.or_eq_true]
      exact Or.inr hReadable
  | @cons text cut rest ih =>
      obtain ⟨hJoint, hFirst, hRest⟩ := hReadable
      rw [hSearches text, Option.isSome_or, Bool.or_eq_true]
      exact Or.inl (List.findSome?_isSome_iff.mpr
        ⟨cut, mem_cuts.mpr hJoint, isSome_bothSides.mpr ⟨hFirst, ih hRest⟩⟩)

/-- The cut in front of a readable division has values on both sides. -/
theorem isSome_bothSides_of_readable (hSearches : SearchesCuts gaps value found) {cut : Cut text}
    {rest : Entries cut.right} (hReadable : (Entries.cons cut rest).Found gaps value) :
    (bothSides value found cut).isSome = true :=
  isSome_bothSides.mpr ⟨hReadable.2.1, isSome_of_readable hSearches rest hReadable.2.2⟩

/-- No readable division starts before the cut at which the search ends, since no cut before that
one has values on both sides. -/
theorem startsBefore_of_first (hSearches : SearchesCuts gaps value found)
    (hGaps : ∀ left, (gaps left).Pairwise fun first second => first.length ≤ second.length)
    {cut : Cut text} {before after : List (Cut text)} (hCuts : cuts gaps text = before ++ cut :: after)
    (hNone : ∀ other ∈ before, bothSides value found other = none) (rest : Entries cut.right)
    {other : Entries text} (hReadable : other.Found gaps value) :
    (Entries.cons cut rest).StartsBefore other := by
  cases other with
  | single => exact Or.inl cut.left_length_lt
  | cons otherCut others =>
      have hOrder := pairwise_cuts_of_gaps hGaps text
      have hMem : otherCut ∈ cuts gaps text := mem_cuts.mpr hReadable.1
      rw [hCuts] at hOrder hMem
      rcases List.mem_append.mp hMem with hBefore | hBehind
      · have hSides := isSome_bothSides_of_readable hSearches hReadable
        rw [hNone otherCut hBefore] at hSides
        simp at hSides
      · rcases List.mem_cons.mp hBehind with rfl | hAfter
        · exact Or.inr ⟨rfl, Nat.le_refl _⟩
        · exact List.rel_of_pairwise_cons (List.pairwise_append.mp hOrder).2.1 hAfter

/-- If no cut has values on both sides, the only readable division is the text as a whole. -/
theorem startsBefore_of_none (hSearches : SearchesCuts gaps value found)
    (hNone : (cuts gaps text).findSome? (bothSides value found) = none) {other : Entries text}
    (hReadable : other.Found gaps value) : (Entries.single text).StartsBefore other := by
  cases other with
  | single => exact Or.inr ⟨rfl, Nat.le_refl _⟩
  | cons cut rest =>
      have hSides := isSome_bothSides_of_readable hSearches hReadable
      rw [List.findSome?_eq_none_iff.mp hNone cut (mem_cuts.mpr hReadable.1)] at hSides
      simp at hSides

/-- **The search is sound**, and what it finds is the preferred division. -/
theorem exists_entries (hSearches : SearchesCuts gaps value found)
    (hGaps : ∀ left, (gaps left).Pairwise fun first second => first.length ≤ second.length)
    {values : List β} (hFound : found text = some values) :
    ∃ entries : Entries text, entries.Found gaps value ∧
      entries.Preferred (fun left gap => gap ∈ gaps left) (fun piece => (value piece).isSome = true) ∧
      List.Forall₂ (fun piece result => value piece = some result) entries.texts values := by
  induction hLength : text.length using Nat.strongRecOn generalizing text values with
  | ind length ih =>
      rw [hSearches text, Option.or_eq_some_iff] at hFound
      rcases hFound with hCut | ⟨hNone, hWhole⟩
      · obtain ⟨before, cut, after, hCuts, hHere, hBefore⟩ := List.findSome?_eq_some_iff.mp hCut
        obtain ⟨first, hFirst, hRest⟩ := Option.bind_eq_some_iff.mp hHere
        obtain ⟨others, hOthers, rfl⟩ := Option.map_eq_some_iff.mp hRest
        have hJoint : cut.gap ∈ gaps cut.left := mem_cuts.mp (by rw [hCuts]; simp)
        have hSome : (value cut.left).isSome = true := by rw [hFirst]; rfl
        obtain ⟨rest, hReadable, hPreferred, hValues⟩ :=
          ih _ (hLength ▸ cut.right_length_lt) hOthers rfl
        exact ⟨.cons cut rest, ⟨hJoint, hSome, hReadable⟩,
          ⟨fun other hOther => startsBefore_of_first hSearches hGaps hCuts hBefore rest hOther,
            hPreferred⟩,
          .cons hFirst hValues⟩
      · obtain ⟨result, hResult, rfl⟩ := Option.map_eq_some_iff.mp hWhole
        have hSome : (value text).isSome = true := by rw [hResult]; rfl
        exact ⟨.single text, hSome, fun other hOther => startsBefore_of_none hSearches hNone hOther,
          .cons hResult .nil⟩

end Search

/-! ## The reader of joined entries -/

section Joined

variable {σ β : Type} {metadata : Metadata σ} {state : σ}

/-- A later attempt keeps its value. -/
theorem yields_orLater {γ : Type} {value : Option γ} {reader : σ → Except Failure γ × σ}
    (hReader : metadata.Yields state value reader) (failure : Failure) :
    metadata.Yields state value fun later => failure.orLater (reader later) := by
  intro later hLater
  dsimp only
  rcases hReader.cases hLater with ⟨result, after, hRead, hValue, hLeads⟩ |
    ⟨error, after, hRead, hValue, hLeads⟩
  · rw [hRead, hValue]
    exact ⟨hLeads, rfl⟩
  · rw [hRead, hValue]
    exact ⟨hLeads, rfl⟩

/-- The value of a division is the first one that a cut has on both sides. -/
theorem yields_firstDivision {γ : Type} {before : γ → σ → Except SyntaxError β × σ}
    {behind : γ → σ → Except SyntaxError (List β) × σ} {whole : σ → Except SyntaxError β × σ}
    {front : γ → Option β} {rest : γ → Option (List β)} {single : Option β}
    (hWhole : metadata.Yields state single whole) (cuts : List γ)
    (hBefore : ∀ cut ∈ cuts, metadata.Yields state (front cut) (before cut))
    (hBehind : ∀ cut ∈ cuts, metadata.Yields state (rest cut) (behind cut)) :
    metadata.Yields state
      ((cuts.findSome? fun cut => (front cut).bind fun first => (rest cut).map (first :: ·)).or
        (single.map ([·])))
      (firstDivision before behind whole cuts) := by
  induction cuts with
  | nil =>
      intro later hLater
      rw [firstDivision]
      rcases hWhole.cases hLater with ⟨result, after, hRead, hValue, hLeads⟩ |
        ⟨error, after, hRead, hValue, hLeads⟩
      · rw [hRead, hValue]
        exact ⟨hLeads, rfl⟩
      · rw [hRead, hValue]
        exact ⟨hLeads, rfl⟩
  | cons cut others ih =>
      have hLaterCuts := ih (fun other hOther => hBefore other (List.mem_cons_of_mem cut hOther))
        (fun other hOther => hBehind other (List.mem_cons_of_mem cut hOther))
      intro later hLater
      rw [firstDivision, List.findSome?_cons]
      rcases (hBefore cut List.mem_cons_self).cases hLater with
        ⟨first, after, hRead, hFirst, hLeads⟩ | ⟨error, after, hRead, hFirst, hLeads⟩
      · rw [hRead, hFirst]
        rcases (hBehind cut List.mem_cons_self).cases (hLater.trans hLeads) with
          ⟨more, final, hMore, hRest, hFinal⟩ | ⟨error, final, hMore, hRest, hFinal⟩
        · simp only [hMore, hRest]
          exact ⟨hLeads.trans hFinal, rfl⟩
        · simp only [hMore, hRest]
          exact (yields_orLater hLaterCuts (.behind error)).behind hLater (hLeads.trans hFinal)
      · rw [hRead, hFirst]
        exact (yields_orLater hLaterCuts (.before error)).behind hLater hLeads

variable {entry : Fragment → σ → Except SyntaxError β × σ} {value : List Char → Option β}
  {gaps : List Char → List (List Char)} {connector : List Char}

/-- If what is behind each cut has a value, so has the joined list. -/
theorem yields_parseJoined_of_right
    (hEntry : ∀ text position, metadata.Yields state (value text) (entry ⟨text, position⟩))
    (text : List Char) {rest : Cut text → Option (List β)}
    (hRest : ∀ cut position, metadata.Yields state (rest cut)
      (parseJoined entry gaps connector ⟨cut.right, position⟩))
    (position : Nat) :
    metadata.Yields state
      (((cuts gaps text).findSome? fun cut =>
        (value cut.left).bind fun first => (rest cut).map (first :: ·)).or ((value text).map ([·])))
      (parseJoined entry gaps connector ⟨text, position⟩) := by
  have hDivision := yields_firstDivision (hEntry text position) (cuts gaps text)
    (fun cut _ => hEntry cut.left position)
    (fun cut _ => hRest cut (position + byteLength cut.left + byteLength cut.gap))
  intro later hLater
  rw [parseJoined]
  split
  · rename_i hRead
    exact hDivision.of_eq hLater hRead
  · rename_i hRead
    exact hDivision.of_eq hLater hRead

/-- What a joined list has as its value does not depend on where it stands. -/
theorem exists_yields_parseJoined
    (hEntry : ∀ text position, metadata.Yields state (value text) (entry ⟨text, position⟩))
    (gaps : List Char → List (List Char)) (connector text : List Char) :
    ∃ values, ∀ position, metadata.Yields state values
      (parseJoined entry gaps connector ⟨text, position⟩) := by
  induction hLength : text.length using Nat.strongRecOn generalizing text with
  | ind length ih =>
      choose rest hRest using fun cut : Cut text =>
        ih _ (hLength ▸ cut.right_length_lt) cut.right rfl
      exact ⟨_, yields_parseJoined_of_right hEntry text hRest⟩

/-- **The reader of joined entries is a search.** -/
theorem exists_searchesCuts_parseJoined
    (hEntry : ∀ text position, metadata.Yields state (value text) (entry ⟨text, position⟩))
    (gaps : List Char → List (List Char)) (connector : List Char) :
    ∃ found, SearchesCuts gaps value found ∧ ∀ text position,
      metadata.Yields state (found text) (parseJoined entry gaps connector ⟨text, position⟩) := by
  choose found hFound using exists_yields_parseJoined hEntry gaps connector
  refine ⟨found, fun text => ?_, hFound⟩
  have hStep := yields_parseJoined_of_right hEntry text
    (fun cut position => hFound cut.right position) 0
  rw [← (hFound text 0).eq, hStep.eq]
  rfl

end Joined

end DerivedQuery
