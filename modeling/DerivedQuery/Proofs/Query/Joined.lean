import DerivedQuery.Proofs.Except
import DerivedQuery.Proofs.Metadata
import DerivedQuery.Proofs.Text.Cuts
import DerivedQuery.Query.Joined

/-!
# Reading joined entries

Two facts about `parseJoined` are all that the readers of criteria and of ordering clauses need.
Whatever it returns, it has read every entry of the list, and there is at least one. And a text
that joins the spellings of some entries is read back as those entries if its first cut is at the
first joint: the left side of this cut is then a spelling, and the right side is a shorter text of
the same kind.

## Main results

* `reads_parseJoined`: the entries that are read have the property of a single one
* `returns_parseJoined`: what the whole list inherits from its entries
* `parseJoined_intercalate`: joined spellings are read back
* `parseJoined_connector`: spellings without the connector are read back behind connectors
-/

namespace DerivedQuery

open Text Metadata

variable {σ β : Type}

/-! ## Failures -/

/-- What holds of two failures holds of the more telling one. -/
theorem error_prefer {Q : SyntaxError → Prop} {earlier later : Failure} (hEarlier : Q earlier.error)
    (hLater : Q later.error) : Q (earlier.prefer later).error := by
  unfold Failure.prefer
  split
  · exact hLater
  · exact hEarlier

/-! ## What is read -/

section Reads

variable {metadata : Metadata σ} {P : β → σ → Prop}

/-- There is an entry, and each has the property. -/
def AllEntries (P : β → σ → Prop) (entries : List β) (state : σ) : Prop :=
  entries ≠ [] ∧ ∀ entry ∈ entries, P entry state

private theorem allEntries_singleton {entry : β} {state : σ} (hEntry : P entry state) :
    AllEntries P [entry] state :=
  ⟨by simp, by simpa using hEntry⟩

theorem AllEntries.cons {entry : β} {entries : List β} {state : σ} (hEntry : P entry state)
    (hEntries : AllEntries P entries state) : AllEntries P (entry :: entries) state := by
  refine ⟨by simp, fun other hOther => ?_⟩
  rcases List.mem_cons.mp hOther with rfl | hLater
  · exact hEntry
  · exact hEntries.2 other hLater

theorem stable_allEntries (hStable : metadata.Stable P) : metadata.Stable (AllEntries P) :=
  fun _ before after hLeads hEntries =>
    ⟨hEntries.1, fun entry hEntry => hStable entry before after hLeads (hEntries.2 entry hEntry)⟩

/-- A later attempt adds its requests, and only its result counts. -/
theorem reads_orLater {γ : Type} {Q : γ → σ → Prop} {reader : σ → Except Failure γ × σ}
    (hReader : metadata.Reads Q reader) (failure : Failure) :
    metadata.Reads Q fun state => failure.orLater (reader state) := by
  intro state
  obtain ⟨hLeads, hResult⟩ := hReader state
  cases hRead : reader state with
  | mk result after =>
      rw [hRead] at hLeads hResult
      dsimp only
      rw [hRead]
      cases result with
      | ok value => exact ⟨hLeads, hResult⟩
      | error error => exact ⟨hLeads, by simp [Failure.orLater]⟩

private theorem reads_firstDivision {γ : Type} (hStable : metadata.Stable P)
    {before : γ → σ → Except SyntaxError β × σ} {behind : γ → σ → Except SyntaxError (List β) × σ}
    {whole : σ → Except SyntaxError β × σ} (hWhole : metadata.Reads P whole) (cuts : List γ)
    (hBefore : ∀ cut ∈ cuts, metadata.Reads P (before cut))
    (hBehind : ∀ cut ∈ cuts, metadata.Reads (AllEntries P) (behind cut)) :
    metadata.Reads (AllEntries P) (firstDivision before behind whole cuts) := by
  induction cuts with
  | nil =>
      intro state
      rw [firstDivision]
      split
      · rename_i hResult
        obtain ⟨hLeads, hEntry⟩ := hWhole.of_eq hResult
        refine ⟨hLeads, ?_⟩
        simp only [Except.ok.injEq, forall_eq']
        exact allEntries_singleton (hEntry _ rfl)
      · rename_i hResult
        exact ⟨(hWhole.of_eq hResult).1, by simp⟩
  | cons cut rest ih =>
      have hLater := ih (fun other hOther => hBefore other (List.mem_cons_of_mem cut hOther))
        (fun other hOther => hBehind other (List.mem_cons_of_mem cut hOther))
      intro state
      rw [firstDivision]
      split
      · rename_i error after hLeft
        obtain ⟨hLeads, _⟩ := (hBefore cut List.mem_cons_self).of_eq hLeft
        obtain ⟨hMore, hResult⟩ := reads_orLater hLater (.before error) after
        exact ⟨hLeads.trans hMore, hResult⟩
      · rename_i entry after hLeft
        obtain ⟨hLeads, hEntry⟩ := (hBefore cut List.mem_cons_self).of_eq hLeft
        split
        · rename_i entries final hRight
          obtain ⟨hMore, hEntries⟩ := (hBehind cut List.mem_cons_self).of_eq hRight
          refine ⟨hLeads.trans hMore, ?_⟩
          simp only [Except.ok.injEq, forall_eq']
          exact (hEntries _ rfl).cons (hStable _ _ _ hMore (hEntry _ rfl))
        · rename_i error final hRight
          obtain ⟨hMore, _⟩ := (hBehind cut List.mem_cons_self).of_eq hRight
          obtain ⟨hMost, hResult⟩ := reads_orLater hLater (.behind error) final
          exact ⟨(hLeads.trans hMore).trans hMost, hResult⟩

/-- The entries that are read have the property of a single one. -/
theorem reads_parseJoined (hStable : metadata.Stable P)
    {entry : Fragment → σ → Except SyntaxError β × σ}
    (hEntry : ∀ fragment, metadata.Reads P (entry fragment))
    (gaps : List Char → List (List Char)) (connector : List Char) (fragment : Fragment) :
    metadata.Reads (AllEntries P) (parseJoined entry gaps connector fragment) := by
  induction hLength : fragment.text.length using Nat.strongRecOn generalizing fragment with
  | ind length ih =>
      have hDivision := reads_firstDivision hStable (hEntry fragment) (cuts gaps fragment.text)
        (fun cut _ => hEntry (fragment.left cut))
        (fun cut _ => ih _ (hLength ▸ cut.right_length_lt) (fragment.right cut) rfl)
      intro state
      rw [parseJoined]
      split
      · rename_i hResult
        obtain ⟨hLeads, hEntries⟩ := hDivision.of_eq hResult
        exact ⟨hLeads, by simpa using hEntries⟩
      · rename_i hResult
        exact ⟨(hDivision.of_eq hResult).1, by simp⟩

end Reads

/-! ## Results of a division -/

section Results

/-- A failure in front of a later attempt leaves the result to this one. -/
theorem returns_orLater {γ : Type} {Q : γ → Prop} {reader : σ → Except Failure γ × σ}
    (hReader : Returns Q reader) (failure : Failure) :
    Returns Q fun state => failure.orLater (reader state) := by
  intro state result after hRead
  cases hLater : reader state with
  | mk outcome final =>
      dsimp only at hRead
      rw [hLater] at hRead
      cases outcome with
      | ok value =>
          simp only [Failure.orLater, Prod.mk.injEq, Except.ok.injEq] at hRead
          rw [← hRead.1]
          exact hReader state value final hLater
      | error later => simp [Failure.orLater] at hRead

/-- If every division composes its result from those of its two sides, so does a search among
divisions. -/
theorem returns_firstDivision {γ : Type} {Left : γ → β → Prop} {Right : γ → List β → Prop}
    {Whole : List β → Prop} {before : γ → σ → Except SyntaxError β × σ}
    {behind : γ → σ → Except SyntaxError (List β) × σ} {whole : σ → Except SyntaxError β × σ}
    (hWhole : Returns (fun entry => Whole [entry]) whole) (cuts : List γ)
    (hBefore : ∀ cut ∈ cuts, Returns (Left cut) (before cut))
    (hBehind : ∀ cut ∈ cuts, Returns (Right cut) (behind cut))
    (hJoin : ∀ cut ∈ cuts, ∀ entry entries, Left cut entry → Right cut entries →
      Whole (entry :: entries)) :
    Returns Whole (firstDivision before behind whole cuts) := by
  induction cuts with
  | nil =>
      intro state entries after hRead
      rw [firstDivision] at hRead
      split at hRead
      · rename_i hEntry
        simp only [Prod.mk.injEq, Except.ok.injEq] at hRead
        rw [← hRead.1]
        exact hWhole state _ _ hEntry
      · simp at hRead
  | cons cut rest ih =>
      have hLater := ih (fun other hOther => hBefore other (List.mem_cons_of_mem cut hOther))
        (fun other hOther => hBehind other (List.mem_cons_of_mem cut hOther))
        (fun other hOther => hJoin other (List.mem_cons_of_mem cut hOther))
      intro state entries after hRead
      rw [firstDivision] at hRead
      split at hRead
      · exact returns_orLater hLater _ _ entries after hRead
      · rename_i entry between hLeft
        split at hRead
        · rename_i others final hRight
          simp only [Prod.mk.injEq, Except.ok.injEq] at hRead
          rw [← hRead.1]
          exact hJoin cut List.mem_cons_self entry others
            (hBefore cut List.mem_cons_self state entry between hLeft)
            (hBehind cut List.mem_cons_self between others final hRight)
        · exact returns_orLater hLater _ _ entries after hRead

/-- What is read from a joined list, if it can be told of a single entry and passed on from the
right side of a cut to the whole. No entry is empty. -/
theorem returns_parseJoined {P : Fragment → β → Prop} {Q : Fragment → List β → Prop}
    {entry : Fragment → σ → Except SyntaxError β × σ} {gaps : List Char → List (List Char)}
    (hEntry : ∀ fragment : Fragment, fragment.text ≠ [] → Returns (P fragment) (entry fragment))
    (hSingle : ∀ fragment value, P fragment value → Q fragment [value])
    (hJoin : ∀ (fragment : Fragment) (cut : Cut fragment.text), cut.gap ∈ gaps cut.left →
      ∀ value values, P (fragment.left cut) value → Q (fragment.right cut) values →
        Q fragment (value :: values))
    (connector : List Char) {fragment : Fragment} (hText : fragment.text ≠ []) :
    Returns (Q fragment) (parseJoined entry gaps connector fragment) := by
  induction hLength : fragment.text.length using Nat.strongRecOn generalizing fragment with
  | ind length ih =>
      have hRest : ∀ cut ∈ cuts gaps fragment.text, Returns (Q (fragment.right cut))
          (parseJoined entry gaps connector (fragment.right cut)) :=
        fun cut _ => ih _ (hLength ▸ cut.right_length_lt) (ne_nil_of_opensWord cut.right_opens) rfl
      have hDivision := returns_firstDivision ((hEntry fragment hText).mono (hSingle fragment))
        (cuts gaps fragment.text) (fun cut _ => hEntry (fragment.left cut) cut.left_ne_nil) hRest
        (fun cut hCut => hJoin fragment cut (mem_cuts.mp hCut))
      intro state values after hRead
      rw [parseJoined] at hRead
      split at hRead
      · rename_i hResult
        simp only [Prod.mk.injEq, Except.ok.injEq] at hRead
        rw [← hRead.1]
        exact hDivision state _ _ hResult
      · simp at hRead

end Results

/-! ## Joined texts -/

section Joined

variable {spell : β → List Char}

theorem opensWord_intercalate {entries : List β} (hEntries : entries ≠ [])
    (hSpell : ∀ value ∈ entries, opensWord (spell value) = true) (gap : List Char) :
    opensWord (gap.intercalate (entries.map spell)) = true := by
  obtain ⟨first, rest, rfl⟩ := List.exists_cons_of_ne_nil hEntries
  have hFirst := hSpell first List.mem_cons_self
  cases rest with
  | nil => simpa using hFirst
  | cons second more =>
      rw [List.map_cons, List.map_cons, List.intercalate_cons_cons, List.append_assoc]
      exact opensWord_append hFirst

/-- The runs of joined texts are those of the texts and of what joins them. -/
theorem mem_runs_intercalate {gap : List Char} (hGap : opensWord gap = true) {entries : List β}
    (hSpell : ∀ value ∈ entries, opensWord (spell value) = true) {word : List Char}
    (hWord : word ∈ runs (gap.intercalate (entries.map spell))) :
    word ∈ runs gap ∨ ∃ value ∈ entries, word ∈ runs (spell value) := by
  induction entries with
  | nil => simp at hWord
  | cons value rest ih =>
      have hRest : ∀ other ∈ rest, opensWord (spell other) = true :=
        fun other hOther => hSpell other (List.mem_cons_of_mem value hOther)
      cases rest with
      | nil => exact Or.inr ⟨value, List.mem_cons_self, by simpa using hWord⟩
      | cons second more =>
          have hEnds := endsWordBefore_of_opensWord (opensWord_intercalate (by simp) hRest gap)
          rw [List.map_cons, List.map_cons, List.intercalate_cons_cons, List.append_assoc,
            ← List.map_cons, runs_append_word _ hGap hEnds, List.mem_append, List.mem_append] at hWord
          rcases hWord with hFirst | hWordGap | hLater
          · exact Or.inr ⟨value, List.mem_cons_self, hFirst⟩
          · exact Or.inl hWordGap
          · rcases ih hRest hLater with hInGap | ⟨other, hOther, hRun⟩
            · exact Or.inl hInGap
            · exact Or.inr ⟨other, List.mem_cons_of_mem value hOther, hRun⟩

/-- Joined texts end with the last of them. -/
theorem exists_intercalate_eq_append (spell : β → List Char) {entries : List β}
    (hEntries : entries ≠ []) (gap : List Char) :
    ∃ front, ∃ last ∈ entries, gap.intercalate (entries.map spell) = front ++ spell last := by
  induction entries with
  | nil => exact absurd rfl hEntries
  | cons value rest ih =>
      cases rest with
      | nil => exact ⟨[], value, List.mem_cons_self, by simp⟩
      | cons second more =>
          obtain ⟨front, last, hLast, hJoined⟩ := ih (by simp)
          refine ⟨spell value ++ gap ++ front, last, List.mem_cons_of_mem value hLast, ?_⟩
          rw [List.map_cons, List.map_cons, List.intercalate_cons_cons, ← List.map_cons, hJoined]
          simp

end Joined

/-! ## Reading joined spellings -/

section Respell

variable {entry : Fragment → σ → Except SyntaxError β × σ} {gaps : List Char → List (List Char)}
  {connector : List Char} {state : σ}

/-- A text without cuts is a single entry. -/
theorem parseJoined_of_cuts_eq_nil {fragment : Fragment} {value : β}
    (hCuts : cuts gaps fragment.text = []) (hEntry : entry fragment state = (.ok value, state)) :
    parseJoined entry gaps connector fragment state = (.ok [value], state) := by
  rw [parseJoined, hCuts]
  simp [firstDivision, hEntry]

/-- The first cut is taken if both of its sides can be read. -/
theorem parseJoined_of_cuts_eq_cons {fragment : Fragment} {cut : Cut fragment.text}
    {others : List (Cut fragment.text)} {value : β} {values : List β}
    (hCuts : cuts gaps fragment.text = cut :: others)
    (hEntry : entry (fragment.left cut) state = (.ok value, state))
    (hRest : parseJoined entry gaps connector (fragment.right cut) state = (.ok values, state)) :
    parseJoined entry gaps connector fragment state = (.ok (value :: values), state) := by
  rw [parseJoined, hCuts]
  simp [firstDivision, hEntry, hRest]

variable {spell : β → List Char} {gap : List Char}

/-- **Joined spellings are read back**, if a spelling alone has no cut and the first cut of several
spellings is at the first joint. -/
theorem parseJoined_intercalate {Spelled : β → Prop} {reread : β → β}
    (hOpens : ∀ value, Spelled value → opensWord (spell value) = true)
    (hEntry : ∀ value, Spelled value → ∀ position,
      entry ⟨spell value, position⟩ state = (.ok (reread value), state))
    (hSingle : ∀ value, Spelled value → cuts gaps (spell value) = [])
    (hFirst : ∀ value more, Spelled value → (∀ other ∈ more, Spelled other) →
      ∀ cut : Cut (gap.intercalate ((value :: more).map spell)), cut.left = spell value →
        cut.gap = gap → ∃ others, cuts gaps _ = cut :: others)
    {entries : List β} (hEntries : entries ≠ []) (hSpelled : ∀ value ∈ entries, Spelled value)
    (position : Nat) :
    parseJoined entry gaps connector ⟨gap.intercalate (entries.map spell), position⟩ state =
      (.ok (entries.map reread), state) := by
  induction entries generalizing position with
  | nil => exact absurd rfl hEntries
  | cons value rest ih =>
      have hValue := hSpelled value List.mem_cons_self
      have hRest : ∀ other ∈ rest, Spelled other :=
        fun other hOther => hSpelled other (List.mem_cons_of_mem value hOther)
      cases rest with
      | nil =>
          rw [List.map_cons, List.map_nil, List.intercalate_singleton]
          exact parseJoined_of_cuts_eq_nil (hSingle value hValue) (hEntry value hValue position)
      | cons second more =>
          -- the cut at the first joint
          let cut : Cut (gap.intercalate ((value :: second :: more).map spell)) :=
            { left := spell value
              gap := gap
              right := gap.intercalate ((second :: more).map spell)
              joined := by simp [List.intercalate_cons_cons]
              left_ne_nil := ne_nil_of_opensWord (hOpens value hValue)
              right_opens := opensWord_intercalate (by simp)
                (fun other hOther => hOpens other (hRest other hOther)) gap }
          obtain ⟨others, hCuts⟩ := hFirst value (second :: more) hValue hRest cut rfl rfl
          exact parseJoined_of_cuts_eq_cons hCuts (hEntry value hValue _) (ih (by simp) hRest _)

/-- Spellings in which a connector word does not occur are read back when it joins them. -/
theorem parseJoined_connector {Spelled : β → Prop} {reread : β → β} {word : List Char}
    (hWord : opensWord word = true) (hRuns : runs word = [word])
    (hOpens : ∀ value, Spelled value → opensWord (spell value) = true)
    (hFree : ∀ value, Spelled value → word ∉ runs (spell value))
    (hEntry : ∀ value, Spelled value → ∀ position,
      entry ⟨spell value, position⟩ state = (.ok (reread value), state))
    {entries : List β} (hEntries : entries ≠ []) (hSpelled : ∀ value ∈ entries, Spelled value)
    (position : Nat) :
    parseJoined entry (connectorGaps word) word ⟨word.intercalate (entries.map spell), position⟩
        state =
      (.ok (entries.map reread), state) := by
  apply parseJoined_intercalate hOpens hEntry _ _ hEntries hSpelled
  · intro value hValue
    exact cuts_connectorGaps_eq_nil hWord hRuns (hFree value hValue)
  · intro value more hValue _ cut hLeft hGap
    exact cuts_connectorGaps_eq_cons hWord hRuns cut hGap (by rw [hLeft]; exact hFree value hValue)

end Respell

end DerivedQuery
