import DerivedQuery.Proofs.Path.Failure
import DerivedQuery.Proofs.Query.Joined
import DerivedQuery.Query.Ordering

/-!
# Where the errors of lists point

A syntax error quotes a piece of the method name and gives its position. The pieces come from many
places: the readers of joined lists divide their text again and again, and parts and orders lose
their markers and tokens. Each of these steps goes from a fragment to a *piece* of it, at the
position where the piece stands in the fragment, and pieces of pieces are pieces. So it does not
matter which of all the errors of a search is reported in the end: each of them points into the
fragment that was read.

No reader is given an empty text. A cut has a character on both of its sides, and so has a marker or
a token that is dropped. This is why an error always quotes something, and why no connector is
reported to be missing on a side of nothing.

## Main definitions

* `Fragment.Piece`: a fragment as a piece of another one
* `SyntaxError.PointsInto`: an error that quotes a piece of a fragment

## Main results

* `pointsInto_parseJoined`: the errors of a joined list point into the list
* `pointsInto_parseCriteria`, `pointsInto_parseOrdering`: the errors of criteria and orderings
-/

namespace DerivedQuery

open Text

variable {σ β : Type}

/-! ## Pieces of a fragment -/

namespace Fragment

/-- The fragment stands in the whole one, at the position that it has. -/
def Piece (whole piece : Fragment) : Prop :=
  ∃ before after, whole.text = before ++ (piece.text ++ after) ∧
    piece.position = whole.position + byteLength before

variable {whole middle piece : Fragment}

theorem Piece.refl (whole : Fragment) : whole.Piece whole :=
  ⟨[], [], by simp, rfl⟩

theorem Piece.trans (hMiddle : whole.Piece middle) (hPiece : middle.Piece piece) :
    whole.Piece piece := by
  obtain ⟨before, after, hText, hPosition⟩ := hMiddle
  obtain ⟨more, rest, hMore, hInside⟩ := hPiece
  refine ⟨before ++ more, rest ++ after, ?_, ?_⟩
  · rw [hText, hMore]
    simp only [List.append_assoc]
  · rw [hInside, hPosition, byteLength_append, Nat.add_assoc]

/-- What stands behind some text. -/
theorem piece_behind {before text : List Char} (after : List Char)
    (hText : whole.text = before ++ (text ++ after)) : whole.Piece (whole.behind before text) :=
  ⟨before, after, hText, rfl⟩

/-- The end. -/
theorem piece_last {before text : List Char} (hText : whole.text = before ++ text) :
    whole.Piece (whole.behind before text) :=
  piece_behind [] (by rw [hText, List.append_nil])

/-- The beginning. -/
theorem piece_upTo {text after : List Char} (hText : whole.text = text ++ after) :
    whole.Piece (whole.upTo text) :=
  ⟨[], after, hText, rfl⟩

private theorem piece_left (whole : Fragment) (cut : Cut whole.text) :
    whole.Piece (whole.left cut) :=
  piece_upTo cut.joined.symm

private theorem piece_right (whole : Fragment) (cut : Cut whole.text) :
    whole.Piece (whole.right cut) := by
  refine ⟨cut.left ++ cut.gap, [], ?_, ?_⟩
  · rw [List.append_nil, List.append_assoc]
    exact cut.joined.symm
  · rw [byteLength_append, ← Nat.add_assoc]
    rfl

end Fragment

/-! ## Errors about pieces -/

/-- The error quotes a piece of the fragment that holds a character. It has a cause if the piece is
no property path, and the cause is about the text of the piece; and it blames a connector only. -/
structure SyntaxError.PointsInto (whole : Fragment) (error : SyntaxError) : Prop where
  piece : whole.Piece ⟨error.fragment.toList, error.position⟩
  ne_empty : error.fragment ≠ ""
  cause : error.cause.isSome = true ↔ error.kind = .unresolvedSegment
  source : ∀ cause ∈ error.cause, cause.sourcePath = error.fragment
  connector : error.kind = .invalidSplit → error.fragment.toList ∈ [andConnector, orConnector]
  kind : error.kind ≠ .emptyMethodName

section PointsInto

variable {whole piece : Fragment} {error : SyntaxError}

theorem SyntaxError.PointsInto.of_piece (hPiece : whole.Piece piece) (hError : error.PointsInto piece) :
    error.PointsInto whole :=
  { hError with piece := hPiece.trans hError.piece }

private theorem ofList_ne_empty {text : List Char} (hText : text ≠ []) :
    String.ofList text ≠ "" := by
  intro hEmpty
  have hNil := congrArg String.toList hEmpty
  rw [String.toList_ofList] at hNil
  exact hText hNil

/-- An error about a piece points at the piece. -/
theorem pointsInto_about {kind : SyntaxError.Kind} (hPiece : whole.Piece piece)
    (hText : piece.text ≠ []) (hUnresolved : kind ≠ .unresolvedSegment)
    (hEmpty : kind ≠ .emptyMethodName)
    (hConnector : kind = .invalidSplit → piece.text ∈ [andConnector, orConnector]) :
    (SyntaxError.about kind piece).PointsInto whole where
  piece := by
    rw [SyntaxError.about, String.toList_ofList]
    exact hPiece
  ne_empty := ofList_ne_empty hText
  cause := by simp [SyntaxError.about, hUnresolved]
  source := by simp [SyntaxError.about]
  connector hKind := by
    rw [SyntaxError.about, String.toList_ofList]
    exact hConnector hKind
  kind := hEmpty

/-- A failed resolution is reported at the text that was resolved. -/
theorem pointsInto_unresolved {cause : PathError} (hPiece : whole.Piece piece)
    (hText : piece.text ≠ []) (hSource : cause.sourcePath = String.ofList piece.text) :
    (SyntaxError.unresolved piece cause).PointsInto whole where
  piece := by
    simp only [SyntaxError.unresolved, SyntaxError.about, String.toList_ofList]
    exact hPiece
  ne_empty := ofList_ne_empty hText
  cause := by simp [SyntaxError.unresolved, SyntaxError.about]
  source := by simpa [SyntaxError.unresolved, SyntaxError.about] using hSource
  connector := by simp [SyntaxError.unresolved, SyntaxError.about]
  kind := by simp [SyntaxError.unresolved, SyntaxError.about]

/-- What points into a piece points into the whole. -/
theorem failsWith_of_piece {reader : σ → Except SyntaxError β × σ} (hPiece : whole.Piece piece)
    (hReader : FailsWith (SyntaxError.PointsInto piece) reader) :
    FailsWith (SyntaxError.PointsInto whole) reader :=
  hReader.mono fun _ => .of_piece hPiece

end PointsInto

/-! ## Joined lists -/

section Joined

variable {Q : SyntaxError → Prop} {whole : Fragment}

private theorem failsWith_orLater {γ : Type} {reader : σ → Except Failure γ × σ}
    (hReader : FailsWith (fun failure => Q failure.error) reader) (failure : Failure)
    (hFailure : Q failure.error) :
    FailsWith (fun failure => Q failure.error) fun state => failure.orLater (reader state) := by
  intro state chosen after hRead
  cases hLater : reader state with
  | mk result final =>
      dsimp only at hRead
      rw [hLater] at hRead
      cases result with
      | ok value => simp [Failure.orLater] at hRead
      | error later =>
          simp only [Failure.orLater, Prod.mk.injEq, Except.error.injEq] at hRead
          rw [← hRead.1]
          exact error_prefer hFailure (hReader state later final hLater)

/-- The chosen failure of a division is one of those that were met. -/
theorem failsWith_firstDivision {γ : Type} {before : γ → σ → Except SyntaxError β × σ}
    {behind : γ → σ → Except SyntaxError (List β) × σ} {single : σ → Except SyntaxError β × σ}
    (hSingle : FailsWith Q single) (cuts : List γ)
    (hBefore : ∀ cut ∈ cuts, FailsWith Q (before cut))
    (hBehind : ∀ cut ∈ cuts, FailsWith Q (behind cut)) :
    FailsWith (fun failure => Q failure.error) (firstDivision before behind single cuts) := by
  induction cuts with
  | nil =>
      intro state failure after hRead
      rw [firstDivision] at hRead
      split at hRead
      · simp at hRead
      · rename_i hWhole
        simp only [Prod.mk.injEq, Except.error.injEq] at hRead
        rw [← hRead.1]
        exact hSingle state _ _ hWhole
  | cons cut rest ih =>
      have hLater := ih (fun other hOther => hBefore other (List.mem_cons_of_mem cut hOther))
        (fun other hOther => hBehind other (List.mem_cons_of_mem cut hOther))
      intro state failure after hRead
      rw [firstDivision] at hRead
      split at hRead
      · rename_i error between hLeft
        have hError := hBefore cut List.mem_cons_self state error between hLeft
        exact failsWith_orLater hLater (.before error) hError between failure after hRead
      · split at hRead
        · simp at hRead
        · rename_i error final hRight
          have hError := hBehind cut List.mem_cons_self _ error final hRight
          exact failsWith_orLater hLater (.behind error) hError final failure after hRead

/-- A connector that dangles stands at an end of the fragment. -/
theorem pointsInto_danglingConnector {connector : List Char} {error : SyntaxError}
    (hConnector : connector ∈ [andConnector, orConnector])
    (hDangling : danglingConnector? connector whole = some error) : error.PointsInto whole := by
  have hText : connector ≠ [] := by
    rintro rfl
    simp [andConnector, orConnector] at hConnector
  unfold danglingConnector? at hDangling
  split at hDangling
  · rename_i front hFront
    rw [← Option.some.inj hDangling]
    exact pointsInto_about (Fragment.piece_last (dropSuffix?_eq_some_iff.mp hFront)) hText
      (by decide) (by decide) fun _ => hConnector
  · split at hDangling
    · rename_i hOpens
      cases hRest : dropPrefix? connector whole.text with
      | none => simp [hRest] at hOpens
      | some rest =>
          rw [← Option.some.inj hDangling]
          exact pointsInto_about (Fragment.piece_upTo (dropPrefix?_eq_some_iff.mp hRest)) hText
            (by decide) (by decide) fun _ => hConnector
    · simp at hDangling

/-- **The errors of a joined list point into the list**, if those of its entries point into the
entries. No entry is empty. -/
theorem pointsInto_parseJoined {entry : Fragment → σ → Except SyntaxError β × σ}
    (hEntry : ∀ fragment : Fragment, fragment.text ≠ [] →
      FailsWith (SyntaxError.PointsInto fragment) (entry fragment))
    (gaps : List Char → List (List Char)) {connector : List Char}
    (hConnector : connector ∈ [andConnector, orConnector]) (hWhole : whole.text ≠ []) :
    FailsWith (SyntaxError.PointsInto whole) (parseJoined entry gaps connector whole) := by
  induction hLength : whole.text.length using Nat.strongRecOn generalizing whole with
  | ind length ih =>
      have hDivision : FailsWith (fun failure => failure.error.PointsInto whole)
          (firstDivision (fun cut => entry (whole.left cut))
            (fun cut => parseJoined entry gaps connector (whole.right cut)) (entry whole)
            (cuts gaps whole.text)) :=
        failsWith_firstDivision (hEntry whole hWhole) (cuts gaps whole.text)
          (fun cut _ => failsWith_of_piece (whole.piece_left cut)
            (hEntry (whole.left cut) cut.left_ne_nil))
          (fun cut _ => failsWith_of_piece (whole.piece_right cut)
            (ih _ (hLength ▸ cut.right_length_lt) (ne_nil_of_opensWord cut.right_opens) rfl))
      intro state error after hRead
      rw [parseJoined] at hRead
      split at hRead
      · simp at hRead
      · rename_i failure final hFailure
        simp only [Prod.mk.injEq, Except.error.injEq] at hRead
        rw [← hRead.1]
        cases hDangling : danglingConnector? connector whole with
        | some dangling => exact pointsInto_danglingConnector hConnector hDangling
        | none => exact hDivision state failure final hFailure

end Joined

/-! ## Criteria and ordering -/

section Clauses

variable (scope : Scope σ) {whole : Fragment}

private theorem pointsInto_parsePartAs {path after : List Char} (hPath : path ≠ [])
    (hText : whole.text = path ++ after) (caseMode : CaseMode) (keyword : Keyword) :
    FailsWith (SyntaxError.PointsInto whole) (parsePartAs scope whole caseMode path keyword) := by
  intro state error final hRead
  unfold parsePartAs at hRead
  split at hRead
  · simp at hRead
  · rename_i cause _ hCause
    simp only [Prod.mk.injEq, Except.error.injEq] at hRead
    rw [← hRead.1]
    exact pointsInto_unresolved (Fragment.piece_upTo hText) hPath
      (failsWith_resolvePath scope.metadata scope.separator path scope.root state cause _ hCause)

private theorem pointsInto_parseComparison (hWhole : whole.text ≠ []) (caseMode : CaseMode) :
    FailsWith (SyntaxError.PointsInto whole) (parseComparison scope whole caseMode) := by
  apply failsWith_firstSuccess
  · exact pointsInto_parsePartAs scope hWhole (List.append_nil _).symm caseMode .default
  · intro candidate hCandidate
    obtain ⟨entry, _, hEntry⟩ := List.mem_filterMap.mp hCandidate
    obtain ⟨stem, hStem, rfl⟩ := Option.map_eq_some_iff.mp hEntry
    unfold Vocabulary.stem? at hStem
    obtain ⟨hDrop, hNonempty⟩ := Option.filter_eq_some_iff.mp hStem
    exact pointsInto_parsePartAs scope (by simpa using hNonempty)
      (dropSuffix?_eq_some_iff.mp hDrop) caseMode entry.keyword

private theorem pointsInto_parsePart (hWhole : whole.text ≠ []) :
    FailsWith (SyntaxError.PointsInto whole) (parsePart scope whole) := by
  unfold parsePart
  split
  · rename_i text hText
    obtain ⟨marker, _, hMarker⟩ := List.exists_of_findSome?_eq_some hText
    obtain ⟨hDrop, hNonempty⟩ := Option.filter_eq_some_iff.mp hMarker
    have hFront : text ≠ [] := by simpa using hNonempty
    exact failsWith_of_piece (Fragment.piece_upTo (dropSuffix?_eq_some_iff.mp hDrop))
      (pointsInto_parseComparison scope hFront .ignored)
  · have hSome : whole.text.isEmpty = false := by simpa using hWhole
    rw [hSome]
    exact pointsInto_parseComparison scope hWhole scope.defaultCaseMode

theorem pointsInto_parseCriteria (hWhole : whole.text ≠ []) :
    FailsWith (SyntaxError.PointsInto whole) (parseCriteria scope whole) := by
  apply pointsInto_parseJoined _ _ (by simp) hWhole
  intro group hGroup
  exact pointsInto_parseJoined (fun part hPart => pointsInto_parsePart scope hPart) _ (by simp) hGroup

private theorem pointsInto_parseOrderAs {path after : List Char} (hPath : path ≠ [])
    (hText : whole.text = path ++ after) (direction : Direction) :
    FailsWith (SyntaxError.PointsInto whole) (parseOrderAs scope whole path direction) := by
  intro state error final hRead
  unfold parseOrderAs at hRead
  split at hRead
  · simp at hRead
  · rename_i cause _ hCause
    simp only [Prod.mk.injEq, Except.error.injEq] at hRead
    rw [← hRead.1]
    exact pointsInto_unresolved (Fragment.piece_upTo hText) hPath
      (failsWith_resolvePath scope.metadata scope.separator path scope.root state cause _ hCause)

private theorem pointsInto_parseOrder (hWhole : whole.text ≠ []) :
    FailsWith (SyntaxError.PointsInto whole) (parseOrder scope whole) := by
  have hAlone : FailsWith (SyntaxError.PointsInto whole)
      (parseOrderAs scope whole whole.text .ascending) :=
    pointsInto_parseOrderAs scope hWhole (List.append_nil _).symm .ascending
  unfold parseOrder
  split
  · exact failsWith_error
      (pointsInto_about (.refl whole) hWhole (by decide) (by decide) (by simp))
  · rename_i front direction hFront hDirection
    obtain ⟨word, _, hWord⟩ := List.exists_of_findSome?_eq_some hDirection
    obtain ⟨path, hDrop, hPair⟩ := Option.map_eq_some_iff.mp hWord
    rw [Prod.mk.injEq] at hPair
    have hText := dropSuffix?_eq_some_iff.mp hDrop
    rw [hPair.1] at hText
    apply failsWith_firstSuccess hAlone
    intro _ _
    exact pointsInto_parseOrderAs scope hFront hText direction
  · have hSome : whole.text.isEmpty = false := by simpa using hWhole
    rw [hSome]
    exact hAlone

theorem pointsInto_parseOrdering (hWhole : whole.text ≠ []) :
    FailsWith (SyntaxError.PointsInto whole) (parseOrdering scope whole) :=
  pointsInto_parseJoined (fun order hOrder => pointsInto_parseOrder scope hOrder) _ (by simp) hWhole

end Clauses

end DerivedQuery
