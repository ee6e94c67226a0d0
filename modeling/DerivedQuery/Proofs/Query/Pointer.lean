import DerivedQuery.Command.Console
import DerivedQuery.Proofs.Path.Reading
import DerivedQuery.Proofs.Query.Limit
import DerivedQuery.Proofs.Query.Outline
import DerivedQuery.Proofs.Query.Position

/-!
# What syntax errors point at

The outline of a method name goes from the name to pieces of it: the text behind the introducer, the
subject with its limit, the criteria, and the ordering clause, which is never empty. Its own errors
point into the name, and so do those of the criteria and the ordering, as they are read from such
pieces. A position in the name is a number of bytes in front of which there are whole characters, so
a terminal finds the column of a caret by counting these characters.

## Main definitions

* `SyntaxError.Quotes`: what an error quotes, and where a terminal puts the caret
* `SyntaxError.PointsAt`: what an error tells about a method name

## Main results

* `pointsInto_ofMethod`, `piece_of_ofMethod`: the errors and the pieces of an outline
* `pointsAt_of_parse`: every syntax error points at what it quotes
-/

namespace DerivedQuery

open Text

variable {σ : Type}

/-! ## The outline -/

section Outline

variable {whole : Fragment} {error : SyntaxError}

private theorem pointsInto_readLimit (hRead : readLimit whole = .error error) :
    error.PointsInto whole := by
  unfold readLimit at hRead
  split at hRead
  · simp at hRead
  · rename_i front word digits hFound
    obtain ⟨⟨rest, hText, hWord, -⟩, -⟩ := findLimit?_eq_some_iff.mp hFound
    split at hRead
    · simp at hRead
    · rw [← Except.error.inj hRead]
      refine pointsInto_about (Fragment.piece_behind rest ?_) ?_ (by decide) (by decide)
        (by simp)
      · rw [hText, List.append_assoc]
      · rintro hNil
        obtain ⟨rfl, _⟩ := List.append_eq_nil_iff.mp hNil
        simp at hWord

/-- Subject and body are pieces. -/
theorem piece_splitSubject (whole : Fragment) :
    whole.Piece (splitSubject whole).1 ∧ whole.Piece (splitSubject whole).2 := by
  unfold splitSubject
  split
  · exact ⟨.refl whole, Fragment.piece_last (by simp)⟩
  · rename_i front rest hFind
    obtain ⟨hText, _⟩ := findToken?_eq_some hFind
    split
    · rename_i subject hSubject
      rw [dropSuffix?_eq_some_iff.mp hSubject] at hText
      rw [List.append_assoc] at hText
      refine ⟨Fragment.piece_upTo hText, Fragment.piece_last ?_⟩
      rw [hText]
      rfl
    · refine ⟨Fragment.piece_upTo hText, Fragment.piece_last ?_⟩
      rw [hText, List.append_assoc]

/-- The errors of a subject, and the piece behind it. -/
theorem pointsInto_readSubject {introducers : List Introducer} {method : List Char} :
    (∀ error, readSubject introducers method = .error error → error.PointsInto ⟨method, 0⟩) ∧
      ∀ intent distinct limit body,
        readSubject introducers method = .ok (intent, distinct, limit, body) →
          Fragment.Piece ⟨method, 0⟩ body := by
  unfold readSubject
  cases hFind : findIntroducer? introducers method with
  | none => simp [Fragment.Piece.refl]
  | some found =>
      obtain ⟨introducer, rest⟩ := found
      -- what is behind the introducer is a piece, and divided further
      have hBehind : Fragment.Piece ⟨method, 0⟩ ⟨rest, byteLength introducer.word.toList⟩ := by
        obtain ⟨entry, _, hEntry⟩ := List.exists_of_findSome?_eq_some hFind
        obtain ⟨text, hText, hPair⟩ := Option.map_eq_some_iff.mp hEntry
        rw [Prod.mk.injEq] at hPair
        obtain ⟨rfl, rfl⟩ := hPair
        have hDrop := dropPrefix?_eq_some_iff.mp (Option.filter_eq_some_iff.mp hText).1
        exact ⟨entry.word.toList, [], by rw [List.append_nil]; exact hDrop, by simp⟩
      obtain ⟨hSubject, hBody⟩ := piece_splitSubject ⟨rest, byteLength introducer.word.toList⟩
      dsimp only
      cases hLimit : readLimit (splitSubject ⟨rest, byteLength introducer.word.toList⟩).1 with
      | error error =>
          simp only [bind, Except.bind, Except.error.injEq, forall_eq', reduceCtorEq,
            false_imp_iff, implies_true, and_true]
          exact (pointsInto_readLimit hLimit).of_piece (hBehind.trans hSubject)
      | ok limit =>
          simp only [bind, Except.bind, pure, Except.pure, reduceCtorEq, false_imp_iff,
            implies_true, true_and, Except.ok.injEq, Prod.mk.injEq, and_imp]
          rintro _ _ _ _ _ _ _ rfl
          exact hBehind.trans hBody

private theorem orderByToken_ne_nil : orderByToken ≠ [] := by
  decide

/-- The errors of an ordering clause that is misplaced. -/
theorem pointsInto_splitOrdering (hSplit : splitOrdering whole = .error error) :
    error.PointsInto whole := by
  unfold splitOrdering at hSplit
  split at hSplit
  · simp at hSplit
  · rename_i front ordering hFirst
    obtain ⟨hText, _⟩ := findToken?_eq_some hFirst
    split at hSplit
    · rename_i between rest hSecond
      obtain ⟨hOrdering, _⟩ := findToken?_eq_some hSecond
      rw [← Except.error.inj hSplit]
      refine pointsInto_about (Fragment.piece_behind rest ?_) orderByToken_ne_nil
        (by decide) (by decide) (by simp)
      rw [hText, hOrdering]
      simp only [List.append_assoc]
    · split at hSplit
      · rw [← Except.error.inj hSplit]
        exact pointsInto_about (Fragment.piece_behind _ hText) orderByToken_ne_nil (by decide)
          (by decide) (by simp)
      · simp at hSplit

/-- Criteria and ordering clause are pieces, and the clause is not empty. -/
theorem piece_splitOrdering {front : Fragment} {ordering : Option Fragment}
    (hSplit : splitOrdering whole = .ok (front, ordering)) :
    whole.Piece front ∧ ∀ clause ∈ ordering, whole.Piece clause ∧ clause.text ≠ [] := by
  unfold splitOrdering at hSplit
  split at hSplit
  · simp only [Except.ok.injEq, Prod.mk.injEq] at hSplit
    obtain ⟨rfl, rfl⟩ := hSplit
    exact ⟨.refl whole, by simp⟩
  · rename_i before clause hFind
    obtain ⟨hText, _⟩ := findToken?_eq_some hFind
    split at hSplit
    · simp at hSplit
    · split at hSplit
      · simp at hSplit
      · rename_i hClause
        simp only [Except.ok.injEq, Prod.mk.injEq] at hSplit
        obtain ⟨rfl, rfl⟩ := hSplit
        refine ⟨Fragment.piece_upTo hText, ?_⟩
        intro found hFound
        rw [← Option.some.inj hFound]
        refine ⟨Fragment.piece_last ?_, by simpa [Fragment.behind] using hClause⟩
        rw [hText, List.append_assoc]

private theorem piece_dropIgnoreAllCase (whole : Fragment) :
    whole.Piece (dropIgnoreAllCase whole).1 := by
  unfold dropIgnoreAllCase
  split
  · rename_i text hText
    obtain ⟨marker, _, hDrop⟩ := List.exists_of_findSome?_eq_some hText
    exact Fragment.piece_upTo (dropSuffix?_eq_some_iff.mp hDrop)
  · exact .refl whole

variable {introducers : List Introducer} {method : List Char}

/-- The errors of an outline. -/
theorem pointsInto_ofMethod (hMethod : method ≠ [])
    (hOutline : Outline.ofMethod introducers method = .error error) :
    error.PointsInto ⟨method, 0⟩ := by
  have hNonempty : method.isEmpty = false := by simpa using hMethod
  cases hSubject : readSubject introducers method with
  | error defect =>
      have hError : Outline.ofMethod introducers method = .error defect := by
        simp [Outline.ofMethod, hNonempty, hSubject, bind, Except.bind]
      rw [hError, Except.error.injEq] at hOutline
      exact hOutline ▸ pointsInto_readSubject.1 defect hSubject
  | ok subject =>
      obtain ⟨intent, distinct, limit, body⟩ := subject
      cases hSplit : splitOrdering body with
      | error defect =>
          have hError : Outline.ofMethod introducers method = .error defect := by
            simp [Outline.ofMethod, hNonempty, hSubject, hSplit, bind, Except.bind]
          rw [hError, Except.error.injEq] at hOutline
          exact hOutline ▸ (pointsInto_splitOrdering hSplit).of_piece
            (pointsInto_readSubject.2 _ _ _ _ hSubject)
      | ok divided =>
          have hOk := ofMethod_eq_ok_iff.mpr
            ⟨hMethod, intent, distinct, limit, body, divided.1, divided.2, hSubject, hSplit, rfl⟩
          rw [hOk] at hOutline
          simp at hOutline

/-- Criteria and ordering clause of a method name are pieces of it. -/
theorem piece_of_ofMethod {outline : Outline}
    (hOutline : Outline.ofMethod introducers method = .ok outline) :
    Fragment.Piece ⟨method, 0⟩ outline.criteria ∧
      ∀ clause ∈ outline.ordering, Fragment.Piece ⟨method, 0⟩ clause ∧ clause.text ≠ [] := by
  obtain ⟨_, intent, distinct, limit, body, front, ordering, hSubject, hSplit, rfl⟩ :=
    ofMethod_eq_ok_iff.mp hOutline
  have hBody := pointsInto_readSubject.2 _ _ _ _ hSubject
  obtain ⟨hFront, hOrdering⟩ := piece_splitOrdering hSplit
  refine ⟨hBody.trans (hFront.trans (piece_dropIgnoreAllCase front)), ?_⟩
  intro clause hClause
  exact ⟨hBody.trans (hOrdering clause hClause).1, (hOrdering clause hClause).2⟩

end Outline

/-! ## Method names -/

section Methods

variable (parser : MethodParser) (metadata : Metadata σ) (root : String)

/-- The errors of a name that holds a character point into it. -/
theorem pointsInto_parse {method : String} (hMethod : method ≠ "") :
    FailsWith (SyntaxError.PointsInto ⟨method.toList, 0⟩) (parser.parse metadata method root) := by
  have hText : method.toList ≠ [] := fun hNil => hMethod (String.toList_eq_nil_iff.mp hNil)
  intro state error after hParse
  unfold MethodParser.parse at hParse
  split at hParse
  · rename_i hOutline
    simp only [Prod.mk.injEq, Except.error.injEq] at hParse
    rw [← hParse.1]
    exact pointsInto_ofMethod hText hOutline
  · rename_i outline hOutline
    obtain ⟨hCriteria, hOrdering⟩ := piece_of_ofMethod hOutline
    unfold MethodParser.readOutline at hParse
    dsimp only at hParse
    split at hParse
    · rename_i hGroups
      unfold MethodParser.readCriteria at hGroups
      simp only [Prod.mk.injEq, Except.error.injEq] at hParse
      rw [← hParse.1]
      split at hGroups
      · simp at hGroups
      · rename_i hSome
        have hNonempty : outline.criteria.text ≠ [] := by simpa using hSome
        exact (pointsInto_parseCriteria _ hNonempty _ _ _ hGroups).of_piece hCriteria
    · split at hParse
      · rename_i hOrders
        unfold MethodParser.readOrdering at hOrders
        simp only [Prod.mk.injEq, Except.error.injEq] at hParse
        rw [← hParse.1]
        split at hOrders
        · simp at hOrders
        · rename_i clause hClause
          obtain ⟨hPiece, hNonempty⟩ := hOrdering clause hClause
          exact (pointsInto_parseOrdering _ hNonempty _ _ _ hOrders).of_piece hPiece
      · simp at hParse

/-- The empty name has an error of its own. -/
theorem parse_empty (state : σ) :
    parser.parse metadata "" root state = (.error (.about .emptyMethodName ⟨[], 0⟩), state) :=
  rfl

end Methods

/-- The column of a position is the number of characters in front of it. -/
theorem column_append {position : Nat} (before rest : List Char) (offset : Nat)
    (hPosition : position = offset + byteLength before) :
    Command.Terminal.pointerText.column position (before ++ rest) offset = before.length := by
  induction before generalizing offset with
  | nil =>
      have hHere : ¬offset < position := by
        rw [hPosition, byteLength]
        omega
      cases rest with
      | nil => rfl
      | cons c more => rw [List.nil_append, Command.Terminal.pointerText.column, if_neg hHere, List.length_nil]
  | cons c more ih =>
      have hPositive := c.utf8Size_pos
      rw [byteLength] at hPosition
      have hBefore : offset < position := by omega
      rw [List.cons_append, Command.Terminal.pointerText.column, if_pos hBefore,
        ih (offset + c.utf8Size) (by omega), List.length_cons]

/-- What the error quotes stands at its position in the text, behind whole characters. A terminal
puts the caret below the first character of it. -/
def SyntaxError.Quotes (text : String) (error : SyntaxError) : Prop :=
  ∃ before after : String, text = before ++ error.fragment ++ after ∧
    error.position = before.utf8ByteSize ∧
    ∀ terminal : Command.Terminal, terminal.pointerText text error.position =
      "    " ++ text ++ "\n    " ++ String.ofList (List.replicate before.length ' ')
        ++ Report.Style.error.paint terminal.colored Report.Symbol.caret

private theorem SyntaxError.quotes_of_piece {text : String} {error : SyntaxError}
    (hPiece : Fragment.Piece ⟨text.toList, 0⟩ ⟨error.fragment.toList, error.position⟩) :
    error.Quotes text := by
  obtain ⟨before, after, hText, hPosition⟩ := hPiece
  dsimp only at hText hPosition
  refine ⟨String.ofList before, String.ofList after, ?_, ?_, ?_⟩
  · apply String.toList_inj.mp
    simpa using hText
  · rw [hPosition, Nat.zero_add, byteLength_eq_utf8ByteSize]
  · intro terminal
    unfold Command.Terminal.pointerText
    rw [hText, column_append before _ 0 hPosition, String.length_ofList]

/-- The error quotes something of the method name, unless there is nothing. It has a cause if what
it quotes is no property path, and the cause is about this very text. Where it blames a division, it
quotes a connector. -/
structure SyntaxError.PointsAt (method : String) (error : SyntaxError) : Prop where
  quotes : error.Quotes method
  empty : error.fragment = "" ↔ method = ""
  kind : error.kind = .emptyMethodName ↔ method = ""
  cause : error.cause.isSome = true ↔ error.kind = .unresolvedSegment
  source : ∀ cause ∈ error.cause, cause.sourcePath = error.fragment
  connector : error.kind = .invalidSplit → error.fragment = "And" ∨ error.fragment = "Or"

/-- **Every syntax error points at what it quotes**, whatever the naming convention, the metadata,
the root and the method name are. -/
theorem pointsAt_of_parse (parser : MethodParser) (metadata : Metadata σ) (method root : String)
    (state : σ) {error : SyntaxError} {after : σ}
    (hParse : parser.parse metadata method root state = (.error error, after)) :
    error.PointsAt method := by
  by_cases hEmpty : method = ""
  · subst hEmpty
    rw [parse_empty, Prod.mk.injEq, Except.error.injEq] at hParse
    rw [← hParse.1]
    exact
      { quotes := SyntaxError.quotes_of_piece (.refl _)
        empty := by simp [SyntaxError.about]
        kind := by simp [SyntaxError.about]
        cause := by simp [SyntaxError.about]
        source := by simp [SyntaxError.about]
        connector := by simp [SyntaxError.about] }
  · have hPoints := pointsInto_parse parser metadata root hEmpty state error after hParse
    refine
      { quotes := SyntaxError.quotes_of_piece hPoints.piece
        empty := by simp [hPoints.ne_empty, hEmpty]
        kind := by simp [hPoints.kind, hEmpty]
        cause := hPoints.cause
        source := hPoints.source
        connector := ?_ }
    intro hKind
    have hConnector := hPoints.connector hKind
    simp only [andConnector, orConnector, List.mem_cons, List.not_mem_nil, or_false,
      String.toList_inj] at hConnector
    exact hConnector

/-- A criterion behind a name of more bytes than characters does not resolve. -/
theorem pointsAt_contacts : ∃ error after,
    MethodParser.default.parse contacts.metadata "findÜberallByAddressOrÄmter" "Person" {} =
      (.error error, after) ∧
    (error.kind, error.fragment, error.position) = (.unresolvedSegment, "Ämter", 23) ∧
    error.PointsAt "findÜberallByAddressOrÄmter" := by
  let error : SyntaxError :=
    { kind := .unresolvedSegment
      fragment := "Ämter"
      position := 23
      cause := some { sourcePath := "Ämter", unresolved := "Ämter", typeName := "Person" } }
  have hError : (MethodParser.default.parse contacts.metadata "findÜberallByAddressOrÄmter"
      "Person" {}).1 = .error error := by
    unfold MethodParser.parse
    rw [introducers_default]
    decide +kernel
  cases hParse : MethodParser.default.parse contacts.metadata "findÜberallByAddressOrÄmter"
      "Person" {} with
  | mk result after =>
      rw [hParse] at hError
      dsimp only at hError
      rw [hError] at hParse
      exact ⟨error, after, by rw [hError], rfl,
        pointsAt_of_parse .default contacts.metadata _ _ {} hParse⟩

end DerivedQuery
