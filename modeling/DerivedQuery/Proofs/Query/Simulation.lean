import DerivedQuery.Proofs.Path.Simulation
import DerivedQuery.Proofs.Query.Joined
import DerivedQuery.Query.Parser

/-!
# Queries read against two sources of metadata

A method name is read by dividing it and resolving the pieces as paths. Nothing else is asked of the
metadata, so if two sources resolve every text alike, they read every method name alike: the same
pieces are tried in the same order, the same one succeeds or the same error is reported.

An error has a cause only if it quotes a text that is no path. If no path fails for want of an
entity, this is true of every error of a method name, since each of them is one that was met.

## Main definitions

* `SyntaxError.Uncaused`: an error behind which no entity is missing
* `ReadAlike`: readers with the same outcome, behind which no entity is missing
* `Scope.Alike`: scopes in which texts resolve alike

## Main results

* `simulates_parseJoined`: joined lists are read alike if their entries are
* `simulates_parse`: method names are read alike
-/

namespace DerivedQuery

open Text

variable {σ τ β : Type} {Related : σ → τ → Prop}

/-! ## Errors without causes -/

/-- The error quotes a text that is no path, if it has a cause, but no entity is missing. -/
def SyntaxError.Uncaused (error : SyntaxError) : Prop :=
  ∀ cause, error.cause = some cause → cause.cause = none

/-- In related states the two readers have the same outcome, which no missing entity causes. -/
abbrev ReadAlike (Related : σ → τ → Prop) (reader : σ → Except SyntaxError β × σ)
    (reader' : τ → Except SyntaxError β × τ) : Prop :=
  Simulates Related (OnError SyntaxError.Uncaused) reader reader'

private theorem uncaused_about (kind : SyntaxError.Kind) (fragment : Fragment) :
    (SyntaxError.about kind fragment).Uncaused := by
  simp [SyntaxError.Uncaused, SyntaxError.about]

private theorem uncaused_unresolved (fragment : Fragment) {cause : PathError}
    (hCause : cause.cause = none) : (SyntaxError.unresolved fragment cause).Uncaused := by
  simp [SyntaxError.Uncaused, SyntaxError.unresolved, hCause]

private theorem uncaused_danglingConnector {connector : List Char} {fragment : Fragment}
    {error : SyntaxError} (hDangling : danglingConnector? connector fragment = some error) :
    error.Uncaused := by
  unfold danglingConnector? at hDangling
  split at hDangling
  · rw [← Option.some.inj hDangling]
    exact uncaused_about _ _
  · split at hDangling
    · rw [← Option.some.inj hDangling]
      exact uncaused_about _ _
    · simp at hDangling

private theorem uncaused_readLimit {subject : Fragment} {error : SyntaxError}
    (hLimit : readLimit subject = .error error) : error.Uncaused := by
  unfold readLimit at hLimit
  split at hLimit
  · simp at hLimit
  · split at hLimit
    · simp at hLimit
    · rw [← Except.error.inj hLimit]
      exact uncaused_about _ _

private theorem uncaused_readSubject {introducers : List Introducer} {method : List Char}
    {error : SyntaxError} (hSubject : readSubject introducers method = .error error) :
    error.Uncaused := by
  unfold readSubject at hSubject
  split at hSubject
  · simp at hSubject
  · simp only [bind, Except.bind, pure, Except.pure] at hSubject
    split at hSubject
    · rename_i hLimit
      rw [← Except.error.inj hSubject]
      exact uncaused_readLimit hLimit
    · simp at hSubject

private theorem uncaused_splitOrdering {body : Fragment} {error : SyntaxError}
    (hSplit : splitOrdering body = .error error) : error.Uncaused := by
  unfold splitOrdering at hSplit
  split at hSplit
  · simp at hSplit
  · split at hSplit
    · rw [← Except.error.inj hSplit]
      exact uncaused_about _ _
    · split at hSplit
      · rw [← Except.error.inj hSplit]
        exact uncaused_about _ _
      · simp at hSplit

/-- The errors of an outline have no causes at all. -/
theorem uncaused_ofMethod {introducers : List Introducer} {method : List Char} {error : SyntaxError}
    (hOutline : Outline.ofMethod introducers method = .error error) : error.Uncaused := by
  unfold Outline.ofMethod at hOutline
  split at hOutline
  · simp only [bind, Except.bind, throw, throwThe, MonadExceptOf.throw] at hOutline
    rw [← Except.error.inj hOutline]
    exact uncaused_about _ _
  · simp only [bind, Except.bind, pure, Except.pure] at hOutline
    split at hOutline
    · rename_i hSubject
      rw [← Except.error.inj hOutline]
      exact uncaused_readSubject hSubject
    · split at hOutline
      · rename_i hSplit
        rw [← Except.error.inj hOutline]
        exact uncaused_splitOrdering hSplit
      · simp at hOutline

/-! ## Joined lists -/

section Joined

variable {Q : SyntaxError → Prop}

private theorem simulates_orLater {γ : Type} {reader : σ → Except Failure γ × σ}
    {reader' : τ → Except Failure γ × τ}
    (hReader : Simulates Related (OnError fun failure => Q failure.error) reader reader')
    {failure : Failure} (hFailure : Q failure.error) :
    Simulates Related (OnError fun failure => Q failure.error)
      (fun state => failure.orLater (reader state))
      (fun state => failure.orLater (reader' state)) := by
  intro state state' hRelated
  obtain ⟨outcome, after, after', hRead, hRead', hAfter, hError⟩ := hReader state state' hRelated
  dsimp only
  rw [hRead, hRead']
  cases outcome with
  | ok result => exact ⟨.ok result, after, after', rfl, rfl, hAfter, trivial⟩
  | error later => exact ⟨_, after, after', rfl, rfl, hAfter, error_prefer hFailure hError⟩

private theorem simulates_firstDivision {γ : Type} {before : γ → σ → Except SyntaxError β × σ}
    {before' : γ → τ → Except SyntaxError β × τ} {behind : γ → σ → Except SyntaxError (List β) × σ}
    {behind' : γ → τ → Except SyntaxError (List β) × τ} {whole : σ → Except SyntaxError β × σ}
    {whole' : τ → Except SyntaxError β × τ} (hWhole : Simulates Related (OnError Q) whole whole')
    (cuts : List γ)
    (hBefore : ∀ cut ∈ cuts, Simulates Related (OnError Q) (before cut) (before' cut))
    (hBehind : ∀ cut ∈ cuts, Simulates Related (OnError Q) (behind cut) (behind' cut)) :
    Simulates Related (OnError fun failure => Q failure.error)
      (firstDivision before behind whole cuts) (firstDivision before' behind' whole' cuts) := by
  induction cuts with
  | nil =>
      intro state state' hRelated
      obtain ⟨outcome, after, after', hRead, hRead', hAfter, hError⟩ := hWhole state state' hRelated
      rw [firstDivision, firstDivision, hRead, hRead']
      cases outcome with
      | ok entry => exact ⟨_, after, after', rfl, rfl, hAfter, trivial⟩
      | error error => exact ⟨_, after, after', rfl, rfl, hAfter, hError⟩
  | cons cut rest ih =>
      have hLater := ih (fun other hOther => hBefore other (List.mem_cons_of_mem cut hOther))
        (fun other hOther => hBehind other (List.mem_cons_of_mem cut hOther))
      intro state state' hRelated
      obtain ⟨first, between, between', hFirst, hFirst', hBetween, hFront⟩ :=
        hBefore cut List.mem_cons_self state state' hRelated
      rw [firstDivision, firstDivision, hFirst, hFirst']
      cases first with
      | error error =>
          have hNext : Q (Failure.before error).error := hFront
          exact simulates_orLater hLater hNext between between' hBetween
      | ok entry =>
          obtain ⟨others, final, final', hOthers, hOthers', hFinal, hBack⟩ :=
            hBehind cut List.mem_cons_self between between' hBetween
          simp only [hOthers, hOthers']
          cases others with
          | ok entries => exact ⟨_, final, final', rfl, rfl, hFinal, trivial⟩
          | error error =>
              have hNext : Q (Failure.behind error).error := hBack
              exact simulates_orLater hLater hNext final final' hFinal

/-- **Joined lists are read alike** if their entries are. -/
theorem simulates_parseJoined {entry : Fragment → σ → Except SyntaxError β × σ}
    {entry' : Fragment → τ → Except SyntaxError β × τ}
    (hEntry : ∀ fragment, ReadAlike Related (entry fragment) (entry' fragment))
    (gaps : List Char → List (List Char)) (connector : List Char) (fragment : Fragment) :
    ReadAlike Related (parseJoined entry gaps connector fragment)
      (parseJoined entry' gaps connector fragment) := by
  induction hLength : fragment.text.length using Nat.strongRecOn generalizing fragment with
  | ind length ih =>
      have hDivision := simulates_firstDivision (hEntry fragment) (cuts gaps fragment.text)
        (fun cut _ => hEntry (fragment.left cut))
        (fun cut _ => ih _ (hLength ▸ cut.right_length_lt) (fragment.right cut) rfl)
      intro state state' hRelated
      obtain ⟨outcome, after, after', hRead, hRead', hAfter, hError⟩ :=
        hDivision state state' hRelated
      rw [parseJoined, parseJoined, hRead, hRead']
      cases outcome with
      | ok entries => exact ⟨_, after, after', rfl, rfl, hAfter, trivial⟩
      | error failure =>
          refine ⟨_, after, after', rfl, rfl, hAfter, ?_⟩
          cases hDangling : danglingConnector? connector fragment with
          | some dangling => exact uncaused_danglingConnector hDangling
          | none => exact hError

end Joined

/-! ## Criteria and ordering -/

/-- The scopes differ in their metadata only, and each text resolves to the same path or fails with
the same error, which has no cause. -/
structure Scope.Alike (Related : σ → τ → Prop) (scope : Scope σ) (scope' : Scope τ) : Prop where
  vocabulary : scope.vocabulary = scope'.vocabulary
  ignoreAllCase : scope.ignoreAllCase = scope'.ignoreAllCase
  resolve : ∀ text, Simulates Related (OnError fun error => error.cause = none)
    (scope.resolve text) (scope'.resolve text)

section Clauses

variable {scope : Scope σ} {scope' : Scope τ} (hAlike : scope.Alike Related scope')

include hAlike

private theorem simulates_parsePartAs (fragment : Fragment) (caseMode : CaseMode) (path : List Char)
    (keyword : Keyword) :
    ReadAlike Related (parsePartAs scope fragment caseMode path keyword)
      (parsePartAs scope' fragment caseMode path keyword) := by
  intro state state' hRelated
  obtain ⟨outcome, after, after', hRead, hRead', hAfter, hError⟩ :=
    hAlike.resolve path state state' hRelated
  rw [parsePartAs, parsePartAs, hRead, hRead']
  cases outcome with
  | ok path => exact ⟨_, after, after', rfl, rfl, hAfter, trivial⟩
  | error cause => exact ⟨_, after, after', rfl, rfl, hAfter, uncaused_unresolved _ hError⟩

private theorem simulates_parseComparison (fragment : Fragment) (caseMode : CaseMode) :
    ReadAlike Related (parseComparison scope fragment caseMode)
      (parseComparison scope' fragment caseMode) := by
  unfold parseComparison
  rw [hAlike.vocabulary]
  exact simulates_firstSuccess
    (simulates_parsePartAs hAlike fragment caseMode fragment.text .default) _
    fun candidate _ => simulates_parsePartAs hAlike fragment caseMode candidate.1 candidate.2

private theorem simulates_parsePart (fragment : Fragment) :
    ReadAlike Related (parsePart scope fragment) (parsePart scope' fragment) := by
  have hMode : scope.defaultCaseMode = scope'.defaultCaseMode := by
    rw [Scope.defaultCaseMode, Scope.defaultCaseMode, hAlike.ignoreAllCase]
  unfold parsePart
  split
  · exact simulates_parseComparison hAlike _ .ignored
  · split
    · exact simulates_outcome (uncaused_about _ _)
    · rw [hMode]
      exact simulates_parseComparison hAlike fragment scope'.defaultCaseMode

private theorem simulates_parseCriteria (fragment : Fragment) :
    ReadAlike Related (parseCriteria scope fragment) (parseCriteria scope' fragment) :=
  simulates_parseJoined (simulates_parseJoined (simulates_parsePart hAlike) _ _) _ _ fragment

private theorem simulates_parseOrderAs (fragment : Fragment) (path : List Char)
    (direction : Direction) :
    ReadAlike Related (parseOrderAs scope fragment path direction)
      (parseOrderAs scope' fragment path direction) := by
  intro state state' hRelated
  obtain ⟨outcome, after, after', hRead, hRead', hAfter, hError⟩ :=
    hAlike.resolve path state state' hRelated
  rw [parseOrderAs, parseOrderAs, hRead, hRead', hAlike.ignoreAllCase]
  cases outcome with
  | ok path => exact ⟨_, after, after', rfl, rfl, hAfter, trivial⟩
  | error cause => exact ⟨_, after, after', rfl, rfl, hAfter, uncaused_unresolved _ hError⟩

private theorem simulates_parseOrder (fragment : Fragment) :
    ReadAlike Related (parseOrder scope fragment) (parseOrder scope' fragment) := by
  have hAlone := simulates_parseOrderAs hAlike fragment fragment.text .ascending
  unfold parseOrder
  split
  · exact simulates_outcome (uncaused_about _ _)
  · exact simulates_firstSuccess hAlone [()]
      fun _ _ => simulates_parseOrderAs hAlike fragment _ _
  · split
    · exact simulates_outcome (uncaused_about _ _)
    · exact hAlone

private theorem simulates_parseOrdering (fragment : Fragment) :
    ReadAlike Related (parseOrdering scope fragment) (parseOrdering scope' fragment) :=
  simulates_parseJoined (simulates_parseOrder hAlike) _ _ fragment

private theorem simulates_readCriteria (criteria : Fragment) :
    ReadAlike Related (MethodParser.readCriteria scope criteria)
      (MethodParser.readCriteria scope' criteria) := by
  unfold MethodParser.readCriteria
  split
  · exact simulates_outcome trivial
  · exact simulates_parseCriteria hAlike criteria

private theorem simulates_readOrdering (ordering : Option Fragment) :
    ReadAlike Related (MethodParser.readOrdering scope ordering)
      (MethodParser.readOrdering scope' ordering) := by
  cases ordering with
  | none => exact simulates_outcome trivial
  | some ordering => exact simulates_parseOrdering hAlike ordering

end Clauses

/-! ## Method names -/

section Methods

variable {metadata : Metadata σ} {metadata' : Metadata τ} {Within : String → Prop} {root : String}

private theorem simulates_readOutline (hExplores : Explores Related metadata metadata' Within)
    (hRoot : Within root) (parser : MethodParser) (outline : Outline) :
    ReadAlike Related (parser.readOutline metadata root outline)
      (parser.readOutline metadata' root outline) := by
  let scope : Scope σ :=
    ⟨metadata, parser.vocabulary, parser.separator, root, outline.ignoreAllCase⟩
  let scope' : Scope τ :=
    ⟨metadata', parser.vocabulary, parser.separator, root, outline.ignoreAllCase⟩
  have hAlike : scope.Alike Related scope' :=
    ⟨rfl, rfl, fun text => simulates_resolvePath hExplores parser.separator text hRoot⟩
  intro state state' hRelated
  obtain ⟨criteria, between, between', hRead, hRead', hBetween, hError⟩ :=
    simulates_readCriteria hAlike outline.criteria state state' hRelated
  unfold MethodParser.readOutline
  simp only [scope, scope'] at hRead hRead'
  simp only [hRead, hRead']
  cases criteria with
  | error error => exact ⟨_, between, between', rfl, rfl, hBetween, hError⟩
  | ok groups =>
      obtain ⟨ordering, final, final', hOrders, hOrders', hFinal, hDefect⟩ :=
        simulates_readOrdering hAlike outline.ordering between between' hBetween
      simp only [scope, scope'] at hOrders hOrders'
      simp only [hOrders, hOrders']
      cases ordering with
      | error error => exact ⟨_, final, final', rfl, rfl, hFinal, hDefect⟩
      | ok orders => exact ⟨_, final, final', rfl, rfl, hFinal, trivial⟩

/-- **Method names are read alike** by sources that know the types within reach alike, and no error
has a cause. -/
theorem simulates_parse (hExplores : Explores Related metadata metadata' Within)
    (hRoot : Within root) (parser : MethodParser) (method : String) :
    ReadAlike Related (parser.parse metadata method root) (parser.parse metadata' method root) := by
  unfold MethodParser.parse
  split
  · rename_i hOutline
    exact simulates_outcome (uncaused_ofMethod hOutline)
  · exact simulates_readOutline hExplores hRoot parser _

end Methods

end DerivedQuery
