import DerivedQuery.Path.Resolution
import DerivedQuery.Query.Basic
import DerivedQuery.Query.Joined
import DerivedQuery.Vocabulary

/-!
# Criteria

Criteria are groups joined by `Or`; a group is parts joined by `And`; a part is a property path
followed by a keyword token, and possibly by a marker for ignoring case.

A part is read with the longest keyword token that leaves a path in front of it. A text that ends
with a token may also be a property name as a whole (`isActiveIn`), and then it is compared by the
default keyword; this reading is tried last.

## Main definitions

* `Scope`: where and how paths are resolved
* `parsePart`, `parseGroup`, `parseCriteria`
-/

namespace DerivedQuery

open Text

/-- What the readers of a method name share: the metadata with the root type and the separator to
resolve paths, the vocabulary, and whether the whole method ignores case. -/
structure Scope (σ : Type) where
  metadata : Metadata σ
  vocabulary : Vocabulary
  separator : Char
  root : String
  ignoreAllCase : Bool

namespace Scope

variable {σ : Type}

/-- Resolves a text as a path of the root type. -/
def resolve (scope : Scope σ) (text : List Char) : σ → Except PathError PropertyPath × σ :=
  resolvePath scope.metadata scope.separator text scope.root

/-- How parts without a marker of their own compare letters. -/
def defaultCaseMode (scope : Scope σ) : CaseMode :=
  if scope.ignoreAllCase then .ignoredIfPossible else .sensitive

end Scope

/-- The words that end a part which ignores case. -/
def ignoreCaseMarkers : List (List Char) :=
  ["IgnoringCase".toList, "IgnoreCase".toList]

/-- The text before a case marker, unless nothing is left. -/
def dropIgnoreCase? (text : List Char) : Option (List Char) :=
  ignoreCaseMarkers.findSome? fun marker => (dropSuffix? marker text).filter (!·.isEmpty)

variable {σ : Type}

/-- Reads a path and gives it to a part; a failure is reported at the path. -/
def parsePartAs (scope : Scope σ) (fragment : Fragment) (caseMode : CaseMode) (path : List Char)
    (keyword : Keyword) (state : σ) : Except SyntaxError Part × σ :=
  match scope.resolve path state with
  | (.ok path, after) => (.ok { path, keyword, caseMode }, after)
  | (.error cause, after) => (.error (.unresolved (fragment.upTo path) cause), after)

/-- Reads a text without a case marker as a part: by each keyword token that it ends with, longest
first, and then as a path alone. -/
def parseComparison (scope : Scope σ) (fragment : Fragment) (caseMode : CaseMode) (state : σ) :
    Except SyntaxError Part × σ :=
  firstSuccess
    (fun (candidate : List Char × Keyword) =>
      parsePartAs scope fragment caseMode candidate.1 candidate.2)
    (parsePartAs scope fragment caseMode fragment.text .default)
    (scope.vocabulary.candidates fragment.text) state

/-- Reads one part. -/
def parsePart (scope : Scope σ) (fragment : Fragment) (state : σ) : Except SyntaxError Part × σ :=
  match dropIgnoreCase? fragment.text with
  | some text => parseComparison scope (fragment.upTo text) .ignored state
  | none =>
      if fragment.text.isEmpty then
        (.error (.about .invalidSplit fragment), state)
      else
        parseComparison scope fragment scope.defaultCaseMode state

/-- The word that joins the parts of a group. -/
def andConnector : List Char :=
  "And".toList

/-- The word that joins groups. -/
def orConnector : List Char :=
  "Or".toList

/-- Reads parts joined by `And`. -/
def parseGroup (scope : Scope σ) : Fragment → σ → Except SyntaxError (List Part) × σ :=
  parseJoined (parsePart scope) (connectorGaps andConnector) andConnector

/-- Reads groups joined by `Or`. -/
def parseCriteria (scope : Scope σ) : Fragment → σ → Except SyntaxError (List (List Part)) × σ :=
  parseJoined (parseGroup scope) (connectorGaps orConnector) orConnector

end DerivedQuery
