import DerivedQuery.Query.Outline
import DerivedQuery.Query.Ordering

/-!
# The parser of method names

A parser is a naming convention made ready for use: introducers and keyword tokens in matching
order, and the separator of path steps. It reads a method name against a root type. The name is
divided into its outline first; then the criteria and, after them, the ordering are read against
the metadata.

## Main definitions

* `MethodParser`, `MethodParser.ofConvention`
* `MethodParser.parse`, `MethodParser.resolvePath`
-/

namespace DerivedQuery

/-- Introducers and tokens in matching order, and the separator of path steps. -/
structure MethodParser where
  introducers : List Introducer
  vocabulary : Vocabulary
  separator : Char
deriving DecidableEq, Repr, Inhabited

namespace MethodParser

/-- The parser of a valid convention. -/
def ofConvention (convention : Convention) : Except ConventionError MethodParser := do
  let vocabulary ← convention.vocabulary
  return { introducers := convention.sortedIntroducers, vocabulary, separator := convention.separator }

/-- The parser of the default convention. -/
def default : MethodParser :=
  { introducers := ({} : Convention).sortedIntroducers
    vocabulary := .builtin
    separator := defaultSeparator }

variable {σ : Type}

/-- Resolves a single path with the parser's separator. -/
def resolvePath (parser : MethodParser) (metadata : Metadata σ) (source root : String) (state : σ) :
    Except PathError PropertyPath × σ :=
  DerivedQuery.resolvePath metadata parser.separator source.toList root state

/-- Reads criteria, if there are any. -/
def readCriteria (scope : Scope σ) (criteria : Fragment) (state : σ) :
    Except SyntaxError (List (List Part)) × σ :=
  if criteria.text.isEmpty then (.ok [], state) else parseCriteria scope criteria state

/-- Reads an ordering clause, if there is one. -/
def readOrdering (scope : Scope σ) (ordering : Option Fragment) (state : σ) :
    Except SyntaxError (List Order) × σ :=
  match ordering with
  | none => (.ok [], state)
  | some ordering => parseOrdering scope ordering state

/-- Reads the query of an outline. -/
def readOutline (parser : MethodParser) (metadata : Metadata σ) (root : String) (outline : Outline)
    (state : σ) : Except SyntaxError Query × σ :=
  let scope : Scope σ :=
    { metadata
      vocabulary := parser.vocabulary
      separator := parser.separator
      root
      ignoreAllCase := outline.ignoreAllCase }
  match readCriteria scope outline.criteria state with
  | (.error error, after) => (.error error, after)
  | (.ok groups, after) =>
      match readOrdering scope outline.ordering after with
      | (.error error, final) => (.error error, final)
      | (.ok ordering, final) =>
          (.ok
            { intent := outline.intent
              distinct := outline.distinct
              limit := outline.limit
              groups
              ordering
              rootType := root
              separator := parser.separator }, final)

/-- Reads a method name against a root type. -/
def parse (parser : MethodParser) (metadata : Metadata σ) (method root : String) (state : σ) :
    Except SyntaxError Query × σ :=
  match Outline.ofMethod parser.introducers method.toList with
  | .error error => (.error error, state)
  | .ok outline => parser.readOutline metadata root outline state

end MethodParser

end DerivedQuery
