import DerivedQuery.Proofs.Query.Canonical
import DerivedQuery.Proofs.Registry.Metadata

/-!
# The round trip through the canonical name

Reading a method name leaves the registry in a state in which every type on the paths of the query
is published. Its canonical name is then read without another request, and gives the same query:
only the segments of the path steps differ, since they quote the text that was read.

What is needed of the described types is that their property names are plain (`isPlainName`). A
name such as `sort_asc`, `black_and_white` or `is_in` would let the canonical name be cut in a
second way.

## Main results

* `TypeSource.parse_canonical`: the canonical name of a query is read as the same query
-/

namespace DerivedQuery

open Metadata

/-! ## Equality up to segments -/

def PathNode.withoutSegment (node : PathNode) : PathNode :=
  { node with segment := "" }

def PropertyPath.withoutSegments (path : PropertyPath) : PropertyPath :=
  ⟨path.head.withoutSegment, path.tail.map (·.withoutSegment)⟩

def Part.withoutSegments (part : Part) : Part :=
  { part with path := part.path.withoutSegments }

def Order.withoutSegments (order : Order) : Order :=
  { order with path := order.path.withoutSegments }

/-- The query without the texts from which its path steps were read. -/
def Query.withoutSegments (query : Query) : Query :=
  { query with
    groups := query.groups.map (·.map Part.withoutSegments)
    ordering := query.ordering.map Order.withoutSegments }

private theorem PropertyPath.withoutSegments_respelled (path : PropertyPath) :
    path.respelled.withoutSegments = path.withoutSegments := by
  simp [PropertyPath.respelled, PropertyPath.withoutSegments, PathNode.respelled,
    PathNode.withoutSegment, Function.comp_def]

/-- Only segments change when a query is read from its canonical name. -/
theorem Query.withoutSegments_respelled (query : Query) :
    query.respelled.withoutSegments = query.withoutSegments := by
  simp [Query.respelled, Query.withoutSegments, Part.respelled, Part.withoutSegments,
    Order.respelled, Order.withoutSegments, PropertyPath.withoutSegments_respelled,
    Function.comp_def]

/-! ## Any source of metadata -/

section Metadata

variable {σ : Type} {metadata : Metadata σ}

/-- The entities that are known have plain property names. -/
def KnowsPlain (metadata : Metadata σ) (state : σ) : Prop :=
  ∀ type entity, metadata.Knows state type entity →
    ∀ property ∈ entity.properties, isPlainName property.name.toList = true

private theorem KnowsPlain.knowsNumbered {state : σ} (hPlain : KnowsPlain metadata state) :
    KnowsNumbered metadata state :=
  fun type entity hKnows property hProperty => Spelling.isNumberedName_of_isSnakeName
    (isSnakeName_of_isPlainName (hPlain type entity hKnows property hProperty))

private theorem hasPlainNames_of_traced {state : σ} (hPlain : KnowsPlain metadata state)
    {type : String} {nodes : List PathNode} (hTraced : Traced metadata state type nodes) :
    ∀ node ∈ nodes, isPlainName node.property.name.toList = true := by
  intro node hNode
  obtain ⟨owner, entity, hKnows, hProperty⟩ := hTraced.known node hNode
  exact hPlain owner entity hKnows node.property hProperty

/-- Over a source that remembers, the canonical name is read as the same query. -/
theorem parse_canonical_of_remembers (hRemembers : metadata.Remembers) {method root : String}
    {state after : σ} {query : Query}
    (hParse : MethodParser.default.parse metadata method root state = (.ok query, after))
    (hPlain : KnowsPlain metadata after) :
    MethodParser.default.parse metadata (query.canonical .builtin) root after =
      (.ok query.respelled, after) := by
  obtain ⟨_, hQuery⟩ := (reads_parse hRemembers method root).of_eq hParse
  obtain ⟨ignoreAllCase, hRead⟩ := hQuery query rfl
  have hRoot : query.rootType = root := hRead.rootType
  have hSpelled : query.SpelledIn metadata after := by
    refine ⟨?_, fun part hPart => ?_, fun order hOrder => ?_⟩
    · rw [hRoot]
      exact hRead.canonical
    · exact hasPlainNames_of_traced hPlain (hRead.part hPart).traced
    · exact hasPlainNames_of_traced hPlain (hRead.order hOrder).traced
  have hAgain := parse_canonical_of_spelledIn hPlain.knowsNumbered hSpelled
  rw [hRoot] at hAgain
  exact hAgain

end Metadata

/-! ## The registry -/

/-- The parser of the default convention. -/
theorem ofConvention_default : MethodParser.ofConvention {} = .ok .default :=
  rfl

/-- Every described property has a plain name. -/
def TypeSource.HasPlainNames (source : TypeSource) : Prop :=
  ∀ name type, source.describe? name = some type →
    ∀ member ∈ type.members, isPlainName member.name.toList = true

/-- **The canonical name of a query is read as the same query.** Whatever was asked of the registry
before, the second reading succeeds, and makes no request that changes the registry. -/
theorem TypeSource.parse_canonical {source : TypeSource} (hPlain : source.HasPlainNames)
    (budget : Nat) (requests : List String) {method root : String} {query : Query}
    {after : Registry.State}
    (hParse : MethodParser.default.parse (source.metadata budget) method root
      (source.stateAfter budget requests) = (.ok query, after)) :
    ∃ again, MethodParser.default.parse (source.metadata budget) (query.canonical .builtin) root
        after = (.ok again, after) ∧ again.withoutSegments = query.withoutSegments := by
  have hRemembers := remembers source budget
  have hLeads := ((reads_parse hRemembers method root).of_eq hParse).1
  have hSourced := sourced_of_leads hLeads (sourced_stateAfter source budget requests)
  have hKnown : KnowsPlain (source.metadata budget) after := by
    intro name entity hKnows property hProperty
    obtain ⟨type, hDescribed, member, hMember, hName⟩ := member_of_knows hSourced hKnows hProperty
    rw [hName]
    exact hPlain name type hDescribed member hMember
  exact ⟨query.respelled, parse_canonical_of_remembers hRemembers hParse hKnown,
    query.withoutSegments_respelled⟩

/-- Two types that refer to each other. -/
def peopleCatalog : Catalog :=
  { types :=
      [{ name := "Person"
         members :=
          [{ name := "first_name", declared := .named "String" },
            { name := "home", declared := .named "Address" }] },
        { name := "Address"
          members :=
            [{ name := "city", declared := .named "String" },
              { name := "residents", declared := .collection (.named "Person") }] }]
    terminal := ["String"] }

/-- The people as a source that requests nothing. -/
def peopleSource : TypeSource :=
  { describe? := peopleCatalog.describe?
    isTerminal := peopleCatalog.isTerminal
    asksWhile := fun _ => [] }

private theorem peopleSource_hasPlainNames : peopleSource.HasPlainNames := by
  have hAll : ∀ type ∈ peopleCatalog.types, ∀ member ∈ type.members,
      isPlainName member.name.toList = true := by
    decide +kernel
  intro name type hDescribed
  have hFound : peopleCatalog.types.find? (·.name == name) = some type := hDescribed
  exact hAll type (List.mem_of_find?_eq_some hFound)

/-- Criteria, limit, markers and ordering at once, read with an abbreviated path. -/
theorem parse_canonical_people : ∃ query after again,
    MethodParser.default.parse (peopleSource.metadata 2)
        "findTop3ByHomeCityAndFirstNameIgnoringCaseOrHomeCityInOrderByHomeCityDesc" "Person"
        (peopleSource.stateAfter 2 []) = (.ok query, after) ∧
      MethodParser.default.parse (peopleSource.metadata 2) (query.canonical .builtin) "Person" after =
        (.ok again, after) ∧
      again.withoutSegments = query.withoutSegments := by
  have hSome : (MethodParser.default.parse (peopleSource.metadata 2)
      "findTop3ByHomeCityAndFirstNameIgnoringCaseOrHomeCityInOrderByHomeCityDesc" "Person"
      (peopleSource.stateAfter 2 [])).1.toOption.isSome = true := by
    unfold MethodParser.parse
    rw [introducers_default]
    decide +kernel
  cases hParse : MethodParser.default.parse (peopleSource.metadata 2)
      "findTop3ByHomeCityAndFirstNameIgnoringCaseOrHomeCityInOrderByHomeCityDesc" "Person"
      (peopleSource.stateAfter 2 []) with
  | mk result after =>
      cases result with
      | error error =>
          rw [hParse] at hSome
          simp [Except.toOption] at hSome
      | ok query =>
          obtain ⟨again, hAgain, hSame⟩ :=
            TypeSource.parse_canonical peopleSource_hasPlainNames 2 [] hParse
          exact ⟨query, after, again, rfl, hAgain, hSame⟩

end DerivedQuery
