import DerivedQuery.Proofs.Path.Greedy
import DerivedQuery.Proofs.Query.Simulation
import DerivedQuery.Proofs.Registry.Closure

/-!
# Reading against a warm registry

A registry is *warm* for a root if nothing is under construction, the root is published, and the
associations of published types lead to published types. Then reading is pure: it describes no type,
it leaves the slots alone, and its outcome is that against the fixed answers of the source
(`TypeSource.fixed`), so the history of the registry does not show in it.

The search asks for types on branches that it abandons later. Each of them is the root or the type
that some property of a published entity ends in. A property is classified once, when its entity is
built: it is an association if the type it ends in is no leaf value. The search puts the same
question to the same source before it asks for an entity, so what it asks for is the target of an
association.

## Main definitions

* `TypeSource.fixed`: the answers of a source, without a registry
* `TypeSource.Warm`: the slots from which a root can be read without building anything
* `TypeSource.AtHand`: the types that need not be built

## Main results

* `explores_of_settled`: a settled registry knows what can be reached from published types
* `warm_iff_of_leads`: when the state of a registry is warm
* `warm_stateAfter`: what is published in a registry of a coherent catalog is warm
* `resolvePath_warm`, `parse_warm`: reading in a warm state is reading against fixed answers
* `reading_pure`: two warm registries of one source give the same outcomes and stay as they are
-/

namespace DerivedQuery.TypeSource

open Registry

variable {source : TypeSource} {state : State} {budget : Nat} {root : String}

/-- The answers of the source as a source of metadata that has no state: a type stands for the
entity that its description can be made into. -/
def fixed (source : TypeSource) : Metadata Unit :=
  .ofEntities source.isTerminal fun name => source.check name (source.describe? name)

/-- Nothing is under construction, published entities are those of the source, and their
associations can be followed from the root on. -/
structure Warm (source : TypeSource) (root : String) (slots : Slots) : Prop
    extends source.Settled slots where
  ready : slots.isReady root = true

/-- In a registry that started empty, published entities are always those of the source. -/
theorem warm_iff_of_leads (hLeads : (source.metadata budget).Leads {} state) :
    source.Warm root state.slots ↔
      NothingPending state.slots ∧ Closed state.slots ∧ state.slots.isReady root = true := by
  constructor
  · intro hWarm
    exact ⟨hWarm.nothingPending, hWarm.closed, hWarm.ready⟩
  · rintro ⟨hNothing, hClosed, hReady⟩
    exact ⟨⟨hNothing, sourced_of_leads hLeads (sourced_nil source), hClosed⟩, hReady⟩

/-- A registry of a coherent catalog is warm for what it has published. -/
theorem warm_stateAfter (catalog : Catalog) (terminal : TerminalTypes) (requests : List String) :
    let registry : Registry := { inspector := .ofCatalog catalog, terminal }
    registry.source.Coherent → (registry.stateAfter requests).slots.isReady root = true →
      registry.source.Warm root (registry.stateAfter requests).slots := by
  intro registry hCoherent hReady
  have hConsistent := consistent_stateAfter (passive_ofCatalog catalog terminal)
    registry.linksInto_mentioned (Nat.lt_succ_self _) requests
  exact ⟨hConsistent.settled hCoherent, hReady⟩

/-- The type is a leaf value or published. -/
def AtHand (source : TypeSource) (slots : Slots) (type : String) : Prop :=
  source.isTerminal type = true ∨ slots.isReady type = true

/-- The properties of a published entity end in leaf values and in published types. -/
theorem atHand_of_mem (hSettled : source.Settled state.slots) {type : String} {entity : Entity}
    (hReady : state.slots.get? type = some (.ready entity)) {property : Property}
    (hProperty : property ∈ entity.properties) :
    source.AtHand state.slots property.actualType := by
  obtain ⟨_, _, _, hEntity⟩ := ofDescriptor_of_check (hSettled.sourced type entity hReady)
  have hAssociation := association_of_ofDescriptor hEntity hProperty
  cases hTerminal : source.isTerminal property.actualType with
  | true => exact .inl hTerminal
  | false =>
      rw [hTerminal, Bool.not_false] at hAssociation
      have hTarget : property ∈ entity.associations := List.mem_filter.mpr ⟨hProperty, hAssociation⟩
      exact .inr (hSettled.closed type entity hReady property hTarget)

/-- A settled registry knows the same entities as its source, as far as published types reach. -/
theorem explores_of_settled (hSettled : source.Settled state.slots) (budget : Nat) :
    Explores (fun before (_ : Unit) => before = state) (source.metadata budget) source.fixed
      (source.AtHand state.slots) := by
  intro type hType
  cases hTerminal : source.isTerminal type with
  | true => exact .inl ⟨hTerminal, hTerminal⟩
  | false =>
      have hPublished := hType.resolve_left (Bool.eq_false_iff.mp hTerminal)
      obtain ⟨entity, hReady⟩ := isReady_iff.mp hPublished
      have hCheck := hSettled.sourced type entity hReady
      refine .inr ⟨entity, ?_, fun property => atHand_of_mem hSettled hReady⟩
      rintro _ ⟨⟩ rfl
      exact ⟨knows_iff.mpr ⟨hTerminal, hReady⟩, hTerminal, congrArg (·, ()) hCheck⟩

section Warm

variable (hWarm : source.Warm root state.slots) (budget : Nat) (parser : MethodParser)

include hWarm

/-- **Paths are resolved in a warm registry** as against fixed answers. -/
theorem resolvePath_warm (path : String) :
    parser.resolvePath (source.metadata budget) path root state =
        ((parser.resolvePath source.fixed path root ()).1, state) ∧
      OnError (fun error => error.cause = none)
        (parser.resolvePath source.fixed path root ()).1 := by
  obtain ⟨outcome, after, _, hRead, hFixed, rfl, hError⟩ :=
    simulates_resolvePath (explores_of_settled hWarm.toSettled budget) parser.separator path.toList
      (.inr hWarm.ready) state () rfl
  rw [MethodParser.resolvePath, MethodParser.resolvePath, hRead, hFixed]
  exact ⟨rfl, hError⟩

/-- **Method names are read in a warm registry** as against fixed answers. -/
theorem parse_warm (method : String) :
    parser.parse (source.metadata budget) method root state =
        ((parser.parse source.fixed method root ()).1, state) ∧
      OnError SyntaxError.Uncaused (parser.parse source.fixed method root ()).1 := by
  obtain ⟨outcome, after, _, hRead, hFixed, rfl, hError⟩ :=
    simulates_parse (explores_of_settled hWarm.toSettled budget) (.inr hWarm.ready) parser method
      state () rfl
  rw [hRead, hFixed]
  exact ⟨rfl, hError⟩

end Warm

/-- **Reading in warm registries is pure.** Two registries of one source that are warm for the root
give the same query or the same error for a method name, and the same path or the same error for a
path. Their states, with the slots and the descriptions asked for, stay as they are, so a call can
be repeated. No error is caused by an entity that could not be had. -/
theorem reading_pure {first second : State} (hFirst : source.Warm root first.slots)
    (hSecond : source.Warm root second.slots) (budget budget' : Nat) (parser : MethodParser)
    (method path : String) :
    ∃ query resolved,
      parser.parse (source.metadata budget) method root first = (query, first) ∧
      parser.parse (source.metadata budget') method root second = (query, second) ∧
      parser.resolvePath (source.metadata budget) path root first = (resolved, first) ∧
      parser.resolvePath (source.metadata budget') path root second = (resolved, second) ∧
      (∀ error, query = .error error → ∀ cause, error.cause = some cause → cause.cause = none) ∧
      ∀ error, resolved = .error error → error.cause = none := by
  obtain ⟨hParse, hUncaused⟩ := parse_warm hFirst budget parser method
  obtain ⟨hResolve, hKnown⟩ := resolvePath_warm hFirst budget parser path
  refine ⟨_, _, hParse, (parse_warm hSecond budget' parser method).1, hResolve,
    (resolvePath_warm hSecond budget' parser path).1, fun error hQuery => ?_, fun error hPath => ?_⟩
  · rw [hQuery] at hUncaused
    exact hUncaused
  · rw [hPath] at hKnown
    exact hKnown

/-- A registry that built books before persons reads like one that was asked for persons only. -/
theorem reading_pure_contacts :
    contacts.source.Warm "Person" (contacts.stateAfter ["Person"]).slots ∧
    contacts.source.Warm "Person" (contacts.stateAfter ["Book", "Person"]).slots ∧
    ∃ query resolved,
      MethodParser.default.parse contacts.metadata "findByAddressBookPages" "Person"
          (contacts.stateAfter ["Person"]) = (query, contacts.stateAfter ["Person"]) ∧
      MethodParser.default.parse contacts.metadata "findByAddressBookPages" "Person"
          (contacts.stateAfter ["Book", "Person"]) =
        (query, contacts.stateAfter ["Book", "Person"]) ∧
      MethodParser.default.resolvePath contacts.metadata "AddressBookTitle" "Person"
          (contacts.stateAfter ["Person"]) = (resolved, contacts.stateAfter ["Person"]) ∧
      MethodParser.default.resolvePath contacts.metadata "AddressBookTitle" "Person"
          (contacts.stateAfter ["Book", "Person"]) =
        (resolved, contacts.stateAfter ["Book", "Person"]) := by
  have hPersons : contacts.source.Warm "Person" (contacts.stateAfter ["Person"]).slots :=
    warm_stateAfter _ _ ["Person"] contacts_coherent (by decide +kernel)
  have hBooks : contacts.source.Warm "Person" (contacts.stateAfter ["Book", "Person"]).slots :=
    warm_stateAfter _ _ ["Book", "Person"] contacts_coherent (by decide +kernel)
  obtain ⟨query, resolved, hParse, hParse', hResolve, hResolve', _⟩ :=
    reading_pure hPersons hBooks contacts.budget contacts.budget .default "findByAddressBookPages"
      "AddressBookTitle"
  exact ⟨hPersons, hBooks, query, resolved, hParse, hParse', hResolve, hResolve'⟩

end DerivedQuery.TypeSource
