import DerivedQuery.Descriptor

/-!
# Inspectors

An inspector is the source of raw type information: asked for a type by name, it answers with a
descriptor, or with nothing if it does not know the type. It can also declare types terminal, that
is, leaf values that are never decomposed.

`Catalog` is the inspector of explicitly registered descriptors: a descriptor answers under its
own name, and registering a second one of the same name replaces the first.

`TypeSource` is what the registry relies on, and it relies on less. An answer may carry another name
than the one asked for, and a source may itself request entities from the registry while it is
describing a type. A source that never does so is *passive*.

`Inspector` is a source given by finite data: only finitely many names have an answer or cause a
request, so every walk over the described types ends.

## Main definitions

* `Catalog`, `Catalog.register`, `Catalog.describe?`
* `TypeSource`, `TypeSource.Passive`
* `Inspector`, `Inspector.ofCatalog`, `Inspector.mentioned`

## Main results

* `Catalog.describe?_ofList`: of several descriptors with one name the last one answers
-/

namespace DerivedQuery

/-! ## Registered descriptors -/

/-- Explicitly registered descriptors, each answering under its own name, and terminal types. -/
structure Catalog where
  types : List TypeDescriptor := []
  terminal : List String := []
deriving DecidableEq, Repr, Inhabited

namespace Catalog

/-- The descriptor registered under a name. -/
def describe? (catalog : Catalog) (name : String) : Option TypeDescriptor :=
  catalog.types.find? (·.name == name)

def isTerminal (catalog : Catalog) (name : String) : Bool :=
  catalog.terminal.contains name

/-- Adds a descriptor in place of one of the same name. -/
def register (catalog : Catalog) (type : TypeDescriptor) : Catalog :=
  { catalog with types := type :: catalog.types.filter (·.name != type.name) }

/-- Registers descriptors one after the other. -/
def ofList (types : List TypeDescriptor) : Catalog :=
  types.foldl register {}

theorem describe?_register (catalog : Catalog) (type : TypeDescriptor) (name : String) :
    (catalog.register type).describe? name =
      if type.name = name then some type else catalog.describe? name := by
  rw [register, describe?, List.find?_cons, List.find?_filter]
  by_cases hName : type.name = name
  · simp [hName]
  · have hBeq : (type.name == name) = false := beq_eq_false_iff_ne.mpr hName
    rw [hBeq, if_neg hName, describe?]
    dsimp only
    -- what is filtered out has another name than the one that is asked for
    congr 1
    funext other
    by_cases hOther : other.name = name
    · simp [hOther, Ne.symm hName]
    · simp [hOther]

private theorem describe?_foldl_register (types : List TypeDescriptor) (catalog : Catalog)
    (name : String) :
    (types.foldl register catalog).describe? name =
      (types.findRev? (·.name == name)).or (catalog.describe? name) := by
  induction types generalizing catalog with
  | nil => rfl
  | cons type rest ih =>
      rw [List.foldl_cons, ih, describe?_register, List.findRev?_eq_find?_reverse,
        List.findRev?_eq_find?_reverse, List.reverse_cons, List.find?_append, Option.or_assoc]
      by_cases hName : type.name = name <;> simp [hName]

/-- Of several descriptors with one name the one that was registered last answers. -/
theorem describe?_ofList (types : List TypeDescriptor) (name : String) :
    (ofList types).describe? name = types.findRev? (·.name == name) := by
  rw [ofList, describe?_foldl_register]
  exact Option.or_none

/-- Declares a type terminal; a second declaration changes nothing. -/
def markTerminal (catalog : Catalog) (name : String) : Catalog :=
  { catalog with terminal := catalog.terminal.insert name }

/-- The number of registered types. -/
def size (catalog : Catalog) : Nat :=
  catalog.types.length

/-- The registered names in ascending order. -/
def typeNames (catalog : Catalog) : List String :=
  (catalog.types.map (·.name)).mergeSort (fun a b => decide (a ≤ b))

end Catalog

/-! ## Sources of type information -/

/-- What a registry can learn about types: their descriptions, which of them are leaf values, and
the entities that the source requests from the registry while it describes a type. -/
structure TypeSource where
  describe? : String → Option TypeDescriptor
  isTerminal : String → Bool
  asksWhile : String → List String

/-- The source requests nothing from the registry. -/
def TypeSource.Passive (source : TypeSource) : Prop :=
  ∀ name, source.asksWhile name = []

/-! ## Inspectors -/

/-- A finite source of type information. The `answers` pair a requested name with the descriptor
that is returned for it, whose own name may differ; `asks` lists the entities that the inspector
requests from the registry while it describes a type. -/
structure Inspector where
  answers : List (String × TypeDescriptor) := []
  terminal : List String := []
  asks : List (String × List String) := []
deriving DecidableEq, Repr, Inhabited

namespace Inspector

/-- An inspector that answers from a catalog and requests nothing. -/
def ofCatalog (catalog : Catalog) : Inspector :=
  { answers := catalog.types.map fun type => (type.name, type), terminal := catalog.terminal }

def describe? (inspector : Inspector) (name : String) : Option TypeDescriptor :=
  inspector.answers.lookup name

def isTerminal (inspector : Inspector) (name : String) : Bool :=
  inspector.terminal.contains name

/-- The entities requested while `name` is being described, in order. -/
def asksWhile (inspector : Inspector) (name : String) : List String :=
  (inspector.asks.lookup name).getD []

/-- Every name to which the description of some type can lead: the types of its members and the
entities requested meanwhile. A chain of constructions that are all under way at once holds only
such names besides the first. -/
def mentioned (inspector : Inspector) : List String :=
  inspector.answers.flatMap (fun answer => answer.2.members.map (·.declared.actualName))
    ++ inspector.asks.flatMap (·.2)

end Inspector

end DerivedQuery
