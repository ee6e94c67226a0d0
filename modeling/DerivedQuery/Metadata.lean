import DerivedQuery.Entity

/-!
# Sources of metadata

Path resolution and query parsing ask two questions about a type: is it a leaf value, and what is
its entity. Asking may change the source — a registry builds entities on demand — so the second
question takes a state and returns the next one, on failure as well.

Readers are written against this interface. A source whose answers do not depend on the state
(`Metadata.ofEntities`) turns them into pure functions, and that is how their grammar is stated.
-/

namespace DerivedQuery

/-- A source of metadata with states `σ`. -/
structure Metadata (σ : Type) where
  isTerminal : String → Bool
  entityFor : String → σ → Except MetadataError Entity × σ

namespace Metadata

/-- A source with fixed answers. -/
def ofEntities (isTerminal : String → Bool) (entityOf : String → Except MetadataError Entity) :
    Metadata Unit :=
  { isTerminal, entityFor := fun name state => (entityOf name, state) }

end Metadata

end DerivedQuery
