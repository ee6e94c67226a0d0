import DerivedQuery.Query.Parser
import DerivedQuery.Registry.Basic

/-!
# Reading method names against a registry

A `Reader` joins a registry and a parser of one naming convention, which is what a host keeps for as
long as it reads method names. Its state is that of the registry.

`Reader.readOnce` reads a single name with the default convention over a catalog of types. It builds
the entity of the root type first, so a defect of the type is reported as such and not as a path
that does not resolve.

## Main definitions

* `Reader`, `Reader.ofConvention`
* `Reader.parse`, `Reader.resolve`, `Reader.readOnce`
-/

namespace DerivedQuery

/-- A registry and a parser of the same convention. -/
structure Reader where
  registry : Registry
  parser : MethodParser
deriving DecidableEq, Repr, Inhabited

/-- Why a single method name could not be read. -/
inductive ReadError where
  | convention (error : ConventionError)
  | metadata (error : MetadataError)
  | method (error : SyntaxError)
deriving DecidableEq, Repr, Inhabited

namespace Reader

/-- The reader of a valid convention. -/
def ofConvention (inspector : Inspector) (convention : Convention) :
    Except ConventionError Reader := do
  let parser ← MethodParser.ofConvention convention
  return { registry := { inspector, terminal := convention.terminal }, parser }

/-- Reads a method name against a root type. -/
def parse (reader : Reader) (method root : String) (state : Registry.State) :
    Except SyntaxError Query × Registry.State :=
  reader.parser.parse reader.registry.metadata method root state

/-- Resolves a path with a given separator. -/
def resolveWith (reader : Reader) (separator : Char) (source root : String)
    (state : Registry.State) : Except PathError PropertyPath × Registry.State :=
  resolvePath reader.registry.metadata separator source.toList root state

/-- Resolves a path with the separator of the convention. -/
def resolve (reader : Reader) (source root : String) (state : Registry.State) :
    Except PathError PropertyPath × Registry.State :=
  reader.parser.resolvePath reader.registry.metadata source root state

/-- Reads one method name against a registered type, with the default convention and a registry of
its own. -/
def readOnce (catalog : Catalog) (root method : String) : Except ReadError Query := do
  let reader ← (ofConvention (.ofCatalog catalog) {}).mapError .convention
  let (entity, state) := reader.registry.entityFor root {}
  let _ ← entity.mapError .metadata
  (reader.parse method root state).1.mapError .method

end Reader

end DerivedQuery
