import DerivedQuery.Command.Workspace

/-!
# Showing entities

The command builds the entities of a project — those whose authors ask for it, or the one that the
user names — with everything that they reach, and shows all that could be built.

## Main definitions

* `runEntities`
-/

namespace DerivedQuery

open Report

/-! ## Entities in reports -/

def Property.toJson (property : Property) : JsonValue :=
  .object
    [("name", .text property.name), ("declared_type", .text property.declared.display),
      ("actual_type", .text property.actualType), ("association", .boolean property.association),
      ("identifier", .boolean property.identifier)]

namespace Command

/-- An entity and the place of its declaration. -/
structure PlacedEntity where
  entity : Entity
  place : Option String
deriving DecidableEq, Repr

/-- How a table marks what holds. -/
def mark (holds : Bool) : String :=
  if holds then "yes" else ""

namespace PlacedEntity

def toJson (placed : PlacedEntity) : JsonValue :=
  .object
    [("type_name", .text placed.entity.typeName),
      ("identifier", .optional .text (placed.entity.identifier?.map (·.name))),
      ("source", .optional .text placed.place),
      ("properties", .array (placed.entity.properties.map (·.toJson)))]

/-- One row for each property. -/
def toTable (placed : PlacedEntity) : Table where
  header := ["Property", "Declared type", "Association", "Identifier"]
  rows := placed.entity.properties.map fun property =>
    [property.name, property.declared.display, mark property.association, mark property.identifier]

def toCompact (placed : PlacedEntity) : String :=
  placed.entity.typeName ++ "("
    ++ ", ".intercalate (placed.entity.properties.map (·.name)) ++ ")"

/-- The row of an entity in a table of entities. -/
def toRow (placed : PlacedEntity) : List String :=
  [placed.entity.typeName, (placed.entity.identifier?.map (·.name)).getD "-",
    toString placed.entity.size, toString placed.entity.associations.length, placed.place.getD "-"]

end PlacedEntity

/-- A table with one row for each entity. -/
def entityTable (entities : List PlacedEntity) : Table where
  header := ["Entity", "Identifier", "Properties", "Associations", "Source"]
  rows := entities.map (·.toRow)

/-! ## The command -/

/-- Reports an entity that cannot be built. -/
def reportMetadataError (root : String) (error : MetadataError) : Console Unit := do
  Console.error (root ++ ": " ++ error.message)
  if error.rootCause ≠ error then
    Console.detail ("caused by: " ++ error.rootCause.message)

/-- Builds entities one after the other; the number of failures and the final state. -/
def buildEntities (registry : Registry) :
    List String → Registry.State → Console (Nat × Registry.State)
  | [], state => return (0, state)
  | root :: rest, state => do
      let (result, state) := registry.entityFor root state
      match result with
      | .ok _ => buildEntities registry rest state
      | .error error =>
          reportMetadataError root error
          let (failed, state) ← buildEntities registry rest state
          return (failed + 1, state)

/-- Writes entities, with tables of their properties if they are asked for. -/
def writeEntities (properties : Bool) (entities : List PlacedEntity) : Console Unit := do
  if entities.isEmpty then
    Console.info "No entity metadata could be built."
  else
    Console.display (.array (entities.map (·.toJson))) (entityTable entities)
      ("\n".intercalate (entities.map (·.toCompact)))
    if properties && (← read).options.format = .table then
      for placed in entities do
        Console.heading placed.entity.typeName
        Console.display placed.toJson placed.toTable placed.toCompact

/-- Builds and shows the metadata of entities. -/
def runEntities (surroundings : Surroundings) (root : Option String) (properties : Bool)
    (sources : List Files.Location) : Console Unit := do
  let workspace ← openWorkspace surroundings sources
  let roots := match root with
    | some root => [root]
    | none => workspace.declarations.entityNames
  let (failed, state) ← buildEntities workspace.reader.registry roots {}
  let entities := state.slots.entities.map fun entity =>
    { entity, place := (workspace.declarations.find? entity.typeName).map Project.place }
  writeEntities properties entities
  if 0 < failed then
    throw (.entities failed roots.length)
  Console.success <| toString entities.length
    ++ (if entities.length = 1 then " entity" else " entities") ++ " registered"

end Command

end DerivedQuery
