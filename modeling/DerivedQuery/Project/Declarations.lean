import DerivedQuery.Inspector
import DerivedQuery.Project.Discovery

/-!
# The declarations of a project

The types of a project are what the scans of its sources find. A name that is declared again
replaces the earlier declaration, in its place; each such repetition is reported.

## Main definitions

* `Declarations`, `Declarations.ofScans`
* `Declarations.catalog`, `Declarations.entityNames`, `Declarations.find?`
* `scanSources`
-/

namespace DerivedQuery.Project

open Source (ScannedType)

/-- The scanned types, one for each name, in the order in which the names first occurred. -/
structure Declarations where
  types : List ScannedType := []
deriving DecidableEq, Repr, Inhabited

/-- A declaration and the one that replaces it. -/
structure Repetition where
  earlier : ScannedType
  later : ScannedType
deriving DecidableEq, Repr

/-- The place of a declaration, as it is shown to the user. -/
def place (type : ScannedType) : String :=
  type.path ++ ":" ++ toString type.line

def Repetition.message (repetition : Repetition) : String :=
  repetition.later.descriptor.name ++ " is declared in both " ++ place repetition.earlier ++ " and "
    ++ place repetition.later ++ "; using the latter"

namespace Declarations

/-- The declaration of a name. -/
def find? (declarations : Declarations) (name : String) : Option ScannedType :=
  declarations.types.find? (·.descriptor.name == name)

/-- Adds a declaration at the end, or in the place of an earlier one of the same name. -/
def add (declarations : Declarations) (type : ScannedType) : Declarations :=
  match declarations.find? type.descriptor.name with
  | none => ⟨declarations.types ++ [type]⟩
  | some _ =>
      ⟨declarations.types.map fun earlier =>
        if earlier.descriptor.name == type.descriptor.name then type else earlier⟩

/-- The declarations that are left of some scanned types. -/
def ofScans (types : List ScannedType) : Declarations :=
  types.foldl add {}

/-- The declarations that are replaced when scanned types are added one after the other. -/
def repetitions : Declarations → List ScannedType → List Repetition
  | _, [] => []
  | declarations, type :: rest =>
      ((declarations.find? type.descriptor.name).map fun earlier => ⟨earlier, type⟩).toList
        ++ (declarations.add type).repetitions rest

/-- A catalog of the declared types. -/
def catalog (declarations : Declarations) : Catalog :=
  .ofList (declarations.types.map (·.descriptor))

/-- The names of the types whose authors ask for a descriptor; of all types if no author does. -/
def entityNames (declarations : Declarations) : List String :=
  let derived := declarations.types.filter (·.derivesEntity)
  (if derived.isEmpty then declarations.types else derived).map (·.descriptor.name)

end Declarations

/-- What the scan of one source finds. -/
def scanFile (source : SourceFile) : Except Failure (List ScannedType) :=
  (Source.scan source.content.toList source.relative.toString).mapError fun
    | .malformed => .malformedSource source.location
    | .directive structName error => .invalidDirective source.location structName error

/-- What the scans of sources find, up to the first source that cannot be scanned, and why that is
so. -/
def scanSources : List SourceFile → List ScannedType × Option Failure
  | [] => ([], none)
  | source :: rest =>
      match scanFile source with
      | .error failure => ([], some failure)
      | .ok types =>
          let (more, failure) := scanSources rest
          (types ++ more, failure)

end DerivedQuery.Project
