import DerivedQuery.Convention.Document

/-!
# Project settings

A project may have a settings file with two sections: the naming convention of its method names, and
the directories that are scanned for its types. The file is a TOML document, and its sections obey
the same rules as a convention that stands alone.

## Main definitions

* `Settings`, `Settings.ofDocument?`
-/

namespace DerivedQuery.Project

open Toml Setting

/-- The directories that are scanned unless others are configured. -/
def defaultSources : List String :=
  ["src"]

/-- The settings of a project. -/
structure Settings where
  convention : Convention := {}
  sources : List String := defaultSources
deriving DecidableEq, Repr, Inhabited

/-- The scanned directories in a section of the settings. -/
def sources? (value : Value) : Option (List String) := do
  let field ← record? value
  optional? (list? text?) defaultSources (field "sources" 0)

/-- The settings that a document describes, not validated. -/
def Settings.ofDocument? (document : String) : Option Settings := do
  let field ← record? (← readDocument? document)
  return {
    convention := ← optional? Convention.ofValue? {} (field "parser" 0)
    sources := ← optional? sources? defaultSources (field "scan" 1) }

end DerivedQuery.Project
