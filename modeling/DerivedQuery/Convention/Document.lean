import DerivedQuery.Convention
import DerivedQuery.Toml.Document

/-!
# Conventions in TOML documents

A convention is written as a table with one key per setting. Every setting may be left out, unknown
keys are ignored, and a value of the wrong type makes the whole document malformed. A record — the
convention itself, an introducer, an alias, a keyword — may also be written as an array that gives
its settings in their declared order.

A convention read from a document of its own is validated at once.

## Main definitions

* `Convention.ofValue?`, `Convention.ofDocument`
* `DocumentError`
-/

namespace DerivedQuery

open Toml

/-! ## Settings of simple types -/

namespace Setting

def text? : Value → Option String
  | .text value => some value
  | _ => none

def boolean? : Value → Option Bool
  | .boolean value => some value
  | _ => none

/-- A text of exactly one character. -/
def character? (value : Value) : Option Char := do
  match (← text? value).toList with
  | [c] => some c
  | _ => none

/-- A number that is not negative. -/
def count? : Value → Option Nat
  | .integer value => if 0 ≤ value then some value.toNat else none
  | _ => none

def list? {α : Type} (item? : Value → Option α) : Value → Option (List α)
  | .array items => items.mapM item?
  | _ => none

/-- An intent: its name, or a table whose only key is that name and whose value is empty. -/
def intent? : Value → Option Intent
  | .text name => Intent.ofName? name
  | .table [(name, .table [])] => Intent.ofName? name
  | .table [(name, .array [])] => Intent.ofName? name
  | _ => none

/-! ## Records -/

/-- The settings of a record, found by name and by position. A date is a record without
settings. -/
def record? : Value → Option (String → Nat → Option Value)
  | .table entries => some fun name _ => entries.lookup name
  | .array items => some fun _ position => items[position]?
  | .date _ => some fun _ _ => none
  | _ => none

/-- A setting that must be present. -/
def required? {α : Type} (read? : Value → Option α) (value? : Option Value) : Option α :=
  value?.bind read?

/-- A setting with a default. -/
def optional? {α : Type} (read? : Value → Option α) (default : α) : Option Value → Option α
  | none => some default
  | some value => read? value

def introducer? (value : Value) : Option Introducer := do
  let field ← record? value
  return { word := ← required? text? (field "prefix" 0), intent := ← required? intent? (field "intent" 1) }

def alias? (value : Value) : Option KeywordAlias := do
  let field ← record? value
  return { keyword := ← required? text? (field "keyword" 0), token := ← required? text? (field "token" 1) }

def customKeyword? (value : Value) : Option CustomKeyword := do
  let field ← record? value
  return {
    name := ← required? text? (field "name" 0)
    tokens := ← required? (list? text?) (field "tokens" 1)
    arity := ← optional? count? 1 (field "arity" 2) }

end Setting

/-! ## Conventions -/

/-- Why a document yields no convention. -/
inductive DocumentError where
  | unreadable
  /-- The document is no TOML, or a setting has the wrong type. -/
  | malformed
  | invalid (error : ConventionError)
deriving DecidableEq, Repr, Inhabited

namespace Convention

open Setting

/-- The convention that a value describes, not validated. -/
def ofValue? (value : Value) : Option Convention := do
  let base : Convention := {}
  let field ← record? value
  return {
    separator := ← optional? character? base.separator (field "separator" 0)
    introducers := ← optional? (list? introducer?) base.introducers (field "introducers" 1)
    aliases := ← optional? (list? alias?) base.aliases (field "keyword_aliases" 2)
    customKeywords := ← optional? (list? customKeyword?) base.customKeywords (field "custom_keywords" 3)
    terminalTypes := ← optional? (list? text?) base.terminalTypes (field "terminal_types" 4)
    includeDefaultTerminals :=
      ← optional? boolean? base.includeDefaultTerminals (field "include_default_terminals" 5) }

/-- The valid convention that a document holds. -/
def ofDocument (document : String) : Except DocumentError Convention := do
  match (readDocument? document).bind ofValue? with
  | none => throw .malformed
  | some convention =>
      convention.validate.mapError .invalid
      return convention

/-- The valid convention in a file, of which only the content matters. -/
def ofFile : Option String → Except DocumentError Convention
  | none => .error .unreadable
  | some document => ofDocument document

end Convention

end DerivedQuery
