import DerivedQuery.Proofs.Vocabulary

/-!
# Registered tokens

A host extends the built-in vocabulary by registrations: one more token for a keyword, or a keyword
of its own with its tokens. No registration removes a token or changes one, so the table holds the
built-in entries and all that were registered after them. It stays ordered, and of all entries with
one token the one that was registered first is in front.

## Main definitions

* `Registration`, `Vocabulary.ofRegistrations`, `Vocabulary.registered`

## Main results

* `Vocabulary.entries_ofRegistrations`: the table is made of the registered entries
* `Vocabulary.mem_ofRegistrations`, `Vocabulary.ordered_ofRegistrations`: its entries and their order
* `Vocabulary.find?_ofRegistrations`: the first entry of a token
-/

namespace DerivedQuery

/-- What a host adds to a vocabulary. -/
inductive Registration where
  | alias (keyword : Keyword) (token : String)
  | custom (name : String) (arity : Nat) (tokens : List String)
deriving DecidableEq, Repr

/-- The entries that a registration adds, in their order. -/
def Registration.entries : Registration → List KeywordToken
  | .alias keyword token => [⟨token, keyword⟩]
  | .custom name arity tokens => Vocabulary.entriesFor (.custom name arity) tokens

namespace Vocabulary

def register (vocabulary : Vocabulary) : Registration → Vocabulary
  | .alias keyword token => vocabulary.addAlias keyword token
  | .custom name arity tokens => vocabulary.addCustom name arity tokens

/-- The built-in vocabulary after some registrations. -/
def ofRegistrations (registrations : List Registration) : Vocabulary :=
  registrations.foldl register builtin

/-- All entries in the order of their registration, the built-in ones first. -/
def registered (registrations : List Registration) : List KeywordToken :=
  builtinEntries ++ registrations.flatMap (·.entries)

theorem entries_register (vocabulary : Vocabulary) (registration : Registration) :
    (vocabulary.register registration).entries =
      insertAll registration.entries vocabulary.entries := by
  cases registration <;> rfl

private theorem entries_foldl_register (registrations : List Registration)
    (vocabulary : Vocabulary) :
    (registrations.foldl register vocabulary).entries =
      insertAll (registrations.flatMap (·.entries)) vocabulary.entries := by
  induction registrations generalizing vocabulary with
  | nil => rfl
  | cons registration rest ih =>
      rw [List.foldl_cons, ih, entries_register, List.flatMap_cons, insertAll_append]

/-- The table is made by inserting the registered entries one after the other. -/
theorem entries_ofRegistrations (registrations : List Registration) :
    (ofRegistrations registrations).entries = insertAll (registered registrations) [] := by
  rw [ofRegistrations, entries_foldl_register, registered, insertAll_append, entries_builtin]

theorem mem_ofRegistrations {registrations : List Registration} {entry : KeywordToken} :
    entry ∈ (ofRegistrations registrations).entries ↔ entry ∈ registered registrations := by
  rw [entries_ofRegistrations, mem_insertAll]
  simp

theorem ordered_ofRegistrations (registrations : List Registration) :
    Ordered (ofRegistrations registrations).entries := by
  rw [entries_ofRegistrations]
  exact ordered_insertAll _ List.Pairwise.nil

/-- Of all entries with a token, the one that was registered first is matched first. -/
theorem find?_ofRegistrations (registrations : List Registration) (token : String) :
    (ofRegistrations registrations).entries.find? (·.token == token) =
      (registered registrations).find? (·.token == token) := by
  rw [entries_ofRegistrations, find?_insertAll]

end Vocabulary

end DerivedQuery
