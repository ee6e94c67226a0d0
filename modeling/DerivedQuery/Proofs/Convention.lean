import DerivedQuery.Proofs.Except
import DerivedQuery.Proofs.Registration
import DerivedQuery.Proofs.Tables
import DerivedQuery.Query.Parser

/-!
# What a convention registers

A convention registers tokens in a fixed order: those of the built-in keywords, then the aliases,
then the tokens of the host. The vocabulary keeps the longer ones in front, and so do the
introducers. Both orders are stable. So among entries with one and the same text, the one that was
registered first is the one that is matched first, whatever else is registered.

## Main definitions

* `Convention.registered`: all entries in the order of their registration
* `Convention.registrations`: the same as registrations of a vocabulary

## Main results

* `Convention.validate_eq_ok_iff`, `ofConvention_eq_ok_iff`: which conventions have a parser
* `Vocabulary.find?_insertAll`, `Convention.find?_extendedVocabulary`: the first registration of a
  token wins
* `Convention.find?_sortedIntroducers`: the first introducer of a word wins
-/

namespace DerivedQuery

open Text

/-! ## Valid conventions -/

theorem checkToken_eq_ok_iff {token : String} :
    checkToken token = .ok () ↔ isTokenText token = true := by
  unfold checkToken
  split <;> simp [*]

theorem Introducer.validate_eq_ok_iff {introducer : Introducer} :
    introducer.validate = .ok () ↔ isIntroducerWord introducer.word = true := by
  unfold Introducer.validate
  split <;> simp [*]

theorem KeywordAlias.validate_eq_ok_iff {entry : KeywordAlias} :
    entry.validate = .ok () ↔
      (Keyword.ofName? entry.keyword).isSome = true ∧ isTokenText entry.token = true := by
  unfold KeywordAlias.validate
  cases Keyword.ofName? entry.keyword <;> simp [checkToken_eq_ok_iff]

theorem CustomKeyword.validate_eq_ok_iff {keyword : CustomKeyword} :
    keyword.validate = .ok () ↔
      keyword.tokens ≠ [] ∧ ∀ token ∈ keyword.tokens, isTokenText token = true := by
  unfold CustomKeyword.validate
  split
  · rename_i hEmpty
    simp [List.isEmpty_iff.mp hEmpty]
  · rename_i hTokens
    rw [List.isEmpty_iff] at hTokens
    simp only [List.forM_eq_forM, forM_eq_ok_iff, checkToken_eq_ok_iff]
    exact (and_iff_right hTokens).symm

namespace Convention

variable {convention : Convention}

/-- What a valid convention holds. -/
theorem validate_eq_ok_iff : convention.validate = .ok () ↔
    isAsciiPunctuation convention.separator = true ∧
      (∀ introducer ∈ convention.introducers, isIntroducerWord introducer.word = true) ∧
      (∀ entry ∈ convention.aliases,
        (Keyword.ofName? entry.keyword).isSome = true ∧ isTokenText entry.token = true) ∧
      ∀ keyword ∈ convention.customKeywords,
        keyword.tokens ≠ [] ∧ ∀ token ∈ keyword.tokens, isTokenText token = true := by
  unfold validate
  cases hSeparator : isAsciiPunctuation convention.separator with
  | false => simp [throw, throwThe, MonadExceptOf.throw, bind, Except.bind]
  | true =>
      simp [seq_eq_ok_iff, forM_eq_ok_iff, Introducer.validate_eq_ok_iff,
        KeywordAlias.validate_eq_ok_iff, CustomKeyword.validate_eq_ok_iff]

end Convention

/-- Exactly the valid conventions have a parser. -/
theorem ofConvention_eq_ok_iff {convention : Convention} {parser : MethodParser} :
    MethodParser.ofConvention convention = .ok parser ↔
      convention.validate = .ok () ∧
        parser = ⟨convention.sortedIntroducers, convention.extendedVocabulary,
          convention.separator⟩ := by
  unfold MethodParser.ofConvention Convention.vocabulary
  cases convention.validate with
  | error error => simp [bind, Except.bind]
  | ok _ => simp [bind, Except.bind, pure, Except.pure, eq_comm]

/-! ## Registered tokens -/

namespace Convention

/-- The entries of the aliases of known keywords. -/
def aliasEntries (convention : Convention) : List KeywordToken :=
  convention.aliases.filterMap fun entry =>
    (Keyword.ofName? entry.keyword).map fun keyword => ⟨entry.token, keyword⟩

/-- The entries of the keywords of the host. -/
def hostEntries (convention : Convention) : List KeywordToken :=
  convention.customKeywords.flatMap fun keyword =>
    Vocabulary.entriesFor (.custom keyword.name keyword.arity) keyword.tokens

/-- All entries in the order of their registration. -/
def registered (convention : Convention) : List KeywordToken :=
  Vocabulary.builtinEntries ++ (convention.aliasEntries ++ convention.hostEntries)

/-- What a convention adds to the built-in vocabulary: the aliases of known keywords and then the
keywords of the host. -/
def registrations (convention : Convention) : List Registration :=
  convention.aliases.filterMap (fun entry =>
    (Keyword.ofName? entry.keyword).map fun keyword => .alias keyword entry.token) ++
  convention.customKeywords.map fun keyword => .custom keyword.name keyword.arity keyword.tokens

theorem extendedVocabulary_eq (convention : Convention) :
    convention.extendedVocabulary = .ofRegistrations convention.registrations := by
  rw [extendedVocabulary, registrations, Vocabulary.ofRegistrations, List.foldl_append,
    List.foldl_map, List.foldl_filterMap]
  congr
  funext vocabulary entry
  unfold addAlias
  cases Keyword.ofName? entry.keyword <;> rfl

private theorem registered_registrations (convention : Convention) :
    Vocabulary.registered convention.registrations = convention.registered := by
  have hAliases : ∀ aliases : List KeywordAlias,
      (aliases.filterMap fun entry => (Keyword.ofName? entry.keyword).map fun keyword =>
        Registration.alias keyword entry.token).flatMap (·.entries) =
      aliases.filterMap fun entry => (Keyword.ofName? entry.keyword).map fun keyword =>
        ⟨entry.token, keyword⟩ := by
    intro aliases
    induction aliases with
    | nil => rfl
    | cons entry rest ih =>
        rw [List.filterMap_cons, List.filterMap_cons]
        cases Keyword.ofName? entry.keyword with
        | none => exact ih
        | some keyword => exact congrArg (List.cons _) ih
  rw [Vocabulary.registered, registrations, List.flatMap_append, List.flatMap_map, hAliases]
  rfl

/-- The vocabulary holds the registered entries. -/
theorem entries_extendedVocabulary (convention : Convention) :
    convention.extendedVocabulary.entries = Vocabulary.insertAll convention.registered [] := by
  rw [extendedVocabulary_eq, Vocabulary.entries_ofRegistrations, registered_registrations]

/-- The first registration of a token wins. -/
theorem find?_extendedVocabulary (convention : Convention) (token : String) :
    convention.extendedVocabulary.entries.find? (·.token == token) =
      convention.registered.find? (·.token == token) := by
  rw [entries_extendedVocabulary, Vocabulary.find?_insertAll]

/-- No other keyword takes the canonical token of a built-in one. -/
theorem find?_registered_canonicalToken (convention : Convention) (operator : Operator) :
    convention.registered.find? (·.token == operator.canonicalToken) =
      some ⟨operator.canonicalToken, .builtin operator⟩ := by
  have hCanonical := Vocabulary.mem_builtin.mp (canonicalToken_mem operator)
  rw [registered, List.find?_append, Vocabulary.find?_of_nodup nodup_builtin_tokens hCanonical]
  rfl

end Convention

/-! ## Introducers -/

/-- Of all introducers with a word, the one that is configured first is matched first. -/
theorem Convention.find?_sortedIntroducers (convention : Convention) (word : String) :
    convention.sortedIntroducers.find? (·.word == word) =
      convention.introducers.find? (·.word == word) := by
  apply find?_mergeSort
  · intro first second third hFirst hSecond
    simp only [decide_eq_true_eq] at *
    omega
  · intro first second
    simp only [Bool.or_eq_true, decide_eq_true_eq]
    omega
  · intro first second hFirst hSecond
    rw [beq_iff_eq.mp hFirst, beq_iff_eq.mp hSecond]
    simp

end DerivedQuery
