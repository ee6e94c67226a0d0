import DerivedQuery.Query.Basic
import DerivedQuery.TerminalTypes
import DerivedQuery.Vocabulary

/-!
# Naming conventions

A naming convention is everything about method names that a host can configure: the words that
introduce a method and the intent of each, further tokens for built-in keywords, keywords of the
host, the separator of explicit path steps, and the terminal types. A convention that is not
mentioned anywhere is `Convention.default`.

A convention may hold anything until it is validated; the defects are looked for in a fixed order
and the first one is reported. Only a valid convention has a vocabulary.

## Main definitions

* `Introducer`, `KeywordAlias`, `CustomKeyword`, `Convention`
* `ConventionError`, `Convention.validate`
* `Convention.vocabulary`, `Convention.terminal`
-/

namespace DerivedQuery

/-- A word that introduces a method name, and the intent that it denotes. -/
structure Introducer where
  word : String
  intent : Intent
deriving DecidableEq, Repr, Inhabited

/-- A further token for the built-in keyword of a given name. -/
structure KeywordAlias where
  keyword : String
  token : String
deriving DecidableEq, Repr, Inhabited

/-- A keyword of the host. -/
structure CustomKeyword where
  name : String
  tokens : List String
  arity : Nat := 1
deriving DecidableEq, Repr, Inhabited

/-- The separator of path steps unless another one is configured. -/
def defaultSeparator : Char :=
  '_'

/-- The introducers unless others are configured. -/
def defaultIntroducers : List Introducer :=
  [⟨"find", .find⟩, ⟨"read", .find⟩, ⟨"get", .find⟩, ⟨"query", .find⟩, ⟨"search", .find⟩,
    ⟨"stream", .stream⟩, ⟨"count", .count⟩, ⟨"exists", .exists⟩, ⟨"delete", .delete⟩,
    ⟨"remove", .delete⟩]

/-- The configuration of method names. -/
structure Convention where
  separator : Char := defaultSeparator
  introducers : List Introducer := defaultIntroducers
  aliases : List KeywordAlias := []
  customKeywords : List CustomKeyword := []
  /-- Terminal types added to the default ones, or to none. -/
  terminalTypes : List String := []
  includeDefaultTerminals : Bool := true
deriving DecidableEq, Repr, Inhabited

/-! ## Validation -/

/-- Why a convention cannot be used. -/
inductive ConventionError where
  | unknownKeyword (name : String)
  | invalidToken (token : String)
  | invalidIntroducer (word : String)
  | invalidSeparator (separator : Char)
deriving DecidableEq, Repr, Inhabited

namespace ConventionError

/-- The text of a defect. -/
def message : ConventionError → String
  | unknownKeyword name => s!"unknown keyword `{name}`"
  | invalidToken token =>
      s!"keyword token must be non-empty and start with an uppercase letter: `{token}`"
  | invalidIntroducer word => s!"introducer prefix must be a non-empty lowercase word: `{word}`"
  | invalidSeparator separator => s!"separator `{separator}` must be an ASCII punctuation character"

end ConventionError

/-- The punctuation characters of ASCII: visible, but neither letters nor digits. -/
def isAsciiPunctuation (c : Char) : Bool :=
  33 ≤ c.toNat && c.toNat < 127 && !c.isAlphanum

/-- A keyword token is an ASCII word that starts with a capital. -/
def isTokenText (token : String) : Bool :=
  token.toList.head?.any (·.isUpper) && token.toList.all (·.isAlphanum)

/-- An introducer is a non-empty word of lowercase ASCII letters. -/
def isIntroducerWord (word : String) : Bool :=
  !word.toList.isEmpty && word.toList.all (·.isLower)

/-- Accepts a keyword token. -/
def checkToken (token : String) : Except ConventionError Unit :=
  if isTokenText token then .ok () else .error (.invalidToken token)

namespace Introducer

/-- Accepts an introducer. -/
def validate (introducer : Introducer) : Except ConventionError Unit :=
  if isIntroducerWord introducer.word then .ok () else .error (.invalidIntroducer introducer.word)

end Introducer

namespace KeywordAlias

/-- Accepts an alias of a known keyword. -/
def validate (entry : KeywordAlias) : Except ConventionError Unit :=
  if (Keyword.ofName? entry.keyword).isNone then .error (.unknownKeyword entry.keyword)
  else checkToken entry.token

end KeywordAlias

namespace CustomKeyword

/-- Accepts a keyword with at least one token. -/
def validate (keyword : CustomKeyword) : Except ConventionError Unit :=
  if keyword.tokens.isEmpty then .error (.invalidToken keyword.name)
  else keyword.tokens.forM checkToken

end CustomKeyword

namespace Convention

/-- Looks for the first defect: the separator, then the introducers, the aliases and the keywords
of the host, each in order. -/
def validate (convention : Convention) : Except ConventionError Unit := do
  if !isAsciiPunctuation convention.separator then
    throw (.invalidSeparator convention.separator)
  convention.introducers.forM (·.validate)
  convention.aliases.forM (·.validate)
  convention.customKeywords.forM (·.validate)

/-! ## What a convention denotes -/

/-- Registers an alias of a known keyword. -/
def addAlias (vocabulary : Vocabulary) (entry : KeywordAlias) : Vocabulary :=
  match Keyword.ofName? entry.keyword with
  | some keyword => vocabulary.addAlias keyword entry.token
  | none => vocabulary

/-- The built-in vocabulary with the aliases and then the keywords of the host. -/
def extendedVocabulary (convention : Convention) : Vocabulary :=
  convention.customKeywords.foldl
    (fun vocabulary keyword => vocabulary.addCustom keyword.name keyword.arity keyword.tokens)
    (convention.aliases.foldl addAlias .builtin)

/-- The vocabulary of a valid convention. -/
def vocabulary (convention : Convention) : Except ConventionError Vocabulary := do
  convention.validate
  return convention.extendedVocabulary

/-- The terminal types. -/
def terminal (convention : Convention) : TerminalTypes :=
  convention.terminalTypes.foldl TerminalTypes.insert
    (if convention.includeDefaultTerminals then .defaults else .empty)

/-- The introducers in matching order: longer words first, so that one which extends another is
found before it. -/
def sortedIntroducers (convention : Convention) : List Introducer :=
  convention.introducers.mergeSort fun first second =>
    decide (Text.byteLength second.word.toList ≤ Text.byteLength first.word.toList)

end Convention

end DerivedQuery
