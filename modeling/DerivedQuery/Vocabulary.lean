import DerivedQuery.Keyword
import DerivedQuery.Text.Cut

/-!
# Vocabularies

A vocabulary is the ordered table of the tokens that denote keywords. A criterion is matched
against it from the first entry to the last, so the order decides which keyword wins: longer tokens
stand first, so that `GreaterThan` does not win over `IsGreaterThan`, nor `In` over `NotIn`. Among
tokens of the same length the one registered first stands first. Lengths are UTF-8 lengths.

The table is kept in this order from the start: `Vocabulary.insert` puts a token behind all tokens
that are at least as long.

## Main definitions

* `Vocabulary`, `Vocabulary.builtin`, `Vocabulary.addAlias`, `Vocabulary.addCustom`
* `Vocabulary.candidates`, `Vocabulary.tokenFor?`
-/

namespace DerivedQuery

open Text

/-- A token and the keyword that it denotes. -/
structure KeywordToken where
  token : String
  keyword : Keyword
deriving DecidableEq, Repr, Inhabited

namespace KeywordToken

/-- The length that orders the tokens of a vocabulary. -/
def size (entry : KeywordToken) : Nat :=
  byteLength entry.token.toList

end KeywordToken

/-- The tokens in matching order, and the keywords that were added by the host. -/
structure Vocabulary where
  entries : List KeywordToken
  added : List Keyword := []
deriving DecidableEq, Repr, Inhabited

namespace Vocabulary

/-! ## Registration -/

/-- Puts an entry behind all entries that are at least as long. -/
def insert (entry : KeywordToken) : List KeywordToken → List KeywordToken
  | [] => [entry]
  | first :: rest =>
      if entry.size ≤ first.size then first :: insert entry rest else entry :: first :: rest

/-- Registers entries one after the other. -/
def insertAll (entries : List KeywordToken) (table : List KeywordToken) : List KeywordToken :=
  entries.foldl (fun table entry => insert entry table) table

/-- The entries that register `tokens` for one keyword. -/
def entriesFor (keyword : Keyword) (tokens : List String) : List KeywordToken :=
  tokens.map fun token => ⟨token, keyword⟩

/-- The tokens of the built-in keywords in the order of their declaration. -/
def builtinEntries : List KeywordToken :=
  Keyword.builtins.flatMap fun keyword => entriesFor keyword keyword.tokens

/-- The vocabulary of the built-in keywords. -/
def builtin : Vocabulary :=
  { entries := insertAll builtinEntries [] }

/-- Registers one more token for a keyword. -/
def addAlias (vocabulary : Vocabulary) (keyword : Keyword) (token : String) : Vocabulary :=
  { vocabulary with entries := insert ⟨token, keyword⟩ vocabulary.entries }

/-- Registers a keyword of the host with its tokens. -/
def addCustom (vocabulary : Vocabulary) (name : String) (arity : Nat) (tokens : List String) :
    Vocabulary :=
  let keyword := Keyword.custom name arity
  { entries := insertAll (entriesFor keyword tokens) vocabulary.entries
    added := vocabulary.added ++ [keyword] }

/-! ## Queries -/

/-- The number of tokens. -/
def size (vocabulary : Vocabulary) : Nat :=
  vocabulary.entries.length

/-- The built-in keywords and then the added ones. -/
def keywords (vocabulary : Vocabulary) : List Keyword :=
  Keyword.builtins ++ vocabulary.added

/-- The non-empty text before an entry's token at the end of a segment. -/
def stem? (segment : List Char) (entry : KeywordToken) : Option (List Char) :=
  (dropSuffix? entry.token.toList segment).filter (!·.isEmpty)

/-- Every way to read the end of a segment as a keyword, longest token first: the non-empty text
before the token, and the keyword. -/
def candidates (vocabulary : Vocabulary) (segment : List Char) : List (List Char × Keyword) :=
  vocabulary.entries.filterMap fun entry => (stem? segment entry).map fun stem => (stem, entry.keyword)

/-- All tokens of a keyword in matching order. -/
def tokensFor (vocabulary : Vocabulary) (keyword : Keyword) : List String :=
  (vocabulary.entries.filter (·.keyword == keyword)).map (·.token)

/-- The longest of some tokens, the last one of several. -/
def longest? : List String → Option String
  | [] => none
  | token :: rest =>
      match longest? rest with
      | none => some token
      | some best =>
          if byteLength token.toList ≤ byteLength best.toList then some best else some token

/-- The token that is written for a keyword: the canonical one of a built-in keyword, the longest
one of an added keyword. -/
def tokenFor? (vocabulary : Vocabulary) (keyword : Keyword) : Option String :=
  match keyword with
  | .builtin operator => some operator.canonicalToken
  | .custom _ _ => longest? (vocabulary.tokensFor keyword)

end Vocabulary

end DerivedQuery
