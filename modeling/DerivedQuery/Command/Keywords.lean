import DerivedQuery.Command.Workspace

/-!
# Listing the vocabulary

The command shows the keywords of the project's convention with their tokens, and the introducers if
they are asked for. It needs no sources.

## Main definitions

* `runKeywords`
-/

namespace DerivedQuery.Command

open Report

/-- A keyword and its tokens. -/
structure ListedKeyword where
  keyword : Keyword
  tokens : List String
deriving DecidableEq, Repr

namespace ListedKeyword

def toJson (listed : ListedKeyword) : JsonValue :=
  .object
    [("keyword", .text listed.keyword.name), ("tokens", .array (listed.tokens.map .text)),
      ("arguments", .number listed.keyword.arity), ("negating", .boolean listed.keyword.isNegating),
      ("custom", .boolean listed.keyword.isCustom)]

def toRow (listed : ListedKeyword) : List String :=
  [if listed.keyword.isCustom then listed.keyword.name ++ " (custom)" else listed.keyword.name,
    ", ".intercalate listed.tokens, toString listed.keyword.arity,
    if listed.keyword.isNegating then "yes" else ""]

def toCompact (listed : ListedKeyword) : String :=
  listed.keyword.name ++ "/" ++ toString listed.keyword.arity ++ ": "
    ++ " ".intercalate listed.tokens

end ListedKeyword

/-- The keywords of a vocabulary with their tokens. -/
def listKeywords (vocabulary : Vocabulary) : List ListedKeyword :=
  vocabulary.keywords.map fun keyword => { keyword, tokens := vocabulary.tokensFor keyword }

/-- An introducer in a JSON report. -/
def introducerJson (introducer : Introducer) : JsonValue :=
  .object [("prefix", .text introducer.word), ("intent", .text introducer.intent.introducer)]

/-- A vocabulary in a JSON report; introducers are left out if there are none. -/
def vocabularyJson (separator : Char) (keywords : List ListedKeyword)
    (introducers : List Introducer) : JsonValue :=
  .object <|
    [("separator", .text separator.toString), ("keywords", .array (keywords.map (·.toJson)))]
      ++ (if introducers.isEmpty then []
        else [("introducers", .array (introducers.map introducerJson))])

/-- A table with one row for each keyword. -/
def keywordTable (keywords : List ListedKeyword) : Table where
  header := ["Keyword", "Tokens", "Arguments", "Negating"]
  rows := keywords.map (·.toRow)

/-- Lists the vocabulary. -/
def runKeywords (surroundings : Surroundings) (introducers : Bool) : Console Unit := do
  let project ← openProject surroundings
  reportSettings project
  let convention := project.settings.convention
  match convention.vocabulary with
  | .error error => throw (.project (.invalidConvention error))
  | .ok vocabulary =>
      let keywords := listKeywords vocabulary
      let introducers := if introducers then convention.introducers else []
      Console.display (vocabularyJson convention.separator keywords introducers)
        (keywordTable keywords) ("\n".intercalate (keywords.map (·.toCompact)))
      if (← read).options.format = .table then
        Console.keyValue "Path separator" convention.separator.toString
        if !introducers.isEmpty then
          Console.heading "Introducers"
          for introducer in introducers do
            Console.indented Symbol.bullet
              (introducer.word ++ " -> " ++ introducer.intent.introducer)

end DerivedQuery.Command
