import DerivedQuery.Source.Literal

/-!
# From text to token trees

The text is first divided into tokens, then the tokens between matching brackets are gathered into
groups. Blanks and comments separate tokens. A documentation comment is not skipped: it stands for
an attribute, `#[doc = "…"]`, and so it may only stand where an attribute may.

## Main definitions

* `Token`, `tokenize?`
* `gather?`, `readTrees?`
-/

namespace DerivedQuery.Source

open Text

/-! ## Blanks and comments -/

/-- The text of a block comment behind its opening and the text behind its end; block comments are
nested. -/
def readBlockComment? : (depth : Nat) → List Char → Option (List Char × List Char)
  | 0, text => some ([], text)
  | _ + 1, [] => none
  | depth + 1, '*' :: '/' :: rest =>
      (readBlockComment? depth rest).map fun (inner, rest) => ('*' :: '/' :: inner, rest)
  | depth + 1, '/' :: '*' :: rest =>
      (readBlockComment? (depth + 2) rest).map fun (inner, rest) => ('/' :: '*' :: inner, rest)
  | depth + 1, c :: rest =>
      (readBlockComment? (depth + 1) rest).map fun (inner, rest) => (c :: inner, rest)

/-- A comment up to the end of its line, and the text from there on. -/
def splitLine : List Char → List Char × List Char
  | [] => ([], [])
  | '\n' :: rest => ([], '\n' :: rest)
  | '\r' :: '\n' :: rest => ([], '\r' :: '\n' :: rest)
  | c :: rest => (c :: (splitLine rest).1, (splitLine rest).2)

/-- The text behind a comment that documents nothing. -/
def skipComment? : List Char → Option (List Char)
  | '/' :: '/' :: '/' :: '/' :: rest => some (splitLine rest).2
  | '/' :: '/' :: '/' :: _ => none
  | '/' :: '/' :: '!' :: _ => none
  | '/' :: '/' :: rest => some (splitLine rest).2
  | '/' :: '*' :: '*' :: '/' :: rest => some rest
  | '/' :: '*' :: '*' :: '*' :: rest => (readBlockComment? 1 ('*' :: '*' :: rest)).map (·.2)
  | '/' :: '*' :: '*' :: _ => none
  | '/' :: '*' :: '!' :: _ => none
  | '/' :: '*' :: rest => (readBlockComment? 1 rest).map (·.2)
  | _ => none

/-- A blank of source text: white space and the marks for the direction of writing. -/
def isBlank (c : Char) : Bool :=
  isWhitespace c || c == '\u200e' || c == '\u200f'

/-- The text behind blanks and comments. The fuel is the length of the text. -/
def skipBlanks : Nat → List Char → List Char
  | 0, text => text
  | fuel + 1, text =>
      match skipComment? text with
      | some rest => skipBlanks fuel rest
      | none =>
          match text with
          | c :: rest => if isBlank c then skipBlanks fuel rest else text
          | [] => []

/-- The text of a block comment without its end, behind its opening, and what follows. -/
def readBlockText? (text : List Char) : Option (List Char × List Char) :=
  (readBlockComment? 1 text).map fun (inner, rest) => (inner.take (inner.length - 2), rest)

/-- A documentation comment: whether it documents what encloses it, its text, and what follows. -/
def readDocumentation? (text : List Char) : Option (Bool × List Char × List Char) :=
  let found := match text with
    | '/' :: '/' :: '!' :: rest => some (true, splitLine rest)
    | '/' :: '*' :: '!' :: rest => (readBlockText? rest).map (true, ·)
    | '/' :: '/' :: '/' :: '/' :: _ => none
    | '/' :: '/' :: '/' :: rest => some (false, splitLine rest)
    | '/' :: '*' :: '*' :: '*' :: _ => none
    | '/' :: '*' :: '*' :: rest => (readBlockText? rest).map (false, ·)
    | _ => none
  found.filter fun (_, comment, _) => !hasBareReturn comment
where
  /-- A carriage return that ends no line. -/
  hasBareReturn : List Char → Bool
    | [] => false
    | '\r' :: '\n' :: rest => hasBareReturn rest
    | '\r' :: _ => true
    | _ :: rest => hasBareReturn rest

/-! ## Tokens -/

/-- A tree without inner trees, or a bracket. -/
inductive Token where
  | opening (delimiter : Delimiter)
  | closing (delimiter : Delimiter)
  | leaf (tree : Tree)
deriving Repr, Inhabited

/-- The tokens of the attribute that a documentation comment stands for. -/
def documentationTokens (encloses : Bool) (comment : List Char) : List Token :=
  [.leaf (.mark '#' encloses)] ++ (if encloses then [.leaf (.mark '!' false)] else []) ++
    [.opening .bracket, .leaf (.word "doc"), .leaf (.mark '=' false),
      .leaf (.literal (String.ofList ('"' :: comment ++ ['"'])) (.string (String.ofList comment))),
      .closing .bracket]

/-- The characters that are marks. -/
def markChars : List Char :=
  "~!@#$%^&*-=+|;:,<.>/?".toList

/-- Whether a mark stands here, and not the beginning of a comment. -/
def startsMark : List Char → Bool
  | '/' :: '/' :: _ => false
  | '/' :: '*' :: _ => false
  | c :: _ => c == '\'' || markChars.contains c
  | [] => false

/-- The beginnings of literals that are no words even if the literal is malformed. -/
def literalPrefixes : List (List Char) :=
  ["r\"", "r#\"", "r##", "b\"", "b'", "br\"", "br#", "c\"", "cr\"", "cr#"].map String.toList

/-- A lifetime: a quote and a word that no quote closes. -/
def readLifetime? : List Char → Option (Tree × List Char)
  | '\'' :: text => do
      let (word, rest) ← readWord? text
      let raw := text.take 2 = ['r', '#']
      match rest with
      | '\'' :: _ => none
      | '#' :: _ => if raw then some (.lifetime (String.ofList ('\'' :: word)), rest) else none
      | _ => some (.lifetime (String.ofList ('\'' :: word)), rest)
  | _ => none

/-- A mark; it is joint if another one follows at once. -/
def readMark? : List Char → Option (Tree × List Char)
  | c :: rest =>
      if startsMark (c :: rest) && c != '\'' then some (.mark c (startsMark rest), rest) else none
  | [] => none

/-- A token without inner structure. -/
def readLeaf? (text : List Char) : Option (Tree × List Char) :=
  readLiteral? text <|> readLifetime? text <|> readMark? text <|>
    (if literalPrefixes.any (fun start => (dropPrefix? start text).isSome) then none
    else (readWord? text).map fun (word, rest) => (.word (String.ofList word), rest))

/-- A bracket of either side. -/
def readBracket? : List Char → Option (Token × List Char)
  | [] => none
  | c :: rest =>
      Delimiter.all.findSome? fun delimiter =>
        if c == delimiter.opening then some (.opening delimiter, rest)
        else if c == delimiter.closing then some (.closing delimiter, rest)
        else none

/-- The tokens at the beginning of a text without blanks, and the text behind them. -/
def readTokens? (text : List Char) : Option (List Token × List Char) :=
  match readDocumentation? text with
  | some (encloses, comment, rest) => some (documentationTokens encloses comment, rest)
  | none =>
      (readBracket? text).map (fun (token, rest) => ([token], rest)) <|>
        (readLeaf? text).map (fun (tree, rest) => ([.leaf tree], rest))

/-- Divides a text into tokens. The fuel exceeds the length of the text. -/
def tokenize? : Nat → List Char → Option (List Token)
  | 0, _ => none
  | fuel + 1, text =>
      match skipBlanks text.length text with
      | [] => some []
      | text => do
          let (tokens, rest) ← readTokens? text
          return tokens ++ (← tokenize? fuel rest)

/-! ## Groups -/

/-- Gathers tokens into trees. The stack holds the open brackets with the trees before them, and
`done` the trees behind the innermost one, both latest first. -/
def gather? : List Token → (stack : List (Delimiter × List Tree)) → (done : List Tree) →
    Option (List Tree)
  | [], [], done => some done.reverse
  | [], _ :: _, _ => none
  | .leaf tree :: rest, stack, done => gather? rest stack (tree :: done)
  | .opening delimiter :: rest, stack, done => gather? rest ((delimiter, done) :: stack) []
  | .closing _ :: _, [], _ => none
  | .closing delimiter :: rest, (opened, before) :: stack, done =>
      if delimiter = opened then
        gather? rest stack (.group delimiter done.reverse :: before)
      else
        none

/-- The token trees of a text, with or without a byte order mark. -/
def readTrees? (text : List Char) : Option (List Tree) := do
  let text := match text with
    | '\uFEFF' :: rest => rest
    | text => text
  gather? (← tokenize? (text.length + 1) text) [] []

end DerivedQuery.Source
