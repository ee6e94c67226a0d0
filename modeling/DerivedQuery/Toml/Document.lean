import DerivedQuery.Toml.Quoted

/-!
# Reading TOML documents

A document is a sequence of lines, each empty, an assignment, or a header that opens a table; a
comment may end any of them. Values may span lines where they are arrays or multi-line strings. A
document that is not well formed has no value; where it fails does not matter to the caller.

Values are nested less than eighty levels deep, and a dotted key has less than eighty parts, which
bounds the recursion of the reader. A second number, the length of the text, bounds the items of one
array or table.

## Main definitions

* `readValue?`, `readDocument?`
-/

namespace DerivedQuery.Toml

/-! ## Blanks and comments -/

/-- The text behind blanks of a line. -/
def skipBlanks (text : List Char) : List Char :=
  text.dropWhile isBlank

/-- The text behind a comment, which ends before the line does. -/
def skipComment : List Char → List Char
  | '#' :: rest => rest.dropWhile isPrintable
  | text => text

/-- The text behind the end of a line, with blanks and a comment before it. -/
def lineEnd? (text : List Char) : Option (List Char) :=
  match skipComment (skipBlanks text) with
  | [] => some []
  | rest => newline? rest

/-- The text behind blanks, line ends and comments between the items of an array. -/
def skipLines : Nat → List Char → List Char
  | 0, text => text
  | fuel + 1, text =>
      match skipBlankLines text with
      | '#' :: rest => skipLines fuel (rest.dropWhile isPrintable)
      | text => text

/-! ## Keys -/

def isBareKeyChar (c : Char) : Bool :=
  c.isAlphanum || c == '_' || c == '-'

/-- A key without dots. -/
def readSimpleKey? (text : List Char) : Option (String × List Char) :=
  match text with
  | '"' :: _ | '\'' :: _ => (readQuotedKey? text).map fun (key, rest) => (String.ofList key, rest)
  | _ =>
      let key := text.takeWhile isBareKeyChar
      if key.isEmpty then none else some (String.ofList key, text.drop key.length)

/-- The number of levels that neither nested values nor dotted keys reach. -/
def depthLimit : Nat :=
  80

/-- A dotted key of at most `parts` parts: the keys before the last dot, and the last key. -/
def readKeyWithin? : (parts : Nat) → List Char → Option ((List String × String) × List Char)
  | 0, _ => none
  | parts + 1, text => do
      let (key, rest) ← readSimpleKey? (skipBlanks text)
      match skipBlanks rest with
      | '.' :: behind =>
          let ((path, last), rest) ← readKeyWithin? parts behind
          return ((key :: path, last), rest)
      | behind => return (([], key), behind)

/-- A dotted key: the keys before the last dot, and the last key. -/
def readKey? (text : List Char) : Option ((List String × String) × List Char) :=
  readKeyWithin? (depthLimit - 1) text

/-! ## Values -/

/-- A character of a number, a date or a truth value. -/
def isWordChar (c : Char) : Bool :=
  c.isAlphanum || c == '+' || c == '-' || c == '.' || c == '_' || c == ':'

/-- A word; a date takes a time behind a single blank along. -/
def splitWord (text : List Char) : List Char × List Char :=
  let word := text.takeWhile isWordChar
  match text.drop word.length with
  | ' ' :: c :: rest =>
      if date? word == some [] && c.isDigit then
        let time := (c :: rest).takeWhile isWordChar
        (word ++ ' ' :: time, (c :: rest).drop time.length)
      else
        (word, ' ' :: c :: rest)
  | rest => (word, rest)

/-- The items of an array behind its opening bracket. -/
def readItems? (readItem? : List Char → Option (Value × List Char)) :
    Nat → List Char → Option (List Value × List Char)
  | 0, _ => none
  | fuel + 1, text =>
      match skipLines text.length text with
      | ']' :: rest => some ([], rest)
      | text => do
          let (item, rest) ← readItem? text
          match skipLines rest.length rest with
          | ']' :: rest => return ([item], rest)
          | ',' :: rest =>
              let (items, rest) ← readItems? readItem? fuel rest
              return (item :: items, rest)
          | _ => none

/-- An assignment: a dotted key, an equals sign and a value. -/
def readAssignment? (readItem? : List Char → Option (Value × List Char)) (text : List Char) :
    Option ((List String × String) × Value × List Char) := do
  let (key, rest) ← readKey? text
  let rest ← expect? '=' rest
  let (value, rest) ← readItem? (skipBlanks rest)
  return (key, value, rest)

/-- The assignments of an inline table behind its opening brace. -/
def readMembers? (readItem? : List Char → Option (Value × List Char)) :
    Nat → Entries → List Char → Option (Entries × List Char)
  | 0, _, _ => none
  | fuel + 1, entries, text => do
      let ((path, key), value, rest) ← readAssignment? readItem? text
      let entries ← entries.assignDotted? path key value
      match skipBlanks rest with
      | '}' :: rest => return (entries, rest)
      | ',' :: rest => readMembers? readItem? fuel entries rest
      | _ => none

/-- A value that is neither an array nor a table. -/
def readPlainValue? (text : List Char) : Option (Value × List Char) :=
  match text with
  | '"' :: _ | '\'' :: _ =>
      (readQuoted? text).map fun (value, rest) => (.text (String.ofList value), rest)
  | _ =>
      let (word, rest) := splitWord text
      (readScalar? word).map fun value => (value, rest)

/-- A value with arrays and tables nested at most `depth` levels deep. -/
def readValue? : (depth : Nat) → List Char → Option (Value × List Char)
  | depth + 1, '[' :: rest =>
      (readItems? (readValue? depth) (rest.length + 1) rest).map fun (items, rest) =>
        (.array items, rest)
  | depth + 1, '{' :: rest =>
      match skipBlanks rest with
      | '}' :: rest => some (.table [], rest)
      | _ =>
          (readMembers? (readValue? depth) (rest.length + 1) [] rest).map
            fun (entries, rest) => (.table (Entries.toTable entries), rest)
  | _, text => readPlainValue? text

/-! ## Documents -/

/-- The path of a header behind its opening brackets, and the text behind its closing ones. -/
def readHeader? (closing : List Char) (text : List Char) :
    Option ((List String × String) × List Char) := do
  let (key, rest) ← readKey? text
  let rest ← closing.foldlM (fun rest c => expect? c rest) rest
  return (key, rest)

/-- Reads the lines of a document; `header` is the path of the table that is open. -/
def readLinesOf? : Nat → (header : List String) → Entries → List Char → Option Entries
  | 0, _, _, _ => none
  | fuel + 1, header, entries, text =>
      match skipBlanks text with
      | [] => some entries
      | '[' :: '[' :: rest => do
          let ((path, key), rest) ← readHeader? [']', ']'] rest
          let entries ← entries.openSeries? path key
          readLinesOf? fuel (path ++ [key]) entries (← lineEnd? rest)
      | '[' :: rest => do
          let ((path, key), rest) ← readHeader? [']'] rest
          let entries ← entries.openTable? path key
          readLinesOf? fuel (path ++ [key]) entries (← lineEnd? rest)
      | line =>
          match lineEnd? line with
          | some rest => readLinesOf? fuel header entries rest
          | none => do
              let ((path, key), value, rest) ← readAssignment? (readValue? (depthLimit - 1)) line
              let entries ← entries.assign? header path key value
              readLinesOf? fuel header entries (← lineEnd? rest)

/-- Reads a document, with or without a byte order mark. -/
def readDocument? (document : String) : Option Value :=
  let text := match document.toList with
    | '\uFEFF' :: rest => rest
    | text => text
  (readLinesOf? (text.length + 1) [] [] text).map fun entries => .table (Entries.toTable entries)

end DerivedQuery.Toml
