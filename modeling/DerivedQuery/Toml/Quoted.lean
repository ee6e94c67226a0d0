import DerivedQuery.Toml.Scalar

/-!
# Strings in TOML

There are four kinds of strings: basic ones between double quotes with escapes, literal ones
between single quotes without, and the multi-line form of each between three quotes. Line ends
within a string are read as a line feed. A multi-line string may end with one or two quotes of its
own before the three that close it.

Each reader starts behind the opening quotes and returns the characters of the string with the text
behind the closing quotes.

## Main definitions

* `readQuoted?`: a string of any kind
* `readQuotedKey?`: a string on one line
-/

namespace DerivedQuery.Toml

/-- A character that may stand in a comment or in a string; control characters may not. -/
def isPrintable (c : Char) : Bool :=
  c == '\t' || (32 ≤ c.toNat && c.toNat != 127)

/-- A blank within a line. -/
def isBlank (c : Char) : Bool :=
  c == ' ' || c == '\t'

/-- The text behind a line end. -/
def newline? : List Char → Option (List Char)
  | '\n' :: rest => some rest
  | '\r' :: '\n' :: rest => some rest
  | _ => none

/-- The character with a given number of hexadecimal digits. -/
def unicodeEscape? (digits : List Char) (count : Nat) : Option Char :=
  let value := valueOf 16 digits
  if digits.length = count && digits.all (isDigitOf 16) && value.isValidChar then
    some (Char.ofNat value)
  else
    none

/-- The character that an escape stands for, and the text behind it. -/
def escape? : List Char → Option (Char × List Char)
  | 'b' :: rest => some ('\x08', rest)
  | 't' :: rest => some ('\t', rest)
  | 'n' :: rest => some ('\n', rest)
  | 'f' :: rest => some ('\x0c', rest)
  | 'r' :: rest => some ('\r', rest)
  | '"' :: rest => some ('"', rest)
  | '\\' :: rest => some ('\\', rest)
  | 'u' :: rest => (unicodeEscape? (rest.take 4) 4).map fun c => (c, rest.drop 4)
  | 'U' :: rest => (unicodeEscape? (rest.take 8) 8).map fun c => (c, rest.drop 8)
  | _ => none

/-- The text behind blanks and line ends. -/
def skipBlankLines : List Char → List Char
  | [] => []
  | '\r' :: '\n' :: rest => skipBlankLines rest
  | c :: rest => if isBlank c || c == '\n' then skipBlankLines rest else c :: rest

/-- The number of characters `c` at the beginning of a text, and the text behind them. -/
def countLeading (c : Char) : List Char → Nat × List Char
  | [] => (0, [])
  | first :: rest =>
      if first = c then ((countLeading c rest).1 + 1, (countLeading c rest).2)
      else (0, first :: rest)

/-- A string on one line. The fuel is the length of the text. -/
def readLine? (mark : Char) (escapes : Bool) : Nat → List Char → Option (List Char × List Char)
  | 0, _ => none
  | _ + 1, [] => none
  | fuel + 1, c :: rest =>
      if c = mark then
        some ([], rest)
      else if escapes && c == '\\' then do
        let (c, rest) ← escape? rest
        let (text, rest) ← readLine? mark escapes fuel rest
        return (c :: text, rest)
      else if isPrintable c then do
        let (text, rest) ← readLine? mark escapes fuel rest
        return (c :: text, rest)
      else
        none

/-- A string on several lines. The fuel is the length of the text. -/
def readLines? (mark : Char) (escapes : Bool) : Nat → List Char → Option (List Char × List Char)
  | 0, _ => none
  | _ + 1, [] => none
  | fuel + 1, c :: rest =>
      if c = mark then
        let (more, behind) := countLeading mark rest
        if more < 2 then do
          let (text, rest) ← readLines? mark escapes fuel behind
          return (List.replicate (more + 1) mark ++ text, rest)
        else if more ≤ 4 then
          some (List.replicate (more - 2) mark, behind)
        else
          none
      else if escapes && c == '\\' then
        match newline? (rest.dropWhile isBlank) with
        | some behind => readLines? mark escapes fuel (skipBlankLines behind)
        | none => do
            let (c, rest) ← escape? rest
            let (text, rest) ← readLines? mark escapes fuel rest
            return (c :: text, rest)
      else
        match newline? (c :: rest) with
        | some behind => do
            let (text, rest) ← readLines? mark escapes fuel behind
            return ('\n' :: text, rest)
        | none =>
            if isPrintable c then do
              let (text, rest) ← readLines? mark escapes fuel rest
              return (c :: text, rest)
            else
              none

/-- A string of several lines, without the line end right behind its opening quotes. -/
def readLinesFrom? (mark : Char) (escapes : Bool) (text : List Char) :
    Option (List Char × List Char) :=
  readLines? mark escapes (text.length + 1) ((newline? text).getD text)

/-- A string on one line, from its opening quote. -/
def readQuotedKey? : List Char → Option (List Char × List Char)
  | '"' :: rest => readLine? '"' true (rest.length + 1) rest
  | '\'' :: rest => readLine? '\'' false (rest.length + 1) rest
  | _ => none

/-- A string of any kind, from its opening quote. -/
def readQuoted? : List Char → Option (List Char × List Char)
  | '"' :: '"' :: '"' :: rest => readLinesFrom? '"' true rest
  | '\'' :: '\'' :: '\'' :: rest => readLinesFrom? '\'' false rest
  | text => readQuotedKey? text

end DerivedQuery.Toml
