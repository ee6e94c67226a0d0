import DerivedQuery.Source.Tree
import DerivedQuery.Text.Affix
import DerivedQuery.Text.Word

/-!
# Words and literals of source text

Readers for the tokens with an inner structure. Each takes the rest of the text and returns the
token with what follows, or nothing if the text does not start with such a token. Numbers need care:
a fraction is tried before an integer, and `1..2` or `1.max()` start with an integer, so a point
belongs to a number only if neither a point nor a word follows it.

## Main definitions

* `readWord?`, `readLiteral?`
-/

namespace DerivedQuery.Source

open Text

/-! ## Words -/

/-- A plain word. -/
def readPlainWord? : List Char → Option (List Char × List Char)
  | [] => none
  | c :: rest =>
      if isWordStart c then
        some (c :: rest.takeWhile isWordContinue, rest.dropWhile isWordContinue)
      else
        none

/-- The words that cannot be written with the mark for raw words. -/
def neverRaw : List (List Char) :=
  ["_", "super", "self", "Self", "crate"].map String.toList

/-- A word, possibly with the mark `r#` that makes a keyword an identifier. -/
def readWord? : List Char → Option (List Char × List Char)
  | 'r' :: '#' :: rest => do
      let (word, rest) ← readPlainWord? rest
      if neverRaw.contains word then none else some ('r' :: '#' :: word, rest)
  | text => readPlainWord? text

/-- A number or string may end with a word, its suffix. -/
def dropSuffix (text : List Char) : List Char :=
  match readPlainWord? text with
  | some (_, rest) => rest
  | none => text

/-! ## Escapes -/

def isHexDigit (c : Char) : Bool :=
  c.isDigit || ('a' ≤ c && c ≤ 'f') || ('A' ≤ c && c ≤ 'F')

def hexValue (digits : List Char) : Nat :=
  digits.foldl
    (fun value c =>
      16 * value +
        (if c.isDigit then c.toNat - '0'.toNat
        else if c.isUpper then c.toNat - 'A'.toNat + 10
        else c.toNat - 'a'.toNat + 10))
    0

/-- The hexadecimal digits of a code point behind its opening brace. -/
def readCodePoint? (text : List Char) : Option (Char × List Char) :=
  let written := text.takeWhile fun c => isHexDigit c || c == '_'
  let digits := written.filter (· != '_')
  match text.drop written.length with
  | '\x7d' :: rest =>
      if written.head?.any isHexDigit && digits.length ≤ 6 && (hexValue digits).isValidChar then
        some (Char.ofNat (hexValue digits), rest)
      else
        none
  | _ => none

/-- What the text in a literal is made of. -/
inductive Content where
  | text
  | bytes
  /-- Text that a zero ends, so there is none in it. -/
  | terminated
deriving DecidableEq, Repr

/-- Whether a character can stand in a string. -/
def Content.holds : Content → Char → Bool
  | text, _ => true
  | bytes, c => c.toNat < 128
  | terminated, c => c != '\x00'

/-- The character that an escape stands for, behind its backslash. In text a code point needs braces
if it is not an ASCII character; bytes cannot be code points. -/
def readEscape? (content : Content) : List Char → Option (Char × List Char)
  | 'n' :: rest => some ('\n', rest)
  | 'r' :: rest => some ('\r', rest)
  | 't' :: rest => some ('\t', rest)
  | '\\' :: rest => some ('\\', rest)
  | '0' :: rest => some ('\x00', rest)
  | '\'' :: rest => some ('\'', rest)
  | '"' :: rest => some ('"', rest)
  | 'x' :: high :: low :: rest =>
      if isHexDigit high && isHexDigit low && (content != .text || hexValue [high] < 8) then
        some (Char.ofNat (hexValue [high, low]), rest)
      else
        none
  | 'u' :: '\x7b' :: rest => if content = .bytes then none else readCodePoint? rest
  | _ => none

/-! ## Strings -/

/-- The text behind a line end. -/
def readLineEnd? : List Char → Option (List Char)
  | '\n' :: rest => some rest
  | '\r' :: '\n' :: rest => some rest
  | _ => none

/-- The rest of a string with escapes behind its opening quote. A backslash at the end of a line
joins it with the next one. The fuel is the length of the text. -/
def readEscaped? (content : Content) : Nat → List Char → Option (List Char × List Char)
  | 0, _ => none
  | _ + 1, [] => none
  | _ + 1, '"' :: rest => some ([], rest)
  | fuel + 1, '\\' :: rest =>
      match readLineEnd? rest with
      | some behind => readEscaped? content fuel (behind.dropWhile isWhitespace)
      | none => do
          let (c, rest) ← readEscape? content rest
          if content = .terminated && c = '\x00' then
            none
          let (value, rest) ← readEscaped? content fuel rest
          return (c :: value, rest)
  | fuel + 1, '\r' :: rest => do
      let behind ← readLineEnd? ('\r' :: rest)
      let (value, rest) ← readEscaped? content fuel behind
      return ('\n' :: value, rest)
  | fuel + 1, c :: rest =>
      if content.holds c then
        (readEscaped? content fuel rest).map fun (value, rest) => (c :: value, rest)
      else
        none

/-- The rest of a raw string behind its opening quote; `closing` ends it. -/
def readRaw? (content : Content) (closing : List Char) :
    List Char → Option (List Char × List Char)
  | [] => none
  | c :: rest =>
      match dropPrefix? closing (c :: rest) with
      | some behind => some ([], behind)
      | none =>
          if !content.holds c || (c == '\r' && rest.head? != some '\n') then
            none
          else
            (readRaw? content closing rest).map fun (value, behind) => (c :: value, behind)

/-- A string, with or without escapes. -/
def readString? (content : Content) : List Char → Option (List Char × List Char)
  | '"' :: rest => readEscaped? content (rest.length + 1) rest
  | 'r' :: rest =>
      let marks := rest.takeWhile (· == '#')
      match rest.drop marks.length with
      | '"' :: rest => readRaw? content ('"' :: marks) rest
      | _ => none
  | _ => none

/-- A character between single quotes, behind the first one. -/
def readQuotedChar? (content : Content) (text : List Char) : Option (List Char) := do
  let behind ← match text with
    | '\\' :: rest => (readEscape? content rest).map (·.2)
    | c :: rest => if content.holds c then some rest else none
    | [] => none
  match behind with
  | '\'' :: rest => some rest
  | _ => none

/-! ## Numbers -/

/-- No word goes on here. -/
def endsWord (text : List Char) : Bool :=
  !text.head?.any isWordContinue

/-- The sign and digits of an exponent behind its letter. -/
def readExponent? (text : List Char) : Option (List Char) :=
  let unsigned := match text with
    | '+' :: rest => rest
    | '-' :: rest => rest
    | rest => rest
  let digits := unsigned.takeWhile fun c => c.isDigit || c == '_'
  if digits.any Char.isDigit then some (unsigned.drop digits.length) else none

/-- The text behind the digits, the point and the exponent of a fraction. -/
def readFraction? (text : List Char) : Option (List Char) := do
  let isDigit := fun c : Char => c.isDigit || c == '_'
  if !text.head?.any Char.isDigit then
    none
  let whole := text.dropWhile isDigit
  let (pointed, rest) ← match whole with
    | '.' :: rest =>
        if rest.head?.any (fun c => c == '.' || isWordStart c) then none
        else some (true, rest.dropWhile isDigit)
    | rest => some (false, rest)
  match rest with
  | c :: behind =>
      if c == 'e' || c == 'E' then
        match readExponent? behind with
        | some behind => some behind
        | none => if pointed then some rest else none
      else if pointed then some rest else none
  | [] => if pointed then some [] else none

/-- The base of an integer and the text behind its mark. -/
def splitBase : List Char → Nat × List Char
  | '0' :: 'x' :: rest => (16, rest)
  | '0' :: 'o' :: rest => (8, rest)
  | '0' :: 'b' :: rest => (2, rest)
  | text => (10, text)

/-- The text behind the digits of an integer. A decimal digit that the base does not have is an
error; a letter that it does not have starts a suffix. -/
def readDigits? (text : List Char) : Option (List Char) :=
  let (base, digits) := splitBase text
  let written := digits.takeWhile fun c =>
    c == '_' || c.isDigit || (base == 16 && isHexDigit c)
  let proper := written.filter (· != '_')
  let startsBlank := base == 10 && written.head? == some '_'
  if proper.isEmpty || startsBlank || proper.any (fun c => c.isDigit && base ≤ hexValue [c]) then
    none
  else
    some (digits.drop written.length)

/-! ## Literals -/

/-- A string literal of some sort: its kind and the text behind it. -/
def readStringLiteral? (text : List Char) : Option (LiteralKind × List Char) :=
  match readString? .text text with
  | some (value, rest) => some (.string (String.ofList value), rest)
  | none =>
      match text with
      | 'b' :: rest => (readString? .bytes rest).map fun (_, rest) => (.other, rest)
      | 'c' :: rest => (readString? .terminated rest).map fun (_, rest) => (.other, rest)
      | _ => none

/-- A character literal of some sort. -/
def readCharLiteral? : List Char → Option (LiteralKind × List Char)
  | 'b' :: '\'' :: rest => (readQuotedChar? .bytes rest).map fun rest => (.other, rest)
  | '\'' :: rest => (readQuotedChar? .text rest).map fun rest => (.other, rest)
  | _ => none

/-- A number that ends where no word goes on. -/
def readNumber? (text : List Char) : Option (LiteralKind × List Char) :=
  match (readFraction? text).map dropSuffix with
  | some rest => if endsWord rest then some (.fraction, rest) else none
  | none =>
      match (readDigits? text).map dropSuffix with
      | some rest => if endsWord rest then some (.integer, rest) else none
      | none => none

/-- A literal of any kind, with its suffix. -/
def readLiteral? (text : List Char) : Option (Tree × List Char) :=
  let found :=
    (readStringLiteral? text <|> readCharLiteral? text).map (fun (kind, rest) => (kind, dropSuffix rest))
      <|> readNumber? text
  found.map fun (kind, rest) =>
    (.literal (String.ofList (text.take (text.length - rest.length))) kind, rest)

end DerivedQuery.Source
