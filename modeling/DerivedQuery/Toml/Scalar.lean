import DerivedQuery.Toml.Value

/-!
# Numbers, dates and truth values in TOML

Every scalar that is not a string is a word of letters, digits and the characters `+ - . _ :`, and
whatever follows it cannot be such a character. A reader therefore takes the longest word and asks
which of the formats the whole of it has. A date and a time may be joined by a blank instead of
`T`, which the reader of values takes care of.

## Main definitions

* `readScalar?`: the value of a word
-/

namespace DerivedQuery.Toml

/-! ## Digits -/

/-- Digits that single underscores may separate: the digits alone, if the text has that form. -/
def separatedDigits? (isDigit : Char → Bool) : List Char → Option (List Char)
  | [] => none
  | [c] => if isDigit c then some [c] else none
  | c :: '_' :: rest => if isDigit c then (separatedDigits? isDigit rest).map (c :: ·) else none
  | c :: rest => if isDigit c then (separatedDigits? isDigit rest).map (c :: ·) else none

/-- The value of a digit in a base of up to sixteen. -/
def digitValue (c : Char) : Nat :=
  if c.isDigit then c.toNat - '0'.toNat
  else if c.isUpper then c.toNat - 'A'.toNat + 10
  else c.toNat - 'a'.toNat + 10

/-- Whether a character is a digit of a base. -/
def isDigitOf (base : Nat) (c : Char) : Bool :=
  (c.isDigit || c.isAlpha) && digitValue c < base

def valueOf (base : Nat) (digits : List Char) : Nat :=
  digits.foldl (fun value c => base * value + digitValue c) 0

/-- The sign at the beginning of a number and the rest. -/
def splitSign : List Char → Bool × List Char
  | '-' :: rest => (true, rest)
  | '+' :: rest => (false, rest)
  | rest => (false, rest)

/-! ## Integers -/

/-- The range of integers. -/
def inRange? (value : Int) : Option Int :=
  if Int64.minValue.toInt ≤ value ∧ value ≤ Int64.maxValue.toInt then some value else none

/-- An unsigned decimal number without superfluous zeros. -/
def decimal? (text : List Char) : Option Nat :=
  match text with
  | '0' :: _ :: _ => none
  | _ => (separatedDigits? Char.isDigit text).map (valueOf 10)

/-- An unsigned number in a given base. -/
def inBase? (base : Nat) (text : List Char) : Option Int :=
  (separatedDigits? (isDigitOf base) text).bind fun digits => inRange? (valueOf base digits)

/-- An integer, in one of four bases. -/
def integer? : List Char → Option Int
  | '0' :: 'x' :: digits => inBase? 16 digits
  | '0' :: 'o' :: digits => inBase? 8 digits
  | '0' :: 'b' :: digits => inBase? 2 digits
  | text =>
      let (negative, digits) := splitSign text
      (decimal? digits).bind fun value =>
        inRange? (if negative then -(value : Int) else value)

/-! ## Fractions -/

/-- A decimal exponent: a sign and digits. -/
def exponent? (text : List Char) : Option Int :=
  let (negative, digits) := splitSign text
  (separatedDigits? Char.isDigit digits).map fun digits =>
    if negative then -(valueOf 10 digits : Int) else valueOf 10 digits

/-- Whether `mantissa * 10 ^ exponent` exceeds the range of binary floating point with 64 bits,
where a number is rounded to the nearest one. -/
def overflows (mantissa : Nat) (exponent : Int) : Bool :=
  let limit := Nat.pow 2 1024 - Nat.pow 2 970
  if mantissa = 0 then false
  else if 0 ≤ exponent then 400 < exponent || limit ≤ mantissa * Nat.pow 10 exponent.toNat
  else
    let places := (-exponent).toNat
    (Nat.toDigits 10 mantissa).length > places && limit ≤ mantissa / Nat.pow 10 places

/-- Splits a text before the first character of a kind. -/
def splitBefore (isMark : Char → Bool) (text : List Char) : List Char × List Char :=
  text.span (!isMark ·)

/-- Whether a text is a number with a fractional part or an exponent, or one of the special
numbers. -/
def isFraction (text : List Char) : Bool :=
  let (_, unsigned) := splitSign text
  if unsigned = "inf".toList || unsigned = "nan".toList then
    true
  else
    let (number, exponent) := splitBefore (fun c => c == 'e' || c == 'E') unsigned
    let (whole, fraction) := splitBefore (· == '.') number
    let places? := match fraction with
      | [] => some []
      | _ :: digits => separatedDigits? Char.isDigit digits
    let exponent? := match exponent with
      | [] => some 0
      | _ :: digits => exponent? digits
    match decimal? whole, places?, exponent? with
    | some value, some places, some exponent =>
        !(number.length == unsigned.length && fraction.isEmpty)
          && !overflows (value * Nat.pow 10 places.length + valueOf 10 places)
            (exponent - places.length)
    | _, _, _ => false

/-! ## Dates and times -/

/-- Exactly `count` digits with a value in a range, and the rest. -/
def boundedDigits? (count low high : Nat) (text : List Char) : Option (Nat × List Char) :=
  let digits := text.take count
  let value := valueOf 10 digits
  if digits.length = count && digits.all Char.isDigit && low ≤ value && value ≤ high then
    some (value, text.drop count)
  else
    none

/-- One character, and the rest. -/
def expect? (c : Char) : List Char → Option (List Char)
  | first :: rest => if first = c then some rest else none
  | [] => none

/-- The number of days in a month. -/
def daysIn (year month : Nat) : Nat :=
  if month = 2 then
    if year % 4 = 0 && (year % 100 != 0 || year % 400 = 0) then 29 else 28
  else if month = 4 || month = 6 || month = 9 || month = 11 then 30 else 31

/-- A date of the calendar, and the rest. -/
def date? (text : List Char) : Option (List Char) := do
  let (year, rest) ← boundedDigits? 4 0 9999 text
  let (month, rest) ← boundedDigits? 2 1 12 (← expect? '-' rest)
  let (_, rest) ← boundedDigits? 2 1 (daysIn year month) (← expect? '-' rest)
  return rest

/-- A time of day, and the rest. -/
def time? (text : List Char) : Option (List Char) := do
  let (_, rest) ← boundedDigits? 2 0 23 text
  let (_, rest) ← boundedDigits? 2 0 59 (← expect? ':' rest)
  let (_, rest) ← boundedDigits? 2 0 60 (← expect? ':' rest)
  match rest with
  | '.' :: digits =>
      if digits.head?.any Char.isDigit then some (digits.dropWhile Char.isDigit) else none
  | _ => return rest

/-- Whether a text is empty or an offset from universal time. -/
def isOffset : List Char → Bool
  | [] => true
  | ['Z'] => true
  | ['z'] => true
  | sign :: text =>
      (sign == '+' || sign == '-') &&
        (do
          let (_, rest) ← boundedDigits? 2 0 23 text
          let (_, rest) ← boundedDigits? 2 0 59 (← expect? ':' rest)
          return rest.isEmpty : Option Bool) == some true

/-- Whether a text is a date, a time of day, or both with or without an offset. -/
def isMoment (text : List Char) : Bool :=
  match date? text with
  | some [] => true
  | some (mark :: rest) =>
      (mark == 'T' || mark == 't' || mark == ' ') && (time? rest).any isOffset
  | none => time? text == some []

/-! ## Words -/

/-- The value of a word. -/
def readScalar? (word : List Char) : Option Value :=
  if word = "true".toList then
    some (.boolean true)
  else if word = "false".toList then
    some (.boolean false)
  else if isMoment word then
    some (.date (String.ofList word))
  else if isFraction word then
    some (.fraction (String.ofList word))
  else
    (integer? word).map .integer

end DerivedQuery.Toml
