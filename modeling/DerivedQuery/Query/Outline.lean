import DerivedQuery.Convention
import DerivedQuery.Query.Fragment
import DerivedQuery.Text.Alphabetic

/-!
# The outline of a method name

Before any property is resolved, a method name is divided by its fixed words alone:

    find Distinct Top3 By <criteria> AllIgnoreCase OrderBy <ordering>

The introducer is followed by the *subject*, whose only meaning is whether it holds the word
`Distinct` and a limit. The first `By` that ends a word separates subject and criteria, unless it
belongs to an `OrderBy` already. A name without an introducer consists of criteria alone and
selects records.

## Main definitions

* `Outline`, `Outline.ofMethod`
* `readLimit`: the limit in a subject
-/

namespace DerivedQuery

open Text

/-- The parts of a method name. -/
structure Outline where
  intent : Intent
  distinct : Bool
  limit : Option Nat
  criteria : Fragment
  /-- The whole method ignores case. -/
  ignoreAllCase : Bool
  ordering : Option Fragment
deriving DecidableEq, Repr, Inhabited

/-! ## Introducer and subject -/

/-- The intent of the first introducer that a method name starts with, and the text behind it. -/
def findIntroducer? (introducers : List Introducer) (method : List Char) :
    Option (Introducer × List Char) :=
  introducers.findSome? fun introducer =>
    ((dropPrefix? introducer.word.toList method).filter endsWordBefore).map fun rest =>
      (introducer, rest)

/-- The text behind an introducer, divided into the subject and the rest of the name. -/
def splitSubject (fragment : Fragment) : Fragment × Fragment :=
  match findToken? "By".toList fragment.text with
  | none => (fragment, fragment.behind fragment.text [])
  | some (front, rest) =>
      match dropSuffix? "Order".toList front with
      | some subject =>
          (fragment.upTo subject, fragment.behind subject ("OrderBy".toList ++ rest))
      | none => (fragment.upTo front, fragment.behind (front ++ "By".toList) rest)

/-! ## The limit -/

/-- The words that start a limit. -/
def limitWords : List (List Char) :=
  ["First".toList, "Top".toList]

/-- A limit at the beginning of a text: a word, a run of decimal digits, and then a capital letter
or the end of the text. -/
def limitHere? (text : List Char) : Option (List Char × List Char) :=
  limitWords.findSome? fun word =>
    (dropPrefix? word text).bind fun rest =>
      if (rest.dropWhile isDecimalDigit).head?.all isCapitalLetter then
        some (word, rest.takeWhile isDecimalDigit)
      else
        none

/-- The first limit in a text: the text before it, its word and its digits. -/
def findLimit? : List Char → Option (List Char × List Char × List Char)
  | [] => none
  | c :: rest =>
      match limitHere? (c :: rest) with
      | some (word, digits) => some ([], word, digits)
      | none => (findLimit? rest).map fun (front, found) => (c :: front, found)

/-- The value of ASCII digits. -/
def decimalValue (digits : List Char) : Nat :=
  digits.foldl (fun value digit => 10 * value + (digit.toNat - '0'.toNat)) 0

/-- The number that digits denote: positive, below 2^64 and in ASCII. No digits denote one. -/
def limitValue? (digits : List Char) : Option Nat :=
  if digits.isEmpty then
    some 1
  else if digits.all (·.isDigit) && 0 < decimalValue digits && decimalValue digits < UInt64.size then
    some (decimalValue digits)
  else
    none

/-- The limit of a subject, if it holds one. -/
def readLimit (subject : Fragment) : Except SyntaxError (Option Nat) :=
  match findLimit? subject.text with
  | none => .ok none
  | some (front, word, digits) =>
      match limitValue? digits with
      | some limit => .ok (some limit)
      | none => .error (.about .invalidLimit (subject.behind front (word ++ digits)))

/-! ## Ordering and case -/

/-- The word that starts an ordering clause. -/
def orderByToken : List Char :=
  "OrderBy".toList

/-- Divides the text behind the subject at `OrderBy`, which may stand in it once and must be
followed by an ordering. -/
def splitOrdering (body : Fragment) : Except SyntaxError (Fragment × Option Fragment) :=
  match findToken? orderByToken body.text with
  | none => .ok (body, none)
  | some (front, ordering) =>
      match findToken? orderByToken ordering with
      | some (between, _) =>
          .error (.about .repeatedOrderBy
            (body.behind (front ++ orderByToken ++ between) orderByToken))
      | none =>
          if ordering.isEmpty then
            .error (.about .emptyOrderBy (body.behind front orderByToken))
          else
            .ok (body.upTo front, some (body.behind (front ++ orderByToken) ordering))

/-- The words that end criteria which ignore case everywhere. -/
def ignoreAllCaseMarkers : List (List Char) :=
  ["AllIgnoringCase".toList, "AllIgnoreCase".toList]

/-- The criteria without the marker for ignoring case everywhere, and whether it was there. -/
def dropIgnoreAllCase (criteria : Fragment) : Fragment × Bool :=
  match ignoreAllCaseMarkers.findSome? (dropSuffix? · criteria.text) with
  | some text => (criteria.upTo text, true)
  | none => (criteria, false)

/-! ## The outline -/

/-- The intent, distinctness and limit of a method name, and the text behind its subject. -/
def readSubject (introducers : List Introducer) (method : List Char) :
    Except SyntaxError (Intent × Bool × Option Nat × Fragment) :=
  match findIntroducer? introducers method with
  | none => .ok (.find, false, none, ⟨method, 0⟩)
  | some (introducer, rest) => do
      let (subject, body) := splitSubject ⟨rest, byteLength introducer.word.toList⟩
      let limit ← readLimit subject
      return (introducer.intent, containsToken "Distinct".toList subject.text, limit, body)

/-- Divides a method name by its fixed words. -/
def Outline.ofMethod (introducers : List Introducer) (method : List Char) :
    Except SyntaxError Outline := do
  if method.isEmpty then
    throw (.about .emptyMethodName ⟨method, 0⟩)
  let (intent, distinct, limit, body) ← readSubject introducers method
  let (front, ordering) ← splitOrdering body
  let (criteria, ignoreAllCase) := dropIgnoreAllCase front
  return { intent, distinct, limit, criteria, ignoreAllCase, ordering }

end DerivedQuery
