import DerivedQuery.Text.Affix
import DerivedQuery.Text.LetterCase

/-!
# Cutting a text at word boundaries

A method name has no delimiters: `findByAddressCityAndAgeOrderByNameDesc` separates its criteria,
its properties and its orderings only by capital letters and by words such as `And`, and each of
those words may also be part of a property name. Every level of the reader therefore enumerates
the places where its text *may* be divided and tries them one by one.

All these places have one shape, the `Cut`: a non-empty left part, a *gap* that is dropped (a
connector word, or nothing), and a right part that starts with an uppercase character. What
distinguishes the levels is only which gaps may follow which left parts, so the enumeration
`cuts` takes that rule as its argument:

* a property path may be cut before every capital (`capitalGaps`);
* criteria may be cut at a connector word (`connectorGaps`);
* an ordering clause may be cut at `And`, or with nothing dropped after `Asc` and `Desc`.

A cut is indexed by the text that it divides and carries the proof that nothing of it was lost.
The right part is shorter than the text, which is what lets readers recurse on it.

## Main definitions

* `Cut`, `cuts`: the places of division, shortest left part first
* `byteLength`: lengths and positions are counted in UTF-8 bytes
* `chunks`: division at every separator
* `findToken?`: the first place where a token ends a word
-/

namespace DerivedQuery.Text

/-! ## Lengths -/

/-- The number of bytes of a text in UTF-8. -/
def byteLength : List Char → Nat
  | [] => 0
  | c :: rest => c.utf8Size + byteLength rest

@[simp]
theorem byteLength_append (left right : List Char) :
    byteLength (left ++ right) = byteLength left + byteLength right := by
  induction left with
  | nil => simp [byteLength]
  | cons c rest ih => simp [byteLength, ih, Nat.add_assoc]

/-! ## Word starts -/

/-- The text starts with an uppercase character. -/
def opensWord (text : List Char) : Bool :=
  text.head?.any isUppercase

/-- The text is empty or starts with an uppercase character: a word may end before it. -/
def endsWordBefore (text : List Char) : Bool :=
  text.head?.all isUppercase

/-! ## Cuts -/

/-- A division of `text` into a non-empty left part, a dropped gap and a right part that starts
a word. -/
structure Cut (text : List Char) where
  left : List Char
  gap : List Char
  right : List Char
  joined : left ++ (gap ++ right) = text
  left_ne_nil : left ≠ []
  right_opens : opensWord right = true
deriving DecidableEq, Repr

namespace Cut

variable {text : List Char}

/-- The right part is shorter than the text. -/
theorem right_length_lt (cut : Cut text) : cut.right.length < text.length := by
  have hLeft := List.length_pos_iff.mpr cut.left_ne_nil
  have hLength := congrArg List.length cut.joined
  simp only [List.length_append] at hLength
  omega

/-- The left part is shorter than the text, since the right part holds a character. -/
theorem left_length_lt (cut : Cut text) : cut.left.length < text.length := by
  have hRight : 0 < cut.right.length := by
    cases hCase : cut.right with
    | nil => simpa [hCase, opensWord] using cut.right_opens
    | cons => simp
  have hLength := congrArg List.length cut.joined
  simp only [List.length_append] at hLength
  omega

/-- The cut after `left` that drops `gap`, if the rest of the text allows it. -/
def after? (left gap rest : List Char) (joined : left ++ rest = text) (left_ne_nil : left ≠ []) :
    Option (Cut text) :=
  match hGap : dropPrefix? gap rest with
  | none => none
  | some right =>
      if right_opens : opensWord right then
        some
          { left, gap, right, left_ne_nil, right_opens
            joined := by rw [← joined, dropPrefix?_eq_some_iff.mp hGap] }
      else
        none

end Cut

/-- The cuts of `text` whose left part extends `left`, shortest left part first; after one left
part the gaps are tried in the order in which `gaps` lists them. -/
def cutsFrom (gaps : List Char → List (List Char)) {text : List Char} :
    (left rest : List Char) → left ++ rest = text → List (Cut text)
  | _, [], _ => []
  | left, c :: rest, joined =>
      have joined' : (left ++ [c]) ++ rest = text := by simpa using joined
      (gaps (left ++ [c])).filterMap
          (fun gap => Cut.after? (left ++ [c]) gap rest joined' (by simp))
        ++ cutsFrom gaps (left ++ [c]) rest joined'

/-- All cuts of a text whose gap is one of those that `gaps` allows after the left part. -/
def cuts (gaps : List Char → List (List Char)) (text : List Char) : List (Cut text) :=
  cutsFrom gaps [] text rfl

/-- Nothing is dropped: every capital after the first character is a place to cut. -/
def capitalGaps (_left : List Char) : List (List Char) :=
  [[]]

/-- The connector is dropped. -/
def connectorGaps (connector : List Char) (_left : List Char) : List (List Char) :=
  [connector]

/-! ## Separators and tokens -/

/-- The parts of a text between its separators, the first apart from the others; there is one
part more than there are separators. -/
def chunks (isSeparator : Char → Bool) : List Char → List Char × List (List Char)
  | [] => ([], [])
  | c :: rest =>
      let (first, more) := chunks isSeparator rest
      if isSeparator c then ([], first :: more) else (c :: first, more)

/-- The text before and after the first occurrence of `token` that ends a word. -/
def findToken? (token : List Char) : List Char → Option (List Char × List Char)
  | [] => none
  | c :: rest =>
      match (dropPrefix? token (c :: rest)).filter endsWordBefore with
      | some right => some ([], right)
      | none => (findToken? token rest).map fun (left, right) => (c :: left, right)

/-- Whether `token` stands anywhere in the text. -/
def containsToken (token : List Char) : List Char → Bool
  | [] => token.isEmpty
  | c :: rest => (dropPrefix? token (c :: rest)).isSome || containsToken token rest

end DerivedQuery.Text
