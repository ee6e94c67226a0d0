import DerivedQuery.Source.Tree

/-!
# Grammar rules

The grammar of declarations is data: a rule says which beginnings of a sequence of token trees it
matches, and a matcher interprets it. Alternatives are ordered and the first one that matches is
taken; repetitions take as much as they can; a look ahead consumes nothing. So a rule matches at
most one beginning, and what is behind it is all that later rules see.

Named rules (`Rule.call`) make recursion possible. The matcher counts down a fuel, which is computed
from the size of the trees and large enough for every rule that consumes something before it calls
itself again.

## Main definitions

* `Rule`, `Rule.match?`
* `Rule.take?`: the trees that a rule matches, and those behind them
-/

namespace DerivedQuery.Source

/-- A grammar rule over named rules `ν`. -/
inductive Rule (ν : Type) where
  /-- Matches without consuming anything. -/
  | nothing
  /-- Never matches. -/
  | never
  /-- One tree of a kind. -/
  | one (accepts : Tree → Bool)
  /-- An operator of one or more joint marks. -/
  | operator (marks : List Char)
  /-- A group whose content matches as a whole. -/
  | enclosed (delimiter : Delimiter) (inner : Rule ν)
  | both (first second : Rule ν)
  | either (first second : Rule ν)
  | many (rule : Rule ν)
  /-- The rule matches here, but nothing is consumed. -/
  | ahead (rule : Rule ν)
  /-- The rule does not match here. -/
  | absent (rule : Rule ν)
  /-- No tree is left. -/
  | atEnd
  | call (name : ν)

namespace Rule

variable {ν : Type}

/-- The trees behind an operator. All its marks but the last must be joint. -/
def matchOperator? : List Char → List Tree → Option (List Tree)
  | [], trees => some trees
  | [c], .mark found _ :: rest => if c = found then some rest else none
  | c :: marks, .mark found true :: rest => if c = found then matchOperator? marks rest else none
  | _, _ => none

/-- The trees behind what a rule matches. -/
def match? (rules : ν → Rule ν) : (fuel : Nat) → Rule ν → List Tree → Option (List Tree)
  | 0, _, _ => none
  | fuel + 1, rule, trees =>
      match rule with
      | nothing => some trees
      | never => none
      | one accepts =>
          match trees with
          | tree :: rest => if accepts tree then some rest else none
          | [] => none
      | operator marks => matchOperator? marks trees
      | enclosed delimiter inner =>
          match trees with
          | .group found content :: rest =>
              if found = delimiter && (match? rules fuel inner content).any (·.isEmpty) then
                some rest
              else
                none
          | _ => none
      | both first second => (match? rules fuel first trees).bind (match? rules fuel second)
      | either first second => match? rules fuel first trees <|> match? rules fuel second trees
      | many rule =>
          match match? rules fuel rule trees with
          | none => some trees
          | some rest =>
              if rest.length < trees.length then match? rules fuel (many rule) rest else some trees
      | ahead rule => (match? rules fuel rule trees).map fun _ => trees
      | absent rule => if (match? rules fuel rule trees).isSome then none else some trees
      | atEnd => if trees.isEmpty then some [] else none
      | call name => match? rules fuel (rules name) trees

/-! ## Derived rules -/

/-- Rules one after the other. -/
def all (rules : List (Rule ν)) : Rule ν :=
  rules.foldr both nothing

/-- The first of several rules that matches. -/
def oneOf (rules : List (Rule ν)) : Rule ν :=
  rules.foldr either never

/-- A rule that may be left out. -/
def maybe (rule : Rule ν) : Rule ν :=
  either rule nothing

/-- One or more times. -/
def many1 (rule : Rule ν) : Rule ν :=
  both rule (many rule)

/-- A given word. -/
def word (text : String) : Rule ν :=
  one fun
    | .word found => found == text
    | _ => false

/-- One of several words. -/
def words (texts : List String) : Rule ν :=
  one fun
    | .word found => texts.contains found
    | _ => false

/-- An operator, given as a string. -/
def op (marks : String) : Rule ν :=
  operator marks.toList

/-- Any trees up to the end. -/
def anything : Rule ν :=
  many (one fun _ => true)

/-- A group of any content. -/
def anyGroup : Rule ν :=
  one fun
    | .group _ _ => true
    | _ => false

/-- One or more items with separators between them; a separator may also end the list. -/
def list1 (item separator : Rule ν) : Rule ν :=
  all [item, many (both separator item), maybe separator]

/-- Any number of items with separators between them; a separator may also end the list. -/
def list (item separator : Rule ν) : Rule ν :=
  maybe (list1 item separator)

/-- One or more items with separators between them and none at the end. -/
def joined (item separator : Rule ν) : Rule ν :=
  both item (many (both separator item))

/-! ## Matching -/

/-- The number of tokens in trees. -/
def weight : List Tree → Nat
  | [] => 1
  | .group _ inner :: rest => 1 + weight inner + weight rest
  | _ :: rest => 1 + weight rest

/-- Enough fuel for every rule over the given trees. -/
def fuelFor (trees : List Tree) : Nat :=
  1000 * (weight trees + 1)

/-- The trees that a rule matches, and those behind them. -/
def take? (rules : ν → Rule ν) (rule : Rule ν) (trees : List Tree) :
    Option (List Tree × List Tree) :=
  (match? rules (fuelFor trees) rule trees).map fun rest =>
    (trees.take (trees.length - rest.length), rest)

/-- Whether a rule matches trees as a whole. -/
def accepts (rules : ν → Rule ν) (rule : Rule ν) (trees : List Tree) : Bool :=
  (match? rules (fuelFor trees) rule trees).any (·.isEmpty)

end Rule

end DerivedQuery.Source
