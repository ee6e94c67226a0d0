/-!
# Token trees

A source file is a sequence of token trees: words, lifetimes, punctuation marks, literals, and groups
of trees between matching delimiters. Every bracket of the file belongs to a group, so a reader can
skip what it does not look into, such as the arguments of a macro, as a single tree.

A mark knows whether the next character is a mark as well. Only then may the two form one operator,
as in `::` or `->`.

## Main definitions

* `Delimiter`, `LiteralKind`, `Tree`
* `Tree.print`: the text of trees with single blanks between tokens
-/

namespace DerivedQuery.Source

/-- The three kinds of brackets. -/
inductive Delimiter where
  | parenthesis
  | bracket
  | brace
deriving DecidableEq, Repr, Inhabited

namespace Delimiter

def opening : Delimiter → Char
  | parenthesis => '('
  | bracket => '['
  | brace => '\x7b'

def closing : Delimiter → Char
  | parenthesis => ')'
  | bracket => ']'
  | brace => '\x7d'

def all : List Delimiter :=
  [parenthesis, bracket, brace]

end Delimiter

/-- What a literal denotes, as far as declarations depend on it. -/
inductive LiteralKind where
  | string (value : String)
  | integer
  | fraction
  | other
deriving DecidableEq, Repr, Inhabited

/-- One token, or a group of trees between delimiters. -/
inductive Tree where
  | word (text : String)
  | lifetime (text : String)
  | mark (c : Char) (joint : Bool)
  | literal (text : String) (kind : LiteralKind)
  | group (delimiter : Delimiter) (inner : List Tree)
deriving Repr, Inhabited

namespace Tree

mutual

/-- The text of one tree. -/
def text : Tree → String
  | word text => text
  | lifetime text => text
  | mark c _ => c.toString
  | literal text _ => text
  | group .brace [] => "\x7b \x7d"
  | group .brace inner => "\x7b " ++ print inner ++ " \x7d"
  | group delimiter inner => delimiter.opening.toString ++ print inner ++ delimiter.closing.toString

/-- The text of trees, with a blank after every tree but a joint mark. -/
def print : List Tree → String
  | [] => ""
  | [tree] => tree.text
  | mark c true :: rest => c.toString ++ print rest
  | tree :: rest => tree.text ++ " " ++ print rest

end

end Tree

end DerivedQuery.Source
