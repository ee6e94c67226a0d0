import DerivedQuery.Entity
import DerivedQuery.Text.Alphabetic
import DerivedQuery.Text.Cut

/-!
# Spellings of a property name

A method name spells a property with capitals (`FirstName`), while the property itself is called
`first_name` or `firstName`. Three spellings of a segment are looked up, in this order: with its
first character lowered, as it stands, and in snake case.

`pascalCase` goes the other way and gives the segment under which a property is written. Snake case
puts an underscore before every capital, so an underscore before a letter can be dropped and comes
back; an underscore before a digit could not be restored, and is kept.

## Main definitions

* `uncapitalize`, `snakeCase`, `pascalCase`
* `Entity.lookup?`
-/

namespace DerivedQuery

namespace Spelling

open Text

/-- The text with its first character in lower case. -/
def uncapitalize : List Char → List Char
  | [] => []
  | c :: rest => lowercase c ++ rest

/-- The text with its first character in upper case. -/
def capitalize : List Char → List Char
  | [] => []
  | c :: rest => uppercase c ++ rest

/-- A character in snake case, when other characters stand before it. -/
def snakeCaseChar (c : Char) : List Char :=
  if isUppercase c then '_' :: lowercase c else [c]

/-- Every capital is lowered, and all but the first get an underscore before them. -/
def snakeCase : List Char → List Char
  | [] => []
  | c :: rest => (if isUppercase c then lowercase c else [c]) ++ rest.flatMap snakeCaseChar

/-- The non-empty pieces of a name between its underscores. -/
def pieces (name : List Char) : List (List Char) :=
  let (first, more) := chunks (· == '_') name
  (first :: more).filter (!·.isEmpty)

/-- A piece after the first one, with the underscore that no other spelling could restore. -/
def laterPiece (piece : List Char) : List Char :=
  if piece.head?.any isAlphabetic then capitalize piece else '_' :: capitalize piece

/-- The pieces of a name, capitalized and joined. -/
def pascalCase (name : List Char) : List Char :=
  match pieces name with
  | [] => []
  | first :: more => capitalize first ++ more.flatMap laterPiece

end Spelling

/-- The property that a segment of a method name refers to: the one with the uncapitalized name,
else the one with that very name, else the one with the name in snake case. -/
def Entity.lookup? (entity : Entity) (segment : List Char) : Option Property :=
  entity.property? (String.ofList (Spelling.uncapitalize segment))
    <|> entity.property? (String.ofList segment)
    <|> entity.property? (String.ofList (Spelling.snakeCase segment))

end DerivedQuery
