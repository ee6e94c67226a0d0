/-!
# Locations

A location is the text of a path. The text matters, because it is shown to the user as it was
written, but several texts may lead to the same place: repeated slashes and single dots mean
nothing. Two dots do mean something, namely the directory above, and they are never removed from a
text.

## Main definitions

* `Location`, `Location.join`
* `Location.names`: the names that a location consists of
* `Location.relativeTo?`: the text of a location below a directory
-/

namespace DerivedQuery.Files

/-- The text of a path. -/
structure Location where
  text : List Char
deriving DecidableEq, Repr, Inhabited

namespace Location

def ofString (text : String) : Location :=
  ⟨text.toList⟩

def toString (location : Location) : String :=
  String.ofList location.text

/-- A location that does not depend on the working directory. -/
def isAbsolute (location : Location) : Bool :=
  location.text.head? = some '/'

/-- A location below a directory; an absolute one stays where it is. -/
def join (directory location : Location) : Location :=
  if location.isAbsolute then location
  else if directory.text.isEmpty || directory.text.getLast? = some '/' then
    ⟨directory.text ++ location.text⟩
  else
    ⟨directory.text ++ '/' :: location.text⟩

/-- The texts between the slashes. -/
def pieces (location : Location) : List (List Char) :=
  location.text.splitOn '/'

/-- The names that a location consists of. Two dots count as a name. -/
def names (location : Location) : List (List Char) :=
  location.pieces.filter fun piece => piece != [] && piece != ['.']

/-- A text without the slashes and single dots at its beginning. -/
def skipNothing : List Char → List Char
  | '/' :: rest => skipNothing rest
  | '.' :: '/' :: rest => skipNothing rest
  | ['.'] => []
  | text => text

/-- The text behind the given names. -/
def behindNames? : (names : List (List Char)) → List Char → Option (List Char)
  | [], text => some (skipNothing text)
  | name :: names, text =>
      let text := skipNothing text
      if text.takeWhile (· != '/') = name then behindNames? names (text.drop name.length) else none

/-- The text of a location below a directory. -/
def relativeTo? (directory location : Location) : Option Location :=
  (behindNames? directory.names location.text).map Location.mk

/-- The location, seen from a directory if it is below it. -/
def relativeTo (directory location : Location) : Location :=
  (relativeTo? directory location).getD location

/-- A name that is not listed unless it is asked for, as it starts with a dot. -/
def isHiddenName (name : List Char) : Bool :=
  name.head? = some '.'

/-- The text behind the last dot of the last name, unless nothing precedes the dot. -/
def extension? (location : Location) : Option (List Char) := do
  let name ← location.names.getLast?
  if name = ['.', '.'] then
    none
  let behind := (name.reverse.takeWhile (· != '.')).reverse
  if behind.length + 1 < name.length then some behind else none

end Location

end DerivedQuery.Files
