import DerivedQuery.Source.Attribute
import DerivedQuery.Source.Lexer
import DerivedQuery.Source.Type
import DerivedQuery.Text.Affix

/-!
# Declarations

A declaration is a struct, an enumeration or a union with its attributes. Only the named fields of a
struct are read; of the other forms it is only known that they are there.

A source file is accepted as a whole or not at all. Its structs are those at its top level and in
its inline modules, in the order of the file.

## Main definitions

* `Field`, `Body`, `Declaration`
* `readDeclaration?`: a text that is a single declaration
* `readStructs?`: the structs of a source file
-/

namespace DerivedQuery.Source

open Rule

/-- A named field. Its name is without the mark of raw words. -/
structure Field where
  attributes : List Attribute
  name : String
  type : SourceType

/-- What a declaration declares. -/
inductive Body where
  | record (fields : List Field)
  /-- A struct whose fields have no names, or that has none. -/
  | positional
  /-- An enumeration or a union. -/
  | choice

/-- A declaration; it is generic if it has parameters. -/
structure Declaration where
  attributes : List Attribute
  name : String
  isGeneric : Bool
  body : Body

/-! ## Reading accepted trees -/

/-- The trees behind what a rule matches; the rule is known to match. -/
def behind (rule : Rule Name) (trees : List Tree) : List Tree :=
  (match? grammar (fuelFor trees) rule trees).getD trees

/-- The name of a field that was written as a raw word. -/
def plainName (name : String) : String :=
  match Text.dropPrefix? ['r', '#'] name.toList with
  | some rest => String.ofList rest
  | none => name

/-- The fields between accepted braces. The fuel exceeds the number of trees. -/
def readFields : (fuel : Nat) → List Tree → List Field
  | 0, _ => []
  | fuel + 1, trees =>
      match behind (both attributes (call .visibility)) trees with
      | .word name :: .mark ':' _ :: rest =>
          match take? grammar type rest with
          | some (type, rest) =>
              ⟨readAttributes trees, plainName name, .ofTrees type⟩ :: readFields fuel (rest.drop 1)
          | none => []
      | _ => []

/-- The declaration that accepted trees are, if they are one. -/
def Declaration.ofTrees? (trees : List Tree) : Option Declaration :=
  let attributes := readAttributes trees
  match behind (both Source.attributes (call .visibility)) trees with
  | .word "struct" :: .word name :: rest =>
      let body := match behind (both (call .generics) (call .whereClause)) rest with
        | .group .brace inner :: _ => .record (readFields (inner.length + 1) inner)
        | _ => .positional
      some ⟨attributes, name, isGeneric rest, body⟩
  | .word keyword :: .word name :: rest =>
      if keyword = "enum" || keyword = "union" then
        some ⟨attributes, name, isGeneric rest, .choice⟩
      else
        none
  | _ => none
where
  /-- Parameters follow the name. -/
  isGeneric : List Tree → Bool
    | .mark '<' _ :: .mark '>' _ :: _ => false
    | .mark '<' _ :: _ => true
    | _ => false

/-! ## Reading texts -/

/-- The declaration that a text consists of. -/
def readDeclaration? (text : List Char) : Option Declaration := do
  let trees ← readTrees? text
  if accepts grammar declarationRule trees then Declaration.ofTrees? trees else none

/-- The structs among accepted items, those of inline modules included. The fuel exceeds the number
of tokens. -/
def structsOfItems : (fuel : Nat) → List Tree → List Declaration
  | 0, _ => []
  | fuel + 1, trees =>
      match take? grammar (call .item) trees with
      | none => []
      | some (item, rest) =>
          let nested := match behind (both attributes (call .visibility)) item with
            | .word "struct" :: _ => (Declaration.ofTrees? item).toList
            | .word "unsafe" :: .word "mod" :: .word _ :: .group .brace inner :: _ =>
                structsOfItems fuel (behind innerAttributes inner)
            | .word "mod" :: .word _ :: .group .brace inner :: _ =>
                structsOfItems fuel (behind innerAttributes inner)
            | _ => []
          nested ++ structsOfItems fuel rest

/-- The text behind the line that names an interpreter. Such a line is no inner attribute, so no
bracket follows its mark. -/
def skipInterpreter : List Char → List Char
  | '#' :: '!' :: rest =>
      if (skipBlanks rest.length rest).head? = some '[' then '#' :: '!' :: rest
      else rest.dropWhile (· != '\n')
  | text => text

/-- The structs of a source file, if it is well formed. -/
def readStructs? (text : List Char) : Option (List Declaration) := do
  let text := match text with
    | '\uFEFF' :: rest => rest
    | text => text
  let trees ← readTrees? (skipInterpreter text)
  if accepts grammar fileRule trees then
    some (structsOfItems (weight trees) (behind innerAttributes trees))
  else
    none

end DerivedQuery.Source
