import DerivedQuery.Source.Derivation
import DerivedQuery.Text.Lines
import DerivedQuery.Text.Occurrence

/-!
# Scanning a source file

A scan describes every struct with named fields that a source file declares, whether its author asks
for a descriptor or not. Generic structs and structs without named fields are passed over, whatever
their directives say.

The line of a struct is found in the text: it is the first line on which the words `struct` and its
name occur, provided that the name does not go on behind their first occurrence. So a comment may
mislead it, which does no harm to a list that a reader looks at.

## Main definitions

* `ScannedType`, `ScanError`
* `scan`
-/

namespace DerivedQuery.Source

open Text

/-- A struct that was found in a source file. -/
structure ScannedType where
  descriptor : TypeDescriptor
  /-- The struct's author asks for a descriptor. -/
  derivesEntity : Bool
  path : String
  line : Nat
deriving DecidableEq, Repr

/-- Why a source file cannot be scanned. -/
inductive ScanError where
  | malformed
  | directive (structName : String) (error : DirectiveError)
deriving DecidableEq, Repr

/-- What a message about a directive of a struct starts with. -/
def directiveContext (structName : String) : String :=
  "Invalid repoquery attribute on " ++ structName

/-! ## Lines -/

/-- Whether the first declaration on a line is that of a given struct. -/
def declares (name : List Char) (line : List Char) : Bool :=
  match behindFirst? ("struct ".toList ++ name) line with
  | some behind => !behind.head?.any fun c => isAlphanumeric c || c == '_'
  | none => false

/-- The number of the line that declares a struct; the first line if none does. -/
def declarationLine (text : List Char) (name : String) : Nat :=
  match (lines text).findIdx? (declares name.toList) with
  | some index => index + 1
  | none => 1

/-! ## Requests for a descriptor -/

/-- Whether an attribute asks for a descriptor, possibly along with other derivations. -/
def Attribute.derivesEntity (directive : Attribute) : Bool :=
  match directive.word, directive.content with
  | some "derive", .list inner =>
      ((Tree.print inner).toList.splitOn ',').any fun request =>
        trim ((behindLast? [':', ':'] request).getD request) == "Entity".toList
  | _, _ => false

/-! ## Structs -/

/-- The descriptor of a struct, as far as its directives can be read. -/
def describe (declaration : Declaration) (fields : List Field) :
    Except DirectiveError TypeDescriptor := do
  let typeName ← readTypeName .lenient declaration
  let members ← fields.mapM fun field =>
    return memberOf? unknownName field (← readFieldDirective .lenient field)
  return ⟨typeName, members.reduceOption⟩

/-- What a scan finds in a declaration. -/
def scanDeclaration (text : List Char) (path : String) (declaration : Declaration) :
    Except ScanError (Option ScannedType) :=
  match declaration.isGeneric, declaration.body with
  | false, .record fields => do
      let descriptor ← (describe declaration fields).mapError (.directive declaration.name)
      return some
        { descriptor
          derivesEntity := declaration.attributes.any (·.derivesEntity)
          path
          line := declarationLine text declaration.name }
  | _, _ => return none

/-- The structs of a source file, in the order of the file. -/
def scan (text : List Char) (path : String) : Except ScanError (List ScannedType) :=
  match readStructs? text with
  | none => throw .malformed
  | some declarations => do
      return (← declarations.mapM (scanDeclaration text path)).reduceOption

end DerivedQuery.Source
