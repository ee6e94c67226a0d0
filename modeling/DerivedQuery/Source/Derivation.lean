import DerivedQuery.Descriptor
import DerivedQuery.Source.Directive
import DerivedQuery.Source.Erasure

/-!
# Deriving a descriptor from a declaration

A struct whose author asks for it gets the descriptor of its type at build time. The author is told
about everything that cannot be meant: a generic type, which would need one descriptor for each
choice of its parameters; fields without names; a field that is the identifier and yet no property;
and a second identifier.

## Main definitions

* `DerivationError`, `Derivation`
* `Declaration.derive`
-/

namespace DerivedQuery.Source

/-- Why no descriptor can be derived. -/
inductive DerivationError where
  | generic
  | directive (error : DirectiveError)
  | unnamedFields
  | notAStruct
  /-- The identifier is not among the properties. -/
  | identifierSkipped
  | severalIdentifiers (typeName : String)
deriving DecidableEq, Repr

namespace DerivationError

def message : DerivationError → String
  | generic =>
      "Entity cannot be derived for generic structs; register a concrete type instead"
  | directive error => error.message .strict
  | unnamedFields => "Entity requires a struct with named fields"
  | notAStruct => "Entity can only be derived for structs"
  | identifierSkipped => "a field cannot be both #[repoquery(id)] and #[repoquery(skip)]"
  | severalIdentifiers typeName =>
      "`" ++ typeName ++ "` marks more than one field with #[repoquery(id)]"

end DerivationError

/-- A derived descriptor and the struct that it is for. -/
structure Derivation where
  structName : String
  descriptor : TypeDescriptor
deriving DecidableEq, Repr

/-- The directive of a field, where an identifier must be a property. -/
def deriveField (field : Field) : Except DerivationError FieldDirective := do
  let directive ← (readFieldDirective .strict field).mapError .directive
  if directive.isIdentifier && directive.isSkipped then throw .identifierSkipped
  return directive

/-- The member that an annotated field describes, unless it is skipped. -/
def memberOf? (nameless : List Tree → String) (field : Field) (directive : FieldDirective) :
    Option MemberDescriptor :=
  if directive.isSkipped then none
  else some ⟨directive.name, field.type.erase nameless, directive.isIdentifier⟩

/-- The descriptor of a declaration for which its author asks. -/
def Declaration.derive (declaration : Declaration) : Except DerivationError Derivation := do
  if declaration.isGeneric then
    throw .generic
  let typeName ← (readTypeName .strict declaration).mapError .directive
  match declaration.body with
  | .choice => throw .notAStruct
  | .positional => throw .unnamedFields
  | .record fields =>
      let annotated ← fields.mapM fun field => do return (field, ← deriveField field)
      if 1 < annotated.countP (·.2.isIdentifier) then
        throw (.severalIdentifiers typeName)
      let members := annotated.filterMap fun (field, directive) =>
        memberOf? writtenName field directive
      return ⟨declaration.name, ⟨typeName, members⟩⟩

end DerivedQuery.Source
