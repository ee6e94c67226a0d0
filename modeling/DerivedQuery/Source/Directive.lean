import DerivedQuery.Source.Declaration

/-!
# Directives

The attribute `#[repoquery(…)]` says what a declaration does not: on a struct, the name of its type;
on a field, that the field is the identifier, that it is no property at all, or that the property
has another name. Settings may be spread over several attributes, and a later one wins.

Directives are read in two ways. The *strict* way is for the author of the struct: it refuses empty
names, and its messages list what is known. The *lenient* way is for a tool that only looks at the
sources.

## Main definitions

* `Strictness`, `DirectiveError`
* `readTypeName`: the name of the type that a declaration describes
* `FieldDirective`, `readFieldDirective`
-/

namespace DerivedQuery.Source

/-- How directives are read. -/
inductive Strictness where
  | strict
  | lenient
deriving DecidableEq, Repr

/-- Why a directive cannot be read. -/
inductive DirectiveError where
  | malformed (error : SettingError)
  | unknownTypeSetting
  | unknownFieldSetting
  | emptyTypeName
  | emptyPropertyName
deriving DecidableEq, Repr

/-- The name of the attribute. -/
def directiveName : String :=
  "repoquery"

namespace DirectiveError

def message (strictness : Strictness) : DirectiveError → String
  | malformed error => error.message directiveName
  | unknownTypeSetting =>
      "unknown repoquery container attribute" ++ suggestion ", expected `name`"
  | unknownFieldSetting =>
      "unknown repoquery field attribute" ++ suggestion ", expected `id`, `skip` or `rename`"
  | emptyTypeName => "entity name must not be empty"
  | emptyPropertyName => "renamed property must not be empty"
where
  /-- Only the strict reader says what it knows. -/
  suggestion (text : String) : String :=
    match strictness with
    | .strict => text
    | .lenient => ""

end DirectiveError

/-- Reads the settings of all directives among some attributes. -/
def readDirectives {α : Type}
    (read : Option String → α → List Tree → Except DirectiveError (α × List Tree))
    (initial : α) (attributes : List Attribute) : Except DirectiveError α :=
  (attributes.filter (·.word == some directiveName)).foldlM
    (Attribute.readSettings .malformed read) initial

/-- The name that a setting gives. The strict reader refuses an empty one. -/
def readName (strictness : Strictness) (empty : DirectiveError) (trees : List Tree) :
    Except DirectiveError (String × List Tree) := do
  let (name, rest) ← (readStringValue trees).mapError .malformed
  if strictness = .strict && name.isEmpty then throw empty else return (name, rest)

/-! ## Types -/

/-- Reads one setting of a struct. -/
def readTypeSetting (strictness : Strictness) (setting : Option String) (_ : String)
    (trees : List Tree) : Except DirectiveError (String × List Tree) :=
  if setting = some "name" then readName strictness .emptyTypeName trees
  else throw .unknownTypeSetting

/-- The name of the type that a declaration describes: its own, unless a directive gives another. -/
def readTypeName (strictness : Strictness) (declaration : Declaration) :
    Except DirectiveError String :=
  readDirectives (readTypeSetting strictness) declaration.name declaration.attributes

/-! ## Fields -/

/-- The name of a property, and what its field is marked as. -/
structure FieldDirective where
  name : String
  isIdentifier : Bool := false
  isSkipped : Bool := false
deriving DecidableEq, Repr

/-- Reads one setting of a field. -/
def readFieldSetting (strictness : Strictness) (setting : Option String)
    (directive : FieldDirective) (trees : List Tree) :
    Except DirectiveError (FieldDirective × List Tree) :=
  match setting with
  | some "id" => return ({ directive with isIdentifier := true }, trees)
  | some "skip" => return ({ directive with isSkipped := true }, trees)
  | some "rename" => do
      let (name, rest) ← readName strictness .emptyPropertyName trees
      return ({ directive with name }, rest)
  | _ => throw .unknownFieldSetting

/-- What the directives of a field say. -/
def readFieldDirective (strictness : Strictness) (field : Field) :
    Except DirectiveError FieldDirective :=
  readDirectives (readFieldSetting strictness) { name := field.name } field.attributes

end DerivedQuery.Source
