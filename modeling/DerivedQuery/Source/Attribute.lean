import DerivedQuery.Source.Grammar

/-!
# Attributes and their settings

An attribute such as `#[repoquery(rename = "lastname", id)]` carries a list of *settings* in
brackets of any kind. A setting starts with its name, a path of words; what follows the name is up
to the reader of that setting, and settings are separated by commas.

Names are read with keywords allowed, but a name counts as a *plain word* only if it is a single
segment without a leading double colon.

## Main definitions

* `Attribute`, `Attribute.ofTrees`
* `SettingError`: why a list of settings cannot be read
* `readSettings`: reads the settings of an attribute one after the other
-/

namespace DerivedQuery.Source

open Rule

/-- What follows the name of an attribute. -/
inductive AttributeContent where
  | nothing
  | value
  | list (inner : List Tree)

/-- An attribute; it has a word if its name is one. -/
structure Attribute where
  word : Option String
  content : AttributeContent

/-- The name of an attribute. -/
def attributeName : Rule Name :=
  either (Rule.word "unsafe") modulePath

/-- The attribute in accepted brackets. -/
def Attribute.ofTrees (inner : List Tree) : Attribute :=
  match take? grammar attributeName inner with
  | some ([.word text], rest) => ⟨some text, contentOf rest⟩
  | some (_, rest) => ⟨none, contentOf rest⟩
  | none => ⟨none, .value⟩
where
  /-- What the trees behind the name stand for. -/
  contentOf : List Tree → AttributeContent
    | [] => .nothing
    | [.group _ inner] => .list inner
    | _ => .value

/-- The attributes at the beginning of trees. -/
def readAttributes : List Tree → List Attribute
  | .mark '#' _ :: .group .bracket inner :: rest => .ofTrees inner :: readAttributes rest
  | _ => []

/-! ## Settings -/

/-- Why a list of settings cannot be read. The flag `ended` holds if nothing follows. -/
inductive SettingError where
  /-- The attribute has no list at all. -/
  | noList
  /-- The attribute has a value in the place of the list. -/
  | valueForList
  | noName
  | literalForName
  | otherForName
  | noSegment (ended : Bool)
  | noEquals
  | noString (ended : Bool)
  | noComma
deriving DecidableEq, Repr

namespace SettingError

/-- A message, marked if the list ended too early. -/
def expecting (ended : Bool) (message : String) : String :=
  if ended then "unexpected end of input, " ++ message else message

/-- The message for an attribute of a given name. -/
def message (name : String) : SettingError → String
  | noList => "expected attribute arguments in parentheses: #[" ++ name ++ "(...)]"
  | valueForList => "expected parentheses: #[" ++ name ++ "(...)]"
  | noName => expecting true "expected nested attribute"
  | literalForName => "unexpected literal in nested attribute, expected ident"
  | otherForName => "unexpected token in nested attribute, expected ident"
  | noSegment ended => expecting ended "expected ident"
  | noEquals => "expected `=`"
  | noString ended => expecting ended "expected string literal"
  | noComma => "expected `,`"

end SettingError

/-- The trees behind a double colon, if one is here. -/
def behindColons? : List Tree → Option (List Tree)
  | .mark ':' true :: .mark ':' _ :: rest => some rest
  | _ => none

/-- The trees behind the further segments of a name. -/
def skipSegments : List Tree → Except SettingError (Bool × List Tree)
  | .mark ':' true :: .mark ':' _ :: .word _ :: rest => do
      let (_, rest) ← skipSegments rest
      return (true, rest)
  | .mark ':' true :: .mark ':' _ :: rest => throw (.noSegment rest.isEmpty)
  | trees => return (false, trees)

/-- The name of a setting, if it is a plain word, and the trees behind it. -/
def readSettingName (trees : List Tree) : Except SettingError (Option String × List Tree) := do
  let leading := behindColons? trees
  match leading.getD trees with
  | .word text :: rest =>
      let (longer, rest) ← skipSegments rest
      return (if leading.isSome || longer then none else some text, rest)
  | [] => throw .noName
  | other =>
      if (match? grammar (fuelFor other) literal other).isSome then throw .literalForName
      else throw .otherForName

/-- The string that is the value of a setting, and the trees behind it. -/
def readStringValue : List Tree → Except SettingError (String × List Tree)
  | .mark '=' _ :: .literal _ (.string value) :: rest => return (value, rest)
  | .mark '=' _ :: rest => throw (.noString rest.isEmpty)
  | _ => throw .noEquals

/-- Reads settings one after the other. The reader of a single setting gets its name, what has been
collected so far and the trees behind the name, and returns the trees behind the setting. The fuel
exceeds the number of trees. -/
def readSettings {α ε : Type} (malformed : SettingError → ε)
    (read : Option String → α → List Tree → Except ε (α × List Tree)) :
    (fuel : Nat) → α → List Tree → Except ε α
  | 0, collected, _ => return collected
  | fuel + 1, collected, trees =>
      if trees.isEmpty then
        return collected
      else do
        let (name, rest) ← (readSettingName trees).mapError malformed
        let (collected, rest) ← read name collected rest
        match rest with
        | [] => return collected
        | .mark ',' _ :: rest => readSettings malformed read fuel collected rest
        | _ => throw (malformed .noComma)

/-- Reads the settings of an attribute. -/
def Attribute.readSettings {α ε : Type} (malformed : SettingError → ε)
    (read : Option String → α → List Tree → Except ε (α × List Tree))
    (collected : α) (directive : Attribute) : Except ε α :=
  match directive.content with
  | .nothing => throw (malformed .noList)
  | .value => throw (malformed .valueForList)
  | .list inner => Source.readSettings malformed read (inner.length + 1) collected inner

end DerivedQuery.Source
