/-!
# Keywords

A keyword is the operator of one criterion. The naming convention has twenty-seven built-in ones;
a host adds its own by configuration. Every built-in keyword is one row of a table: its name, the
tokens that denote it at the end of a criterion (the first one is canonical), the number of
arguments that it binds, and whether it negates.

## Main definitions

* `Operator`, `Operator.spec`, `Operator.all`
* `Keyword`, `Keyword.ofName?`
-/

namespace DerivedQuery

/-! ## Built-in keywords -/

/-- The built-in keywords. -/
inductive Operator where
  | between
  | isNotNull
  | isNull
  | lessThan
  | lessThanEqual
  | greaterThan
  | greaterThanEqual
  | before
  | after
  | notLike
  | like
  | startingWith
  | endingWith
  | isNotEmpty
  | isEmpty
  | notContaining
  | containing
  | notIn
  | isIn
  | near
  | within
  | regex
  | exists
  | isTrue
  | isFalse
  | differs
  | equals
deriving DecidableEq, Repr, Inhabited

/-- One row of the table of built-in keywords. -/
structure OperatorSpec where
  name : String
  tokens : List String
  arity : Nat := 1
  negating : Bool := false

namespace Operator

/-- The table of built-in keywords. -/
def spec : Operator → OperatorSpec
  | between => { name := "Between", tokens := ["Between", "IsBetween"], arity := 2 }
  | isNotNull =>
      { name := "IsNotNull", tokens := ["IsNotNull", "NotNull"], arity := 0, negating := true }
  | isNull => { name := "IsNull", tokens := ["IsNull", "Null"], arity := 0 }
  | lessThan => { name := "LessThan", tokens := ["LessThan", "IsLessThan"] }
  | lessThanEqual => { name := "LessThanEqual", tokens := ["LessThanEqual", "IsLessThanEqual"] }
  | greaterThan => { name := "GreaterThan", tokens := ["GreaterThan", "IsGreaterThan"] }
  | greaterThanEqual =>
      { name := "GreaterThanEqual", tokens := ["GreaterThanEqual", "IsGreaterThanEqual"] }
  | before => { name := "Before", tokens := ["Before", "IsBefore"] }
  | after => { name := "After", tokens := ["After", "IsAfter"] }
  | notLike => { name := "NotLike", tokens := ["NotLike", "IsNotLike"], negating := true }
  | like => { name := "Like", tokens := ["Like", "IsLike"] }
  | startingWith =>
      { name := "StartingWith", tokens := ["StartingWith", "IsStartingWith", "StartsWith"] }
  | endingWith => { name := "EndingWith", tokens := ["EndingWith", "IsEndingWith", "EndsWith"] }
  | isNotEmpty =>
      { name := "IsNotEmpty", tokens := ["IsNotEmpty", "NotEmpty"], arity := 0, negating := true }
  | isEmpty => { name := "IsEmpty", tokens := ["IsEmpty", "Empty"], arity := 0 }
  | notContaining =>
      { name := "NotContaining", tokens := ["NotContaining", "IsNotContaining", "NotContains"]
        negating := true }
  | containing => { name := "Containing", tokens := ["Containing", "IsContaining", "Contains"] }
  | notIn => { name := "NotIn", tokens := ["NotIn", "IsNotIn"], negating := true }
  | isIn => { name := "In", tokens := ["In", "IsIn"] }
  | near => { name := "Near", tokens := ["Near", "IsNear"] }
  | within => { name := "Within", tokens := ["Within", "IsWithin"] }
  | regex => { name := "Regex", tokens := ["MatchesRegex", "Matches", "Regex"] }
  | «exists» => { name := "Exists", tokens := ["Exists"], arity := 0 }
  | isTrue => { name := "True", tokens := ["True", "IsTrue"], arity := 0 }
  | isFalse => { name := "False", tokens := ["False", "IsFalse"], arity := 0 }
  | differs => { name := "NegatingSimpleProperty", tokens := ["Not", "IsNot"], negating := true }
  | equals => { name := "SimpleProperty", tokens := ["Equals", "Is"] }

/-- The built-in keywords in the order of their declaration. -/
def all : List Operator :=
  [between, isNotNull, isNull, lessThan, lessThanEqual, greaterThan, greaterThanEqual, before, after,
    notLike, like, startingWith, endingWith, isNotEmpty, isEmpty, notContaining, containing, notIn,
    isIn, near, within, regex, «exists», isTrue, isFalse, differs, equals]

theorem mem_all (operator : Operator) : operator ∈ all := by
  cases operator <;> decide

/-- Each built-in keyword has a canonical token. -/
theorem tokens_ne_nil (operator : Operator) : operator.spec.tokens ≠ [] := by
  cases operator <;> simp [spec]

/-- The first token of a built-in keyword, which is written for it. -/
def canonicalToken (operator : Operator) : String :=
  operator.spec.tokens.head operator.tokens_ne_nil

end Operator

/-! ## Keywords -/

/-- A built-in keyword, or one that a host has added. -/
inductive Keyword where
  | builtin (operator : Operator)
  | custom (name : String) (arity : Nat)
deriving DecidableEq, Repr, Inhabited

namespace Keyword

/-- Every built-in keyword in the order of their declaration. -/
def builtins : List Keyword :=
  Operator.all.map builtin

def name : Keyword → String
  | builtin operator => operator.spec.name
  | custom name _ => name

/-- The number of arguments that a criterion with this keyword binds. -/
def arity : Keyword → Nat
  | builtin operator => operator.spec.arity
  | custom _ arity => arity

/-- The tokens of a built-in keyword; those of a custom one belong to the vocabulary. -/
def tokens : Keyword → List String
  | builtin operator => operator.spec.tokens
  | custom _ _ => []

def isNegating : Keyword → Bool
  | builtin operator => operator.spec.negating
  | custom _ _ => false

def isCustom : Keyword → Bool
  | builtin _ => false
  | custom _ _ => true

/-- The built-in keyword of a given name. -/
def ofName? (name : String) : Option Keyword :=
  builtins.find? (·.name == name)

/-- The keyword of a criterion without a keyword token: equality. -/
def default : Keyword :=
  builtin .equals

end Keyword

end DerivedQuery
