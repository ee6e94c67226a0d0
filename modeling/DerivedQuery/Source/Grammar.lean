import DerivedQuery.Source.Rule

/-!
# The grammar of source files

The rules of Rust, as far as a tool needs them that looks for struct declarations but must refuse a
file which is not well formed: items, types, patterns, statements and expressions. A rule only says
*whether* trees are of a form; what they denote is read off the accepted trees by other modules.

Three points shape the rules of expressions. Precedence does not matter for acceptance, so binary
operators are chains — except that comparisons do not associate and need a level of their own. In a
condition, `{` opens the body and not a struct literal, hence the parameter `structs`. And a
statement that is a block ends without a semicolon.

## Main definitions

* `Name`: the named rules
* `grammar`: what each name stands for
-/

namespace DerivedQuery.Source

/-- The named rules. -/
inductive Name where
  | type (plus : Bool)
  | bound
  | generics
  | genericArguments
  | whereClause
  | visibility
  | metaItem
  | attributes
  | path
  | pattern
  | patterns
  | block
  | expression (structs : Bool)
  | comparison (structs : Bool)
  | arithmetic (structs : Bool)
  | operand (structs : Bool)
  | postfixed (structs : Bool)
  | blockLike
  | statement
  | namedFields
  | tupleFields
  | signature
  | useTree
  | item
  | memberItem
deriving DecidableEq, Repr

open Rule

/-! ## Words -/

/-- The words that cannot be identifiers. -/
def keywords : List String :=
  ["_", "abstract", "as", "async", "await", "become", "box", "break", "const", "continue", "crate",
    "do", "dyn", "else", "enum", "extern", "false", "final", "fn", "for", "if", "impl", "in", "let",
    "loop", "macro", "match", "mod", "move", "mut", "override", "priv", "pub", "ref", "return",
    "Self", "self", "static", "struct", "super", "trait", "true", "try", "type", "typeof", "unsafe",
    "unsized", "use", "virtual", "where", "while", "yield"]

/-- A word that is no keyword. -/
def ident : Rule Name :=
  one fun
    | .word text => !keywords.contains text
    | _ => false

def lifetime : Rule Name :=
  one fun
    | .lifetime _ => true
    | _ => false

/-- A literal of any kind but a truth value. -/
def plainLiteral : Rule Name :=
  one fun
    | .literal _ _ => true
    | _ => false

def stringLiteral : Rule Name :=
  one fun
    | .literal _ (.string _) => true
    | _ => false

/-- A number. -/
def number : Rule Name :=
  one fun
    | .literal _ .integer => true
    | .literal _ .fraction => true
    | _ => false

/-- A literal, a truth value or a negative number. -/
def literal : Rule Name :=
  oneOf [plainLiteral, words ["true", "false"], both (op "-") number]

def comma : Rule Name :=
  op ","

def semicolon : Rule Name :=
  op ";"

/-- A group in parentheses. -/
def parens (inner : Rule Name) : Rule Name :=
  enclosed .parenthesis inner

/-- A group in brackets. -/
def brackets (inner : Rule Name) : Rule Name :=
  enclosed .bracket inner

/-- A group in braces. -/
def braces (inner : Rule Name) : Rule Name :=
  enclosed .brace inner

/-- A group in braces of any content. -/
def braceGroup : Rule Name :=
  braces anything

def type : Rule Name :=
  call (.type true)

/-- A type that is not followed by further bounds. -/
def plainType : Rule Name :=
  call (.type false)

def expression : Rule Name :=
  call (.expression true)

def attributes : Rule Name :=
  call .attributes

/-! ## Paths and types -/

/-- An operator that must not be the beginning of a longer one. -/
def opNot (marks : String) (longer : List String) : Rule Name :=
  both (absent (oneOf (longer.map op))) (op marks)

/-- The arguments of a path segment: in angle brackets, with or without a double colon. -/
def angleArguments : Rule Name :=
  oneOf
    [both (absent (op "<=")) (both (ahead (op "<")) (call .genericArguments)),
      all [ahead (both (op "::") (op "<")), op "::", call .genericArguments]]

/-- The words that stand for a segment without arguments. -/
def pathKeyword : Rule Name :=
  words ["super", "self", "crate", "try"]

/-- A path segment of a type. -/
def typeSegment : Rule Name :=
  either pathKeyword (both (either (word "Self") ident) (maybe angleArguments))

/-- A return type. -/
def returnType (type : Rule Name) : Rule Name :=
  maybe (both (op "->") type)

/-- Arguments in parentheses, as in `Fn(u8) -> u8`. -/
def parenthesizedArguments : Rule Name :=
  all [maybe (op "::"), parens (list type comma), returnType plainType]

/-- Further segments; a segment may be followed by arguments in parentheses. -/
def moreSegments (segment : Rule Name) : Rule Name :=
  many (all [op "::", absent (one fun
    | .group .parenthesis _ => true
    | _ => false), segment])

/-- A path in angle brackets, `<T as Trait>::Item`. -/
def qualifiedPath (segment : Rule Name) : Rule Name :=
  all [op "<", type, maybe (both (word "as") (call .path)), op ">", op "::", segment,
    moreSegments segment]

/-- A path without arguments in parentheses. -/
def typePath : Rule Name :=
  all [maybe (op "::"), typeSegment, moreSegments typeSegment]

/-- A path of words alone. -/
def wordPath : Rule Name :=
  all [maybe (op "::"), either pathKeyword (either (word "Self") ident),
    many (both (op "::") (either pathKeyword (either (word "Self") ident)))]

/-- Bounds joined by plus signs, possibly none. -/
def bounds : Rule Name :=
  list (call .bound) (op "+")

/-- Lifetimes bound by `for`. -/
def boundLifetimes : Rule Name :=
  all [word "for", op "<",
    list (all [attributes, lifetime, maybe (both (op ":") (list lifetime (op "+")))]) comma, op ">"]

/-- The calling convention of a function. -/
def abi : Rule Name :=
  both (word "extern") (maybe stringLiteral)

/-- The type of a function pointer. -/
def functionType : Rule Name :=
  all [maybe (word "unsafe"), maybe abi, word "fn",
    parens (list
      (all [attributes,
        oneOf
          [both (maybe (both (either ident (word "_")) (opNot ":" ["::"]))) (op "..."),
            all [either (word "self") (either ident (word "_")), opNot ":" ["::"], type],
            type]]) comma),
    returnType plainType]

/-- The bounds of `dyn` and `impl`, one of which must be a trait. -/
def traitBounds (plus : Bool) : Rule Name :=
  if plus then
    all [many (both lifetime (op "+")), absent lifetime, joined (call .bound) (op "+"), maybe (op "+")]
  else both (absent lifetime) (call .bound)

/-- What follows a path that is the first of several bounds. -/
def furtherBounds : Rule Name :=
  many1 (both (op "+") (maybe (call .bound)))

/-- A type in parentheses, or a tuple type. -/
def tupleType : Rule Name :=
  parens (oneOf
    [atEnd,
      all [ahead lifetime, bounds, atEnd],
      all [ahead (op "?"), call .bound, atEnd],
      all [type, maybe (both comma (list type comma)), atEnd]])

/-- A type; further bounds may follow it only where `plus` holds. -/
def typeRule (plus : Bool) : Rule Name :=
  let further := if plus then maybe furtherBounds else nothing
  oneOf
    [both tupleType further,
      both (maybe boundLifetimes) functionType,
      all [boundLifetimes, absent (word "dyn"), call .path, further],
      qualifiedPath typeSegment,
      all [wordPath, absent (op "!="), op "!", anyGroup],
      all [call .path, further],
      all [word "dyn", maybe (op "*"), traitBounds plus],
      all [word "impl", traitBounds plus],
      brackets (all [type, maybe (both semicolon expression), atEnd]),
      all [op "*", words ["const", "mut"], plainType],
      all [op "&", maybe lifetime, maybe (word "mut"), plainType],
      both (absent (op "!=")) (op "!"),
      word "_",
      both (ahead lifetime) (list1 (call .bound) (op "+"))]

/-- A path with arguments of either form. -/
def pathRule : Rule Name :=
  both typePath (maybe (all [parenthesizedArguments, moreSegments typeSegment]))

/-- One bound of a type. -/
def boundRule : Rule Name :=
  let traitBound := all
    [maybe boundLifetimes, maybe (op "?"), maybe (both (maybe (op "~")) (word "const")),
      maybe (word "async"), maybe boundLifetimes, call .path]
  oneOf
    [lifetime,
      all [word "use", op "<", list (either lifetime (either ident (word "Self"))) comma, op ">"],
      parens (both traitBound atEnd), traitBound]

/-- The value of a constant argument. -/
def constArgument : Rule Name :=
  either literal (call .block)

/-- An argument that is no type by itself: a lifetime or a constant. -/
def plainArgument : Rule Name :=
  either (both lifetime (absent (op "+"))) constArgument

/-- One argument in angle brackets. -/
def genericArgument : Rule Name :=
  either plainArgument
    (both type (maybe (either
      (both (op "=") (either constArgument type))
      (both (opNot ":" ["::"]) bounds))))

/-- Arguments in angle brackets. -/
def genericArgumentsRule : Rule Name :=
  all [maybe (op "::"), op "<", list genericArgument comma, op ">"]

/-- The parameters of a declaration. -/
def genericsRule : Rule Name :=
  let parameter := both attributes (oneOf
    [both lifetime (maybe (both (op ":") (list lifetime (op "+")))),
      all [word "const", ident, op ":", type, maybe (both (op "=") (either constArgument ident))],
      all [ident, maybe (both (op ":") bounds), maybe (both (op "=") type)]])
  maybe (all [op "<", list parameter comma, op ">"])

/-- The conditions on the parameters of a declaration. -/
def whereRule : Rule Name :=
  let condition := either
    (all [lifetime, op ":", list lifetime (op "+")])
    (all [maybe boundLifetimes, type, op ":", bounds])
  maybe (both (word "where") (list condition comma))

/-! ## Attributes and visibility -/

/-- A path that names a module. -/
def modulePath : Rule Name :=
  let segment := either (words ["super", "self", "Self", "crate"]) ident
  all [maybe (op "::"), segment, many (both (op "::") segment)]

/-- The content of an attribute. -/
def metaRule : Rule Name :=
  both (either (word "unsafe") modulePath) (maybe (either anyGroup (both (op "=") expression)))

/-- An attribute of what follows it. -/
def outerAttribute : Rule Name :=
  both (op "#") (brackets (both (call .metaItem) atEnd))

/-- An attribute of what encloses it. -/
def innerAttributes : Rule Name :=
  many (all [op "#", op "!", brackets (both (call .metaItem) atEnd)])

/-- Who may see an item. -/
def visibilityRule : Rule Name :=
  maybe (both (word "pub") (maybe (parens (either
    (both (words ["crate", "self", "super"]) atEnd)
    (all [word "in", modulePath, atEnd])))))

/-! ## Patterns -/

/-- The end of a range in a pattern. -/
def rangeEnd : Rule Name :=
  oneOf [literal, qualifiedPath typeSegment, call .path, call .block]

def rangeOperator : Rule Name :=
  oneOf [op "..=", op "...", op ".."]

/-- A field of a struct pattern. -/
def fieldPattern : Rule Name :=
  both attributes (oneOf
    [op "..",
      all [either ident number, opNot ":" ["::"], call .patterns],
      all [maybe (word "box"), maybe (word "ref"), maybe (word "mut"), ident]])

/-- A pattern that starts with a path or is a plain name. -/
def pathPattern : Rule Name :=
  let list := list (call .patterns) comma
  let path := either (qualifiedPath typeSegment) (call .path)
  oneOf
    [all [wordPath, absent (op "!="), op "!", anyGroup],
      all [ident, op "@", call .pattern],
      both
        (either (qualifiedPath typeSegment) (all [maybe (op "::"), typeSegment,
          moreSegments typeSegment]))
        (oneOf
          [parens (both list atEnd), braces (both (Rule.list fieldPattern comma) atEnd),
            both rangeOperator (maybe rangeEnd), nothing]),
      path]

/-- A pattern without alternatives. -/
def patternRule : Rule Name :=
  let list := list (call .patterns) comma
  oneOf
    [word "_",
      both rangeOperator (maybe rangeEnd),
      both literal (maybe (both rangeOperator (maybe rangeEnd))),
      all [op "&", maybe (word "mut"), call .pattern],
      all [word "box", call .pattern],
      all [word "ref", maybe (word "mut"), ident, maybe (both (op "@") (call .pattern))],
      all [word "mut", either ident (word "self"), maybe (both (op "@") (call .pattern))],
      parens (both list atEnd),
      brackets (both list atEnd),
      both (word "const") (call .block),
      pathPattern]

/-- A pattern with alternatives. -/
def patternsRule : Rule Name :=
  let bar := opNot "|" ["||", "|="]
  both (maybe bar) (joined (call .pattern) bar)

/-! ## Expressions -/

/-- A path segment of an expression, where angle brackets need a double colon. -/
def expressionSegment : Rule Name :=
  either pathKeyword (both (either (word "Self") ident)
    (maybe (all [ahead (both (op "::") (op "<")), op "::", call .genericArguments])))

def expressionPath : Rule Name :=
  either (qualifiedPath expressionSegment)
    (all [maybe (op "::"), expressionSegment, moreSegments expressionSegment])

/-- Expressions between commas. -/
def arguments : Rule Name :=
  both (list expression comma) atEnd

/-- An arithmetic, bitwise or shift operator. -/
def arithmeticOperator : Rule Name :=
  oneOf
    [opNot "<<" ["<<="], opNot ">>" [">>="], opNot "+" ["+="], opNot "-" ["-="], opNot "*" ["*="],
      opNot "/" ["/="], opNot "%" ["%="], opNot "^" ["^="], opNot "&" ["&&", "&="],
      opNot "|" ["||", "|="]]

def comparisonOperator : Rule Name :=
  oneOf
    [op "==", op "!=", opNot "<=" ["<<="], opNot ">=" [">>="], opNot "<" ["<<", "<="],
      opNot ">" [">>", ">="]]

def logicOperator : Rule Name :=
  oneOf
    [op "&&", op "||", op "+=", op "-=", op "*=", op "/=", op "%=", op "^=", op "&=", op "|=",
      op "<<=", op ">>=", opNot "=" ["==", "=>"]]

/-- What may be left out at the end of an expression. In a condition the brace behind it opens the
body. -/
def optionalOperand (structs : Bool) (operand : Rule Name) : Rule Name :=
  maybe (if structs then operand else both (absent braceGroup) operand)

/-- What joins further comparisons to the first one: logic, assignments and ranges. The end of an
exclusive range may be missing. -/
def expressionTail (structs : Bool) : Rule Name :=
  many (either (both logicOperator (call (.comparison structs))) (range structs))
where
  /-- The operator of a range and its end. -/
  range (structs : Bool) : Rule Name :=
    let operand := call (.comparison structs)
    either (both (op "..=") operand)
      (both (opNot ".." ["...", "..="]) (optionalOperand structs operand))

/-- A chain of comparisons and ranges. -/
def expressionRule (structs : Bool) : Rule Name :=
  both (either (expressionTail.range structs) (call (.comparison structs))) (expressionTail structs)

/-- The second operand of a comparison, the result of which is not compared again. -/
def comparisonTail (structs : Bool) : Rule Name :=
  maybe (all [comparisonOperator, call (.arithmetic structs), absent comparisonOperator])

/-- One operand, or two that are compared. A condition may bind a pattern. -/
def comparisonRule (structs : Bool) : Rule Name :=
  either
    (all [word "let", call .patterns, opNot "=" ["==", "=>"], call (.comparison structs)])
    (both (call (.arithmetic structs)) (comparisonTail structs))

/-- Further operands, and casts. -/
def arithmeticTail (structs : Bool) : Rule Name :=
  many (either (both arithmeticOperator (call (.operand structs))) (both (word "as") plainType))

/-- A chain of operands and casts. -/
def arithmeticRule (structs : Bool) : Rule Name :=
  both (call (.operand structs)) (arithmeticTail structs)

/-- An operand with its prefix operators. -/
def operandRule (structs : Bool) : Rule Name :=
  let again := call (.operand structs)
  both attributes (oneOf
    [all [op "&", word "raw", words ["const", "mut"], again],
      all [op "&", maybe (word "mut"), again],
      both (op "*") again, both (op "!") again, both (op "-") again,
      call (.postfixed structs)])

/-- An operator behind an operand that continues it even where a block could end a statement. -/
def continuation : Rule Name :=
  either (opNot "." [".."]) (op "?")

/-- A field access, a call, an index or a question mark behind an operand. The arguments of a method
in angle brackets are followed by those in parentheses. -/
def trailer : Rule Name :=
  let method := both ident (either
    (all [ahead (op "::"), call .genericArguments, parens arguments])
    (maybe (parens arguments)))
  oneOf
    [both (opNot "." [".."]) (oneOf [word "await", number, method]),
      parens arguments, brackets (both expression atEnd), op "?"]

/-- A closure. -/
def closure (structs : Bool) : Rule Name :=
  let parameter := all [attributes, call .pattern, maybe (both (opNot ":" ["::"]) type)]
  all [maybe boundLifetimes, maybe (word "const"), maybe (word "static"), maybe (word "async"),
    maybe (word "move"), op "|", list parameter comma, op "|",
    either (all [op "->", type, call .block]) (call (.expression structs))]

/-- The fields of a struct literal, and the value that the others are taken from. -/
def literalFields : Rule Name :=
  let field := both attributes (either
    (all [either ident number, opNot ":" ["::"], expression])
    (both ident (ahead (either comma atEnd))))
  all [list field comma, maybe (both (op "..") (maybe expression)), atEnd]

/-- The items of an array, or an item and how often it is repeated. -/
def arrayItems : Rule Name :=
  both
    (maybe (both expression
      (either (both semicolon expression) (both (many (both comma expression)) (maybe comma)))))
    atEnd

/-- What a block or a control structure starts with. -/
def blockLikeStart : Rule Name :=
  oneOf
    [words ["if", "match", "loop", "while"], both (word "for") (absent (op "<")), lifetime,
      braceGroup, both (words ["unsafe", "const", "try"]) braceGroup]

/-- An expression in a place where a block or a control structure needs no mark behind it; of any
other form, `ends` is what follows it. -/
def freeStanding (ends : Rule Name) : Rule Name :=
  let continued :=
    all [ahead continuation, many trailer, arithmeticTail true, comparisonTail true,
      expressionTail true, ends]
  both attributes (either
    (all [ahead blockLikeStart, call .blockLike, either continued (absent continuation)])
    (all [absent blockLikeStart, expression, ends]))

/-- A block or a control structure: what ends a statement, or an arm of a `match`, without a mark. -/
def blockLikeRule : Rule Name :=
  let condition := call (.expression false)
  let body := call .block
  let arm := all
    [attributes, call .patterns, maybe (both (word "if") expression), op "=>",
      freeStanding (either (ahead comma) atEnd), maybe comma]
  oneOf
    [all [word "if", condition, body,
      maybe (both (word "else") (either (both (ahead (word "if")) (call .blockLike)) body))],
      all [word "match", condition, braces (all [innerAttributes, many arm, atEnd])],
      all [maybe (both lifetime (op ":")), oneOf
        [both (word "loop") body, all [word "while", condition, body],
          all [word "for", call .patterns, word "in", condition, body], body]],
      both (word "unsafe") body,
      both (word "const") body,
      both (word "try") body]

/-- An operand without prefix operators. -/
def postfixedRule (structs : Bool) : Rule Name :=
  let atom := oneOf
    [literal,
      all [wordPath, absent (op "!="), op "!", anyGroup],
      closure structs,
      all [word "async", maybe (word "move"), call .block],
      call .blockLike,
      both (words ["return", "yield", "become"]) (maybe expression),
      all [word "break", maybe (both lifetime (absent (op ":"))), optionalOperand structs expression],
      both (word "continue") (maybe lifetime),
      both expressionPath (if structs then maybe (braces literalFields) else nothing),
      parens arguments,
      brackets arrayItems,
      word "_"]
  both atom (many trailer)

/-! ## Statements -/

/-- A macro call as a statement. -/
def macroStatement : Rule Name :=
  all [wordPath, absent (op "!="), op "!", maybe ident, either
    (all [braceGroup, absent continuation, maybe semicolon])
    (both anyGroup semicolon)]

def statementRule : Rule Name :=
  oneOf
    [semicolon,
      both attributes (all [word "let", call .pattern, maybe (both (opNot ":" ["::"]) type),
        maybe (all [op "=", expression, maybe (both (word "else") (call .block))]), semicolon]),
      both attributes macroStatement,
      call .item,
      both (absent (both attributes (word "let"))) (freeStanding (either semicolon atEnd))]

def blockRule : Rule Name :=
  braces (all [innerAttributes, many (call .statement), atEnd])

/-! ## Items -/

def namedFieldsRule : Rule Name :=
  braces (both
    (list (all [attributes, call .visibility, either ident (word "_"), opNot ":" ["::"], type]) comma)
    atEnd)

def tupleFieldsRule : Rule Name :=
  parens (both (list (all [attributes, call .visibility, type]) comma) atEnd)

/-- The head of a function. -/
def signatureRule : Rule Name :=
  let receiver := all [maybe (both (op "&") (maybe lifetime)), maybe (word "mut"), word "self",
    maybe (both (opNot ":" ["::"]) type)]
  let parameter := both attributes (oneOf
    [all [receiver, ahead (either comma atEnd)],
      both (maybe (both (call .pattern) (opNot ":" ["::"]))) (op "..."),
      all [call .pattern, opNot ":" ["::"], type]])
  all [maybe (word "const"), maybe (word "async"), maybe (word "unsafe"), maybe abi, word "fn",
    ident, call .generics, parens (both (list parameter comma) atEnd), returnType type,
    call .whereClause]

def useTreeRule : Rule Name :=
  let again := call .useTree
  oneOf
    [op "*", braces (both (list (both (maybe (op "::")) again) comma) atEnd),
      both (either pathKeyword (either (word "Self") ident)) (maybe (either (both (op "::") again)
        (both (word "as") (either ident (word "_")))))]

/-- A type alias or an associated type. -/
def typeItem : Rule Name :=
  all [word "type", ident, call .generics, maybe (both (op ":") bounds), call .whereClause,
    maybe (both (op "=") type), call .whereClause, semicolon]

/-- A constant. -/
def constItem : Rule Name :=
  all [word "const", either ident (word "_"), call .generics, maybe (both (op ":") type),
    maybe (both (op "=") expression), call .whereClause, semicolon]

def staticItem : Rule Name :=
  all [word "static", maybe (word "mut"), ident, maybe (both (op ":") type),
    maybe (both (op "=") expression), semicolon]

/-- A function with a body or without one. -/
def functionItem : Rule Name :=
  both (call .signature) (either (call .block) semicolon)

/-- A macro call in the place of an item. -/
def macroItem : Rule Name :=
  all [wordPath, op "!", maybe ident, either braceGroup (both anyGroup semicolon)]

/-- A struct, an enumeration or a union. -/
def structItem : Rule Name :=
  all [word "struct", ident, call .generics, oneOf
    [all [call .whereClause, call .namedFields],
      all [call .tupleFields, call .whereClause, semicolon],
      both (call .whereClause) semicolon]]

def enumItem : Rule Name :=
  let variant := all [attributes, call .visibility, ident,
    maybe (either (call .namedFields) (call .tupleFields)), maybe (both (op "=") expression)]
  all [word "enum", ident, call .generics, call .whereClause,
    braces (both (list variant comma) atEnd)]

def unionItem : Rule Name :=
  all [word "union", ident, call .generics, call .whereClause, call .namedFields]

/-- The items within a trait or an implementation. -/
def memberItemRule : Rule Name :=
  all [attributes, call .visibility, maybe (both (word "default") (absent (op "!"))),
    oneOf [functionItem, constItem, typeItem, macroItem]]

def members : Rule Name :=
  braces (all [innerAttributes, many (call .memberItem), atEnd])

def traitItem : Rule Name :=
  all [maybe (word "unsafe"), maybe (word "auto"), word "trait", ident, call .generics, either
    (all [op "=", bounds, call .whereClause, semicolon])
    (all [maybe (both (op ":") bounds), call .whereClause, members])]

/-- An implementation; angle brackets behind `impl` are parameters unless they start a path. -/
def implItem : Rule Name :=
  let parameterStart := both (op "<") (oneOf
    [op ">", op "#", word "const",
      both (either ident lifetime) (oneOf [op ",", op ">", op "=", opNot ":" ["::"]])])
  all [maybe (word "default"), maybe (word "unsafe"), word "impl",
    maybe (both (ahead parameterStart) (call .generics)), maybe (word "const"),
    maybe (opNot "!" ["!="]), type, maybe (both (word "for") type), call .whereClause, members]

/-- The declarations of another language's functions. -/
def foreignItem : Rule Name :=
  let declaration := all [attributes, call .visibility, maybe (words ["safe", "unsafe"]), oneOf
    [functionItem, staticItem, typeItem, macroItem]]
  all [maybe (word "unsafe"), abi, braces (all [innerAttributes, many declaration, atEnd])]

def moduleItem : Rule Name :=
  all [maybe (word "unsafe"), word "mod", either ident (word "try"), either semicolon
    (braces (all [innerAttributes, many (call .item), atEnd]))]

/-- An item with its attributes. -/
def itemRule : Rule Name :=
  let macroDefinition := all [word "macro", ident, either braceGroup (both anyGroup anyGroup)]
  both attributes (either macroItem (both (call .visibility) (oneOf
    [structItem, functionItem,
      all [word "extern", word "crate", either ident (word "self"),
        maybe (both (word "as") (either ident (word "_"))), semicolon],
      foreignItem,
      all [word "use", maybe (op "::"), call .useTree, semicolon],
      staticItem, constItem, moduleItem, typeItem, enumItem, unionItem, traitItem, implItem,
      macroDefinition])))

/-! ## The grammar -/

/-- What each name stands for. -/
def grammar : Name → Rule Name
  | .type plus => typeRule plus
  | .bound => boundRule
  | .generics => genericsRule
  | .genericArguments => genericArgumentsRule
  | .whereClause => whereRule
  | .visibility => visibilityRule
  | .metaItem => metaRule
  | .attributes => many outerAttribute
  | .path => pathRule
  | .pattern => patternRule
  | .patterns => patternsRule
  | .block => blockRule
  | .expression structs => expressionRule structs
  | .comparison structs => comparisonRule structs
  | .arithmetic structs => arithmeticRule structs
  | .operand structs => operandRule structs
  | .postfixed structs => postfixedRule structs
  | .blockLike => blockLikeRule
  | .statement => statementRule
  | .namedFields => namedFieldsRule
  | .tupleFields => tupleFieldsRule
  | .signature => signatureRule
  | .useTree => useTreeRule
  | .item => itemRule
  | .memberItem => memberItemRule

/-- A whole file. -/
def fileRule : Rule Name :=
  all [innerAttributes, many (call .item), atEnd]

/-- A declaration for which code can be derived: a struct, an enumeration or a union. -/
def declarationRule : Rule Name :=
  all [attributes, call .visibility, oneOf [structItem, enumItem, unionItem], atEnd]

end DerivedQuery.Source
