/-!
# JSON output

Reports for scripts are JSON texts. The fields of an object keep their order, an item stands on a
line of its own and is indented by two blanks for each level, and what is empty stays on its line.

## Main definitions

* `JsonValue`, `JsonValue.pretty`
-/

namespace DerivedQuery.Report

/-- A JSON value; reports hold no numbers but counts. -/
inductive JsonValue where
  | null
  | boolean (value : Bool)
  | number (value : Nat)
  | text (value : String)
  | array (items : List JsonValue)
  | object (fields : List (String × JsonValue))
deriving Repr, Inhabited

namespace JsonValue

/-- A value that may be missing. -/
def optional {α : Type} (write : α → JsonValue) : Option α → JsonValue
  | some value => write value
  | none => null

/-! ## Texts -/

/-- The hexadecimal digit of a number below sixteen. -/
def hexDigit (n : Nat) : Char :=
  Nat.digitChar n

/-- A character within quotes. -/
def escape (c : Char) : List Char :=
  if c = '"' then ['\\', '"']
  else if c = '\\' then ['\\', '\\']
  else if c = '\x08' then ['\\', 'b']
  else if c = '\t' then ['\\', 't']
  else if c = '\n' then ['\\', 'n']
  else if c = '\x0c' then ['\\', 'f']
  else if c = '\r' then ['\\', 'r']
  else if c.toNat < 32 then
    ['\\', 'u', '0', '0', hexDigit (c.toNat / 16), hexDigit (c.toNat % 16)]
  else [c]

/-- A text in quotes. -/
def quote (text : String) : String :=
  String.ofList ('"' :: text.toList.flatMap escape ++ ['"'])

/-! ## Layout -/

/-- The beginning of a line. -/
def indent (depth : Nat) : String :=
  String.ofList (List.replicate (2 * depth) ' ')

/-- Items on lines of their own, between brackets. -/
def layout (depth : Nat) (opening closing : String) : List String → String
  | [] => opening ++ closing
  | items =>
      opening ++ "\n" ++ ",\n".intercalate (items.map (indent (depth + 1) ++ ·)) ++ "\n"
        ++ indent depth ++ closing

mutual

/-- A value that is written at a depth. -/
def prettyAt (depth : Nat) : JsonValue → String
  | null => "null"
  | boolean value => if value then "true" else "false"
  | number value => toString value
  | text value => quote value
  | array items => layout depth "[" "]" (prettyItems (depth + 1) items)
  | object fields => layout depth "\x7b" "\x7d" (prettyFields (depth + 1) fields)

def prettyItems (depth : Nat) : List JsonValue → List String
  | [] => []
  | item :: rest => prettyAt depth item :: prettyItems depth rest

def prettyFields (depth : Nat) : List (String × JsonValue) → List String
  | [] => []
  | (name, value) :: rest => (quote name ++ ": " ++ prettyAt depth value) :: prettyFields depth rest

end

/-- The text of a value. -/
def pretty (value : JsonValue) : String :=
  value.prettyAt 0

end JsonValue

end DerivedQuery.Report
