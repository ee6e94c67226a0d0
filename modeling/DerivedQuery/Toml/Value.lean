/-!
# TOML values and tables

A configuration file is a TOML document, that is, a table. Assignments and headers may name the
parts of a table in any order, but no part may be defined twice, and a part that was written in
one form may not be reopened in another. `Entries` is the table while it is being built; each
subtable remembers how it came about:

* `header`: by a header of its own, `[a.b]`;
* `implied`: as a parent of a longer header, `[a.b.c]`; its own header may still follow;
* `dotted`: as a parent in a dotted key, `b.c = 1`; only dotted keys may extend it.

A table in an array of tables is always the latest one when later lines go through the array.

## Main definitions

* `Value`
* `Entries`, `Entries.assign?`, `Entries.openTable?`, `Entries.openSeries?`
* `Entries.toTable`
-/

namespace DerivedQuery.Toml

/-- A TOML value. Settings use neither fractions nor dates, which are kept as they are written. -/
inductive Value where
  | text (value : String)
  | integer (value : Int)
  | fraction (written : String)
  | boolean (value : Bool)
  | date (written : String)
  | array (items : List Value)
  | table (entries : List (String × Value))
deriving Repr, Inhabited

/-- How a subtable came about. -/
inductive Origin where
  | header
  | implied
  | dotted
deriving DecidableEq, Repr, Inhabited

/-- A part of a table under construction. -/
inductive Node where
  | value (value : Value)
  | subtable (origin : Origin) (entries : List (String × Node))
  /-- An array of tables, in order. -/
  | series (tables : List (List (String × Node)))
deriving Repr, Inhabited

/-- A table under construction. -/
abbrev Entries := List (String × Node)

namespace Entries

/-- Stores a node under a key, in place of the one it had or else at the end. -/
def put (entries : Entries) (key : String) (node : Node) : Entries :=
  if entries.any (·.1 == key) then
    entries.map fun entry => if entry.1 == key then (key, node) else entry
  else
    entries ++ [(key, node)]

/-- The form of the table that a path ends in: the table where the path starts, a subtable of
some origin, or a member of an array of tables. -/
inductive Form where
  | start
  | subtable (origin : Origin)
  | member

/-- Changes the table at the end of a path, creating the subtables on the way. A dotted path may
not go through a subtable that has a header of its own. -/
def descend? (dotted : Bool) (change : Form → Entries → Option Entries) :
    (path : List String) → Form → Entries → Option Entries
  | [], form, entries => change form entries
  | key :: path, _, entries =>
      let created := if dotted then Origin.dotted else Origin.implied
      match entries.lookup key with
      | none => do
          let inner ← descend? dotted change path (.subtable created) []
          return entries.put key (.subtable created inner)
      | some (.value _) => none
      | some (.subtable origin inner) => do
          if dotted && origin == .header then
            none
          let inner ← descend? dotted change path (.subtable origin) inner
          return entries.put key (.subtable origin inner)
      | some (.series tables) => do
          let last ← tables.getLast?
          let last ← descend? dotted change path .member last
          return entries.put key (.series (tables.dropLast ++ [last]))

/-- Stores a value under a key that is still free. -/
def assignHere? (key : String) (value : Value) (entries : Entries) : Option Entries :=
  if (entries.lookup key).isSome then none else some (entries.put key (.value value))

/-- Stores a value under a dotted key. A table that a dotted key extends must have been created by
dotted keys. -/
def assignDotted? (path : List String) (key : String) (value : Value) (entries : Entries) :
    Option Entries :=
  descend? true
    (fun form entries =>
      match form with
      | .start | .subtable .dotted => assignHere? key value entries
      | _ => none)
    path .start entries

/-- Stores a value under a dotted key in the table that a header has opened. -/
def assign? (header path : List String) (key : String) (value : Value) (entries : Entries) :
    Option Entries :=
  descend? false (fun _ => assignDotted? path key value) header .start entries

/-- Opens the table of a header, which may exist only as a parent of other headers. -/
def openTable? (path : List String) (key : String) (entries : Entries) : Option Entries :=
  descend? false
    (fun _ entries =>
      match entries.lookup key with
      | none => some (entries.put key (.subtable .header []))
      | some (.subtable .implied inner) => some (entries.put key (.subtable .header inner))
      | some _ => none)
    path .start entries

/-- Opens one more table of an array of tables. -/
def openSeries? (path : List String) (key : String) (entries : Entries) : Option Entries :=
  descend? false
    (fun _ entries =>
      match entries.lookup key with
      | none => some (entries.put key (.series [[]]))
      | some (.series tables) => some (entries.put key (.series (tables ++ [[]])))
      | some _ => none)
    path .start entries

end Entries

mutual

/-- The finished value of a node. -/
def Node.toValue : Node → Value
  | .value value => value
  | .subtable _ entries => .table (Entries.toTable entries)
  | .series tables => .array (Entries.toTables tables)

/-- The finished entries of a table. -/
def Entries.toTable : List (String × Node) → List (String × Value)
  | [] => []
  | (key, node) :: rest => (key, node.toValue) :: Entries.toTable rest

/-- The finished members of an array of tables. -/
def Entries.toTables : List (List (String × Node)) → List Value
  | [] => []
  | entries :: rest => .table (Entries.toTable entries) :: Entries.toTables rest

end

end DerivedQuery.Toml
