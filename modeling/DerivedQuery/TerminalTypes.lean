/-!
# Terminal types

Leaf value types — numbers, strings, dates, paths — are never decomposed into properties. The set
of their names belongs to the configuration: a registry starts from the default set, from
nothing, or from either with names added.
-/

namespace DerivedQuery

/-- A finite set of type names. -/
structure TerminalTypes where
  names : List String
deriving DecidableEq, Repr, Inhabited

namespace TerminalTypes

/-- Primitive and common library value types. -/
def defaultNames : List String :=
  ["bool", "char", "str", "String", "i8", "i16", "i32", "i64", "i128", "isize", "u8", "u16", "u32",
    "u64", "u128", "usize", "f32", "f64", "Cow", "DateTime", "NaiveDate", "NaiveDateTime",
    "NaiveTime", "Duration", "SystemTime", "Instant", "Uuid", "Decimal", "Url", "PathBuf", "Path",
    "OsString", "IpAddr", "Ipv4Addr", "Ipv6Addr", "Value", "Bytes"]

def defaults : TerminalTypes :=
  ⟨defaultNames⟩

def empty : TerminalTypes :=
  ⟨[]⟩

/-- Adds a name; a name that is already present is not added twice. -/
def insert (terminal : TerminalTypes) (name : String) : TerminalTypes :=
  ⟨terminal.names.insert name⟩

def contains (terminal : TerminalTypes) (name : String) : Bool :=
  terminal.names.contains name

/-- The number of names. -/
def size (terminal : TerminalTypes) : Nat :=
  terminal.names.length

end TerminalTypes

end DerivedQuery
