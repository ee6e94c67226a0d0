/-!
# Declared types

The declared type of a member is seen only as far as queries need it. Wrappers that do not change
what a value *is* (an optional value, a shared pointer) have already been removed, so what remains
is a named type, a collection, or a map.

A property path continues through containers: `orders.placed_at` steps from the owner of `orders`
into the *element* type. `TypeRef.actualName` is the name of the type in which the path goes on:
the element of a collection, the value of a map, however deeply nested.
-/

namespace DerivedQuery

/-- A named type, a collection, or a map. -/
inductive TypeRef where
  | named (name : String)
  | collection (element : TypeRef)
  | map (key value : TypeRef)
deriving DecidableEq, Repr, Inhabited

namespace TypeRef

def isCollection : TypeRef → Bool
  | collection _ => true
  | _ => false

def isMap : TypeRef → Bool
  | map _ _ => true
  | _ => false

/-- The element type of a collection. -/
def element? : TypeRef → Option TypeRef
  | collection element => some element
  | _ => none

/-- The value type of a map. -/
def mapValue? : TypeRef → Option TypeRef
  | map _ value => some value
  | _ => none

/-- The name of the type in which a property path continues. -/
def actualName : TypeRef → String
  | named name => name
  | collection element => element.actualName
  | map _ value => value.actualName

/-- The type as it is shown to the user. -/
def display : TypeRef → String
  | named name => name
  | collection element => "Vec<" ++ element.display ++ ">"
  | map key value => "Map<" ++ key.display ++ ", " ++ value.display ++ ">"

end TypeRef

end DerivedQuery
