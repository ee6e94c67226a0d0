import DerivedQuery.TypeRef

/-!
# Type descriptors

A descriptor is the raw description of one type: its name and its members in declaration order.
Nothing is checked here. A descriptor may be empty, repeat a member name or mark several members
as identifier; `Entity.ofDescriptor` is where those defects are found.
-/

namespace DerivedQuery

/-- One member of a type; `explicitId` holds for a member that is marked as the identifier. -/
structure MemberDescriptor where
  name : String
  declared : TypeRef
  explicitId : Bool := false
deriving DecidableEq, Repr, Inhabited

/-- The raw description of one type. -/
structure TypeDescriptor where
  name : String
  members : List MemberDescriptor
deriving DecidableEq, Repr, Inhabited

end DerivedQuery
