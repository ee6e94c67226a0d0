import DerivedQuery.Entity

/-!
# Slots

A registry holds at most one *slot* per type name. A slot is pending while some builder constructs
the entity of the type, and ready once the entity is published. Three operations change the slots,
and each touches one name only:

* `claim` puts a pending slot where there was none;
* `publish` turns the slot of a type into a ready one;
* `release` removes a slot, so that a type whose construction failed can be tried again.

The sequential registry and the interleaved one share these operations; they differ in who calls
them and when.

## Main definitions

* `Slot`, `Slots`, `Slots.get?`, `Slots.claim`, `Slots.publish`, `Slots.release`
* `Slots.entities`: the published entities in ascending order of their names
-/

namespace DerivedQuery

/-- The state of one type in a registry. -/
inductive Slot where
  /-- Under construction by the given builder. -/
  | pending (builder : Nat)
  | ready (entity : Entity)
deriving DecidableEq, Repr, Inhabited

namespace Slot

/-- The entity of a ready slot. -/
def entity? : Slot → Option Entity
  | ready entity => some entity
  | pending _ => none

end Slot

/-- The slots of a registry, one per name at most. -/
abbrev Slots := List (String × Slot)

namespace Slots

def get? (slots : Slots) (name : String) : Option Slot :=
  slots.lookup name

/-- Removes the slot of a type. -/
def release (slots : Slots) (name : String) : Slots :=
  slots.filter fun entry => entry.1 != name

/-- Puts a slot in place of whatever the type had. -/
def set (slots : Slots) (name : String) (slot : Slot) : Slots :=
  (name, slot) :: slots.release name

/-- Marks a type as under construction. -/
def claim (slots : Slots) (name : String) (builder : Nat) : Slots :=
  slots.set name (.pending builder)

/-- Stores the entity of a type. -/
def publish (slots : Slots) (name : String) (entity : Entity) : Slots :=
  slots.set name (.ready entity)

/-- The published entities in ascending order of their names. -/
def entities (slots : Slots) : List Entity :=
  (slots.filterMap (·.2.entity?)).mergeSort fun a b => decide (a.typeName ≤ b.typeName)

/-- Whether the entity of a type is published. -/
def isReady (slots : Slots) (name : String) : Bool :=
  (slots.get? name).any (·.entity?.isSome)

/-! ## One equation per operation -/

theorem get?_cons (key name : String) (slot : Slot) (rest : Slots) :
    Slots.get? ((key, slot) :: rest) name = if name = key then some slot else Slots.get? rest name := by
  by_cases hName : name = key
  · simp [get?, hName]
  · have hBeq : (name == key) = false := by simpa using hName
    simp [get?, List.lookup_cons, hBeq, hName]

theorem get?_release (slots : Slots) (name other : String) :
    (slots.release name).get? other = if other = name then none else slots.get? other := by
  induction slots with
  | nil => simp [release, get?]
  | cons entry rest ih =>
      obtain ⟨key, slot⟩ := entry
      by_cases hKey : key = name
      · have hRelease : Slots.release ((key, slot) :: rest) name = Slots.release rest name := by
          simp [release, hKey]
        rw [hRelease, ih, get?_cons, hKey]
        split <;> rfl
      · have hRelease : Slots.release ((key, slot) :: rest) name =
            (key, slot) :: Slots.release rest name := by
          simp [release, hKey]
        rw [hRelease, get?_cons, get?_cons, ih]
        by_cases hOther : other = key
        · simp [hOther, hKey]
        · simp [hOther]

theorem get?_set (slots : Slots) (name other : String) (slot : Slot) :
    (slots.set name slot).get? other = if other = name then some slot else slots.get? other := by
  rw [set, get?_cons, get?_release]
  by_cases hName : other = name <;> simp [hName]

theorem get?_claim (slots : Slots) (name other : String) (builder : Nat) :
    (slots.claim name builder).get? other =
      if other = name then some (.pending builder) else slots.get? other :=
  get?_set slots name other (.pending builder)

theorem get?_publish (slots : Slots) (name other : String) (entity : Entity) :
    (slots.publish name entity).get? other =
      if other = name then some (.ready entity) else slots.get? other :=
  get?_set slots name other (.ready entity)

end Slots

end DerivedQuery
