import DerivedQuery.Project.Declarations
import DerivedQuery.Proofs.Tables
import Mathlib.Data.List.Induction

/-!
# Declarations that replace each other

A name may be declared again and again. Every declaration of it but the last one is lost, and the
last one stands where the first one stood. What is left after some declarations is determined by
two facts: the names are those that occurred, in the order in which they first occurred; and under
each name the last declaration of it is found. One more declaration keeps both facts, in its two
cases, and all that users of the declarations see follows from them.

Declarations need not be searched for a name each time. A *ledger* keeps the position of each name
beside the declarations; a position never changes, since a declaration is replaced in its place. So
one pass over the scanned types that follows positions gives the same declarations.

## Main definitions

* `StandsLast`: no later declaration has the same name
* `Merges`: what is left of some scanned types
* `Ledger`, `Ledger.ofScans`: declarations with the position of each name

## Main results

* `Merges.add`, `merges_ofScans`: one more declaration, and all of them
* `Ledger.Indexes.add`, `Ledger.types_ofScans`: positions lead to the same declarations
* `Declarations.ofScans_exact`: what is left of scanned types, and what is seen of it
-/

namespace DerivedQuery

namespace Project

open Source (ScannedType)

/-! ## The last declaration of a name -/

/-- The type is declared, and no later declaration has the same name. -/
def StandsLast (types : List ScannedType) (type : ScannedType) : Prop :=
  ∃ before after, types = before ++ type :: after ∧
    ∀ later ∈ after, later.descriptor.name ≠ type.descriptor.name

private theorem findRev?_eq_some_iff {types : List ScannedType} {name : String}
    {type : ScannedType} :
    types.findRev? (·.descriptor.name == name) = some type ↔
      StandsLast types type ∧ type.descriptor.name = name := by
  rw [List.findRev?_eq_find?_reverse, List.find?_eq_some_iff_append]
  constructor
  · rintro ⟨hName, after, before, hTypes, hAfter⟩
    obtain rfl := beq_iff_eq.mp hName
    refine ⟨⟨before.reverse, after.reverse, ?_, fun later hLater => ?_⟩, rfl⟩
    · rw [← List.reverse_reverse types, hTypes]
      simp
    · simpa using hAfter later (List.mem_reverse.mp hLater)
  · rintro ⟨⟨before, after, rfl, hAfter⟩, rfl⟩
    refine ⟨beq_self_eq_true _, after.reverse, before.reverse, by simp, fun later hLater => ?_⟩
    simpa using hAfter later (List.mem_reverse.mp hLater)

/-! ## What is left of some scanned types -/

/-- The declarations are what is left of some scanned types: the names stand in the order of their
first occurrence, and the last declaration of each name is found under it. -/
structure Merges (types : List ScannedType) (declarations : Declarations) : Prop where
  nodup : (declarations.types.map (·.descriptor.name)).Nodup
  names : declarations.types.map (·.descriptor.name) = (types.map (·.descriptor.name)).eraseDups
  find? : ∀ name, declarations.find? name = types.findRev? (·.descriptor.name == name)

private theorem merges_nil : Merges [] {} :=
  ⟨List.nodup_nil, rfl, fun _ => rfl⟩

section Merges

variable {types : List ScannedType} {declarations : Declarations}

/-- A later declaration is the last one of its own name and of no other. -/
theorem findRev?_append_singleton (types : List ScannedType) (type : ScannedType) (name : String) :
    (types ++ [type]).findRev? (·.descriptor.name == name) =
      if type.descriptor.name = name then some type
      else types.findRev? (·.descriptor.name == name) := by
  rw [List.findRev?_eq_find?_reverse, List.findRev?_eq_find?_reverse, List.reverse_append,
    List.reverse_singleton, List.singleton_append, List.find?_cons]
  by_cases hName : type.descriptor.name = name
  · rw [if_pos hName, hName, beq_self_eq_true]
  · rw [if_neg hName, beq_eq_false_iff_ne.mpr hName]

theorem Merges.mem_names (hMerges : Merges types declarations) {name : String} :
    name ∈ types.map (·.descriptor.name) ↔ name ∈ declarations.types.map (·.descriptor.name) := by
  rw [hMerges.names, List.mem_eraseDups]

theorem find?_eq_none_iff {name : String} :
    declarations.find? name = none ↔ name ∉ declarations.types.map (·.descriptor.name) := by
  rw [Declarations.find?, List.find?_eq_none, List.mem_map]
  simp

/-- A declaration of a new name is added at the end. -/
theorem Merges.add_fresh (hMerges : Merges types declarations) {type : ScannedType}
    (hFresh : declarations.find? type.descriptor.name = none) :
    Merges (types ++ [type]) (declarations.add type) := by
  have hMem := find?_eq_none_iff.mp hFresh
  have hNew : type.descriptor.name ∉ types.map (·.descriptor.name) := mt hMerges.mem_names.mp hMem
  rw [Declarations.add, hFresh]
  refine ⟨?_, ?_, fun name => ?_⟩
  · rw [List.map_append, List.nodup_append]
    refine ⟨hMerges.nodup, by simp, ?_⟩
    rintro name hName other hOther rfl
    rw [List.map_singleton, List.mem_singleton] at hOther
    exact hMem (hOther ▸ hName)
  · have hKept : [type.descriptor.name].removeAll (types.map (·.descriptor.name)) =
        [type.descriptor.name] := by
      rw [List.removeAll, List.filter_eq_self]
      simpa using hNew
    rw [List.map_append, List.map_append, List.eraseDups_append, List.map_singleton, hKept,
      hMerges.names]
    rfl
  · have hFound := hMerges.find? name
    rw [Declarations.find?] at hFound hFresh
    rw [Declarations.find?, findRev?_append_singleton, ← hFound, List.find?_append]
    by_cases hName : type.descriptor.name = name
    · subst hName
      simp [hFresh]
    · simp [hName]

/-- A declaration of a name that was declared before takes the place of the earlier one. -/
theorem Merges.add_repeated (hMerges : Merges types declarations) {type earlier : ScannedType}
    (hEarlier : declarations.find? type.descriptor.name = some earlier) :
    Merges (types ++ [type]) (declarations.add type) := by
  have hOld : type.descriptor.name ∈ types.map (·.descriptor.name) := by
    rw [hMerges.mem_names, ← Decidable.not_not (p := _ ∈ _), ← find?_eq_none_iff, hEarlier]
    simp
  -- a declaration is replaced by one of the same name
  have hName : ∀ other : ScannedType,
      (if other.descriptor.name == type.descriptor.name then type else other).descriptor.name =
        other.descriptor.name := by
    intro other
    split
    · rename_i hSame
      exact (beq_iff_eq.mp hSame).symm
    · rfl
  have hNames : (declarations.add type).types.map (·.descriptor.name) =
      declarations.types.map (·.descriptor.name) := by
    rw [Declarations.add, hEarlier, List.map_map]
    exact List.map_congr_left fun other _ => hName other
  refine ⟨hNames ▸ hMerges.nodup, ?_, fun name => ?_⟩
  · have hNone : [type.descriptor.name].removeAll (types.map (·.descriptor.name)) = [] := by
      rw [List.removeAll, List.filter_eq_nil_iff]
      simpa using hOld
    rw [hNames, hMerges.names, List.map_append, List.eraseDups_append, List.map_singleton, hNone]
    simp
  · have hFound := hMerges.find? name
    rw [findRev?_append_singleton, ← hFound, Declarations.add, hEarlier]
    rw [Declarations.find?] at hEarlier
    simp only [Declarations.find?]
    rw [List.find?_map]
    simp only [Function.comp_def, hName]
    by_cases hSame : type.descriptor.name = name
    · subst hSame
      rw [hEarlier, if_pos rfl, Option.map_some, if_pos (List.find?_some hEarlier)]
    · rw [if_neg hSame]
      cases hOther : declarations.types.find? (·.descriptor.name == name) with
      | none => rfl
      | some other =>
          have hOtherName : (other.descriptor.name == type.descriptor.name) = false := by
            have hFoundName : other.descriptor.name = name := by simpa using List.find?_some hOther
            rw [beq_eq_false_iff_ne, hFoundName]
            exact fun hBack => hSame hBack.symm
          rw [Option.map_some, hOtherName, if_neg Bool.false_ne_true]

/-- **One more declaration.** -/
theorem Merges.add (hMerges : Merges types declarations) (type : ScannedType) :
    Merges (types ++ [type]) (declarations.add type) := by
  cases hFound : declarations.find? type.descriptor.name with
  | none => exact hMerges.add_fresh hFound
  | some earlier => exact hMerges.add_repeated hFound

/-- **All declarations.** -/
theorem merges_ofScans (types : List ScannedType) : Merges types (.ofScans types) := by
  induction types using List.reverseRecOn with
  | nil => exact merges_nil
  | append_singleton types type ih =>
      rw [Declarations.ofScans, List.foldl_append, List.foldl_cons, List.foldl_nil]
      exact ih.add type

/-! ## What is seen of the declarations -/

/-- Under a name its last declaration is found. -/
theorem Merges.find?_eq_some_iff (hMerges : Merges types declarations) {name : String}
    {type : ScannedType} : declarations.find? name = some type ↔
      StandsLast types type ∧ type.descriptor.name = name := by
  rw [hMerges.find?, findRev?_eq_some_iff]

/-- The last declarations of all names are left. -/
theorem Merges.mem_iff (hMerges : Merges types declarations) {type : ScannedType} :
    type ∈ declarations.types ↔ StandsLast types type := by
  constructor
  · intro hType
    exact (hMerges.find?_eq_some_iff.mp (find?_of_nodup_map hMerges.nodup hType)).1
  · intro hLast
    exact List.mem_of_find?_eq_some (hMerges.find?_eq_some_iff.mpr ⟨hLast, rfl⟩)

/-- The descriptors that are left answer as all of them would. -/
theorem Merges.describe?_catalog (hMerges : Merges types declarations) (name : String) :
    declarations.catalog.describe? name =
      (Catalog.ofList (types.map (·.descriptor))).describe? name := by
  have hAll := hMerges.find? name
  rw [List.findRev?_eq_find?_reverse] at hAll
  have hOne : declarations.types.reverse.find? (·.descriptor.name == name) =
      declarations.find? name := by
    have hNodup : (declarations.types.reverse.map (·.descriptor.name)).Nodup := by
      rw [List.map_reverse, List.nodup_reverse]
      exact hMerges.nodup
    cases hFound : declarations.find? name with
    | none =>
        rw [Declarations.find?, List.find?_eq_none] at hFound
        exact List.find?_eq_none.mpr fun type hType => hFound type (List.mem_reverse.mp hType)
    | some type =>
        rw [Declarations.find?] at hFound
        obtain rfl : type.descriptor.name = name := by simpa using List.find?_some hFound
        exact find?_of_nodup_map hNodup (List.mem_reverse.mpr (List.mem_of_find?_eq_some hFound))
  rw [Declarations.catalog, Catalog.describe?_ofList, Catalog.describe?_ofList,
    List.findRev?_eq_find?_reverse, List.findRev?_eq_find?_reverse, ← List.map_reverse,
    ← List.map_reverse, List.find?_map, List.find?_map]
  exact congrArg (Option.map _) (hOne.trans hAll)

/-- The names of the entities are those of the last declarations that ask for a descriptor, or of all
of them if none does. -/
theorem Merges.mem_entityNames (hMerges : Merges types declarations) {name : String} :
    name ∈ declarations.entityNames ↔
      ∃ type, StandsLast types type ∧ type.descriptor.name = name ∧
        (type.derivesEntity = true ∨ ∀ other, StandsLast types other → other.derivesEntity = false) := by
  have hNone : (declarations.types.filter (·.derivesEntity)).isEmpty = true ↔
      ∀ other, StandsLast types other → other.derivesEntity = false := by
    simp [List.isEmpty_iff, List.filter_eq_nil_iff, hMerges.mem_iff]
  rw [Declarations.entityNames]
  split
  · rename_i hEmpty
    have hAll := hNone.mp hEmpty
    simp only [List.mem_map, hMerges.mem_iff]
    exact ⟨fun ⟨type, hLast, hName⟩ => ⟨type, hLast, hName, Or.inr hAll⟩,
      fun ⟨type, hLast, hName, _⟩ => ⟨type, hLast, hName⟩⟩
  · rename_i hSome
    have hSomeone := mt hNone.mpr hSome
    simp only [List.mem_map, List.mem_filter, hMerges.mem_iff]
    exact ⟨fun ⟨type, ⟨hLast, hDerives⟩, hName⟩ => ⟨type, hLast, hName, Or.inl hDerives⟩,
      fun ⟨type, hLast, hName, hEither⟩ =>
        ⟨type, ⟨hLast, hEither.resolve_right hSomeone⟩, hName⟩⟩

/-- The names of the entities are among all names, in the same order. -/
theorem entityNames_sublist (declarations : Declarations) :
    declarations.entityNames.Sublist (declarations.types.map (·.descriptor.name)) := by
  rw [Declarations.entityNames]
  split
  · exact List.Sublist.refl _
  · exact List.filter_sublist.map _

end Merges

/-! ## Positions -/

/-- Declarations with the position of each name. -/
structure Ledger where
  types : List ScannedType := []
  positions : List (String × Nat) := []
deriving Repr

namespace Ledger

def position? (ledger : Ledger) (name : String) : Option Nat :=
  ledger.positions.lookup name

/-- Adds a declaration at the position of its name, or at a new position behind all others. -/
def add (ledger : Ledger) (type : ScannedType) : Ledger :=
  match ledger.position? type.descriptor.name with
  | some position => { ledger with types := ledger.types.set position type }
  | none =>
      { types := ledger.types ++ [type]
        positions := (type.descriptor.name, ledger.types.length) :: ledger.positions }

/-- The ledger of some scanned types. -/
def ofScans (types : List ScannedType) : Ledger :=
  types.foldl add {}

/-- The ledger holds these declarations, and its positions are those at which a search would find the
names. -/
structure Indexes (declarations : Declarations) (ledger : Ledger) : Prop where
  types : ledger.types = declarations.types
  position? : ∀ name, ledger.position? name =
    declarations.types.findIdx? (·.descriptor.name == name)

private theorem indexes_nil : Indexes {} {} :=
  ⟨rfl, fun _ => rfl⟩

end Ledger

/-- If no name occurs twice, replacing everything of a name is replacing what is at its position. -/
theorem map_replace_eq_set {types : List ScannedType} {type : ScannedType} {position : Nat}
    (hNodup : (types.map (·.descriptor.name)).Nodup)
    (hPosition : types.findIdx? (·.descriptor.name == type.descriptor.name) = some position) :
    (types.map fun earlier =>
      if earlier.descriptor.name == type.descriptor.name then type else earlier) =
        types.set position type := by
  induction types generalizing position with
  | nil => simp at hPosition
  | cons first rest ih =>
      rw [List.map_cons, List.nodup_cons] at hNodup
      rw [List.findIdx?_cons] at hPosition
      cases hFirst : first.descriptor.name == type.descriptor.name with
      | true =>
          rw [hFirst, if_pos rfl, Option.some.injEq] at hPosition
          subst hPosition
          have hRest : ∀ other ∈ rest,
              (if other.descriptor.name == type.descriptor.name then type else other) = other := by
            intro other hOther
            rw [if_neg]
            intro hSame
            apply hNodup.1
            rw [beq_iff_eq.mp hFirst, ← beq_iff_eq.mp hSame]
            exact List.mem_map_of_mem hOther
          rw [List.map_cons, hFirst, if_pos rfl, List.map_congr_left hRest, List.map_id',
            List.set_cons_zero]
      | false =>
          rw [hFirst, if_neg Bool.false_ne_true, Option.map_eq_some_iff] at hPosition
          obtain ⟨behind, hBehind, rfl⟩ := hPosition
          rw [List.map_cons, hFirst, if_neg Bool.false_ne_true, List.set_cons_succ,
            ih hNodup.2 hBehind]

namespace Ledger

variable {declarations : Declarations} {ledger : Ledger}

/-- **One more declaration** is added where a search would put it. -/
theorem Indexes.add (hIndexes : Indexes declarations ledger)
    (hNodup : (declarations.types.map (·.descriptor.name)).Nodup) (type : ScannedType) :
    Indexes (declarations.add type) (ledger.add type) := by
  have hHere := hIndexes.position? type.descriptor.name
  rw [Ledger.add, Declarations.add, Declarations.find?, List.find?_eq_bind_findIdx?_getElem?]
  cases hPosition : declarations.types.findIdx? (·.descriptor.name == type.descriptor.name) with
  | none =>
      rw [hHere, hPosition]
      refine ⟨by simp [hIndexes.types], fun name => ?_⟩
      have hOld := hIndexes.position? name
      rw [Ledger.position?] at hOld
      dsimp only [Option.bind_none]
      rw [Ledger.position?, List.lookup_cons, hOld, hIndexes.types, List.findIdx?_append,
        List.findIdx?_singleton]
      cases hSame : name == type.descriptor.name with
      | true =>
          obtain rfl := beq_iff_eq.mp hSame
          simp [hPosition]
      | false =>
          have hOther : (type.descriptor.name == name) = false := by
            rw [beq_eq_false_iff_ne] at hSame ⊢
            exact hSame.symm
          simp [hOther]
  | some position =>
      obtain ⟨hLess, _⟩ := List.findIdx?_eq_some_iff_getElem.mp hPosition
      rw [hHere, hPosition, Option.bind_some, List.getElem?_eq_getElem hLess]
      refine ⟨?_, fun name => ?_⟩
      · rw [hIndexes.types]
        exact (map_replace_eq_set hNodup hPosition).symm
      · -- a declaration is replaced by one of the same name, so no position changes
        have hKept : ∀ other : ScannedType, ((if other.descriptor.name == type.descriptor.name
            then type else other).descriptor.name == name) = (other.descriptor.name == name) := by
          intro other
          split
          · rename_i hSame
            rw [beq_iff_eq.mp hSame]
          · rfl
        have hOld := hIndexes.position? name
        rw [Ledger.position?] at hOld
        rw [Ledger.position?, hOld]
        dsimp only
        rw [List.findIdx?_map]
        simp only [Function.comp_def, hKept]

/-- **All declarations**: following positions gives what searching gives. -/
theorem indexes_ofScans (types : List ScannedType) :
    Indexes (Declarations.ofScans types) (ofScans types) := by
  induction types using List.reverseRecOn with
  | nil => exact indexes_nil
  | append_singleton types type ih =>
      rw [Declarations.ofScans, ofScans, List.foldl_append, List.foldl_append, List.foldl_cons,
        List.foldl_cons, List.foldl_nil, List.foldl_nil]
      exact ih.add (merges_ofScans types).nodup type

theorem types_ofScans (types : List ScannedType) :
    (ofScans types).types = (Declarations.ofScans types).types :=
  (indexes_ofScans types).types

end Ledger

/-! ## All that is seen -/

namespace Declarations

/-- **What is left of scanned types.** Each name is left once, in the order in which the names first
occurred, with its last declaration, which is also what is found under the name. The descriptors that
are left answer as if all descriptors had been registered in order. The entities are named after the
last declarations that ask for it, or after all of them if none does, and no name is repeated. A
single pass that keeps the position of each name gives the same declarations. -/
theorem ofScans_exact (types : List ScannedType) :
    ((ofScans types).types.map (·.descriptor.name) = (types.map (·.descriptor.name)).eraseDups ∧
        ((ofScans types).types.map (·.descriptor.name)).Nodup ∧
        ∀ type, type ∈ (ofScans types).types ↔ StandsLast types type) ∧
      (∀ name type, (ofScans types).find? name = some type ↔
        StandsLast types type ∧ type.descriptor.name = name) ∧
      (∀ name, (ofScans types).catalog.describe? name =
        (Catalog.ofList (types.map (·.descriptor))).describe? name) ∧
      ((ofScans types).entityNames.Nodup ∧ ∀ name, name ∈ (ofScans types).entityNames ↔
        ∃ type, StandsLast types type ∧ type.descriptor.name = name ∧
          (type.derivesEntity = true ∨
            ∀ other, StandsLast types other → other.derivesEntity = false)) ∧
      (Ledger.ofScans types).types = (ofScans types).types := by
  have hMerges := merges_ofScans types
  exact ⟨⟨hMerges.names, hMerges.nodup, fun _ => hMerges.mem_iff⟩,
    fun _ _ => hMerges.find?_eq_some_iff, hMerges.describe?_catalog,
    ⟨(entityNames_sublist _).nodup hMerges.nodup, fun _ => hMerges.mem_entityNames⟩,
    Ledger.types_ofScans types⟩

end Declarations

end Project

end DerivedQuery
