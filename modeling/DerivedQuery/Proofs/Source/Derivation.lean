import DerivedQuery.Proofs.Except
import DerivedQuery.Proofs.Source.Erasure
import DerivedQuery.Source.Scan

/-!
# Derived and scanned descriptors

A struct can be described twice: when it is built, if its author asks for it, and by a scan of its
sources. Both follow the same directives. The author's reading is the stricter one, so what it
accepts, the scan accepts as well, and both find the same name, the same members and the same
identifier. The declared types are the same as far as types have names. But a nameless type is told
apart by its tokens when it is derived, and is merely unknown to the scan, so the two descriptors
differ as soon as such a type shows in the declared type of a member.

## Main results

* `readDirectives_of_readsAlike`: what the strict reading accepts, the lenient one reads alike
* `describe_of_derive`: which descriptor a scan finds for a struct with a derived one
-/

namespace DerivedQuery.Source

/-! ## Directives -/

section Directives

variable {α : Type}

/-- What the first reader of a setting accepts, the second one reads alike. -/
def ReadsAlike
    (first second : Option String → α → List Tree → Except DirectiveError (α × List Tree)) : Prop :=
  ∀ name collected trees result, first name collected trees = .ok result →
    second name collected trees = .ok result

variable {first second : Option String → α → List Tree → Except DirectiveError (α × List Tree)}

private theorem readSettings_of_readsAlike (hAlike : ReadsAlike first second) (fuel : Nat)
    {collected : α} {trees : List Tree} {result : α}
    (hRead : readSettings .malformed first fuel collected trees = .ok result) :
    readSettings .malformed second fuel collected trees = .ok result := by
  induction fuel generalizing collected trees with
  | zero => exact hRead
  | succ fuel ih =>
      rw [readSettings] at hRead ⊢
      split
      · rename_i hEmpty
        rw [if_pos hEmpty] at hRead
        exact hRead
      · rename_i hEmpty
        rw [if_neg hEmpty] at hRead
        obtain ⟨⟨name, rest⟩, hName, hSetting⟩ := bind_eq_ok_iff.mp hRead
        obtain ⟨⟨next, behind⟩, hNext, hBehind⟩ := bind_eq_ok_iff.mp hSetting
        refine bind_eq_ok_iff.mpr ⟨(name, rest), hName,
          bind_eq_ok_iff.mpr ⟨(next, behind), hAlike _ _ _ _ hNext, ?_⟩⟩
        dsimp only at hBehind ⊢
        split at hBehind
        · exact hBehind
        · exact ih hBehind
        · simp at hBehind

/-- What the strict reading of directives accepts, the lenient one reads alike. -/
theorem readDirectives_of_readsAlike (hAlike : ReadsAlike first second) {initial : α}
    {attributes : List Attribute} {result : α}
    (hRead : readDirectives first initial attributes = .ok result) :
    readDirectives second initial attributes = .ok result := by
  unfold readDirectives at hRead ⊢
  generalize attributes.filter (·.word == some directiveName) = directives at hRead ⊢
  induction directives generalizing initial with
  | nil => exact hRead
  | cons directive rest ih =>
      rw [List.foldlM_cons] at hRead ⊢
      obtain ⟨next, hDirective, hRest⟩ := bind_eq_ok_iff.mp hRead
      refine bind_eq_ok_iff.mpr ⟨next, ?_, ih hRest⟩
      unfold Attribute.readSettings at hDirective ⊢
      split at hDirective
      · exact hDirective
      · exact hDirective
      · exact readSettings_of_readsAlike hAlike _ hDirective

private theorem readName_of_strict {empty : DirectiveError} {trees : List Tree}
    {result : String × List Tree} (hRead : readName .strict empty trees = .ok result) :
    readName .lenient empty trees = .ok result := by
  obtain ⟨⟨name, rest⟩, hValue, hName⟩ := bind_eq_ok_iff.mp hRead
  refine bind_eq_ok_iff.mpr ⟨(name, rest), hValue, ?_⟩
  dsimp only at hName ⊢
  split at hName
  · simp at hName
  · exact hName

private theorem readsAlike_readTypeSetting :
    ReadsAlike (readTypeSetting .strict) (readTypeSetting .lenient) := by
  intro name collected trees result hRead
  unfold readTypeSetting at hRead ⊢
  split at hRead
  · rename_i hName
    rw [if_pos hName]
    exact readName_of_strict hRead
  · simp at hRead

private theorem readsAlike_readFieldSetting :
    ReadsAlike (readFieldSetting .strict) (readFieldSetting .lenient) := by
  intro name collected trees result hRead
  unfold readFieldSetting at hRead ⊢
  split at hRead
  · exact hRead
  · exact hRead
  · obtain ⟨⟨name, rest⟩, hName, hResult⟩ := bind_eq_ok_iff.mp hRead
    exact bind_eq_ok_iff.mpr ⟨(name, rest), readName_of_strict hName, hResult⟩
  · simp at hRead

end Directives

/-! ## Members -/

/-- The members that annotated fields describe. -/
def membersOf (nameless : List Tree → String) (annotated : List (Field × FieldDirective)) :
    List MemberDescriptor :=
  annotated.filterMap fun (field, directive) => memberOf? nameless field directive

section Members

variable (first second : List Tree → String) (annotated : List (Field × FieldDirective))

/-- However nameless types are named, the members have the same names and marks. -/
theorem membersOf_alike :
    List.Forall₂ (fun one other => one.name = other.name ∧ one.explicitId = other.explicitId)
      (membersOf first annotated) (membersOf second annotated) := by
  induction annotated with
  | nil => exact .nil
  | cons entry rest ih =>
      obtain ⟨field, directive⟩ := entry
      cases hSkipped : directive.isSkipped with
      | true => simpa [membersOf, memberOf?, hSkipped] using ih
      | false => simpa [membersOf, memberOf?, hSkipped] using ih

/-- The members are the same if and only if the declared types of all fields are that are not
skipped. -/
theorem membersOf_eq_iff :
    membersOf first annotated = membersOf second annotated ↔
      ∀ entry ∈ annotated, entry.2.isSkipped = false →
        entry.1.type.erase first = entry.1.type.erase second := by
  induction annotated with
  | nil => simp [membersOf]
  | cons entry rest ih =>
      obtain ⟨field, directive⟩ := entry
      rw [List.forall_mem_cons, ← ih]
      cases hSkipped : directive.isSkipped with
      | true => simp [membersOf, memberOf?, hSkipped]
      | false => simp [membersOf, memberOf?, hSkipped]

end Members

/-! ## Descriptors -/

variable {declaration : Declaration} {derivation : Derivation}

private theorem readFieldDirective_of_deriveField {field : Field} {directive : FieldDirective}
    (hDerive : deriveField field = .ok directive) :
    readFieldDirective .strict field = .ok directive := by
  obtain ⟨read, hRead, hChecked⟩ := bind_eq_ok_iff.mp hDerive
  have hSame : read = directive := by
    split at hChecked
    · obtain ⟨_, hThrow, _⟩ := bind_eq_ok_iff.mp hChecked
      exact absurd hThrow throw_ne_ok
    · exact Except.ok.inj hChecked
  rw [← hSame]
  exact mapError_eq_ok_iff.mp hRead

/-- What a derivation has read. -/
theorem exists_annotated_of_derive (hDerive : declaration.derive = .ok derivation) :
    declaration.isGeneric = false ∧ ∃ fields annotated typeName,
      declaration.body = .record fields ∧
      readTypeName .strict declaration = .ok typeName ∧
      List.Forall₂ (fun field entry => entry.1 = field ∧
        readFieldDirective .strict field = .ok entry.2) fields annotated ∧
      derivation = ⟨declaration.name, ⟨typeName, membersOf writtenName annotated⟩⟩ := by
  unfold Declaration.derive at hDerive
  cases hGeneric : declaration.isGeneric with
  | true =>
      rw [hGeneric, if_pos rfl] at hDerive
      obtain ⟨_, hThrow, _⟩ := bind_eq_ok_iff.mp hDerive
      exact absurd hThrow throw_ne_ok
  | false =>
      rw [hGeneric, if_neg (by simp)] at hDerive
      obtain ⟨typeName, hName, hRest⟩ := bind_eq_ok_iff.mp hDerive
      cases hBody : declaration.body with
      | choice =>
          rw [hBody] at hRest
          exact absurd hRest throw_ne_ok
      | positional =>
          rw [hBody] at hRest
          exact absurd hRest throw_ne_ok
      | record fields =>
          rw [hBody] at hRest
          obtain ⟨annotated, hFields, hResult⟩ := bind_eq_ok_iff.mp hRest
          refine ⟨rfl, fields, annotated, typeName, rfl, mapError_eq_ok_iff.mp hName, ?_, ?_⟩
          · refine (mapM_eq_ok_iff.mp hFields).imp fun field entry hEntry => ?_
            obtain ⟨directive, hDirective, hSame⟩ := bind_eq_ok_iff.mp hEntry
            cases hSame
            exact ⟨rfl, readFieldDirective_of_deriveField hDirective⟩
          · dsimp only at hResult
            split at hResult
            · obtain ⟨_, hThrow, _⟩ := bind_eq_ok_iff.mp hResult
              exact absurd hThrow throw_ne_ok
            · exact (Except.ok.inj hResult).symm

/-- Each field stands among the annotated ones with what its directives say. -/
theorem mem_annotated_iff {fields : List Field} {annotated : List (Field × FieldDirective)}
    (hFields : List.Forall₂ (fun field entry => entry.1 = field ∧
      readFieldDirective .strict field = .ok entry.2) fields annotated) {field : Field}
    {directive : FieldDirective} :
    (field, directive) ∈ annotated ↔
      field ∈ fields ∧ readFieldDirective .strict field = .ok directive := by
  induction hFields with
  | nil => simp
  | @cons head entry rest others hHead _ ih =>
      obtain ⟨owner, read⟩ := entry
      obtain ⟨rfl, hRead⟩ := hHead
      rw [List.mem_cons, List.mem_cons, ih, Prod.mk.injEq]
      constructor
      · rintro (⟨rfl, rfl⟩ | ⟨hLater, hDirective⟩)
        · exact ⟨Or.inl rfl, hRead⟩
        · exact ⟨Or.inr hLater, hDirective⟩
      · rintro ⟨rfl | hLater, hDirective⟩
        · exact Or.inl ⟨rfl, Except.ok.inj (hDirective.symm.trans hRead)⟩
        · exact Or.inr ⟨hLater, hDirective⟩

/-- A scan reads what the derivation has read. -/
theorem describe_of_annotated {fields : List Field} {annotated : List (Field × FieldDirective)}
    {typeName : String} (hName : readTypeName .strict declaration = .ok typeName)
    (hFields : List.Forall₂ (fun field entry => entry.1 = field ∧
      readFieldDirective .strict field = .ok entry.2) fields annotated) :
    describe declaration fields = .ok ⟨typeName, membersOf unknownName annotated⟩ := by
  have hMembers : fields.mapM (fun field => do
      return memberOf? unknownName field (← readFieldDirective .lenient field)) =
        .ok (annotated.map fun (field, directive) => memberOf? unknownName field directive) := by
    rw [mapM_eq_ok_iff, List.forall₂_map_right_iff]
    refine hFields.imp fun field entry hEntry => ?_
    obtain ⟨rfl, hDirective⟩ := hEntry
    exact bind_eq_ok_iff.mpr
      ⟨entry.2, readDirectives_of_readsAlike readsAlike_readFieldSetting hDirective, rfl⟩
  refine bind_eq_ok_iff.mpr
    ⟨typeName, readDirectives_of_readsAlike readsAlike_readTypeSetting hName,
      bind_eq_ok_iff.mpr ⟨_, hMembers, ?_⟩⟩
  have hShown : (annotated.map fun (field, directive) =>
      memberOf? unknownName field directive).reduceOption = membersOf unknownName annotated :=
    List.filterMap_map
  rw [hShown]
  rfl

/-- **Which descriptor a scan finds** for a struct with a derived one. It always finds one, with the
same name and with the same members up to their declared types. The two descriptors are the same if
and only if no nameless type shows in a member, unless its tokens spell the name that a scan gives
it. -/
theorem describe_of_derive (hDerive : declaration.derive = .ok derivation) :
    declaration.isGeneric = false ∧ ∃ fields descriptor, declaration.body = .record fields ∧
      describe declaration fields = .ok descriptor ∧
      descriptor.name = derivation.descriptor.name ∧
      List.Forall₂ (fun scanned derived => scanned.name = derived.name ∧
        scanned.explicitId = derived.explicitId) descriptor.members derivation.descriptor.members ∧
      (descriptor = derivation.descriptor ↔
        ∀ field ∈ fields, ∀ directive, readFieldDirective .strict field = .ok directive →
          directive.isSkipped = false →
            ∀ trees ∈ field.type.nameless, writtenName trees = unknownName trees) := by
  obtain ⟨hGeneric, fields, annotated, typeName, hBody, hName, hFields, rfl⟩ :=
    exists_annotated_of_derive hDerive
  refine ⟨hGeneric, fields, _, hBody, describe_of_annotated hName hFields, rfl,
    membersOf_alike _ _ annotated, ?_⟩
  rw [TypeDescriptor.mk.injEq, and_iff_right rfl, membersOf_eq_iff]
  constructor
  · intro hSame field hField directive hDirective hShown trees hTrees
    have hErased := hSame _ ((mem_annotated_iff hFields).mpr ⟨hField, hDirective⟩) hShown
    exact (field.type.erase_eq_iff.mp hErased trees hTrees).symm
  · rintro hNames ⟨field, directive⟩ hEntry hShown
    obtain ⟨hField, hDirective⟩ := (mem_annotated_iff hFields).mp hEntry
    apply field.type.erase_eq_iff.mpr
    intro trees hTrees
    exact (hNames field hField directive hDirective hShown trees hTrees).symm

/-- The field of a struct `Pair`, as it is read from `struct Pair { point: (i32, i32) }`. -/
def point : Field :=
  { attributes := []
    name := "point"
    type := .other [.group .parenthesis [.word "i32", .mark ',' false, .word "i32"]] }

/-- A struct whose only field has a nameless type. -/
def pair : Declaration :=
  { attributes := []
    name := "Pair"
    isGeneric := false
    body := .record [point] }

/-- The scan does not find the derived descriptor of a pair, since its nameless type shows. -/
theorem describe_pair_ne :
    pair.derive = .ok ⟨"Pair", ⟨"Pair", [⟨"point", .named "(i32,i32)", false⟩]⟩⟩ ∧
      ∃ fields descriptor, pair.body = .record fields ∧ describe pair fields = .ok descriptor ∧
        descriptor ≠ ⟨"Pair", [⟨"point", .named "(i32,i32)", false⟩]⟩ := by
  have hDerive : pair.derive = .ok ⟨"Pair", ⟨"Pair", [⟨"point", .named "(i32,i32)", false⟩]⟩⟩ := by
    rfl
  obtain ⟨_, fields, descriptor, hBody, hDescribe, _, _, hSame⟩ := describe_of_derive hDerive
  refine ⟨hDerive, fields, descriptor, hBody, hDescribe, fun hEqual => ?_⟩
  cases hBody
  have hNames := hSame.mp hEqual point (List.mem_singleton_self _) ⟨"point", false, false⟩
    rfl rfl _ (List.mem_singleton_self _)
  exact absurd hNames (by decide +kernel)

/-- Not every struct with a derived descriptor is described by it when its sources are scanned. -/
theorem not_describe_of_derive :
    ¬ ∀ (declaration : Declaration) (derivation : Derivation) (fields : List Field),
      declaration.derive = .ok derivation → declaration.body = .record fields →
        describe declaration fields = .ok derivation.descriptor := by
  intro hAll
  have hDerive : pair.derive = .ok ⟨"Pair", ⟨"Pair", [⟨"point", .named "(i32,i32)", false⟩]⟩⟩ := by
    rfl
  have hScan : describe pair [point] = .ok ⟨"Pair", [⟨"point", .named "unknown", false⟩]⟩ := by
    rfl
  have hSame := hScan.symm.trans (hAll pair _ [point] hDerive rfl)
  simp at hSame

end DerivedQuery.Source
