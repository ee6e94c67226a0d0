import DerivedQuery.Source.Scan
import Mathlib.Data.List.Basic

/-!
# Wrappers do not show

An optional value, a shared one or a borrowed one is still a value of the same type, so a property
path must not see how a declaration wraps its types. The wrappers may stand anywhere in a written
type: around the element of a container, around the second type argument behind a lifetime and a
constant, inside another wrapper, or in a place that erasure does not read at all.

Two views of a written type make this precise. Seen from a type inside it, the whole is a list of
layers around that type (`Layer`), and erasure of the whole depends on the inner type only through
its own erasure. Seen as a whole, a type has an unwrapped form, in which no wrapper is left, and
erasure is a function of that form.

Some trees are kept as they are written: those of a nameless type, of what leads to the last segment
of a path, of an argument that is no type, and of a length. A scan does not tell any two of them
apart. So a layer may put the inner type among such trees in any way, and the unwrapped form may
change them in any way. Arguments in parentheses, as in `Fn(T) -> U`, are not even kept.

## Main results

* `erase_surround`: erasure of the whole depends on erasure of the part
* `unwrapped_surround`: a wrapper at any depth does not change the unwrapped form
* `SourceType.erase_unwrapped`: neither does unwrapping change the declared type
* `SourceType.isUnwrapped_unwrapped`, `SourceType.unwrapped_of_isUnwrapped`: all wrappers are missing
  in the unwrapped form, and nothing else
* `erase_transparent`: the wrappers are transparent at any depth, and no other path is
* `scanDeclaration_unwrapped`: a scan finds a struct as if it had been declared without wrappers
-/

namespace DerivedQuery.Source

/-! ## The type arguments of a path -/

/-- The arguments that are types, in their order. -/
def typeArguments (arguments : List Argument) : List SourceType :=
  arguments.filterMap fun
    | .type type => some type
    | .other _ => none

private theorem typeArguments_append (before after : List Argument) :
    typeArguments (before ++ after) = typeArguments before ++ typeArguments after :=
  List.filterMap_append

@[simp]
theorem typeArguments_type (type : SourceType) (rest : List Argument) :
    typeArguments (.type type :: rest) = type :: typeArguments rest :=
  rfl

@[simp]
theorem typeArguments_other (trees : List Tree) (rest : List Argument) :
    typeArguments (.other trees :: rest) = typeArguments rest :=
  rfl

/-- Only the arguments that are types have declared types. -/
theorem eraseArguments_eq (nameless : List Tree → String) (arguments : List Argument) :
    eraseArguments nameless arguments =
      (typeArguments arguments).map (SourceType.erase nameless) := by
  induction arguments with
  | nil => rfl
  | cons argument rest ih =>
      cases argument with
      | type type => rw [eraseArguments, ih, typeArguments_type, List.map_cons]
      | other trees => rw [eraseArguments, ih, typeArguments_other]

/-! ## Wrappers -/

/-- One wrapper around a type: a reference, parentheses, or a path with a wrapper's name, whatever
leads to it. The type is the first type argument of such a path; lifetimes may precede it, and an
allocator may follow. -/
inductive SourceType.Wraps : SourceType → SourceType → Prop where
  | reference (inner : SourceType) : Wraps (.reference inner) inner
  | parenthesized (inner : SourceType) : Wraps (.parenthesized inner) inner
  | path (qualifier : List Tree) {name : String} (hName : name ∈ wrappers) {before : List Argument}
      (hBefore : typeArguments before = []) (inner : SourceType) (after : List Argument) :
      Wraps (.path qualifier name (before ++ .type inner :: after)) inner

private theorem typeArguments_first {before : List Argument} (hBefore : typeArguments before = [])
    (inner : SourceType) (after : List Argument) :
    typeArguments (before ++ .type inner :: after) = inner :: typeArguments after := by
  rw [typeArguments_append, hBefore, List.nil_append, typeArguments_type]

private theorem erasePath_wrapper {name : String} (hName : name ∈ wrappers)
    (arguments : List TypeRef) :
    erasePath name arguments = arguments.headD (.named name) :=
  if_pos (List.contains_iff_mem.mpr hName)

/-- A wrapper has the declared type of what it wraps. -/
theorem SourceType.Wraps.erase_eq {wrapped inner : SourceType} (hWraps : wrapped.Wraps inner)
    (nameless : List Tree → String) : wrapped.erase nameless = inner.erase nameless := by
  cases hWraps with
  | reference => rw [SourceType.erase]
  | parenthesized => rw [SourceType.erase]
  | path qualifier hName hBefore _ after =>
      rw [SourceType.erase, eraseArguments_eq, typeArguments_first hBefore, erasePath_wrapper hName,
        List.map_cons, List.headD_cons]

/-- A path is transparent for its first type argument only if it has a wrapper's name: any other
path is told apart from a slice that it holds. -/
theorem mem_wrappers_of_erase_eq {qualifier : List Tree} {name : String}
    {before after : List Argument} (hBefore : typeArguments before = [])
    (hErase : ∀ inner : SourceType,
      (SourceType.path qualifier name (before ++ .type inner :: after)).erase unknownName =
        inner.erase unknownName) : name ∈ wrappers := by
  by_contra hName
  have hSlice := hErase (.slice (.other []))
  rw [SourceType.erase, eraseArguments_eq, typeArguments_first hBefore, List.map_cons, erasePath,
    if_neg (by simpa using hName)] at hSlice
  simp only [SourceType.erase] at hSlice
  -- a collection of collections, a map or a named type: never a collection of a named type
  split at hSlice
  · simp at hSlice
  · split at hSlice
    · split at hSlice <;> simp at hSlice
    · simp at hSlice

/-! ## Layers -/

/-- A place for a type inside another one. Where the type stands among trees that are kept as they
are written, the layer says how these trees depend on it. -/
inductive Layer where
  | reference
  | parenthesized
  | slice
  | array (length : List Tree)
  /-- An argument of a path, among other arguments. -/
  | argument (qualifier : List Tree) (name : String) (before after : List Argument)
  /-- In what leads to the last segment of a path, as `T` in `<T as Iterator>::Item`. -/
  | leading (trees : SourceType → List Tree) (name : String) (arguments : List Argument)
  /-- In an argument that is no type, as `T` in `Iterator<Item = T>`. -/
  | binding (qualifier : List Tree) (name : String) (before : List Argument)
      (trees : SourceType → List Tree) (after : List Argument)
  /-- In the length of an array, as `T` in `[u8; size_of::<T>()]`. -/
  | size (element : SourceType) (trees : SourceType → List Tree)
  /-- In a type without a name, as `T` in `(T, u8)`. -/
  | nameless (trees : SourceType → List Tree)

/-- The type that a layer makes of the type inside it. -/
def Layer.around (inner : SourceType) : Layer → SourceType
  | reference => .reference inner
  | parenthesized => .parenthesized inner
  | slice => .slice inner
  | array length => .array inner length
  | argument qualifier name before after => .path qualifier name (before ++ .type inner :: after)
  | leading trees name arguments => .path (trees inner) name arguments
  | binding qualifier name before trees after =>
      .path qualifier name (before ++ .other (trees inner) :: after)
  | size element trees => .array element (trees inner)
  | nameless trees => .other (trees inner)

/-- The type that several layers make of the type inside them, the outermost layer first. -/
def surround (layers : List Layer) (inner : SourceType) : SourceType :=
  layers.foldr (fun layer type => layer.around type) inner

variable {one other : SourceType}

/-- Through one layer, a type shows by its declared type only. -/
theorem Layer.erase_around (layer : Layer)
    (hSame : one.erase unknownName = other.erase unknownName) :
    (layer.around one).erase unknownName = (layer.around other).erase unknownName := by
  cases layer with
  | reference => simpa only [around, SourceType.erase] using hSame
  | parenthesized => simpa only [around, SourceType.erase] using hSame
  | slice => rw [around, around, SourceType.erase, SourceType.erase, hSame]
  | array length => rw [around, around, SourceType.erase, SourceType.erase, hSame]
  | argument qualifier name before after =>
      simp only [around, SourceType.erase, eraseArguments_eq, typeArguments_append,
        typeArguments_type, List.map_append, List.map_cons, hSame]
  -- in the other places, erasure does not look at the trees
  | leading trees name arguments => simp only [around, SourceType.erase]
  | binding qualifier name before trees after =>
      simp only [around, SourceType.erase, eraseArguments_eq, typeArguments_append,
        typeArguments_other]
  | size element trees => simp only [around, SourceType.erase]
  | nameless trees => simp only [around, SourceType.erase, unknownName]

/-- **At any depth, a type shows by its declared type only.** -/
theorem erase_surround (layers : List Layer)
    (hSame : one.erase unknownName = other.erase unknownName) :
    (surround layers one).erase unknownName = (surround layers other).erase unknownName := by
  induction layers with
  | nil => exact hSame
  | cons layer layers ih => exact layer.erase_around ih

/-! ## Unwrapped types -/

section Unwrapped

variable (strip : List Tree → List Tree)

mutual

/-- The type without all its wrappers; the trees that are kept as they are written are stripped of
theirs by a function. -/
def SourceType.unwrapped : SourceType → SourceType
  | .path qualifier name arguments =>
      let bare := .path (strip qualifier) name (unwrappedArguments arguments)
      if wrappers.contains name then (typeArguments (unwrappedArguments arguments)).headD bare
      else bare
  | .reference target => target.unwrapped
  | .parenthesized inner => inner.unwrapped
  | .slice element => .slice element.unwrapped
  | .array element length => .array element.unwrapped (strip length)
  | .other trees => .other (strip trees)

/-- Arguments without their wrappers. -/
def unwrappedArguments : List Argument → List Argument
  | [] => []
  | .type type :: rest => .type type.unwrapped :: unwrappedArguments rest
  | .other trees :: rest => .other (strip trees) :: unwrappedArguments rest

end

private theorem typeArguments_unwrappedArguments (arguments : List Argument) :
    typeArguments (unwrappedArguments strip arguments) =
      (typeArguments arguments).map (SourceType.unwrapped strip) := by
  induction arguments with
  | nil => rfl
  | cons argument rest ih =>
      cases argument with
      | type type =>
          rw [unwrappedArguments, typeArguments_type, ih, typeArguments_type, List.map_cons]
      | other trees => rw [unwrappedArguments, typeArguments_other, ih, typeArguments_other]

private theorem unwrappedArguments_append (before after : List Argument) :
    unwrappedArguments strip (before ++ after) =
      unwrappedArguments strip before ++ unwrappedArguments strip after := by
  induction before with
  | nil => rw [unwrappedArguments, List.nil_append, List.nil_append]
  | cons argument rest ih =>
      cases argument with
      | type type =>
          rw [List.cons_append, unwrappedArguments, unwrappedArguments, ih, List.cons_append]
      | other trees =>
          rw [List.cons_append, unwrappedArguments, unwrappedArguments, ih, List.cons_append]

/-! ### Wrappers and unwrapped forms -/

/-- A wrapper has the unwrapped form of what it wraps. -/
theorem SourceType.Wraps.unwrapped_eq {wrapped inner : SourceType} (hWraps : wrapped.Wraps inner) :
    wrapped.unwrapped strip = inner.unwrapped strip := by
  cases hWraps with
  | reference => rw [SourceType.unwrapped]
  | parenthesized => rw [SourceType.unwrapped]
  | path qualifier hName hBefore _ after =>
      rw [SourceType.unwrapped, if_pos (List.contains_iff_mem.mpr hName),
        typeArguments_unwrappedArguments, typeArguments_first hBefore, List.map_cons,
        List.headD_cons]

/-- A layer does not bring out a difference between unwrapped forms, as long as stripped trees show
none. -/
theorem Layer.unwrapped_around (hStrip : ∀ trees others, strip trees = strip others)
    (layer : Layer) (hSame : one.unwrapped strip = other.unwrapped strip) :
    (layer.around one).unwrapped strip = (layer.around other).unwrapped strip := by
  cases layer with
  | reference => simpa only [around, SourceType.unwrapped] using hSame
  | parenthesized => simpa only [around, SourceType.unwrapped] using hSame
  | slice => rw [around, around, SourceType.unwrapped, SourceType.unwrapped, hSame]
  | array length => rw [around, around, SourceType.unwrapped, SourceType.unwrapped, hSame]
  | argument qualifier name before after =>
      simp only [around, SourceType.unwrapped, unwrappedArguments_append, unwrappedArguments, hSame]
  | leading trees name arguments =>
      rw [around, around, SourceType.unwrapped, SourceType.unwrapped, hStrip]
  | binding qualifier name before trees after =>
      simp only [around, SourceType.unwrapped, unwrappedArguments_append, unwrappedArguments,
        hStrip (trees one) (trees other)]
  | size element trees =>
      rw [around, around, SourceType.unwrapped, SourceType.unwrapped, hStrip]
  | nameless trees =>
      rw [around, around, SourceType.unwrapped, SourceType.unwrapped, hStrip]

/-- **A wrapper at any depth does not change the unwrapped form.** -/
theorem unwrapped_surround (hStrip : ∀ trees others, strip trees = strip others)
    (layers : List Layer) {wrapped inner : SourceType} (hWraps : wrapped.Wraps inner) :
    (surround layers wrapped).unwrapped strip = (surround layers inner).unwrapped strip := by
  induction layers with
  | nil => exact hWraps.unwrapped_eq strip
  | cons layer layers ih => exact layer.unwrapped_around strip hStrip ih

/-! ### The declared type of the unwrapped form -/

mutual

/-- **The unwrapped form has the same declared type.** -/
theorem SourceType.erase_unwrapped : (type : SourceType) →
    (type.unwrapped strip).erase unknownName = type.erase unknownName
  | .path qualifier name arguments => by
      have hArguments := eraseArguments_unwrappedArguments arguments
      rw [SourceType.unwrapped, SourceType.erase, ← hArguments, eraseArguments_eq]
      by_cases hName : name ∈ wrappers
      · rw [if_pos (List.contains_iff_mem.mpr hName), erasePath_wrapper hName]
        cases hTypes : typeArguments (unwrappedArguments strip arguments) with
        | nil =>
            -- with nothing to wrap, the path is a named type before and after
            rw [List.headD_nil, SourceType.erase, eraseArguments_eq, hTypes,
              erasePath_wrapper hName]
        | cons inner rest => rw [List.headD_cons, List.map_cons, List.headD_cons]
      · rw [if_neg (by simpa using hName), SourceType.erase, eraseArguments_eq]
  | .reference target => by
      rw [SourceType.unwrapped, SourceType.erase]
      exact target.erase_unwrapped
  | .parenthesized inner => by
      rw [SourceType.unwrapped, SourceType.erase]
      exact inner.erase_unwrapped
  | .slice element => by
      rw [SourceType.unwrapped, SourceType.erase, SourceType.erase, element.erase_unwrapped]
  | .array element _ => by
      rw [SourceType.unwrapped, SourceType.erase, SourceType.erase, element.erase_unwrapped]
  | .other _ => by
      rw [SourceType.unwrapped, SourceType.erase, SourceType.erase, unknownName, unknownName]

/-- The same for the arguments of a path. -/
theorem eraseArguments_unwrappedArguments : (arguments : List Argument) →
    eraseArguments unknownName (unwrappedArguments strip arguments) =
      eraseArguments unknownName arguments
  | [] => by rw [unwrappedArguments]
  | .type type :: rest => by
      rw [unwrappedArguments, eraseArguments, eraseArguments, type.erase_unwrapped,
        eraseArguments_unwrappedArguments rest]
  | .other _ :: rest => by
      rw [unwrappedArguments, eraseArguments, eraseArguments,
        eraseArguments_unwrappedArguments rest]

end

/-! ### What is left in the unwrapped form -/

mutual

/-- No wrapper is left in a type: a path with a wrapper's name has nothing to wrap. -/
def SourceType.IsUnwrapped : SourceType → Prop
  | .path _ name arguments =>
      AreUnwrapped arguments ∧ (name ∈ wrappers → typeArguments arguments = [])
  | .reference _ => False
  | .parenthesized _ => False
  | .slice element => element.IsUnwrapped
  | .array element _ => element.IsUnwrapped
  | .other _ => True

/-- No wrapper is left in arguments. -/
def AreUnwrapped : List Argument → Prop
  | [] => True
  | .type type :: rest => type.IsUnwrapped ∧ AreUnwrapped rest
  | .other _ :: rest => AreUnwrapped rest

end

theorem AreUnwrapped.of_mem {arguments : List Argument} (hArguments : AreUnwrapped arguments)
    {type : SourceType} (hType : type ∈ typeArguments arguments) : type.IsUnwrapped := by
  induction arguments with
  | nil => simp [typeArguments] at hType
  | cons argument rest ih =>
      cases argument with
      | other trees => exact ih hArguments hType
      | type head =>
          rw [typeArguments_type, List.mem_cons] at hType
          obtain rfl | hRest := hType
          · exact hArguments.1
          · exact ih hArguments.2 hRest

mutual

/-- **The unwrapped form is without wrappers.** -/
theorem SourceType.isUnwrapped_unwrapped : (type : SourceType) →
    (type.unwrapped strip).IsUnwrapped
  | .path qualifier name arguments => by
      have hArguments := areUnwrapped_unwrappedArguments arguments
      rw [SourceType.unwrapped]
      by_cases hName : name ∈ wrappers
      · rw [if_pos (List.contains_iff_mem.mpr hName)]
        cases hTypes : typeArguments (unwrappedArguments strip arguments) with
        | nil => exact ⟨hArguments, fun _ => hTypes⟩
        | cons inner rest =>
            rw [List.headD_cons]
            exact hArguments.of_mem (hTypes.symm ▸ List.mem_cons_self)
      · rw [if_neg (by simpa using hName)]
        exact ⟨hArguments, fun hWrapper => absurd hWrapper hName⟩
  | .reference target => by
      rw [SourceType.unwrapped]
      exact target.isUnwrapped_unwrapped
  | .parenthesized inner => by
      rw [SourceType.unwrapped]
      exact inner.isUnwrapped_unwrapped
  | .slice element => by
      rw [SourceType.unwrapped]
      exact element.isUnwrapped_unwrapped
  | .array element _ => by
      rw [SourceType.unwrapped]
      exact element.isUnwrapped_unwrapped
  | .other _ => by
      rw [SourceType.unwrapped]
      trivial

/-- The same for the arguments of a path. -/
theorem areUnwrapped_unwrappedArguments : (arguments : List Argument) →
    AreUnwrapped (unwrappedArguments strip arguments)
  | [] => by
      rw [unwrappedArguments]
      trivial
  | .type type :: rest => by
      rw [unwrappedArguments]
      exact ⟨type.isUnwrapped_unwrapped, areUnwrapped_unwrappedArguments rest⟩
  | .other _ :: rest => by
      rw [unwrappedArguments]
      exact areUnwrapped_unwrappedArguments rest

end

mutual

/-- Nothing but wrappers is missing in the unwrapped form: a type without any is its own. -/
theorem SourceType.unwrapped_of_isUnwrapped : (type : SourceType) → type.IsUnwrapped →
    type.unwrapped id = type
  | .path qualifier name arguments, hType => by
      obtain ⟨hArguments, hWrapper⟩ := hType
      rw [SourceType.unwrapped, unwrappedArguments_of_areUnwrapped arguments hArguments]
      split
      · rename_i hName
        rw [hWrapper (List.contains_iff_mem.mp hName), List.headD_nil, id]
      · rw [id]
  | .slice element, hType => by
      rw [SourceType.unwrapped, element.unwrapped_of_isUnwrapped hType]
  | .array element length, hType => by
      rw [SourceType.unwrapped, element.unwrapped_of_isUnwrapped hType, id]
  | .other trees, _ => by rw [SourceType.unwrapped, id]

/-- The same for the arguments of a path. -/
theorem unwrappedArguments_of_areUnwrapped : (arguments : List Argument) →
    AreUnwrapped arguments → unwrappedArguments id arguments = arguments
  | [], _ => by rw [unwrappedArguments]
  | .type type :: rest, hArguments => by
      rw [unwrappedArguments, type.unwrapped_of_isUnwrapped hArguments.1,
        unwrappedArguments_of_areUnwrapped rest hArguments.2]
  | .other trees :: rest, hArguments => by
      rw [unwrappedArguments, unwrappedArguments_of_areUnwrapped rest hArguments, id]

end

end Unwrapped

/-! ## Scans -/

section Scans

variable (strip : List Tree → List Tree)

/-- The field with an unwrapped type. -/
def Field.unwrapped (field : Field) : Field :=
  { field with type := field.type.unwrapped strip }

/-- What is declared, with unwrapped types. -/
def Body.unwrapped : Body → Body
  | record fields => record (fields.map (·.unwrapped strip))
  | positional => positional
  | choice => choice

/-- The declaration with unwrapped types. -/
def Declaration.unwrapped (declaration : Declaration) : Declaration :=
  { declaration with body := declaration.body.unwrapped strip }

/-- A field describes the same member without its wrappers. -/
theorem memberOf?_unwrapped (field : Field) (directive : FieldDirective) :
    memberOf? unknownName (field.unwrapped strip) directive =
      memberOf? unknownName field directive := by
  simp only [memberOf?, Field.unwrapped, SourceType.erase_unwrapped]

/-- Fields are described alike without their wrappers, or refused alike. -/
theorem describe_unwrapped (declaration : Declaration) (fields : List Field) :
    describe (declaration.unwrapped strip) (fields.map (·.unwrapped strip)) =
      describe declaration fields := by
  -- a directive does not look at the type of its field
  have hDirective : ∀ field : Field, readFieldDirective .lenient (field.unwrapped strip) =
      readFieldDirective .lenient field := fun _ => rfl
  have hName : readTypeName .lenient (declaration.unwrapped strip) =
      readTypeName .lenient declaration := rfl
  simp only [describe, hName, List.mapM_map, Function.comp_def, hDirective, memberOf?_unwrapped]

/-- **A scan finds a struct as if it had been declared without wrappers.** -/
theorem scanDeclaration_unwrapped (text : List Char) (path : String) (declaration : Declaration) :
    scanDeclaration text path (declaration.unwrapped strip) =
      scanDeclaration text path declaration := by
  obtain ⟨attributes, name, isGeneric, body⟩ := declaration
  cases isGeneric with
  | true => rfl
  | false =>
      cases body with
      | positional => rfl
      | choice => rfl
      | record fields =>
          have hDescribe := describe_unwrapped strip ⟨attributes, name, false, .record fields⟩ fields
          simp only [Declaration.unwrapped, Body.unwrapped] at hDescribe
          simp only [scanDeclaration, Declaration.unwrapped, Body.unwrapped, hDescribe]

end Scans

/-! ## The wrappers, and no other paths -/

/-- **Wrappers are transparent to a scan.** At any depth of a written type, a wrapper does not change
the declared type. So two types with one unwrapped form have one declared type, in which a property
path goes on alike. Of all the paths that hold a type, only the wrappers behave like this. -/
theorem erase_transparent :
    (∀ (layers : List Layer) (wrapped inner : SourceType), wrapped.Wraps inner →
      (surround layers wrapped).erase unknownName = (surround layers inner).erase unknownName) ∧
    (∀ (strip : List Tree → List Tree) (one other : SourceType),
      one.unwrapped strip = other.unwrapped strip →
        one.erase unknownName = other.erase unknownName ∧
          (one.erase unknownName).actualName = (other.erase unknownName).actualName) ∧
    ∀ (qualifier : List Tree) (name : String) (before after : List Argument),
      typeArguments before = [] →
        ((∀ (layers : List Layer) (inner : SourceType),
            (surround layers (.path qualifier name (before ++ .type inner :: after))).erase
              unknownName = (surround layers inner).erase unknownName) ↔
          name ∈ wrappers) := by
  have hWrapped : ∀ (layers : List Layer) (wrapped inner : SourceType), wrapped.Wraps inner →
      (surround layers wrapped).erase unknownName = (surround layers inner).erase unknownName :=
    fun layers _ _ hWraps => erase_surround layers (hWraps.erase_eq unknownName)
  refine ⟨hWrapped, ?_, ?_⟩
  · intro strip one other hSame
    have hErase : one.erase unknownName = other.erase unknownName :=
      calc one.erase unknownName = (one.unwrapped strip).erase unknownName :=
            (one.erase_unwrapped strip).symm
        _ = (other.unwrapped strip).erase unknownName := by rw [hSame]
        _ = other.erase unknownName := other.erase_unwrapped strip
    exact ⟨hErase, congrArg TypeRef.actualName hErase⟩
  · intro qualifier name before after hBefore
    constructor
    · intro hAll
      exact mem_wrappers_of_erase_eq hBefore (hAll [])
    · intro hName layers inner
      exact hWrapped layers _ _ (.path qualifier hName hBefore inner after)

/-- The place of `T` in `HashMap<&str, T>`. -/
def namedValue : Layer :=
  .argument [] "HashMap" [.type (.reference (.path [] "str" []))] []

/-- The type `Vec<(Label)>`. -/
def labels : SourceType :=
  .path [] "Vec" [.type (.parenthesized (.path [] "Label" []))]

/-- The type `sync::Arc<Vec<(Label)>>`. -/
def sharedLabels : SourceType :=
  .path [.word "sync", .mark ':' true, .mark ':' false] "Arc" [.type labels]

/-- The type `HashMap<str, Vec<Label>>`. -/
def plainLabels : SourceType :=
  .path [] "HashMap" [.type (.path [] "str" []), .type (.path [] "Vec" [.type (.path [] "Label" [])])]

/-- Shared labels with names are declared like plain ones, but labels that a `Cow` holds are not. -/
theorem erase_transparent_labels :
    sharedLabels.Wraps labels ∧
      (surround [namedValue] sharedLabels).erase unknownName =
        (surround [namedValue] labels).erase unknownName ∧
      (surround [namedValue] sharedLabels).unwrapped id = plainLabels.unwrapped id ∧
      (surround [namedValue] sharedLabels).erase unknownName = plainLabels.erase unknownName ∧
      ((surround [namedValue] sharedLabels).erase unknownName).actualName = "Label" ∧
      ¬∀ (layers : List Layer) (inner : SourceType),
        (surround layers (.path [] "Cow" [.type inner])).erase unknownName =
          (surround layers inner).erase unknownName := by
  obtain ⟨hWrapped, hUnwrapped, hOnly⟩ := erase_transparent
  have hFirst : typeArguments [] = [] := rfl
  have hWraps : sharedLabels.Wraps labels := .path _ (by decide) hFirst labels []
  have hForm : (surround [namedValue] sharedLabels).unwrapped id = plainLabels.unwrapped id := rfl
  obtain ⟨hErase, hName⟩ := hUnwrapped id _ plainLabels hForm
  exact ⟨hWraps, hWrapped [namedValue] sharedLabels labels hWraps, hForm, hErase, hName.trans rfl,
    (hOnly [] "Cow" [] [] hFirst).not.mpr (by decide)⟩

end DerivedQuery.Source
