import DerivedQuery.Project.Discovery
import DerivedQuery.Proofs.Except
import DerivedQuery.Proofs.Files.Location
import Mathlib.Data.List.ReduceOption

/-!
# Which sources are discovered

The sources of a project are what a walk below its source directories finds, and the walk finds all
that there is: every chain of entries leads to one visit. What may get lost are the visits that the
discovery sorts out, and it sorts out by texts. There are three ways in which the result differs
from the list of all sources that are not hidden.

A name of two dots starts with a dot. So a source directory that is reached by the directory above
some other one hides all its sources.

Directories may overlap, and a source may be found under several spellings. It is listed once for
each run of them in the order of the relative locations: if the relative location of another source
stands between two spellings, both are listed.

A directory that is named like a source is read like one, and the discovery fails.

Everything else is as it should be: what is listed are sources that are not hidden, in order, and
each source without two dots in its relative location is listed. So the three conditions together
say exactly when the discovery lists every source that is not hidden, once.

## Main definitions

* `Files.Node.Descends`: a node below another one
* `Project.Visits`: a node below some directories
* `Project.IsSource`, `Project.IsKept`: a source that is not hidden, and one that is not sorted out
* `Project.Lists`: the sources with a property in order, each under some spelling

## Main results

* `Files.Node.mem_walk`: the nodes on a walk
* `Project.nodup_dropRepeated_iff`: when dropping repetitions leaves none
* `Project.lists_of_discover`: the result of a discovery
* `Project.discover_exact`: when all sources are discovered
-/

namespace DerivedQuery

/-! ## Nodes below a location -/

namespace Files

/-- The location that names lead to, one below the other. -/
def Location.descend (location : Location) (names : List (List Char)) : Location :=
  names.foldl (fun above name => above.join ⟨name⟩) location

theorem Location.Within.descend {directory location : Location} (hWithin : Within directory location)
    (names : List (List Char)) : Within directory (location.descend names) := by
  induction names generalizing location with
  | nil => exact hWithin
  | cons name rest ih => exact ih (hWithin.join ⟨name⟩)

namespace Node

/-- A node below another one, and the names on the way to it. -/
inductive Descends : Node → List (List Char) → Node → Prop
  | here (node : Node) : Descends node [] node
  | enter {entries : List (List Char × Node)} {name : List Char} {child found : Node}
      {names : List (List Char)} (entry : (name, child) ∈ entries)
      (further : Descends child names found) :
      Descends (.directory entries) (name :: names) found

mutual

/-- A walk visits the nodes below a location, each at the location that its names lead to. -/
theorem mem_walk {location place : Location} {found : Node} : (node : Node) →
    ((place, found) ∈ node.walk location ↔
      ∃ names, node.Descends names found ∧ place = location.descend names)
  | .file content => by
      rw [walk, List.mem_singleton, Prod.mk.injEq]
      constructor
      · rintro ⟨rfl, rfl⟩
        exact ⟨[], .here _, rfl⟩
      · rintro ⟨names, hDescends, rfl⟩
        cases hDescends
        exact ⟨rfl, rfl⟩
  | .directory entries => by
      rw [walk, List.mem_cons, mem_walkEntries entries, Prod.mk.injEq]
      constructor
      · rintro (⟨rfl, rfl⟩ | ⟨name, child, hEntry, names, hDescends, hPlace⟩)
        · exact ⟨[], .here _, rfl⟩
        · exact ⟨name :: names, .enter hEntry hDescends, hPlace⟩
      · rintro ⟨names, hDescends, hPlace⟩
        cases hDescends with
        | here => exact Or.inl ⟨hPlace, rfl⟩
        | enter hEntry hFurther => exact Or.inr ⟨_, _, hEntry, _, hFurther, hPlace⟩

theorem mem_walkEntries {location place : Location} {found : Node} :
    (entries : List (List Char × Node)) →
    ((place, found) ∈ walkEntries location entries ↔
      ∃ name child, (name, child) ∈ entries ∧
        ∃ names, child.Descends names found ∧ place = (location.join ⟨name⟩).descend names)
  | [] => by simp [walkEntries]
  | (name, node) :: rest => by
      rw [walkEntries, List.mem_append, mem_walk node, mem_walkEntries rest]
      constructor
      · rintro (hFirst | ⟨other, child, hEntry, hLater⟩)
        · exact ⟨name, node, List.mem_cons_self, hFirst⟩
        · exact ⟨other, child, List.mem_cons_of_mem _ hEntry, hLater⟩
      · rintro ⟨other, child, hEntry, hFound⟩
        rcases List.mem_cons.mp hEntry with hFirst | hLater
        · rw [Prod.mk.injEq] at hFirst
          obtain ⟨rfl, rfl⟩ := hFirst
          exact Or.inl hFound
        · exact Or.inr ⟨other, child, hLater, hFound⟩

end

end Node

end Files

namespace Project

open Files

/-! ## Visits -/

/-- A node below one of the directories that exist, and its location. -/
def Visits (files : Node) (directories : List Location) (location : Location) (found : Node) : Prop :=
  ∃ directory ∈ directories, ∃ start names, files.find? directory = some start ∧
    start.Descends names found ∧ location = directory.descend names

/-- The name of the location ends with the extension of a source file. -/
def HasSourceName (location : Location) : Prop :=
  ∃ above stem, location.names = above ++ [stem ++ ".rs".toList] ∧ stem ≠ []

/-- No name of a location starts with a dot, except for two dots. -/
def IsShown (location : Location) : Prop :=
  ∀ name ∈ location.names, Location.isHiddenName name = true → name = ['.', '.']

/-- The location leads back to the directory above. -/
def GoesUp (location : Location) : Prop :=
  ['.', '.'] ∈ location.names

instance (location : Location) : Decidable (IsShown location) :=
  inferInstanceAs (Decidable (∀ name ∈ location.names, _ → _))

instance (location : Location) : Decidable (GoesUp location) :=
  inferInstanceAs (Decidable (_ ∈ location.names))

/-- A source that is not hidden: a file below one of the directories that is named like a source and
declares a struct, as far as a look at the text can tell. -/
structure IsSource (files : Node) (root : Location) (directories : List Location)
    (source : SourceFile) : Prop where
  visited : Visits files directories source.location (.file source.content)
  relative : source.relative = root.relativeTo source.location
  name : HasSourceName source.location
  declares : "struct ".toList <:+: source.content.toList
  shown : IsShown source.relative

/-- The sources that the discovery does not sort out. -/
def IsKept (files : Node) (root : Location) (directories : List Location) (source : SourceFile) :
    Prop :=
  IsSource files root directories source ∧ ¬GoesUp source.relative

section Visits

variable {files : Node} {root : Location} {directories : List Location} {location : Location}
  {found : Node} {source : SourceFile}

private theorem mem_visited : (location, found) ∈ visited files directories ↔
    Visits files directories location found := by
  rw [visited, List.mem_flatMap]
  constructor
  · rintro ⟨directory, hDirectory, hWalk⟩
    split at hWalk
    · rename_i start hStart
      obtain ⟨names, hDescends, hPlace⟩ := (Node.mem_walk start).mp hWalk
      exact ⟨directory, hDirectory, start, names, hStart, hDescends, hPlace⟩
    · simp at hWalk
  · rintro ⟨directory, hDirectory, start, names, hStart, hDescends, hPlace⟩
    refine ⟨directory, hDirectory, ?_⟩
    rw [hStart]
    exact (Node.mem_walk start).mpr ⟨names, hDescends, hPlace⟩

private theorem hasSourceExtension_iff :
    hasSourceExtension location = true ↔ HasSourceName location := by
  rw [hasSourceExtension, decide_eq_true_iff,
    Location.extension?_eq_some_iff (by decide) (by decide)]
  rfl

/-- The discovery hides a location that is not shown, and one that goes up as well. -/
theorem isHidden_eq_false_iff :
    isHidden location = false ↔ IsShown location ∧ ¬GoesUp location := by
  rw [isHidden, List.any_eq_false]
  constructor
  · intro hNames
    exact ⟨fun name hName hDot => absurd hDot (hNames name hName),
      fun hUp => hNames _ hUp (by decide)⟩
  · rintro ⟨hShown, hUp⟩ name hName hDot
    rw [hShown name hName hDot] at hName
    exact hUp hName

/-- A file is a source, or it is passed over. -/
theorem sourceFile?_file (root location : Location) (content : String) :
    sourceFile? root (location, .file content) =
      .ok (if hasSourceExtension location = true ∧ isHidden (root.relativeTo location) = false ∧
          mayDeclare content = true then
        some { location, relative := root.relativeTo location, content } else none) := by
  unfold sourceFile?
  cases hName : hasSourceExtension location <;>
    cases hHidden : isHidden (root.relativeTo location) <;>
    simp [hName, hHidden, pure, Except.pure]

/-- A directory is passed over, or it cannot be read. -/
theorem sourceFile?_directory (root location : Location) (entries : List (List Char × Node)) :
    sourceFile? root (location, .directory entries) =
      if hasSourceExtension location = true ∧ isHidden (root.relativeTo location) = false then
        .error (.unreadableSource location) else .ok none := by
  unfold sourceFile?
  cases hName : hasSourceExtension location <;>
    cases hHidden : isHidden (root.relativeTo location) <;>
    simp [hName, hHidden, pure, Except.pure, throw, throwThe, MonadExceptOf.throw]

/-- What is made of the visits are the sources that are kept. -/
theorem exists_sourceFile?_eq_some_iff :
    (∃ visit ∈ visited files directories, sourceFile? root visit = .ok (some source)) ↔
      IsKept files root directories source := by
  constructor
  · rintro ⟨⟨location, found⟩, hVisit, hSource⟩
    cases found with
    | file content =>
        rw [sourceFile?_file, Except.ok.injEq] at hSource
        split at hSource
        · rename_i hConditions
          obtain ⟨hName, hHidden, hDeclares⟩ := hConditions
          obtain ⟨hShown, hUp⟩ := isHidden_eq_false_iff.mp hHidden
          cases hSource
          exact
            ⟨{ visited := mem_visited.mp hVisit
               relative := rfl
               name := hasSourceExtension_iff.mp hName
               declares := Text.contains_eq_true_iff.mp hDeclares
               shown := hShown }, hUp⟩
        · simp at hSource
    | directory entries =>
        rw [sourceFile?_directory] at hSource
        split at hSource <;> simp at hSource
  · rintro ⟨hSource, hUp⟩
    refine ⟨_, mem_visited.mpr hSource.visited, ?_⟩
    have hHidden : isHidden (root.relativeTo source.location) = false := by
      rw [← hSource.relative]
      exact isHidden_eq_false_iff.mpr ⟨hSource.shown, hUp⟩
    rw [sourceFile?_file, if_pos ⟨hasSourceExtension_iff.mpr hSource.name, hHidden,
      Text.contains_eq_true_iff.mpr hSource.declares⟩, ← hSource.relative]

/-- A directory that is named like a source, where a source would not be hidden. -/
def Misleads (files : Node) (root : Location) (directories : List Location)
    (location : Location) : Prop :=
  (∃ entries, Visits files directories location (.directory entries)) ∧ HasSourceName location ∧
    IsShown (root.relativeTo location) ∧ ¬GoesUp (root.relativeTo location)

/-- Every visit makes something, unless a directory is named like a source. -/
theorem forall_exists_sourceFile?_iff :
    (∀ visit ∈ visited files directories, ∃ result, sourceFile? root visit = .ok result) ↔
      ∀ location, ¬Misleads files root directories location := by
  constructor
  · rintro hVisits location ⟨⟨entries, hVisit⟩, hName, hShown, hUp⟩
    obtain ⟨result, hResult⟩ := hVisits _ (mem_visited.mpr hVisit)
    rw [sourceFile?_directory, if_pos ⟨hasSourceExtension_iff.mpr hName,
      isHidden_eq_false_iff.mpr ⟨hShown, hUp⟩⟩] at hResult
    simp at hResult
  · rintro hDirectories ⟨location, found⟩ hVisit
    cases found with
    | file content => exact ⟨_, sourceFile?_file root location content⟩
    | directory entries =>
        rw [sourceFile?_directory]
        split
        · rename_i hConditions
          obtain ⟨hName, hHidden⟩ := hConditions
          exact absurd ⟨⟨entries, mem_visited.mp hVisit⟩, hasSourceExtension_iff.mp hName,
            isHidden_eq_false_iff.mp hHidden⟩ (hDirectories location)
        · exact ⟨none, rfl⟩

end Visits

/-! ## Repetitions -/

section Repetitions

/-- Dropping repetitions keeps the first source. -/
theorem exists_dropRepeated_cons (source : SourceFile) (rest : List SourceFile) :
    ∃ others, dropRepeated (source :: rest) = source :: others := by
  rw [dropRepeated]
  split
  · exact ⟨[], rfl⟩
  · split
    · exact ⟨_, rfl⟩
    · exact ⟨_, rfl⟩

/-- Of two neighbours with the same names the second one is dropped. -/
theorem dropRepeated_cons_cons (first next : SourceFile) (rest : List SourceFile) :
    dropRepeated (first :: next :: rest) =
      if next.location.names = first.location.names then
        first :: (dropRepeated (next :: rest)).tail
      else
        first :: dropRepeated (next :: rest) := by
  obtain ⟨others, hNext⟩ := exists_dropRepeated_cons next rest
  rw [dropRepeated, hNext]
  rfl

private theorem sublist_dropRepeated (sources : List SourceFile) :
    (dropRepeated sources).Sublist sources := by
  induction sources with
  | nil => exact .slnil
  | cons source rest ih =>
      cases rest with
      | nil => exact List.Sublist.refl _
      | cons next more =>
          rw [dropRepeated_cons_cons]
          split
          · exact ((List.tail_sublist _).trans ih).cons_cons source
          · exact ih.cons_cons source

/-- The names stay: of every source one spelling is kept. -/
theorem map_names_dropRepeated {sources : List SourceFile} {names : List (List Char)} :
    names ∈ (dropRepeated sources).map (·.location.names) ↔
      names ∈ sources.map (·.location.names) := by
  induction sources with
  | nil => rfl
  | cons source rest ih =>
      cases rest with
      | nil => rfl
      | cons next more =>
          obtain ⟨others, hNext⟩ := exists_dropRepeated_cons next more
          rw [dropRepeated_cons_cons, List.map_cons (l := next :: more), List.mem_cons, ← ih, hNext]
          split
          · rename_i hSame
            simp only [List.tail_cons, List.map_cons, List.mem_cons, hSame]
            tauto
          · rw [List.map_cons, List.mem_cons]

/-- The relative location of the first source is not behind that of the second one. -/
def Precedes (first second : SourceFile) : Prop :=
  first.relative.toString ≤ second.relative.toString

theorem Precedes.refl (source : SourceFile) : Precedes source source :=
  String.le_refl _

theorem Precedes.antisymm {first second : SourceFile} (hFirst : Precedes first second)
    (hSecond : Precedes second first) : first.relative = second.relative := by
  have hText := String.ofList_inj.mp (String.le_antisymm hFirst hSecond)
  exact congrArg Location.mk hText

private theorem pairwise_precedes_mergeSort (sources : List SourceFile) :
    (sources.mergeSort fun first second =>
      decide (first.relative.toString ≤ second.relative.toString)).Pairwise Precedes := by
  have hSorted : (sources.mergeSort fun first second =>
      decide (first.relative.toString ≤ second.relative.toString)).Pairwise fun first second =>
        decide (first.relative.toString ≤ second.relative.toString) = true := by
    apply List.pairwise_mergeSort
    · intro first second third hFirst hSecond
      exact decide_eq_true (String.le_trans (of_decide_eq_true hFirst) (of_decide_eq_true hSecond))
    · intro first second
      simpa using String.le_total first.relative.toString second.relative.toString
  exact hSorted.imp of_decide_eq_true

/-- No other source stands between two spellings of the same names. -/
def Contiguous (P : SourceFile → Prop) : Prop :=
  ∀ first between last, P first → P between → P last →
    Precedes first between → Precedes between last → first.location.names = last.location.names →
      between.location.names = first.location.names

theorem Contiguous.mono {P Q : SourceFile → Prop} (hContiguous : Contiguous Q)
    (hFewer : ∀ source, P source → Q source) : Contiguous P :=
  fun first between last hFirst hBetween hLast =>
    hContiguous first between last (hFewer first hFirst) (hFewer between hBetween) (hFewer last hLast)

/-- The names are known from the relative location. -/
def KnownByRelative (P : SourceFile → Prop) : Prop :=
  ∀ first second, P first → P second → first.relative = second.relative →
    first.location.names = second.location.names

/-- One source more in front is contiguous with the next one, or it has names of its own. -/
theorem contiguous_cons_cons_iff {first next : SourceFile} {rest : List SourceFile}
    (hSorted : (first :: next :: rest).Pairwise Precedes)
    (hKnown : KnownByRelative (· ∈ first :: next :: rest)) :
    Contiguous (· ∈ first :: next :: rest) ↔
      (next.location.names = first.location.names ∨
        first.location.names ∉ (next :: rest).map (·.location.names)) ∧
      Contiguous (· ∈ next :: rest) := by
  obtain ⟨hFirst, hRest⟩ := List.pairwise_cons.mp hSorted
  have hNext : ∀ source ∈ next :: rest, Precedes next source := by
    intro source hSource
    rcases List.mem_cons.mp hSource with rfl | hLater
    · exact .refl _
    · exact (List.pairwise_cons.mp hRest).1 source hLater
  -- what is not behind the first source is tied with it
  have hTied : ∀ source ∈ first :: next :: rest, Precedes source first →
      source.location.names = first.location.names := by
    intro source hSource hBefore
    rcases List.mem_cons.mp hSource with rfl | hLater
    · rfl
    · exact hKnown _ _ hSource List.mem_cons_self (hBefore.antisymm (hFirst source hLater))
  constructor
  · intro hContiguous
    refine ⟨?_, hContiguous.mono fun source => List.mem_cons_of_mem first⟩
    rw [or_iff_not_imp_left]
    intro hDifferent hMem
    obtain ⟨last, hLast, hSame⟩ := List.mem_map.mp hMem
    exact hDifferent <| hContiguous first next last List.mem_cons_self (by simp)
      (List.mem_cons_of_mem first hLast) (hFirst next List.mem_cons_self) (hNext last hLast)
      hSame.symm
  · rintro ⟨hHead, hTail⟩ start between last hStart hBetween hLast hBefore hBehind hSame
    rcases List.mem_cons.mp hBetween with rfl | hBetweenTail
    · exact (hTied start hStart hBefore).symm
    rcases List.mem_cons.mp hLast with rfl | hLastTail
    · rw [hTied between hBetween hBehind, hSame]
    rcases List.mem_cons.mp hStart with rfl | hStartTail
    · rcases hHead with hNames | hNames
      · rw [← hNames]
        exact hTail next between last List.mem_cons_self hBetweenTail hLastTail
          (hNext between hBetweenTail) hBehind (hNames.trans hSame)
      · exact absurd (List.mem_map.mpr ⟨last, hLastTail, hSame.symm⟩) hNames
    · exact hTail start between last hStartTail hBetweenTail hLastTail hBefore hBehind hSame

/-- **Dropping repetitions leaves none if the spellings of each source are contiguous.** -/
theorem nodup_dropRepeated_iff {sources : List SourceFile} (hSorted : sources.Pairwise Precedes)
    (hKnown : KnownByRelative (· ∈ sources)) :
    ((dropRepeated sources).map (·.location.names)).Nodup ↔ Contiguous (· ∈ sources) := by
  induction sources with
  | nil => simp [dropRepeated, Contiguous]
  | cons first rest ih =>
      have hTail := ih (List.pairwise_cons.mp hSorted).2 fun _ _ hSource hOther =>
        hKnown _ _ (List.mem_cons_of_mem first hSource) (List.mem_cons_of_mem first hOther)
      cases rest with
      | nil =>
          have hAlone : Contiguous (· ∈ [first]) := by
            intro start between last hStart hBetween _ _ _ _
            rw [List.mem_singleton.mp hStart, List.mem_singleton.mp hBetween]
          exact iff_of_true (by simp [dropRepeated]) hAlone
      | cons next more =>
          rw [contiguous_cons_cons_iff hSorted hKnown, ← hTail, dropRepeated_cons_cons]
          split
          · rename_i hSame
            obtain ⟨others, hNext⟩ := exists_dropRepeated_cons next more
            simp [hNext, hSame]
          · rename_i hDifferent
            rw [List.map_cons, List.nodup_cons, map_names_dropRepeated]
            simp only [hDifferent, false_or]

end Repetitions

/-! ## What is discovered -/

/-- The sources with a property, in the order of their relative locations, each under some
spelling. -/
structure Lists (P : SourceFile → Prop) (sources : List SourceFile) : Prop where
  sorted : sources.Pairwise Precedes
  sound : ∀ source ∈ sources, P source
  complete : ∀ source, P source → ∃ listed ∈ sources, listed.location.names = source.location.names

/-- The spellings that are left list what was found, and they repeat nothing if the spellings of
each source are contiguous. -/
theorem lists_dropRepeated {P : SourceFile → Prop} {found : List SourceFile}
    (hSorted : found.Pairwise Precedes) (hFound : ∀ source, source ∈ found ↔ P source)
    (hKnown : KnownByRelative P) :
    Lists P (dropRepeated found) ∧
      (((dropRepeated found).map (·.location.names)).Nodup ↔ Contiguous P) := by
  obtain rfl : (· ∈ found) = P := funext fun source => propext (hFound source)
  refine ⟨⟨hSorted.sublist (sublist_dropRepeated found), ?_, ?_⟩,
    nodup_dropRepeated_iff hSorted hKnown⟩
  · intro source hSource
    exact (sublist_dropRepeated found).subset hSource
  · intro source hSource
    have hNames := List.mem_map_of_mem (f := fun source : SourceFile => source.location.names) hSource
    exact List.mem_map.mp (map_names_dropRepeated.mpr hNames)

section Discover

variable {files : Node} {root : Location} {directories : List Location} {sources : List SourceFile}
  {source : SourceFile}

private theorem exists_discover_eq_ok
    (hDirectories : ∀ location, ¬Misleads files root directories location) :
    ∃ sources, discover files root directories = .ok sources := by
  obtain ⟨results, hResults⟩ :=
    exists_mapM_eq_ok_iff.mpr (forall_exists_sourceFile?_iff.mpr hDirectories)
  exact ⟨_, bind_eq_ok_iff.mpr ⟨results, hResults, rfl⟩⟩

private theorem within_sourceDirectories (project : Project) (explicit : List Location) :
    ∀ directory ∈ project.sourceDirectories explicit, Location.Within project.root directory := by
  intro directory hDirectory
  unfold Project.sourceDirectories at hDirectory
  split at hDirectory
  · obtain ⟨source, _, rfl⟩ := List.mem_map.mp hDirectory
    exact Location.within_join _ _
  · obtain ⟨given, _, rfl⟩ := List.mem_map.mp hDirectory
    exact Location.within_join _ _

/-- Sources that look alike from the root have the same names. -/
theorem knownByRelative_isSource
    (hDirectories : ∀ directory ∈ directories, Location.Within root directory) :
    KnownByRelative (IsSource files root directories) := by
  have hWithin : ∀ source, IsSource files root directories source →
      Location.Within root source.location := by
    intro source hSource
    obtain ⟨directory, hDirectory, _, names, _, _, hPlace⟩ := hSource.visited
    rw [hPlace]
    exact (hDirectories directory hDirectory).descend names
  intro first second hFirst hSecond hSame
  rw [hFirst.relative, hSecond.relative] at hSame
  exact Location.names_eq_of_relativeTo_eq (hWithin first hFirst) (hWithin second hSecond) hSame

/-- Whether a source goes up shows in its names. -/
theorem IsSource.goesUp_iff {other : SourceFile} (hSource : IsSource files root directories source)
    (hOther : IsSource files root directories other)
    (hNames : source.location.names = other.location.names) :
    GoesUp source.relative ↔ GoesUp other.relative := by
  rw [GoesUp, GoesUp, hSource.relative, hOther.relative, Location.names_relativeTo_congr hNames]

/-- The result of a discovery, and when it repeats nothing. -/
theorem lists_of_discover
    (hDirectories : ∀ directory ∈ directories, Location.Within root directory)
    (hDiscover : discover files root directories = .ok sources) :
    (∀ location, ¬Misleads files root directories location) ∧
      Lists (IsKept files root directories) sources ∧
      ((sources.map (·.location.names)).Nodup ↔ Contiguous (IsKept files root directories)) := by
  obtain ⟨results, hResults, hSources⟩ := bind_eq_ok_iff.mp hDiscover
  refine ⟨forall_exists_sourceFile?_iff.mp (exists_mapM_eq_ok_iff.mp ⟨results, hResults⟩), ?_⟩
  rw [← Except.ok.inj hSources]
  apply lists_dropRepeated (pairwise_precedes_mergeSort results.reduceOption)
  · intro source
    rw [List.mem_mergeSort, List.reduceOption_mem_iff, mem_of_mapM_eq_ok hResults]
    exact exists_sourceFile?_eq_some_iff
  · exact fun first second hFirst hSecond =>
      knownByRelative_isSource hDirectories first second hFirst.1 hSecond.1

/-- **When every source that is not hidden is discovered.** Whatever the directories are, the sources
that are listed are not hidden, they are in order, and each source whose relative location does not
go up is listed under some spelling. All sources are listed, and each of them once, exactly if no
directory is named like a source, no source goes up, and no source stands between two spellings of
another one. -/
theorem discover_exact (files : Node) (project : Project) (explicit : List Location) :
    let directories := project.sourceDirectories explicit
    (∀ sources, discover files project.root directories = .ok sources →
      Lists (IsKept files project.root directories) sources) ∧
    ((∃ sources, discover files project.root directories = .ok sources ∧
        Lists (IsSource files project.root directories) sources ∧
        (sources.map (·.location.names)).Nodup) ↔
      (∀ location, ¬Misleads files project.root directories location) ∧
        (∀ source, IsSource files project.root directories source → ¬GoesUp source.relative) ∧
        Contiguous (IsSource files project.root directories)) := by
  intro directories
  have hWithin := within_sourceDirectories project explicit
  -- if no source goes up, all of them are kept
  have hAll : (∀ source, IsSource files project.root directories source →
      ¬GoesUp source.relative) →
        IsKept files project.root directories = IsSource files project.root directories :=
    fun hUp => funext fun source => propext ⟨And.left, fun hSource => ⟨hSource, hUp source hSource⟩⟩
  refine ⟨fun sources hDiscover => (lists_of_discover hWithin hDiscover).2.1, ?_, ?_⟩
  · rintro ⟨sources, hDiscover, hLists, hNodup⟩
    obtain ⟨hMisleads, hKept, hContiguous⟩ := lists_of_discover hWithin hDiscover
    have hUp : ∀ source, IsSource files project.root directories source →
        ¬GoesUp source.relative := by
      intro source hSource hUp
      obtain ⟨listed, hListed, hNames⟩ := hLists.complete source hSource
      obtain ⟨hIsSource, hNotUp⟩ := hKept.sound listed hListed
      exact hNotUp ((hIsSource.goesUp_iff hSource hNames).mpr hUp)
    rw [hAll hUp] at hContiguous
    exact ⟨hMisleads, hUp, hContiguous.mp hNodup⟩
  · rintro ⟨hMisleads, hUp, hContiguous⟩
    obtain ⟨sources, hDiscover⟩ := exists_discover_eq_ok hMisleads
    obtain ⟨_, hKept, hNodup⟩ := lists_of_discover hWithin hDiscover
    rw [hAll hUp] at hKept hNodup
    exact ⟨sources, hDiscover, hKept, hNodup.mpr hContiguous⟩

/-- A project with a directory beside it. -/
def siblings : Node :=
  .directory [("w".toList, .directory
    [("app".toList, .directory []),
      ("shared".toList, .directory [("a.rs".toList, .file "struct A { b: u8 }")])])]

/-- The source in the directory beside the project is not hidden, and nothing is discovered. -/
theorem discover_siblings :
    let project : Project := { root := ⟨"/w/app".toList⟩, settingsFile := none, settings := {} }
    let directories := project.sourceDirectories [⟨"../shared".toList⟩]
    IsSource siblings project.root directories
        { location := ⟨"/w/app/../shared/a.rs".toList⟩
          relative := ⟨"../shared/a.rs".toList⟩
          content := "struct A { b: u8 }" } ∧
      discover siblings project.root directories = .ok [] := by
  intro project directories
  constructor
  · exact
      { visited := ⟨⟨"/w/app/../shared".toList⟩, by decide, _, [_], rfl,
          .enter List.mem_cons_self (.here _), by decide⟩
        relative := by decide
        name := hasSourceExtension_iff.mp (by decide)
        declares := by decide
        shown := by decide }
  · decide +kernel

end Discover

end Project

end DerivedQuery
