import DerivedQuery.Convention
import DerivedQuery.Proofs.Path.Resolution
import DerivedQuery.Proofs.Registry.Exactness

/-!
# Resolving canonical spellings

The canonical spelling of a path puts the separator between the spellings of its properties. An
underscore in front of a digit is kept in the spelling of a property, as no other spelling could
restore it. So the spelling can be divided in the wrong place only if the separator is the
underscore itself.

If it is, a text is *blocked* that starts with a digit, or in which an underscore stands in front of
a capital. No numbered name is spelled like this, and wherever a blocked text is cut in front of a
capital, the head names nothing or what is behind it is blocked again. A name on the path that has
an underscore in front of a digit leaves a chunk that starts with this digit, and the spelling as a
whole has an underscore in front of the capital of the second step. So with such a name the spelling
of a path of several steps is not resolved at all.

## Main definitions

* `Blocked`: texts that are not read, however they are cut
* `TypeSource.HasNumberedNames`: the names of all described properties are numbered

## Main results

* `yields_resolveChunk_of_blocked`: no chunk that is blocked is resolved
* `TypeSource.resolvePath_canonical_iff`: when canonical spellings are resolved, and to what
-/

namespace DerivedQuery

open Text Spelling Metadata

/-! ## Texts that are not read -/

/-- The text starts with a digit, or an underscore stands in front of a capital in it. -/
inductive Blocked : List Char → Prop where
  | digit {c : Char} (hDigit : c.isDigit = true) (rest : List Char) : Blocked (c :: rest)
  | underscore (front : List Char) {c : Char} (hUpper : isUppercase c = true) (back : List Char) :
      Blocked (front ++ '_' :: c :: back)

/-- The first character of a text is changed, and the rest is kept. -/
theorem uncapitalize_append {front : List Char} (hFront : front ≠ []) (back : List Char) :
    uncapitalize (front ++ back) = uncapitalize front ++ back := by
  obtain ⟨c, rest, rfl⟩ := List.exists_cons_of_ne_nil hFront
  simp [uncapitalize]

private theorem snakeCase_append {front : List Char} (hFront : front ≠ []) (back : List Char) :
    snakeCase (front ++ back) = snakeCase front ++ back.flatMap snakeCaseChar := by
  obtain ⟨c, rest, rfl⟩ := List.exists_cons_of_ne_nil hFront
  simp [snakeCase]

/-- An underscore at the end stays there in every spelling. -/
theorem exists_eq_append_underscore {front spelling : List Char}
    (hSpelling : spelling ∈ spellings (front ++ ['_'])) : ∃ more, spelling = more ++ ['_'] := by
  have hLower : uncapitalize ['_'] = ['_'] := by decide
  have hSnake : snakeCase ['_'] = ['_'] := by decide
  have hChar : ['_'].flatMap snakeCaseChar = ['_'] := by decide
  rcases List.eq_nil_or_concat front with rfl | ⟨_, _, rfl⟩
  · refine ⟨[], ?_⟩
    simpa [spellings, hLower, hSnake] using hSpelling
  · rw [spellings, uncapitalize_append (by simp), snakeCase_append (by simp), hChar] at hSpelling
    simp only [List.mem_cons, List.not_mem_nil, or_false] at hSpelling
    rcases hSpelling with rfl | rfl | rfl <;> exact ⟨_, rfl⟩

/-- No spelling of a text that ends with an underscore is a numbered name. -/
theorem not_numbered_append_underscore {front spelling : List Char}
    (hSpelling : spelling ∈ spellings (front ++ ['_'])) : isNumberedName spelling = false := by
  obtain ⟨more, rfl⟩ := exists_eq_append_underscore hSpelling
  rw [Bool.eq_false_iff]
  intro hName
  obtain ⟨_, _, hBack, _⟩ := exists_pieceChar_behind_underscore hName
  simp at hBack

namespace Blocked

variable {text left right : List Char}

/-- No spelling of a blocked text is a numbered name. -/
theorem not_numbered (hBlocked : Blocked text) {spelling : List Char}
    (hSpelling : spelling ∈ spellings text) : isNumberedName spelling = false := by
  rw [Bool.eq_false_iff]
  intro hName
  cases hBlocked with
  | @digit c hDigit rest =>
      have hStart : ∃ more, spelling = c :: more := by
        simp only [spellings, uncapitalize, lowercase_of_isDigit hDigit, snakeCase,
          isUppercase_of_isDigit hDigit, Bool.false_eq_true, if_false, List.singleton_append,
          List.mem_cons, List.not_mem_nil, or_false] at hSpelling
        rcases hSpelling with rfl | rfl | rfl <;> exact ⟨_, rfl⟩
      obtain ⟨more, rfl⟩ := hStart
      have hLower := isLower_of_isNumberedName hName
      rw [isDigit_eq_false_of_isLower hLower] at hDigit
      simp at hDigit
  | @underscore front c hUpper back =>
      have hJoined : front ++ '_' :: c :: back = (front ++ ['_']) ++ (c :: back) := by simp
      rw [hJoined, spellings, uncapitalize_append (by simp), snakeCase_append (by simp)] at hSpelling
      simp only [List.mem_cons, List.not_mem_nil, or_false] at hSpelling
      rcases hSpelling with rfl | rfl | rfl
      · rw [isUppercase_of_mem hName (List.mem_append_right _ List.mem_cons_self)] at hUpper
        simp at hUpper
      · rw [isUppercase_of_mem hName (List.mem_append_right _ List.mem_cons_self)] at hUpper
        simp at hUpper
      · -- snake case puts a second underscore behind the first one
        have hSnake : snakeCase (front ++ ['_']) ∈ spellings (front ++ ['_']) := by simp [spellings]
        obtain ⟨more, hMore⟩ := exists_eq_append_underscore hSnake
        rw [hMore, List.flatMap_cons, snakeCaseChar, if_pos hUpper, List.append_assoc,
          List.singleton_append, List.cons_append] at hName
        obtain ⟨d, rest, hBack, hPiece⟩ := exists_pieceChar_behind_underscore hName
        rw [← (List.cons.inj hBack).1] at hPiece
        exact absurd hPiece (by decide)

/-- Where a blocked text is cut in front of a capital, one of the two sides is blocked, unless the
cut is behind the underscore. -/
theorem cut (hBlocked : Blocked (left ++ right)) (hLeft : left ≠ []) :
    Blocked left ∨ (∃ front, left = front ++ ['_']) ∨ Blocked right := by
  generalize hText : left ++ right = text at hBlocked
  cases hBlocked with
  | @digit c hDigit rest =>
      obtain ⟨d, more, rfl⟩ := List.exists_cons_of_ne_nil hLeft
      rw [List.cons_append, List.cons.injEq] at hText
      rw [hText.1]
      exact Or.inl (.digit hDigit more)
  | @underscore front c hUpper back =>
      rcases List.append_eq_append_iff.mp hText with ⟨inside, _, hRight⟩ | ⟨inside, hInside, hRight⟩
      · rw [hRight]
        exact Or.inr (Or.inr (.underscore inside hUpper back))
      · cases inside with
        | nil =>
            rw [List.nil_append] at hRight
            rw [← hRight]
            exact Or.inr (Or.inr (.underscore [] hUpper back))
        | cons d more =>
            rw [List.cons_append, List.cons.injEq] at hRight
            obtain ⟨rfl, hRest⟩ := hRight
            cases more with
            | nil => exact Or.inr (Or.inl ⟨front, hInside⟩)
            | cons e others =>
                rw [List.cons_append, List.cons.injEq] at hRest
                obtain ⟨rfl, _⟩ := hRest
                rw [hInside]
                exact Or.inl (.underscore front hUpper others)

end Blocked

/-- Among numbered names nothing is found under a text that does not spell one. -/
theorem lookup?_eq_none {entity : Entity}
    (hNames : ∀ property ∈ entity.properties, isNumberedName property.name.toList = true)
    {text : List Char} (hText : ∀ spelling ∈ spellings text, isNumberedName spelling = false) :
    entity.lookup? text = none := by
  have hNone : ∀ spelling ∈ spellings text, entity.property? (String.ofList spelling) = none :=
    fun spelling hSpelling => property?_eq_none_of_not_numbered hNames (hText spelling hSpelling)
  rw [Entity.lookup?, hNone _ (by simp [spellings]), hNone _ (by simp [spellings]),
    hNone _ (by simp [spellings])]
  rfl

section Resolution

variable {σ : Type} {metadata : Metadata σ} {state : σ}

/-- Whatever is requested after the state, the entities that are known have numbered property
names. -/
def StaysNumbered (metadata : Metadata σ) (state : σ) : Prop :=
  ∀ later, metadata.Leads state later → KnowsNumbered metadata later

/-- No chunk that is blocked is resolved. -/
theorem yields_resolveChunk_of_blocked (hRemembers : metadata.Remembers)
    (hNumbered : StaysNumbered metadata state) (source : String) {chunk : List Char}
    (hBlocked : Blocked chunk) (type : String) :
    metadata.Yields state none (resolveChunk metadata source chunk type) := by
  induction hLength : chunk.length using Nat.strongRecOn generalizing chunk type with
  | ind length ih =>
      intro later hLater
      have hRequest : metadata.Leads later (metadata.entityFor type later).2 := .entityFor type later
      rw [resolveChunk]
      split
      · exact ⟨.refl later, rfl⟩
      · rename_i hTerminal
        split
        · rename_i hResult
          rw [hResult] at hRequest
          exact ⟨hRequest, rfl⟩
        · rename_i entity after hResult
          rw [hResult] at hRequest
          have hKnows := hRemembers.learns (by simpa using hTerminal) hResult
          have hNames := hNumbered after (hLater.trans hRequest) type entity hKnows
          have hHere := lookup?_eq_none hNames fun _ => hBlocked.not_numbered
          simp only [hHere]
          refine (yields_firstSuccess_none (yields_error state _) _ fun head hHead => ?_).behind
            hLater hRequest
          obtain ⟨hGap, hLookup⟩ := of_mem_namedHeads hHead
          have hJoined := head.1.joined
          rw [hGap, List.nil_append] at hJoined
          -- the head names something, so what is behind it is blocked
          have hRight : Blocked head.1.right := by
            rcases (hJoined.symm ▸ hBlocked).cut head.1.left_ne_nil with hLeft | ⟨front, hLeft⟩ | hRight
            · rw [lookup?_eq_none hNames fun _ => hLeft.not_numbered] at hLookup
              simp at hLookup
            · rw [hLeft, lookup?_eq_none hNames fun _ => not_numbered_append_underscore] at hLookup
              simp at hLookup
            · exact hRight
          have hRest := ih _ (hLength ▸ head.1.right_length_lt) hRight head.2.actualType rfl
          intro before hBefore
          obtain ⟨error, final, hRead, hFinal⟩ := hRest.fails hBefore
          simp only [hRead]
          exact ⟨hFinal, rfl⟩

/-- Chunks of which one is blocked are not resolved. -/
theorem yields_resolveChunks_of_blocked (hRemembers : metadata.Remembers)
    (hNumbered : StaysNumbered metadata state) (source : String) {chunk : List Char}
    {more : List (List Char)} (hBlocked : ∃ piece ∈ chunk :: more, Blocked piece) (type : String) :
    metadata.Yields state none (resolveChunks metadata source chunk more type) := by
  induction more generalizing chunk type with
  | nil =>
      obtain ⟨piece, hPiece, hBlocked⟩ := hBlocked
      obtain rfl := List.mem_singleton.mp hPiece
      cases piece with
      | nil => exact yields_error state _
      | cons c rest => exact yields_resolveChunk_of_blocked hRemembers hNumbered source hBlocked type
  | cons next others ih =>
      cases chunk with
      | nil => exact yields_error state _
      | cons c rest =>
          intro later hLater
          have hChunk :=
            reads_resolveChunk hRemembers source (List.cons_ne_nil c rest) type later
          unfold resolveChunks
          cases hRead : resolveChunk metadata source (c :: rest) type later with
          | mk result after =>
              rw [hRead] at hChunk
              cases result with
              | error error => exact ⟨hChunk.1, rfl⟩
              | ok path =>
                  obtain ⟨piece, hPiece, hBlocked⟩ := hBlocked
                  rcases List.mem_cons.mp hPiece with rfl | hLaterPiece
                  · have hNone := yields_resolveChunk_of_blocked hRemembers hNumbered source
                      hBlocked type
                    obtain ⟨error, final, hFailed, _⟩ := hNone.fails hLater
                    rw [hRead] at hFailed
                    simp at hFailed
                  · obtain ⟨error, final, hFailed, hFinal⟩ :=
                      (ih ⟨piece, hLaterPiece, hBlocked⟩ path.leafType).fails
                        (hLater.trans hChunk.1)
                    simp only [hFailed]
                    exact ⟨hChunk.1.trans hFinal, rfl⟩

/-- A text with an underscore in front of a digit is not resolved chunk by chunk. -/
theorem yields_resolveChunks_of_digit (hRemembers : metadata.Remembers)
    (hNumbered : StaysNumbered metadata state) (source : String) {d : Char}
    (hDigit : d.isDigit = true) (front back : List Char) (root : String) :
    let parts := chunks (endsChunk '_') (front ++ '_' :: d :: back)
    metadata.Yields state none (resolveChunks metadata source parts.1 parts.2 root) := by
  intro parts
  have hInside : endsChunk '_' d = false := by
    simp only [endsChunk, Bool.or_eq_false_iff, beq_eq_false_iff_ne]
    constructor <;> rintro rfl <;> exact absurd hDigit (by decide)
  have hChunk : (chunks (endsChunk '_') (d :: back)).1 = d :: (chunks (endsChunk '_') back).1 := by
    simp [chunks, hInside]
  have hSeparator : endsChunk '_' '_' = true := by decide
  have hMem := chunk_behind_mem hSeparator front (d :: back)
  rw [hChunk] at hMem
  exact yields_resolveChunks_of_blocked hRemembers hNumbered source
    ⟨_, List.mem_cons_of_mem _ hMem, .digit hDigit _⟩ root

end Resolution

/-! ## Canonical spellings -/

/-- A numbered name that is no snake case name keeps an underscore in front of a digit. -/
theorem exists_digit_of_not_snake {name : List Char} (hNumbered : isNumberedName name = true)
    (hSnake : isSnakeName name = false) :
    ∃ front d back, pascalCase name = front ++ '_' :: d :: back ∧ d.isDigit = true := by
  obtain ⟨c, rest, more, hChunks, hLower, hRest, hMore⟩ := isNumberedName_iff.mp hNumbered
  have hFirst : isLetterPiece (c :: rest) = true := by
    simp only [isLetterPiece, hLower, Bool.true_and, List.all_eq_true]
    exact hRest
  rw [isSnakeName, hChunks, hFirst, Bool.true_and, List.all_eq_false] at hSnake
  obtain ⟨piece, hPiece, hDigits⟩ := hSnake
  have hNonempty := hMore piece hPiece
  cases piece with
  | nil => simp [isPiece] at hNonempty
  | cons d others =>
      rcases laterPiece_cons hNonempty with ⟨hLetter, _⟩ | ⟨hDigit, hKept⟩
      · simp only [isPiece, List.all_cons, Bool.and_eq_true] at hNonempty
        simp [isLetterPiece, hLetter, hNonempty.2.2] at hDigits
      · obtain ⟨before, after, rfl⟩ := List.append_of_mem hPiece
        refine ⟨c.toUpper :: (rest ++ before.flatMap laterPiece), d,
          others ++ after.flatMap laterPiece, ?_, hDigit⟩
        rw [pascalCase_of_chunks hChunks hLower hMore, List.flatMap_append, List.flatMap_cons, hKept]
        simp

section Canonical

variable {σ : Type} {metadata : Metadata σ} {state : σ} {root : String} {path : PropertyPath}

/-- The property names of a path are numbered names. -/
def PropertyPath.HasNumberedNames (path : PropertyPath) : Prop :=
  ∀ node ∈ path.nodes, isNumberedName node.property.name.toList = true

private theorem hasNumberedNames_of_traced (hNumbered : KnowsNumbered metadata state)
    (hTraced : Traced metadata state root path.nodes) : path.HasNumberedNames := by
  intro node hNode
  obtain ⟨owner, entity, hKnows, hProperty⟩ := hTraced.known node hNode
  exact hNumbered owner entity hKnows node.property hProperty

/-- Only the segments of a path change when it is read from its canonical spelling. -/
theorem PropertyPath.properties_respelled (path : PropertyPath) :
    path.respelled.properties = path.properties := by
  simp [PropertyPath.properties, PropertyPath.nodes, PropertyPath.respelled, PathNode.respelled,
    Function.comp_def]

/-- Another separator than the underscore does not occur in spellings of properties. -/
theorem endsChunk_of_isAsciiPunctuation {separator : Char}
    (hSeparator : isAsciiPunctuation separator = true) (hOther : separator ≠ '_')
    {name : List Char} (hName : isNumberedName name = true) {c : Char}
    (hChar : c ∈ pascalCase name) : endsChunk separator c = false := by
  have hPlain : ∀ d, isAsciiPunctuation d = true → d ≠ '_' → c ≠ d := by
    rintro d hPunctuation hUnderscore rfl
    rcases isAlphanum_or_underscore_of_mem hName hChar with hAlphanum | hSame
    · simp [isAsciiPunctuation, hAlphanum] at hPunctuation
    · exact hUnderscore hSame
  simp only [endsChunk, Bool.or_eq_false_iff, beq_eq_false_iff_ne]
  exact ⟨hPlain separator hSeparator hOther, hPlain '.' (by decide) (by decide)⟩

private theorem PropertyPath.canonicalText_singleton (separator : Char) (head : PathNode) :
    PropertyPath.canonicalText separator ⟨head, []⟩ = pascalCase head.property.name.toList := by
  simp [PropertyPath.canonicalText_eq, PropertyPath.nodes]

private theorem PropertyPath.canonicalText_cons (separator : Char) (head next : PathNode)
    (others : List PathNode) :
    PropertyPath.canonicalText separator ⟨head, next :: others⟩ =
      pascalCase head.property.name.toList ++
        separator :: PropertyPath.canonicalText separator ⟨next, others⟩ := by
  simp only [PropertyPath.canonicalText_eq, PropertyPath.nodes, List.map_cons,
    List.intercalate_cons_cons, List.append_assoc, List.singleton_append]

private theorem opensWord_canonicalText (separator : Char) (hNames : path.HasNumberedNames) :
    opensWord (path.canonicalText separator) = true := by
  obtain ⟨head, tail⟩ := path
  have hHead := opensWord_pascalCase (hNames head List.mem_cons_self)
  cases tail with
  | nil =>
      rw [PropertyPath.canonicalText_singleton]
      exact hHead
  | cons next others =>
      rw [PropertyPath.canonicalText_cons]
      exact opensWord_append hHead

/-- In a canonical spelling each name stands as it is spelled alone. -/
theorem exists_canonicalText_eq_append (separator : Char) {head node : PathNode}
    {tail : List PathNode} (hNode : node ∈ head :: tail) :
    ∃ front back, PropertyPath.canonicalText separator ⟨head, tail⟩ =
      front ++ (pascalCase node.property.name.toList ++ back) := by
  induction tail generalizing head with
  | nil =>
      obtain rfl := List.mem_singleton.mp hNode
      exact ⟨[], [], by rw [PropertyPath.canonicalText_singleton, List.append_nil, List.nil_append]⟩
  | cons next others ih =>
      rw [PropertyPath.canonicalText_cons]
      rcases List.mem_cons.mp hNode with rfl | hLater
      · exact ⟨[], _, rfl⟩
      · obtain ⟨front, back, hText⟩ := ih hLater
        rw [hText]
        exact ⟨pascalCase head.property.name.toList ++ separator :: front, back, by simp⟩

/-- Behind the underscore of the first step stands a capital. -/
theorem blocked_canonicalText (hNames : path.HasNumberedNames) (hTail : path.tail ≠ []) :
    Blocked (path.canonicalText '_') := by
  obtain ⟨head, tail⟩ := path
  obtain ⟨next, others, rfl⟩ := List.exists_cons_of_ne_nil hTail
  have hLater : PropertyPath.HasNumberedNames ⟨next, others⟩ :=
    fun node hNode => hNames node (List.mem_cons_of_mem head hNode)
  have hOpens := opensWord_canonicalText '_' hLater
  obtain ⟨c, rest, hText⟩ := List.exists_cons_of_ne_nil (ne_nil_of_opensWord hOpens)
  rw [hText, opensWord_cons] at hOpens
  rw [PropertyPath.canonicalText_cons, hText]
  exact .underscore _ hOpens rest

/-- If a name keeps an underscore in front of a digit, the chunks of the spelling are not
resolved. -/
theorem yields_canonicalText_chunks (hRemembers : metadata.Remembers)
    (hNumbered : StaysNumbered metadata state) (hNames : path.HasNumberedNames)
    (hSnake : ¬path.HasSnakeNames) (source root : String) :
    let parts := chunks (endsChunk '_') (path.canonicalText '_')
    metadata.Yields state none (resolveChunks metadata source parts.1 parts.2 root) := by
  simp only [PropertyPath.HasSnakeNames, not_forall, Bool.not_eq_true] at hSnake
  obtain ⟨node, hNode, hOther⟩ := hSnake
  obtain ⟨front, back, hText⟩ := exists_canonicalText_eq_append '_' hNode
  obtain ⟨before, d, after, hSpelled, hDigit⟩ := exists_digit_of_not_snake (hNames node hNode) hOther
  have hJoined : path.canonicalText '_' = (front ++ before) ++ '_' :: d :: (after ++ back) := by
    rw [hText, hSpelled]
    simp
  rw [hJoined]
  exact yields_resolveChunks_of_digit hRemembers hNumbered source hDigit _ _ root

/-- A spelling of several steps with such a name is not resolved. -/
theorem yields_resolvePath_canonicalText (hRemembers : metadata.Remembers)
    (hNumbered : StaysNumbered metadata state) (hNames : path.HasNumberedNames)
    (hTail : path.tail ≠ []) (hSnake : ¬path.HasSnakeNames) (root : String) :
    metadata.Yields state none (resolvePath metadata '_' (path.canonicalText '_') root) := by
  have hDivided := yields_canonicalText_chunks hRemembers hNumbered hNames hSnake
    (String.ofList (path.canonicalText '_')) root
  have hWhole := yields_resolveChunk_of_blocked hRemembers hNumbered
    (String.ofList (path.canonicalText '_')) (blocked_canonicalText hNames hTail) root
  unfold resolvePath
  dsimp only
  split
  · exact yields_firstSuccess_none hWhole [()] fun _ _ => hDivided
  · exact hDivided

/-- A spelling of one step with such a name is resolved as a whole. -/
theorem resolvePath_canonicalText_of_single (hRemembers : metadata.Remembers)
    (hNumbered : StaysNumbered metadata state) {head : PathNode}
    (hTraced : Traced metadata state root [head])
    (hSnake : ¬PropertyPath.HasSnakeNames ⟨head, []⟩) :
    ∃ after, resolvePath metadata '_' (PropertyPath.canonicalText '_' ⟨head, []⟩) root state =
      (.ok (.single head.respelled), after) := by
  have hNames : PropertyPath.HasNumberedNames ⟨head, []⟩ :=
    hasNumberedNames_of_traced (hNumbered state (.refl state)) hTraced
  have hDivided := yields_canonicalText_chunks hRemembers hNumbered hNames hSnake
    (String.ofList (PropertyPath.canonicalText '_' ⟨head, []⟩)) root
  obtain ⟨error, after, hFailed, hLeads⟩ := hDivided.fails (.refl state)
  have hWhole := resolveChunk_pascalCase (hNumbered after hLeads) (hTraced.of_leads hRemembers hLeads)
    (String.ofList (PropertyPath.canonicalText '_' ⟨head, []⟩))
  rw [← PropertyPath.canonicalText_singleton '_' head] at hWhole
  have hContains : (PropertyPath.canonicalText '_' ⟨head, []⟩).contains '_' = true := by
    have hOther : isSnakeName head.property.name.toList = false := by
      simpa [PropertyPath.HasSnakeNames, PropertyPath.nodes] using hSnake
    obtain ⟨before, d, back, hSpelled, _⟩ :=
      exists_digit_of_not_snake (hNames head List.mem_cons_self) hOther
    rw [PropertyPath.canonicalText_singleton, hSpelled]
    simp
  refine ⟨after, ?_⟩
  unfold resolvePath
  rw [if_pos hContains]
  simp only [firstSuccess, hFailed, hWhole]

/-- When the canonical spelling of a traced path is resolved, and to what. -/
theorem resolvePath_canonicalText_iff (hRemembers : metadata.Remembers)
    (hNumbered : StaysNumbered metadata state) {separator : Char}
    (hSeparator : isAsciiPunctuation separator = true)
    (hTraced : Traced metadata state root path.nodes) :
    ((∃ again final, resolvePath metadata separator (path.canonicalText separator) root state =
        (.ok again, final)) ↔ (separator = '_' → path.tail ≠ [] → path.HasSnakeNames)) ∧
      ∀ again final, resolvePath metadata separator (path.canonicalText separator) root state =
        (.ok again, final) → again.properties = path.properties := by
  have hHere := hNumbered state (.refl state)
  have hNames : path.HasNumberedNames := hasNumberedNames_of_traced hHere hTraced
  by_cases hUndivided : separator = '_' → path.HasSnakeNames
  · -- no spelling of a property is divided
    have hChars : ∀ node ∈ path.nodes, ∀ c ∈ pascalCase node.property.name.toList,
        endsChunk separator c = false := by
      intro node hNode c hChar
      by_cases hUnderscore : separator = '_'
      · rw [hUnderscore]
        exact endsChunk_of_mem_pascalCase (hUndivided hUnderscore node hNode) hChar
      · exact endsChunk_of_isAsciiPunctuation hSeparator hUnderscore (hNames node hNode) hChar
    rw [resolvePath_canonicalText_of_undivided hHere hTraced hChars]
    refine ⟨⟨fun _ hUnderscore _ => hUndivided hUnderscore, fun _ => ⟨_, _, rfl⟩⟩, ?_⟩
    rintro again final hAgain
    rw [Prod.mk.injEq, Except.ok.injEq] at hAgain
    rw [← hAgain.1, PropertyPath.properties_respelled]
  · simp only [Classical.not_imp] at hUndivided
    obtain ⟨rfl, hSnake⟩ := hUndivided
    by_cases hTail : path.tail = []
    · obtain ⟨head, tail⟩ := path
      obtain rfl : tail = [] := hTail
      obtain ⟨after, hResolved⟩ :=
        resolvePath_canonicalText_of_single hRemembers hNumbered hTraced hSnake
      rw [hResolved]
      refine ⟨⟨fun _ _ hOther => absurd rfl hOther, fun _ => ⟨_, _, rfl⟩⟩, ?_⟩
      rintro again final hAgain
      rw [Prod.mk.injEq, Except.ok.injEq] at hAgain
      rw [← hAgain.1]
      rfl
    · obtain ⟨error, after, hFailed, _⟩ :=
        (yields_resolvePath_canonicalText hRemembers hNumbered hNames hTail hSnake root).fails
          (.refl state)
      rw [hFailed]
      simp [hTail, hSnake]

end Canonical

/-! ## The registry -/

namespace TypeSource

/-- The names of all described properties are numbered names. -/
def HasNumberedNames (source : TypeSource) : Prop :=
  ∀ name type, source.describe? name = some type →
    ∀ member ∈ type.members, isNumberedName member.name.toList = true

private theorem knowsNumbered_of_sourced {source : TypeSource} (hNames : source.HasNumberedNames)
    {budget : Nat} {state : Registry.State} (hSourced : source.Sourced state.slots) :
    KnowsNumbered (source.metadata budget) state := by
  intro name entity hKnows property hProperty
  obtain ⟨type, hDescribed, member, hMember, hName⟩ := member_of_knows hSourced hKnows hProperty
  rw [hName]
  exact hNames name type hDescribed member hMember

/-- **When a canonical spelling is resolved, and to what.** If the names of all properties are
numbered names, the spelling of a path that was resolved with some punctuation character as the
separator is resolved again, unless the separator is the underscore, the path has several steps, and
a name on it has an underscore in front of a digit. Whatever it is resolved to has the same
properties. This holds in the state in which the path was returned and after further requests. -/
theorem resolvePath_canonical_iff {source : TypeSource} (hNames : source.HasNumberedNames)
    (budget : Nat) (requests : List String) {separator : Char}
    (hSeparator : isAsciiPunctuation separator = true) {text : List Char} {root : String}
    {path : PropertyPath} {after later : Registry.State}
    (hPath : resolvePath (source.metadata budget) separator text root
      (source.stateAfter budget requests) = (.ok path, after))
    (hLater : (source.metadata budget).Leads after later) :
    let resolved :=
      resolvePath (source.metadata budget) separator (path.canonical separator).toList root later
    ((∃ again final, resolved = (.ok again, final)) ↔
        (separator = '_' → path.tail ≠ [] → path.HasSnakeNames)) ∧
      ∀ again final, resolved = (.ok again, final) → again.properties = path.properties := by
  intro resolved
  have hRemembers := remembers source budget
  obtain ⟨hLeads, hRead⟩ := (reads_resolvePath hRemembers separator text root).of_eq hPath
  have hTraced := (hRead path rfl).of_leads hRemembers hLater
  have hSourced := sourced_of_leads (hLeads.trans hLater) (sourced_stateAfter source budget requests)
  have hNumbered : StaysNumbered (source.metadata budget) later :=
    fun _ hFinal => knowsNumbered_of_sourced hNames (sourced_of_leads hFinal hSourced)
  have hText : (path.canonical separator).toList = path.canonicalText separator :=
    String.toList_ofList
  simp only [resolved, hText]
  exact resolvePath_canonicalText_iff hRemembers hNumbered hSeparator hTraced

end TypeSource

private theorem contacts_hasNumberedNames : contacts.source.HasNumberedNames := by
  have hAll : ∀ answer ∈ contacts.inspector.answers, ∀ member ∈ answer.2.members,
      isNumberedName member.name.toList = true := by
    decide +kernel
  intro name type hDescribed
  exact hAll (name, type) (Registry.mem_answers_of_describe? hDescribed)

/-- With another separator the canonical spelling is resolved. -/
theorem resolvePath_canonical_contacts : contacts.source.HasNumberedNames ∧
    isAsciiPunctuation '$' = true ∧ ∃ path after again final,
      resolvePath contacts.metadata '$' "AddressLine_1".toList "Person"
          (contacts.source.stateAfter contacts.budget []) = (.ok path, after) ∧
        path.canonical '$' = "Address$Line_1" ∧
        resolvePath contacts.metadata '$' (path.canonical '$').toList "Person" after =
          (.ok again, final) ∧
        again.properties = path.properties := by
  have hSpelled : (resolvePath contacts.metadata '$' "AddressLine_1".toList "Person"
      (contacts.source.stateAfter contacts.budget [])).1.toOption.map (·.canonical '$') =
        some "Address$Line_1" := by
    decide +kernel
  obtain ⟨path, after, hPath, hText⟩ := exists_of_toOption_map hSpelled
  have hPunctuation : isAsciiPunctuation '$' = true := by decide
  obtain ⟨hResolved, hSame⟩ := TypeSource.resolvePath_canonical_iff contacts_hasNumberedNames
    contacts.budget [] hPunctuation hPath (.refl after)
  obtain ⟨again, final, hAgain⟩ := hResolved.mpr fun hUnderscore => absurd hUnderscore (by decide)
  exact ⟨contacts_hasNumberedNames, hPunctuation, path, after, again, final, hPath, hText, hAgain,
    hSame again final hAgain⟩

/-- The canonical spelling `Address_Line_1` is not resolved with the separator that it was written
with. -/
theorem not_resolvePath_canonical : contacts.source.HasNumberedNames ∧ ∃ path after,
    resolvePath contacts.metadata '_' "AddressLine_1".toList "Person"
        (contacts.source.stateAfter contacts.budget []) = (.ok path, after) ∧
      path.canonical '_' = "Address_Line_1" ∧
      ∀ again final, resolvePath contacts.metadata '_' (path.canonical '_').toList "Person" after ≠
        (.ok again, final) := by
  have hSpelled : (resolvePath contacts.metadata '_' "AddressLine_1".toList "Person"
      (contacts.source.stateAfter contacts.budget [])).1.toOption.map (·.canonical '_') =
        some "Address_Line_1" := by
    decide +kernel
  have hFailed : (resolvePath contacts.metadata '_' "Address_Line_1".toList "Person"
      (resolvePath contacts.metadata '_' "AddressLine_1".toList "Person"
        (contacts.source.stateAfter contacts.budget [])).2).1.toOption.isNone = true := by
    decide +kernel
  obtain ⟨path, after, hPath, hText⟩ := exists_of_toOption_map hSpelled
  rw [hPath] at hFailed
  refine ⟨contacts_hasNumberedNames, path, after, hPath, hText, fun again final hAgain => ?_⟩
  rw [hText] at hAgain
  rw [hAgain] at hFailed
  simp [Except.toOption] at hFailed

end DerivedQuery
