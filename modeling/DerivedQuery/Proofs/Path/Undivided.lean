import DerivedQuery.Proofs.Path.Greedy

/-!
# Paths without their separators

A source text divides its path where a separator stands, and the chunks are read one after the
other. A reader commits itself to each chunk: what the first one was read as is not changed if a
later one cannot be read. Without the separators the same text is a single chunk, which is searched
for the greatest of its readings.

If every chunk behind a separator starts a word, the steps of the divided text are a reading of the
undivided one, cut where the separators were. So the undivided text can be read too. It may be read
otherwise, since a longer head may name a property, but only with greater lengths. It has the same
properties if there are no others to choose from.

## Main results

* `Reading.append_word`: readings side by side
* `reading_of_resolveChunks`: what chunks are resolved to is a reading of the text without separators
* `resolvePath_filter`: dropping the separators never loses a path
-/

namespace DerivedQuery

open Text Metadata

/-! ## Readings side by side -/

/-- Two texts side by side, if the second one starts a word. -/
theorem Composes.append_word {isSeparator : Char → Bool} {segments others : List (List Char)}
    {text back : List Char} (hText : Composes isSeparator segments text)
    (hOpens : opensWord back = true) (hBack : Composes isSeparator others back) :
    Composes isSeparator (segments ++ others) (text ++ back) := by
  obtain ⟨next, rest, rfl⟩ := List.exists_cons_of_ne_nil hBack.ne_nil
  rw [hBack.opensWord_eq] at hOpens
  induction hText with
  | single hSegment => exact .adjacent hSegment hOpens hBack
  | adjacent hSegment hInside _ ih =>
      rw [List.append_assoc]
      exact .adjacent hSegment hInside ih
  | separated hSegment hSeparator _ ih =>
      rw [List.append_assoc]
      exact .separated hSegment hSeparator ih

/-- Readings side by side, if the second one starts a word in the type in which the first one
ends. -/
theorem Reading.append_word {isSeparator : Char → Bool} {Offers : String → Entity → Prop}
    {type : String} {text back : List Char} {first second : PropertyPath}
    (hFirst : Reading isSeparator Offers type text first.nodes) (hOpens : opensWord back = true)
    (hSecond : Reading isSeparator Offers first.leafType back second.nodes) :
    Reading isSeparator Offers type (text ++ back) (first.append second).nodes where
  named := hFirst.named.append hSecond.named
  composed := by
    rw [PropertyPath.nodes_append, List.map_append]
    exact hFirst.composed.append_word hOpens hSecond.composed

/-! ## Chunks without their separators -/

/-- A text without its separators is its chunks side by side. -/
theorem filter_eq_chunks (isSeparator : Char → Bool) (text : List Char) :
    text.filter (!isSeparator ·) =
      (chunks isSeparator text).1 ++ (chunks isSeparator text).2.flatten := by
  induction text with
  | nil => rfl
  | cons c rest ih =>
      rw [List.filter_cons, ih]
      cases hSeparator : isSeparator c with
      | true => simp [chunks, hSeparator]
      | false => simp [chunks, hSeparator]

section Steady

variable {σ : Type} {metadata : Metadata σ} {state later after : σ}

/-- What a chunk is resolved to is a reading of it with the entities on offer. -/
theorem reading_of_resolveChunk (hSteady : metadata.Steady state)
    (hLater : metadata.Leads state later) {source : String} {chunk : List Char} (hChunk : chunk ≠ [])
    {type : String} {path : PropertyPath}
    (hPath : resolveChunk metadata source chunk type later = (.ok path, after)) :
    Reading (fun _ => false) (metadata.Offers state) type chunk path.nodes := by
  obtain ⟨_, hValue⟩ := (yields_resolveChunk hSteady source chunk type).of_eq hLater hPath
  have hReading := reading_of_readChunk? hChunk hValue.symm
  exact hReading.mono (fun _ => id) fun _ _ => Metadata.offered?_eq_some_iff.mp

/-- **What chunks are resolved to is a reading of the text without separators**, if every chunk
behind the first starts a word. -/
theorem reading_of_resolveChunks (hSteady : metadata.Steady state) {source : String}
    {chunk : List Char} {more : List (List Char)} (hOpens : ∀ next ∈ more, opensWord next = true)
    (hLater : metadata.Leads state later) {type : String} {path : PropertyPath}
    (hPath : resolveChunks metadata source chunk more type later = (.ok path, after)) :
    Reading (fun _ => false) (metadata.Offers state) type (chunk ++ more.flatten) path.nodes := by
  induction more generalizing chunk type later path with
  | nil =>
      cases chunk with
      | nil => simp [resolveChunks] at hPath
      | cons c rest =>
          rw [resolveChunks_singleton (List.cons_ne_nil c rest)] at hPath
          rw [List.flatten_nil, List.append_nil]
          exact reading_of_resolveChunk hSteady hLater (List.cons_ne_nil c rest) hPath
  | cons next others ih =>
      cases chunk with
      | nil => simp [resolveChunks] at hPath
      | cons c rest =>
          have hNext := hOpens next List.mem_cons_self
          unfold resolveChunks at hPath
          rcases hFirst : resolveChunk metadata source (c :: rest) type later with
            ⟨error | first, between⟩
          · simp [hFirst] at hPath
          · rcases hRest : resolveChunks metadata source next others first.leafType between with
              ⟨error | second, final⟩
            · simp [hFirst, hRest] at hPath
            · simp only [hFirst, hRest, Prod.mk.injEq, Except.ok.injEq] at hPath
              obtain ⟨rfl, rfl⟩ := hPath
              -- the second chunk is read behind the requests for the first one
              have hLeads := ((yields_resolveChunk hSteady source (c :: rest) type).of_eq
                hLater hFirst).1
              have hChunk := reading_of_resolveChunk hSteady hLater (List.cons_ne_nil c rest) hFirst
              have hBehind := ih (fun other hOther => hOpens other (List.mem_cons_of_mem next hOther))
                (hLater.trans hLeads) hRest
              rw [List.flatten_cons]
              refine hChunk.append_word ?_ hBehind
              exact opensWord_append hNext

/-- A source that is steady in a state is steady in every later one. -/
theorem Metadata.Steady.of_leads (hSteady : metadata.Steady state)
    (hLater : metadata.Leads state later) : metadata.Steady later := by
  intro final hFinal name
  rw [hSteady final (hLater.trans hFinal) name, hSteady later hLater name]

/-- It gives the same entities there. -/
theorem Metadata.Steady.offered?_eq (hSteady : metadata.Steady state)
    (hLater : metadata.Leads state later) : metadata.offered? later = metadata.offered? state := by
  funext type
  unfold Metadata.offered?
  rw [hSteady later hLater type]

/-- **Dropping the separators never loses a path.** Let a source of metadata be steady, and let every
chunk of a text behind a separator start a word. If the chunks are resolved one after the other, the
text without its separators resolves as well, also after further requests. The lengths of its
segments are lexicographically greater, unless the steps are the same. If all readings of the text
without separators have the same properties, so has the path that it resolves to. -/
theorem resolvePath_filter (hSteady : metadata.Steady state) {separator : Char}
    {source : List Char} {root : String} {path : PropertyPath}
    (hOpens : ∀ chunk ∈ (chunks (endsChunk separator) source).2, opensWord chunk = true)
    (hPath : resolveChunks metadata (String.ofList source) (chunks (endsChunk separator) source).1
      (chunks (endsChunk separator) source).2 root state = (.ok path, after))
    (hLater : metadata.Leads state later) :
    let undivided := source.filter (!endsChunk separator ·)
    let IsReading := Reading (fun _ => false) (metadata.Offers state) root undivided
    ∃ other final, resolvePath metadata separator undivided root later = (.ok other, final) ∧
      (path.nodes = other.nodes ∨ segmentLengths path.nodes < segmentLengths other.nodes) ∧
      ((∀ first second, IsReading first → IsReading second →
          first.map (·.property) = second.map (·.property)) →
        other.properties = path.properties) := by
  intro undivided IsReading
  have hReading : IsReading path.nodes := by
    have hChunks := reading_of_resolveChunks hSteady hOpens (.refl state) hPath
    rw [← filter_eq_chunks] at hChunks
    exact hChunks
  have hUndivided : ∀ c ∈ undivided, endsChunk separator c = false := by
    intro c hChar
    simpa using (List.mem_filter.mp hChar).2
  have hNonempty : undivided ≠ [] := hReading.composed.text_ne_nil
  have hOffered : Reading (fun _ => false)
      (fun type entity => metadata.offered? state type = some entity) root undivided path.nodes :=
    hReading.mono (fun _ => id) fun _ _ => Metadata.offered?_eq_some_iff.mpr
  obtain ⟨other, hOther, hGreatest⟩ := exists_readChunk?_of_reading hOffered
  have hOtherReading : IsReading other.nodes :=
    (reading_of_readChunk? hNonempty hOther).mono (fun _ => id)
      fun _ _ => Metadata.offered?_eq_some_iff.mp
  obtain ⟨final, hResolved⟩ :=
    (exists_resolvePath_iff (hSteady.of_leads hLater) hNonempty hUndivided root other).mpr
      (by rw [hSteady.offered?_eq hLater]; exact hOther)
  exact ⟨other, final, hResolved, hGreatest, fun hUnique =>
    hUnique other.nodes path.nodes hOtherReading hReading⟩

end Steady

/-- Shipments to an address, whose city is also a property of the shipment. -/
def shipments : Registry :=
  { inspector := .ofCatalog
      { types :=
          [{ name := "Shipment"
             members :=
               [{ name := "address", declared := .named "Address" },
                 { name := "address_city", declared := .named "String" }] },
            { name := "Address"
              members := [{ name := "city", declared := .named "String" }] }] } }

private theorem shipments_coherent : shipments.source.Coherent :=
  shipments.coherent_of_answers (by decide +kernel)

/-- Without the separator, the city of the address is spelled as the city of the shipment. -/
theorem resolvePath_filter_shipments : shipments.metadata.Steady {} ∧
    (∀ chunk ∈ (chunks (endsChunk '_') "Address_City".toList).2, opensWord chunk = true) ∧
    ∃ path after other final,
      resolveChunks shipments.metadata "Address_City" "Address".toList ["City".toList] "Shipment" {} =
        (.ok path, after) ∧
      resolvePath shipments.metadata '_' "AddressCity".toList "Shipment" {} = (.ok other, final) ∧
      (path.dotPath, segmentLengths path.nodes) = ("address.city", [7, 4]) ∧
      (other.dotPath, segmentLengths other.nodes) = ("address_city", [11]) ∧
      (path.nodes = other.nodes ∨ segmentLengths path.nodes < segmentLengths other.nodes) := by
  have hSteady : shipments.metadata.Steady {} :=
    Registry.steady_stateAfter _ _ [] shipments_coherent
  have hOpens : ∀ chunk ∈ (chunks (endsChunk '_') "Address_City".toList).2,
      opensWord chunk = true := by
    decide +kernel
  have hDivided : (resolveChunks shipments.metadata "Address_City" "Address".toList ["City".toList]
      "Shipment" {}).1.toOption.map (fun path => (path.dotPath, segmentLengths path.nodes)) =
        some ("address.city", [7, 4]) := by
    decide +kernel
  have hUndivided : (resolvePath shipments.metadata '_' "AddressCity".toList "Shipment"
      {}).1.toOption.map (fun path => (path.dotPath, segmentLengths path.nodes)) =
        some ("address_city", [11]) := by
    decide +kernel
  obtain ⟨path, after, hPath, hSteps⟩ := exists_of_toOption_map hDivided
  have hSame : shipments.metadata.Leads {} {} := .refl _
  have hText : "Address_City".toList.filter (!endsChunk '_' ·) = "AddressCity".toList := by decide
  obtain ⟨other, final, hOther, hGreater, _⟩ := resolvePath_filter hSteady hOpens hPath hSame
  refine ⟨hSteady, hOpens, path, after, other, final, hPath, hOther, hSteps, ?_, hGreater⟩
  rw [hText] at hOther
  rw [hOther] at hUndivided
  exact Option.some.inj hUndivided

end DerivedQuery
