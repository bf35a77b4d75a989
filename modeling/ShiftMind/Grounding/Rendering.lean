import ShiftMind.Grounding.Integrity

/-!
# ShiftMind — which placeholders become claims

A placeholder is resolved where the gate looks for one: in the plain text of an answer. The body of
a well-formed fact tag is kept as it is, so a placeholder in it is shown raw; and one that stands in
an opener that never closes is deleted with it.

* **`PlaceholdersResolved`** — each placeholder of the visible text is a claim of the response, in
  order, and none is left in a text that is shown.
* **`PlaceholdersPlain`** — each of them lies inside one plain part of the parse.
* **`placeholders_resolved_iff`** — the one holds exactly when the other does. Both sides count: the
  parts of a parse are the visible text, and what starts in a part is found by parsing that part
  alone unless it runs across the end of it (`Scanner.contained_of_length`).
-/

namespace ShiftMind.Grounding

open Scanner Transactional

/-! ## Segments -/

/-- The result id a claim carries: that of the result its handle cites, or the handle itself. -/
def citedId (results : List (String × TrustedCalculationResultV1)) (handle : String) : String :=
  ((Dict.get? results handle).map (·.resultId)).getD handle

/-- The segment is of the kind of its part, and carries its text or its handle. -/
def Rendered (results : List (String × TrustedCalculationResultV1)) (part : ParsedPart)
    (segment : GroundedSegment) : Prop :=
  match part with
  | .prose text => segment = .prose text
  | .placeholder handle => ∃ claim, segment = .claim claim ∧ claim.resultId = citedId results handle
  | .fact tag => ∃ fact, segment = .fact fact ∧ fact.text = tag.text

section Segments

variable {deps : AgentDepsV1} {results : List (String × TrustedCalculationResultV1)}
  {records : List (String × TrustedRecordV1)}

theorem yields_groundClaim (handle : String) :
    Tx.Yields (fun claim => claim.resultId = citedId results handle)
      (groundClaim handle deps results) := by
  unfold groundClaim citedId
  cases hget : Dict.get? results handle with
  | none => exact .pure rfl
  | some result =>
    refine .ite (fun _ => .pure rfl) fun _ => ?_
    refine .ite (fun _ => .pure rfl) fun _ => ?_
    refine .ite (fun _ => .ite (fun _ => .pure rfl) fun _ => .pure rfl) fun _ => ?_
    refine .bind fun failure => ?_
    cases failure with
    | none => exact .pure rfl
    | some failure => exact .pure rfl

theorem yields_groundFact (tag : FactTagPart) :
    Tx.Yields (fun fact => fact.text = tag.text) (groundFact tag deps records) :=
  ⟨fun h => (groundFact_ok h).2.1.1⟩

theorem yields_groundPart (part : ParsedPart) :
    Tx.Yields (Rendered results part) (groundPart deps results records part) := by
  cases part with
  | prose text => exact .pure rfl
  | placeholder handle =>
    refine ⟨fun h => ?_⟩
    obtain ⟨claim, mid, hclaim, hpure⟩ := Tx.bind_ok.mp h
    cases hpure
    exact ⟨claim, rfl, (yields_groundClaim handle).yielded hclaim⟩
  | fact tag =>
    refine ⟨fun h => ?_⟩
    obtain ⟨fact, mid, hfact, hpure⟩ := Tx.bind_ok.mp h
    cases hpure
    exact ⟨fact, rfl, (yields_groundFact tag).yielded hfact⟩

/-- The segments of an answer are those of its parts. -/
theorem groundAnswer_rendered {text : String} {response : GroundedResponseV1} {calls : Nat}
    (h : (groundAnswer text deps results records).run 0 = (.ok response, calls)) :
    List.Forall₂ (Rendered results) (parsedParts text) response.segments := by
  obtain ⟨segments, mid, hsegments, hpure⟩ := Tx.bind_ok.mp h
  cases hpure
  exact (Tx.Yields.mapM yields_groundPart _).yielded hsegments

end Segments

/-- Every segment stands for a part. -/
theorem exists_part_of_mem {results : List (String × TrustedCalculationResultV1)}
    {parts : List ParsedPart} {segments : List GroundedSegment}
    (h : List.Forall₂ (Rendered results) parts segments) {segment : GroundedSegment}
    (hmem : segment ∈ segments) : ∃ part ∈ parts, Rendered results part segment := by
  induction h with
  | nil => cases hmem
  | @cons part other parts segments hpart _ ih =>
    rcases List.mem_cons.mp hmem with rfl | hmem
    · exact ⟨part, List.mem_cons_self, hpart⟩
    · obtain ⟨part, hpart, hsegment⟩ := ih hmem
      exact ⟨part, List.mem_cons_of_mem _ hpart, hsegment⟩

/-! ## The claims of a response -/

/-- The handle of a placeholder part. -/
def ParsedPart.handle? : ParsedPart → Option String
  | placeholder handle => some handle
  | _ => none

/-- The claims of a response are those of the placeholder parts. -/
theorem claims_of_rendered {results : List (String × TrustedCalculationResultV1)}
    {parts : List ParsedPart} {segments : List GroundedSegment} {version : Option Uuid}
    (h : List.Forall₂ (Rendered results) parts segments) :
    (GroundedResponseV1.claims ⟨version, segments⟩).map (·.resultId) =
      (parts.filterMap ParsedPart.handle?).map (citedId results) := by
  unfold GroundedResponseV1.claims
  induction h with
  | nil => rfl
  | @cons part segment parts segments hpart _ ih =>
    cases part with
    | prose text =>
      rw [show segment = .prose text from hpart]
      exact ih
    | placeholder handle =>
      obtain ⟨claim, rfl, hid⟩ := hpart
      simp only [List.filterMap_cons, List.map_cons, ParsedPart.handle?, hid]
      rw [ih]
    | fact tag =>
      obtain ⟨fact, rfl, -⟩ := hpart
      exact ih

/-- The placeholders a part of the parse gives rise to. -/
def TagPart.handles : TagPart → List String
  | plainText text => placeholdersIn text.toList []
  | factTag _ => []

theorem filterMap_parsed (part : TagPart) :
    part.parsed.filterMap ParsedPart.handle? = part.handles := by
  cases part with
  | factTag tag => rfl
  | plainText text =>
    simp only [TagPart.parsed, TagPart.handles, List.filterMap_map, ← handles_parseAnswerText]
    refine List.filterMap_congr fun piece _ => ?_
    cases piece <;> rfl

theorem filterMap_parsedParts (text : String) :
    (parsedParts text).filterMap ParsedPart.handle? =
      (parseClaimTags text).flatMap TagPart.handles := by
  unfold parsedParts
  rw [List.filterMap_flatMap]
  exact List.flatMap_congr fun part _ => filterMap_parsed part

/-! ## Placeholders of the visible text

What the planner can see of a placeholder: it stands outside every tag, after the repair. -/

/-- The part finds the placeholders that start in it: none runs on into the text behind it, and
a fact tag has none to find. -/
def PartPlain (part : TagPart) (after : List Char) : Prop :=
  Contained placeholderAt part.text.toList after ∧
    placeholdersIn part.text.toList [] = part.handles

/-- Every part of the list does. -/
inductive PartsPlain : List TagPart → Prop
  | nil : PartsPlain []
  | cons {part : TagPart} {parts : List TagPart} (hpart : PartPlain part (partsText parts))
      (hparts : PartsPlain parts) : PartsPlain (part :: parts)

theorem sublist_handles (part : TagPart) (after : List Char) :
    part.handles.Sublist (placeholdersIn part.text.toList after) := by
  cases part with
  | plainText text => exact sublist_matchesIn placeholderAt_local _ _
  | factTag tag => exact List.nil_sublist _

/-- A part that finds as many placeholders as start in it finds them all. -/
theorem partPlain_of_length {part : TagPart} {after : List Char}
    (h : (placeholdersIn part.text.toList after).length ≤ part.handles.length) :
    PartPlain part after := by
  have hsub := sublist_matchesIn placeholderAt_local part.text.toList after
  have hown := sublist_handles part []
  have hle := hsub.length_le
  have hle' := hown.length_le
  unfold placeholdersIn at h hle'
  refine ⟨contained_of_length placeholderAt_local (by omega), ?_⟩
  exact (hown.eq_of_length (by unfold placeholdersIn; omega)).symm

theorem placeholdersIn_of_partPlain {part : TagPart} {after : List Char}
    (h : PartPlain part after) : placeholdersIn part.text.toList after = part.handles := by
  unfold placeholdersIn
  rw [matchesIn_of_contained placeholderAt_local h.1]
  exact h.2

theorem placeholdersIn_partsText (part : TagPart) (parts : List TagPart) :
    placeholdersIn (partsText (part :: parts)) [] =
      placeholdersIn part.text.toList (partsText parts) ++ placeholdersIn (partsText parts) [] := by
  show matchesIn placeholderAt (part.text.toList ++ partsText parts) [] = _
  rw [matchesIn_append, List.append_nil]
  rfl

theorem length_handles_le (parts : List TagPart) :
    (parts.flatMap TagPart.handles).length ≤ (placeholdersIn (partsText parts) []).length := by
  induction parts with
  | nil => exact le_refl _
  | cons part parts ih =>
    have hle := (sublist_handles part (partsText parts)).length_le
    rw [placeholdersIn_partsText, List.flatMap_cons, List.length_append, List.length_append]
    omega

/-- **The parts find every placeholder of their text** exactly when each finds those that start
in it. -/
theorem placeholders_of_parts_iff (parts : List TagPart) :
    (placeholdersIn (partsText parts) []).length ≤ (parts.flatMap TagPart.handles).length ↔
      PartsPlain parts := by
  induction parts with
  | nil => exact ⟨fun _ => .nil, fun _ => le_refl _⟩
  | cons part parts ih =>
    have hle := (sublist_handles part (partsText parts)).length_le
    have hrest := length_handles_le parts
    rw [placeholdersIn_partsText, List.flatMap_cons, List.length_append, List.length_append]
    constructor
    · intro h
      exact .cons (partPlain_of_length (by omega)) (ih.mp (by omega))
    · intro h
      cases h with
      | cons hpart hparts =>
        have hfound := ih.mpr hparts
        rw [placeholdersIn_of_partPlain hpart]
        omega

theorem placeholders_of_partsPlain {parts : List TagPart} (h : PartsPlain parts) :
    placeholdersIn (partsText parts) [] = parts.flatMap TagPart.handles := by
  induction h with
  | nil => rfl
  | cons hpart _ ih =>
    rw [placeholdersIn_partsText, List.flatMap_cons, placeholdersIn_of_partPlain hpart, ih]

/-! ## The law -/

/-- The placeholders of the visible text, run by run. -/
def visiblePlaceholders (text : String) : List String :=
  (visibleRuns text).flatMap fun run => placeholdersIn run []

/-- **Every placeholder is resolved**: those of the visible text are the claims of the response,
and none is shown raw. -/
structure PlaceholdersResolved (text : String)
    (results : List (String × TrustedCalculationResultV1)) (response : GroundedResponseV1) :
    Prop where
  claims : response.claims.map (·.resultId) = (visiblePlaceholders text).map (citedId results)
  shown : ∀ segment ∈ response.segments, placeholdersIn segment.shownText.toList [] = []

/-- Every placeholder of the text lies inside one plain part of its parse: none runs across the end
of a part or lies in a fact tag, and none is in what the repair deletes or the parser drops. -/
structure PlaceholdersPlain (text : String) : Prop where
  parts : PartsPlain (parseClaimTags text)
  deleted : ∀ run ∈ deletedRuns text, placeholdersIn run [] = []
  dropped : ∀ run ∈ droppedRuns text, placeholdersIn run [] = []

/-- The visible placeholders are those of the parts, and those that are lost with their run. -/
theorem visiblePlaceholders_eq (text : String) : visiblePlaceholders text =
    placeholdersIn (partsText (parseClaimTags text)) [] ++
      ((deletedRuns text).flatMap (fun run => placeholdersIn run []) ++
        (droppedRuns text).flatMap fun run => placeholdersIn run []) := by
  unfold visiblePlaceholders visibleRuns
  rw [List.flatMap_cons, List.flatMap_append, parts_keptText]

/-- The fact tags among plain parts contain no placeholder. -/
theorem placeholdersIn_factTag {parts : List TagPart} (h : PartsPlain parts) {tag : FactTagPart}
    (hmem : .factTag tag ∈ parts) : placeholdersIn tag.text.toList [] = [] := by
  induction h with
  | nil => cases hmem
  | cons hpart _ ih =>
    rcases List.mem_cons.mp hmem with rfl | hmem
    · exact hpart.2
    · exact ih hmem

theorem shown_of_partsPlain {results : List (String × TrustedCalculationResultV1)} {text : String}
    (h : PartsPlain (parseClaimTags text)) {part : ParsedPart} (hmem : part ∈ parsedParts text)
    {segment : GroundedSegment} (hrendered : Rendered results part segment) :
    placeholdersIn segment.shownText.toList [] = [] := by
  obtain ⟨tagPart, htagPart, hpart⟩ := List.mem_flatMap.mp hmem
  cases tagPart with
  | factTag tag =>
    rw [List.mem_singleton.mp hpart] at hrendered
    obtain ⟨fact, rfl, htext⟩ := hrendered
    show placeholdersIn fact.text.toList [] = []
    rw [htext]
    exact placeholdersIn_factTag h htagPart
  | plainText plain =>
    obtain ⟨piece, hpiece, rfl⟩ := List.mem_map.mp hpart
    cases piece with
    | prose prose =>
      rw [show segment = .prose prose from hrendered]
      exact prose_parseAnswerText hpiece
    | placeholder handle =>
      obtain ⟨claim, rfl, -⟩ := hrendered
      rfl

/-- **Where every placeholder is resolved.** The response of any answer resolves every placeholder
exactly when each lies inside one plain part of the parse. -/
theorem placeholders_resolved_iff {text : String} {deps : AgentDepsV1}
    {results : List (String × TrustedCalculationResultV1)}
    {records : List (String × TrustedRecordV1)} {response : GroundedResponseV1} {calls : Nat}
    (h : (groundAnswer text deps results records).run 0 = (.ok response, calls)) :
    PlaceholdersResolved text results response ↔ PlaceholdersPlain text := by
  have hrendered := groundAnswer_rendered h
  have hclaims : response.claims.map (·.resultId) =
      ((parseClaimTags text).flatMap TagPart.handles).map (citedId results) := by
    rw [← filterMap_parsedParts]
    exact claims_of_rendered hrendered
  constructor
  · intro ⟨hresolved, _⟩
    -- as many claims as placeholders: no part misses one, and no run is lost with one
    have hlength := congrArg List.length hresolved
    have hle := length_handles_le (parseClaimTags text)
    rw [hclaims, visiblePlaceholders_eq, List.length_map, List.length_map, List.length_append,
      List.length_append] at hlength
    refine ⟨(placeholders_of_parts_iff _).mp (by omega), ?_, ?_⟩
    · exact List.flatMap_eq_nil_iff.mp (List.eq_nil_of_length_eq_zero (by omega))
    · exact List.flatMap_eq_nil_iff.mp (List.eq_nil_of_length_eq_zero (by omega))
  · intro ⟨hparts, hdeleted, hdropped⟩
    refine ⟨?_, fun segment hmem => ?_⟩
    · rw [hclaims, visiblePlaceholders_eq, placeholders_of_partsPlain hparts,
        List.flatMap_eq_nil_iff.mpr hdeleted, List.flatMap_eq_nil_iff.mpr hdropped,
        List.append_nil, List.append_nil]
    · obtain ⟨part, hpart, hsegment⟩ := exists_part_of_mem hrendered hmem
      exact shown_of_partsPlain hparts hpart hsegment

theorem placeholders_resolved_iff_headcount :
    PlaceholdersResolved Headcount.answer Headcount.results Headcount.response := by
  have hparts : (placeholdersIn (partsText (parseClaimTags Headcount.answer)) []).length ≤
      ((parseClaimTags Headcount.answer).flatMap TagPart.handles).length := by
    decide +kernel
  have hdeleted : ∀ run ∈ deletedRuns Headcount.answer, placeholdersIn run [] = [] := by
    decide +kernel
  have hdropped : ∀ run ∈ droppedRuns Headcount.answer, placeholdersIn run [] = [] := by
    decide +kernel
  rw [placeholders_of_parts_iff] at hparts
  rw [placeholders_resolved_iff Headcount.groundAnswer_answer]
  exact ⟨hparts, hdeleted, hdropped⟩

namespace Headcount

/-- A placeholder in the body of a fact tag. -/
def wrapped : String := "<claim ev='w1' field='name' value='Ana'>{{r1}}</claim>"

def wrappedResponse : GroundedResponseV1 where
  scenarioVersionId := some 7
  segments :=
    [.fact (factSegment ⟨"{{r1}}", "w1", "name", "Ana"⟩ none
      [{ evidence with field := some "name" }])]

/-- A placeholder behind an opener that never closes. -/
def unclosed : String := "<claim ev='t6' The total is {{r1}} units."

end Headcount

/-- **A raw placeholder**: the fact is shown with the placeholder as its text, and no claim. **A
lost placeholder**: the repair of an opener that never closes deletes the sentence it is in. -/
theorem fact_body_shows_placeholder :
    ((groundAnswer Headcount.wrapped Headcount.deps Headcount.results Headcount.records).run 0 =
        (.ok Headcount.wrappedResponse, 2) ∧
      visiblePlaceholders Headcount.wrapped = ["r1"] ∧
      Headcount.wrappedResponse.claims = [] ∧
      ¬ PlaceholdersResolved Headcount.wrapped Headcount.results Headcount.wrappedResponse) ∧
    (groundAnswer Headcount.unclosed Headcount.deps Headcount.results Headcount.records).run 0 =
        (.ok ⟨some 7, []⟩, 0) ∧
      visiblePlaceholders Headcount.unclosed = ["r1"] ∧
      ¬ PlaceholdersResolved Headcount.unclosed Headcount.results ⟨some 7, []⟩ := by
  have hwrapped : visiblePlaceholders Headcount.wrapped = ["r1"] := by
    decide +kernel
  have hunclosed : visiblePlaceholders Headcount.unclosed = ["r1"] := by
    decide +kernel
  refine ⟨⟨by decide +kernel, hwrapped, by decide, ?_⟩, by decide +kernel, hunclosed, ?_⟩
  · intro ⟨hclaims, _⟩
    rw [hwrapped] at hclaims
    exact absurd hclaims (by decide)
  · intro ⟨hclaims, _⟩
    rw [hunclosed] at hclaims
    exact absurd hclaims (by decide)

end ShiftMind.Grounding
