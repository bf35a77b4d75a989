import ShiftMind.Grounding.Gate

/-!
# ShiftMind — what a grounded answer vouches for

Every segment marked supported was checked, whatever the answer, the maps and the reader are. A
check is a fact about the calls the gate made: `Resolved` says that one of them answered with the
record, at the pinned version. The segments of an answer are related to its parsed parts one by
one, so their order is the order of the text.
-/

namespace ShiftMind.Grounding

open Transactional

/-! ## The maps -/

/-- A citation names a result of the turn: by its own id, or by the handle minted for it. -/
theorem mem_of_trustedResultsByCitation {results : List TrustedCalculationResultV1}
    {handleOf : String → Option String} {handle : String} {result : TrustedCalculationResultV1}
    (h : Dict.get? (trustedResultsByCitation results handleOf) handle = some result) :
    result ∈ results ∧ (handle = result.resultId ∨ handleOf result.resultId = some handle) := by
  have hpair := Dict.mem_of_get?_ofPairs h
  simp only [List.mem_flatMap, List.mem_cons, List.mem_map, Option.mem_toList, Prod.mk.injEq]
    at hpair
  obtain ⟨value, hmem, ⟨hid, rfl⟩ | ⟨minted, hminted, rfl, rfl⟩⟩ := hpair
  · exact ⟨hmem, .inl hid⟩
  · exact ⟨hmem, .inr hminted⟩

/-! ## Checks

What a grounded segment has passed, read off the checks of the gate. -/

/-- One of the first `calls` calls resolved the reference, at the pinned version. -/
def Resolved (deps : AgentDepsV1) (calls : Nat) (reference : EvidenceRefV1) : Prop :=
  reference.scenarioVersionId = deps.scenarioVersionId ∧
    ∃ n < calls, ∃ resolution,
      deps.projectionReader.resolve n reference.group deps.scenarioId reference.scenarioVersionId
        reference.recordId = .ok (some resolution) ∧
      resolution.outcome = .resolved ∧ resolution.item = some reference.recordId ∧
      resolution.currentScenarioVersionId = reference.scenarioVersionId

theorem Resolved.mono {deps : AgentDepsV1} {calls calls' : Nat} {reference : EvidenceRefV1}
    (hle : calls ≤ calls') (h : Resolved deps calls reference) :
    Resolved deps calls' reference := by
  obtain ⟨hversion, n, hn, hresolution⟩ := h
  exact ⟨hversion, n, by omega, hresolution⟩

/-- A claim carries the numbers and references of a result, and these were checked. -/
structure ClaimSupported (deps : AgentDepsV1) (calls : Nat) (claim : GroundedClaimV1)
    (result : TrustedCalculationResultV1) : Prop where
  value : claim.value = some result.value
  unit : claim.unit = some result.unit
  metric : claim.metric = result.metric
  arguments : claim.arguments = result.arguments
  evidenceRefs : claim.evidenceRefs = result.evidenceRefs
  resultId : claim.resultId = result.resultId
  pinned : result.scenarioVersionId = deps.scenarioVersionId
  counted : result.evidenceRefs.length = result.consumedRowCount
  resolved : ∀ reference ∈ result.evidenceRefs, Resolved deps calls reference
  /-- nothing was folded in only where the value is zero -/
  zero : result.evidenceRefs = [] → result.consumedRowCount = 0 ∧ result.value.isZero = true

/-- A fact states a field of a record, and the record was checked. -/
structure FactSupported (deps : AgentDepsV1) (calls : Nat) (fact : GroundedFactV1)
    (trusted : TrustedRecordV1) : Prop where
  pinned : trusted.scenarioVersionId = toString deps.scenarioVersionId
  field : fact.field ≠ "ev"
  matching : ∃ recorded, Dict.get? trusted.record fact.field = some recorded ∧
    matchesValue recorded fact.value = .ok true
  evidence : ∃ reference recordId group, fact.evidenceRefs = [reference] ∧
    Dict.get? trusted.record "record_id" = some (.str recordId) ∧
    evidenceGroupFor trusted.scenarioGroup = .ok (some group) ∧
    reference.recordId = recordId ∧ reference.group = group ∧
    reference.field = some fact.field ∧ Resolved deps calls reference

/-- What a segment of an answer may say of the part it stands for. -/
def Vouched (deps : AgentDepsV1) (results : List (String × TrustedCalculationResultV1))
    (records : List (String × TrustedRecordV1)) (calls : Nat) (part : ParsedPart)
    (segment : GroundedSegment) : Prop :=
  match part with
  | .prose text => segment = .prose text
  | .placeholder handle => ∃ claim, segment = .claim claim ∧
      (claim.verdict = .supported → ∃ result, Dict.get? results handle = some result ∧
        ClaimSupported deps calls claim result)
  | .fact tag => ∃ fact, segment = .fact fact ∧
      (fact.text = tag.text ∧ fact.field = tag.field ∧ fact.value = tag.value) ∧
      (fact.verdict = .supported → ∃ trusted, Dict.get? records tag.ev = some trusted ∧
        FactSupported deps calls fact trusted)

theorem Vouched.mono {deps : AgentDepsV1}
    {results : List (String × TrustedCalculationResultV1)}
    {records : List (String × TrustedRecordV1)} {calls calls' : Nat} {part : ParsedPart}
    {segment : GroundedSegment} (hle : calls ≤ calls')
    (h : Vouched deps results records calls part segment) :
    Vouched deps results records calls' part segment := by
  cases part with
  | prose text => exact h
  | placeholder handle =>
    obtain ⟨claim, hsegment, hsupported⟩ := h
    refine ⟨claim, hsegment, fun hverdict => ?_⟩
    obtain ⟨result, hget, hclaim⟩ := hsupported hverdict
    exact ⟨result, hget, { hclaim with
      resolved := fun reference hmem => (hclaim.resolved reference hmem).mono hle }⟩
  | fact tag =>
    obtain ⟨fact, hsegment, htag, hsupported⟩ := h
    refine ⟨fact, hsegment, htag, fun hverdict => ?_⟩
    obtain ⟨trusted, hget, hfact⟩ := hsupported hverdict
    obtain ⟨reference, recordId, group, hrefs, hid, hgroup, hrecord, hrefGroup, hfield,
      hresolved⟩ :=
      hfact.evidence
    exact ⟨trusted, hget, { hfact with
      evidence := ⟨reference, recordId, group, hrefs, hid, hgroup, hrecord, hrefGroup, hfield,
        hresolved.mono hle⟩ }⟩

/-! ## Calls of the reader -/

section Calls

variable {α : Type} {answer : Nat → Except PyError α} {calls calls' : Nat}

/-- One call, and what it was answered. -/
theorem ask_ok {a : α} :
    (ask answer).run calls = (.ok a, calls') ↔ answer calls = .ok a ∧ calls' = calls + 1 := by
  unfold ask
  simp [eq_comm]

theorem lift_ok {x : Except PyError α} {a : α} :
    (Tx.lift x : Reading α).run calls = (.ok a, calls') ↔ x = .ok a ∧ calls' = calls := by
  simp [eq_comm]

end Calls

section Gate

variable {deps : AgentDepsV1} {calls calls' : Nat}

theorem resolutionFailure_eq_none {reference : EvidenceRefV1} {resolution : Option Resolution}
    (h : resolutionFailure reference resolution = none) :
    ∃ r, resolution = some r ∧ r.outcome = .resolved ∧ r.item = some reference.recordId ∧
      r.currentScenarioVersionId = reference.scenarioVersionId := by
  cases resolution with
  | none => cases h
  | some r =>
    unfold resolutionFailure at h
    simp only at h
    split at h
    · cases h
    · split at h
      · rename_i recordId houtcome hitem
        split at h
        · cases h
        · rename_i hsame
          push Not at hsame
          exact ⟨r, rfl, houtcome, by rw [hitem, hsame.2], hsame.1⟩
      · cases h

/-- **A locator without a failure was resolved.** -/
theorem locatorFailure_ok {reference : EvidenceRefV1} {failure : Option GroundingFailure}
    (h : (locatorFailure deps reference).run calls = (.ok failure, calls')) :
    calls ≤ calls' ∧ (failure = none → Resolved deps calls' reference) := by
  unfold locatorFailure at h
  rw [Tx.run_ite] at h
  split at h
  · cases h
    exact ⟨le_refl _, fun hnone => by cases hnone⟩
  · rename_i hversion
    rw [ne_eq, not_not] at hversion
    obtain ⟨resolution, mid, hask, hpure⟩ := Tx.bind_ok.mp h
    obtain ⟨hanswer, rfl⟩ := ask_ok.mp hask
    cases hpure
    refine ⟨by omega, fun hnone => ?_⟩
    obtain ⟨r, rfl, houtcome, hitem, hcurrent⟩ := resolutionFailure_eq_none hnone
    exact ⟨hversion, calls, by omega, r, hanswer, houtcome, hitem, hcurrent⟩

/-- References none of which fails are all resolved. -/
theorem firstLocatorFailure_ok {references : List EvidenceRefV1}
    {failure : Option GroundingFailure}
    (h : (firstLocatorFailure deps references).run calls = (.ok failure, calls')) :
    calls ≤ calls' ∧ (failure = none → ∀ reference ∈ references,
      Resolved deps calls' reference) := by
  induction references generalizing calls with
  | nil =>
    cases h
    exact ⟨le_refl _, fun _ reference hmem => by cases hmem⟩
  | cons reference rest ih =>
    obtain ⟨found, mid, hfound, hrest⟩ := Tx.bind_ok.mp h
    obtain ⟨hle, hresolved⟩ := locatorFailure_ok hfound
    cases found with
    | some found =>
      cases hrest
      exact ⟨hle, fun hnone => by cases hnone⟩
    | none =>
      obtain ⟨hle', hall⟩ := ih hrest
      refine ⟨by omega, fun hnone other hmem => ?_⟩
      rcases List.mem_cons.mp hmem with rfl | hmem
      · exact (hresolved rfl).mono hle'
      · exact hall hnone other hmem

/-! ## Claims -/

theorem failedClaim_verdict (handle : String) (failure : GroundingFailure)
    (result : Option TrustedCalculationResultV1) :
    (failedClaim handle failure result).verdict = .failed := by
  cases result <;> rfl

/-- A placeholder is grounded by the result its handle cites. -/
theorem groundClaim_ok {handle : String} {results : List (String × TrustedCalculationResultV1)}
    {claim : GroundedClaimV1}
    (h : (groundClaim handle deps results).run calls = (.ok claim, calls')) :
    calls ≤ calls' ∧ (claim.verdict = .supported → ∃ result,
      Dict.get? results handle = some result ∧ ClaimSupported deps calls' claim result) := by
  -- a claim that failed is not supported
  have hfailed : ∀ (failure : GroundingFailure) (result : Option TrustedCalculationResultV1),
      claim = failedClaim handle failure result → ¬ claim.verdict = .supported := by
    intro failure result hclaim hverdict
    rw [hclaim, failedClaim_verdict] at hverdict
    cases hverdict
  unfold groundClaim at h
  cases hget : Dict.get? results handle with
  | none =>
    rw [hget] at h
    cases h
    exact ⟨le_refl _, fun hverdict => absurd hverdict (hfailed _ none rfl)⟩
  | some result =>
    rw [hget] at h
    simp only [Tx.run_ite] at h
    split at h
    · cases h
      exact ⟨le_refl _, fun hverdict => absurd hverdict (hfailed _ (some result) rfl)⟩
    rename_i hversion
    rw [ne_eq, not_not] at hversion
    split at h
    · cases h
      exact ⟨le_refl _, fun hverdict => absurd hverdict (hfailed _ (some result) rfl)⟩
    -- the result is of this version and cites as many records as it counted
    rename_i hcounted
    rw [ne_eq, not_not] at hcounted
    split at h
    · -- a count of nothing has nothing to look up
      rename_i hempty
      split at h
      · rename_i hzero
        cases h
        refine ⟨le_refl _, fun _ => ⟨result, rfl, ⟨rfl, rfl, rfl, rfl, rfl, rfl, hversion, hcounted,
          ?_, fun _ => ⟨by rw [← hcounted, hempty]; rfl, hzero⟩⟩⟩⟩
        rw [hempty]
        exact fun reference hmem => by cases hmem
      · cases h
        exact ⟨le_refl _, fun hverdict => absurd hverdict (hfailed _ (some result) rfl)⟩
    · -- otherwise every reference is looked up
      rename_i hnonempty
      obtain ⟨failure, mid, hfailure, hpure⟩ := Tx.bind_ok.mp h
      obtain ⟨hle, hresolved⟩ := firstLocatorFailure_ok hfailure
      cases failure with
      | some failure =>
        cases hpure
        exact ⟨hle, fun hverdict => absurd hverdict (hfailed _ (some result) rfl)⟩
      | none =>
        cases hpure
        exact ⟨hle, fun _ => ⟨result, rfl, ⟨rfl, rfl, rfl, rfl, rfl, rfl, hversion, hcounted,
          hresolved rfl, fun hempty => absurd hempty hnonempty⟩⟩⟩

/-! ## Facts -/

/-- A located fact was resolved through its record's id. -/
theorem locateFact_ok {tag : FactTagPart} {trusted : TrustedRecordV1} {fact : GroundedFactV1}
    (h : (locateFact tag deps trusted).run calls = (.ok fact, calls')) :
    calls ≤ calls' ∧ (∃ failure refs, fact = factSegment tag failure refs) ∧
      (fact.verdict = .supported → ∃ reference recordId group, fact.evidenceRefs = [reference] ∧
        Dict.get? trusted.record "record_id" = some (.str recordId) ∧
        evidenceGroupFor trusted.scenarioGroup = .ok (some group) ∧
        reference.recordId = recordId ∧ reference.group = group ∧
        reference.field = some fact.field ∧ Resolved deps calls' reference) := by
  unfold locateFact at h
  obtain ⟨found, mid, hfound, h₁⟩ := Tx.bind_ok.mp h
  obtain ⟨hgroup, rfl⟩ := lift_ok.mp hfound
  obtain ⟨answered, mid', hanswered, h₂⟩ := Tx.bind_ok.mp h₁
  obtain ⟨-, rfl⟩ := ask_ok.mp hanswered
  split at h₂
  · rename_i group overview recordId hrecord
    obtain ⟨failure, mid'', hfailure, hpure⟩ := Tx.bind_ok.mp h₂
    obtain ⟨hle, hresolved⟩ := locatorFailure_ok hfailure
    cases failure with
    | some failure =>
      cases hpure
      exact ⟨by omega, ⟨_, _, rfl⟩, fun hverdict => by cases hverdict⟩
    | none =>
      cases hpure
      exact ⟨by omega, ⟨_, _, rfl⟩, fun _ => ⟨_, recordId, group, rfl, hrecord, hgroup, rfl, rfl,
        rfl, hresolved rfl⟩⟩
  · cases h₂
    exact ⟨by omega, ⟨_, _, rfl⟩, fun hverdict => by cases hverdict⟩

/-- A fact is grounded by the record its tag cites. -/
theorem groundFact_ok {tag : FactTagPart} {records : List (String × TrustedRecordV1)}
    {fact : GroundedFactV1}
    (h : (groundFact tag deps records).run calls = (.ok fact, calls')) :
    calls ≤ calls' ∧ (fact.text = tag.text ∧ fact.field = tag.field ∧ fact.value = tag.value) ∧
      (fact.verdict = .supported → ∃ trusted, Dict.get? records tag.ev = some trusted ∧
        FactSupported deps calls' fact trusted) := by
  unfold groundFact at h
  -- a check that fails returns a fact that is not supported
  cases hget : Dict.get? records tag.ev with
  | none =>
    rw [hget] at h
    cases h
    exact ⟨le_refl _, ⟨rfl, rfl, rfl⟩, fun hverdict => by cases hverdict⟩
  | some trusted =>
    rw [hget] at h
    simp only [Tx.run_ite] at h
    split at h
    · cases h
      exact ⟨le_refl _, ⟨rfl, rfl, rfl⟩, fun hverdict => by cases hverdict⟩
    -- the record is pinned to the version that the dependencies name
    rename_i hversion
    rw [ne_eq, not_not] at hversion
    split at h
    · cases h
      exact ⟨le_refl _, ⟨rfl, rfl, rfl⟩, fun hverdict => by cases hverdict⟩
    rename_i hfield
    cases hrecorded : Dict.get? trusted.record tag.field with
    | none =>
      rw [hrecorded] at h
      cases h
      exact ⟨le_refl _, ⟨rfl, rfl, rfl⟩, fun hverdict => by cases hverdict⟩
    | some recorded =>
      rw [hrecorded] at h
      -- the value matches: what is left is to find where the record stands
      obtain ⟨matching, mid, hlift, h₁⟩ := Tx.bind_ok.mp h
      obtain ⟨hmatching, rfl⟩ := lift_ok.mp hlift
      rw [Tx.run_ite] at h₁
      split at h₁
      · rename_i htrue
        rw [htrue] at hmatching
        obtain ⟨hle, ⟨failure, refs, rfl⟩, hsupported⟩ := locateFact_ok h₁
        exact ⟨hle, ⟨rfl, rfl, rfl⟩, fun hverdict => ⟨trusted, rfl, ⟨hversion, hfield,
          ⟨recorded, hrecorded, hmatching⟩, hsupported hverdict⟩⟩⟩
      · cases h₁
        exact ⟨le_refl _, ⟨rfl, rfl, rfl⟩, fun hverdict => by cases hverdict⟩

/-! ## Answers -/

variable {results : List (String × TrustedCalculationResultV1)}
  {records : List (String × TrustedRecordV1)}

theorem groundPart_ok {part : ParsedPart} {segment : GroundedSegment}
    (h : (groundPart deps results records part).run calls = (.ok segment, calls')) :
    calls ≤ calls' ∧ Vouched deps results records calls' part segment := by
  cases part with
  | prose text =>
    cases h
    exact ⟨le_refl _, rfl⟩
  | placeholder handle =>
    obtain ⟨claim, mid, hclaim, hpure⟩ := Tx.bind_ok.mp h
    cases hpure
    obtain ⟨hle, hsupported⟩ := groundClaim_ok hclaim
    exact ⟨hle, claim, rfl, hsupported⟩
  | fact tag =>
    obtain ⟨fact, mid, hfact, hpure⟩ := Tx.bind_ok.mp h
    cases hpure
    obtain ⟨hle, htag, hsupported⟩ := groundFact_ok hfact
    exact ⟨hle, fact, rfl, htag, hsupported⟩

theorem groundParts_ok {parts : List ParsedPart} {segments : List GroundedSegment}
    (h : (parts.mapM (groundPart deps results records)).run calls = (.ok segments, calls')) :
    calls ≤ calls' ∧ List.Forall₂ (Vouched deps results records calls') parts segments := by
  induction parts generalizing calls segments with
  | nil =>
    cases h
    exact ⟨le_refl _, .nil⟩
  | cons part parts ih =>
    rw [List.mapM_cons] at h
    obtain ⟨segment, mid, hsegment, h₁⟩ := Tx.bind_ok.mp h
    obtain ⟨rest, mid', hrest, hpure⟩ := Tx.bind_ok.mp h₁
    cases hpure
    obtain ⟨hle, hvouched⟩ := groundPart_ok hsegment
    obtain ⟨hle', hall⟩ := ih hrest
    exact ⟨by omega, .cons (hvouched.mono hle') hall⟩

/-- **Grounding gate integrity.** Whatever the answer, the maps and the reader: the segments of a
grounded answer are those of its parsed parts, in order, and each of them that is marked supported
was checked against the trusted result or record it cites, by calls of the reader that this
grounding made. -/
theorem grounding_gate_integrity {text : String} {response : GroundedResponseV1}
    (h : (groundAnswer text deps results records).run 0 = (.ok response, calls)) :
    response.scenarioVersionId = some deps.scenarioVersionId ∧
      List.Forall₂ (Vouched deps results records calls) (parsedParts text) response.segments := by
  obtain ⟨segments, mid, hsegments, hpure⟩ := Tx.bind_ok.mp h
  cases hpure
  exact ⟨rfl, (groundParts_ok hsegments).2⟩

end Gate

namespace Headcount

/-- A reader whose scenario is at version 7 and holds every record it is asked for. -/
def reader : ProjectionReader where
  getOverview := fun _ _ => .ok (some ⟨7, "sha256", "1", "d4", none⟩)
  resolve := fun _ _ _ version recordId => .ok (some ⟨.resolved, version, some recordId⟩)

def deps : AgentDepsV1 := ⟨reader, 1, 7⟩

def evidence : EvidenceRefV1 where
  scenarioVersionId := 7
  checksumAlgorithm := "sha256"
  checksumSchemaVersion := "1"
  checksumDigest := "d4"
  producingRunVersion := none
  baselineScheduleVersion := none
  group := .workers
  recordId := "ana"

/-- The one worker there is, counted. -/
def counted : TrustedCalculationResultV1 where
  metric := .workerCount
  arguments := {}
  value := .int 1
  unit := .workers
  evidenceRefs := [evidence]
  scenarioVersionId := 7
  resultId := "calc-1"
  consumedRowCount := 1

/-- Her record. -/
def ana : TrustedRecordV1 where
  scenarioGroup := "workers"
  record := [("record_id", .str "ana"), ("name", .str "Ana")]
  scenarioVersionId := "7"

def results : List (String × TrustedCalculationResultV1) :=
  trustedResultsByCitation [counted] fun _ => some "r1"

def records : List (String × TrustedRecordV1) := [("w1", ana)]

/-- One placeholder and one fact. -/
def answer : String :=
  "There is {{r1}} worker: <claim ev='w1' field='name' value='Ana'>Ana</claim>."

def response : GroundedResponseV1 where
  scenarioVersionId := some 7
  segments :=
    [.prose "There is ", .claim (supportedClaim counted), .prose " worker: ",
      .fact (factSegment ⟨"Ana", "w1", "name", "Ana"⟩ none
        [{ evidence with field := some "name" }]),
      .prose "."]

theorem groundAnswer_answer :
    (groundAnswer answer deps results records).run 0 = (.ok response, 3) := by
  decide +kernel

end Headcount

theorem grounding_gate_integrity_headcount :
    Headcount.response.scenarioVersionId = some Headcount.deps.scenarioVersionId ∧
      List.Forall₂ (Vouched Headcount.deps Headcount.results Headcount.records 3)
        (parsedParts Headcount.answer) Headcount.response.segments :=
  grounding_gate_integrity Headcount.groundAnswer_answer

end ShiftMind.Grounding
