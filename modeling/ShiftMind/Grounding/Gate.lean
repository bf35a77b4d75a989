import ShiftMind.Contracts.Grounding
import ShiftMind.Contracts.Workflow
import ShiftMind.Grounding.ClaimTags
import ShiftMind.Grounding.Placeholders
import ShiftMind.Library.Transaction

/-!
# ShiftMind — the grounding gate

`application/grounding/gate.py` and the map of trusted results that
`application/grounding/evidence_registry.py` gives it; the map of trusted records is whatever it is
handed. The projection reader is an oracle: each of its calls is answered by itself, so two calls
with one argument may be answered differently, and any call may raise. A `Reading` therefore
counts the calls it has made.

* **`groundClaim`** — a placeholder becomes a claim with the numbers of its trusted result.
* **`groundFact`** — a fact tag is checked against its trusted record.
* **`groundAnswer`** — every part of an answer becomes one segment.
-/

namespace ShiftMind.Grounding

open Binary64 Transactional

/-! ## The map of results -/

/-- `trusted_results_by_citation`: each result under its own id and, where the turn's registry
minted one, under its short handle. -/
def trustedResultsByCitation (results : List TrustedCalculationResultV1)
    (handleOf : String → Option String) : List (String × TrustedCalculationResultV1) :=
  Dict.ofPairs (results.flatMap fun value =>
    (value.resultId, value) :: (handleOf value.resultId).toList.map fun handle => (handle, value))

/-! ## The projection reader -/

/-- The answers of the projection reader, call by call. -/
structure ProjectionReader where
  getOverview : Nat → Uuid → Except PyError (Option ScenarioOverviewV1)
  /-- the resolver of an evidence group, for a record of a version of the scenario -/
  resolve : Nat → EvidenceGroup → Uuid → Uuid → String → Except PyError (Option Resolution)

/-- The part of `AgentDepsV1` the gate reads. -/
structure AgentDepsV1 where
  projectionReader : ProjectionReader
  scenarioId : Uuid
  scenarioVersionId : Uuid

/-- A computation that calls the reader; its state counts the calls made so far. -/
abbrev Reading : Type → Type := Tx Nat PyError

/-- One call of the reader. -/
def ask {α : Type} (answer : Nat → Except PyError α) : Reading α := do
  let calls ← Tx.read id
  Tx.write (· + 1)
  Tx.lift (answer calls)

/-! ## Claims

A claim is resolved by the results the turn has seen, and else replaced by a failed segment. -/

/-- `_failed`. -/
def failedClaim (handle : String) (failure : GroundingFailure)
    (result : Option TrustedCalculationResultV1 := none) : GroundedClaimV1 :=
  match result with
  | none => { resultId := handle, verdict := .failed, failure := some failure }
  | some result =>
    { metric := result.metric
      arguments := result.arguments
      resultId := result.resultId
      verdict := .failed
      failure := some failure }

/-- The supported claim of a result. -/
def supportedClaim (result : TrustedCalculationResultV1) : GroundedClaimV1 where
  metric := result.metric
  arguments := result.arguments
  resultId := result.resultId
  value := some result.value
  unit := some result.unit
  evidenceRefs := result.evidenceRefs
  verdict := .supported
  failure := none

/-- What a resolution says against a reference. -/
def resolutionFailure (reference : EvidenceRefV1) : Option Resolution → Option GroundingFailure
  | none => some .unauthorizedEvidence
  | some resolution =>
    if resolution.outcome = .versionMismatch then some .versionMismatch
    else
      match resolution.outcome, resolution.item with
      | .resolved, some recordId =>
        if resolution.currentScenarioVersionId ≠ reference.scenarioVersionId ∨
            recordId ≠ reference.recordId then some .versionMismatch
        else none
      | _, _ => some .calculationFailed

/-- `_locator_failure`. -/
def locatorFailure (deps : AgentDepsV1) (reference : EvidenceRefV1) :
    Reading (Option GroundingFailure) :=
  if reference.scenarioVersionId ≠ deps.scenarioVersionId then pure (some .versionMismatch)
  else do
    let resolution ← ask fun n => deps.projectionReader.resolve n reference.group deps.scenarioId
      reference.scenarioVersionId reference.recordId
    pure (resolutionFailure reference resolution)

/-- The failure of the first reference that fails. -/
def firstLocatorFailure (deps : AgentDepsV1) :
    List EvidenceRefV1 → Reading (Option GroundingFailure)
  | [] => pure none
  | reference :: rest => do
    let failure ← locatorFailure deps reference
    match failure with
    | some failure => pure (some failure)
    | none => firstLocatorFailure deps rest

/-- `_ground_claim`. -/
def groundClaim (handle : String) (deps : AgentDepsV1)
    (results : List (String × TrustedCalculationResultV1)) : Reading GroundedClaimV1 :=
  match Dict.get? results handle with
  | none => pure (failedClaim handle .missingEvidence)
  | some result =>
    if result.scenarioVersionId ≠ deps.scenarioVersionId then
      pure (failedClaim handle .versionMismatch (some result))
    else if result.evidenceRefs.length ≠ result.consumedRowCount then
      pure (failedClaim handle .calculationFailed (some result))
    else if result.evidenceRefs = [] then
      -- a proven-empty match set: no locators, and the value zero
      if result.value.isZero then pure (supportedClaim result)
      else pure (failedClaim handle .calculationFailed (some result))
    else do
      let failure ← firstLocatorFailure deps result.evidenceRefs
      match failure with
      | some failure => pure (failedClaim handle failure (some result))
      | none => pure (supportedClaim result)

/-! ## Facts -/

/-- `text.strip().casefold()`, for comparison with the words of `_matches`: of the characters
outside ASCII only the long s folds into a letter of theirs. -/
def casefolded (text : String) : String :=
  String.ofList ((strip text.toList).map fun c => if c = 'ſ' then 's' else c.toLower)

/-- `float(value)` of a number: an `int` beyond the largest `float` raises. -/
def PyNumber.toFloat : PyNumber → Except PyError Binary64
  | .float x => .ok x
  | .int n =>
    match ofRat n with
    | .finite q => .ok (.finite q)
    | _ => .error .overflowError

mutual

/-- `_matches`. -/
def matchesValue : JsonValue → String → Except PyError Bool
  | .null, claimed => .ok (decide (casefolded claimed ∈ ["", "none", "null"]))
  | .bool b, claimed => .ok (decide (casefolded claimed = if b then "true" else "false"))
  | .number x, claimed =>
    match ofText claimed.toList with
    | none => .ok false
    | some claimed => (PyNumber.toFloat x).map fun recorded => eq claimed recorded
  | .str s, claimed => .ok (decide (strip s.toList = strip claimed.toList))
  | .array items, claimed => matchesAny items claimed
  | .object members, claimed => matchesMember members claimed

/-- `any` over a list. -/
def matchesAny : List JsonValue → String → Except PyError Bool
  | [], _ => .ok false
  | item :: items, claimed =>
    match matchesValue item claimed with
    | .error e => .error e
    | .ok true => .ok true
    | .ok false => matchesAny items claimed

/-- `any` over the values of an object. -/
def matchesMember : List (String × JsonValue) → String → Except PyError Bool
  | [], _ => .ok false
  | (_, item) :: members, claimed =>
    match matchesValue item claimed with
    | .error e => .error e
    | .ok true => .ok true
    | .ok false => matchesMember members claimed

end

/-- `evidence_group_for_scenario_fact_group`. -/
def evidenceGroupFor (group : String) : Except PyError (Option EvidenceGroup) :=
  match group with
  | "overview" => .ok none
  | "tasks" => .ok (some .workAreasAndTasks)
  | "workers" => .ok (some .workers)
  | "demand" => .ok (some .demand)
  | "assignments" => .ok (some .baselineAssignments)
  | "locks" => .ok (some .locks)
  | "constraints" => .ok (some .constraintsAndObjectives)
  | group => .error (.keyError group)

/-- `_fact`. -/
def factSegment (tag : FactTagPart) (failure : Option FactFailure)
    (evidenceRefs : List EvidenceRefV1 := []) : GroundedFactV1 where
  text := tag.text
  field := tag.field
  value := tag.value
  evidenceRefs := evidenceRefs
  verdict := if failure.isNone then .supported else .failed
  failure := failure

/-- The reference a fact is resolved through. -/
def factReference (tag : FactTagPart) (overview : ScenarioOverviewV1) (group : EvidenceGroup)
    (recordId : String) : EvidenceRefV1 where
  scenarioVersionId := overview.scenarioVersionId
  checksumAlgorithm := overview.checksumAlgorithm
  checksumSchemaVersion := overview.checksumSchemaVersion
  checksumDigest := overview.checksumDigest
  producingRunVersion := none
  baselineScheduleVersion := overview.baselineScheduleVersion
  group := group
  recordId := recordId
  field := some tag.field

/-- How a fact reports the failure of its locator. -/
def factFailureOf : GroundingFailure → FactFailure
  | .versionMismatch => .versionMismatch
  | .unauthorizedEvidence => .unauthorizedEvidence
  | _ => .missingEvidence

/-- The second half of `_ground_fact`: the record said what the fact says; it must still be
there. -/
def locateFact (tag : FactTagPart) (deps : AgentDepsV1) (trusted : TrustedRecordV1) :
    Reading GroundedFactV1 := do
  let evidenceGroup ← Tx.lift (evidenceGroupFor trusted.scenarioGroup)
  let overview ← ask fun n => deps.projectionReader.getOverview n deps.scenarioId
  match evidenceGroup, overview, Dict.get? trusted.record "record_id" with
  | some evidenceGroup, some overview, some (.str recordId) => do
    let reference := factReference tag overview evidenceGroup recordId
    let failure ← locatorFailure deps reference
    match failure with
    | some failure => pure (factSegment tag (some (factFailureOf failure)))
    | none => pure (factSegment tag none [reference])
  | _, _, _ => pure (factSegment tag (some .missingEvidence))

/-- `_ground_fact`. -/
def groundFact (tag : FactTagPart) (deps : AgentDepsV1)
    (records : List (String × TrustedRecordV1)) : Reading GroundedFactV1 :=
  match Dict.get? records tag.ev with
  | none => pure (factSegment tag (some .missingEvidence))
  | some trusted =>
    if trusted.scenarioVersionId ≠ toString deps.scenarioVersionId then
      pure (factSegment tag (some .versionMismatch))
    else if tag.field = "ev" then pure (factSegment tag (some .unknownField))
    else
      match Dict.get? trusted.record tag.field with
      | none => pure (factSegment tag (some .unknownField))
      | some recorded => do
        let matching ← Tx.lift (matchesValue recorded tag.value)
        if matching then locateFact tag deps trusted
        else pure (factSegment tag (some .valueMismatch))

/-! ## Answers -/

/-- A part of a parsed answer: prose, a placeholder, or a fact tag. -/
inductive ParsedPart where
  | prose (text : String)
  | placeholder (handle : String)
  | fact (tag : FactTagPart)
  deriving DecidableEq, Repr

def AnswerPart.parsed : AnswerPart → ParsedPart
  | prose text => .prose text
  | placeholder handle => .placeholder handle

/-- The parts of an answer: the text between the fact tags is parsed for placeholders, the body of
a fact tag is not. -/
def TagPart.parsed : TagPart → List ParsedPart
  | plainText text => (parseAnswerText text).map AnswerPart.parsed
  | factTag tag => [.fact tag]

def parsedParts (text : String) : List ParsedPart := (parseClaimTags text).flatMap TagPart.parsed

/-- The segment of one part. -/
def groundPart (deps : AgentDepsV1) (results : List (String × TrustedCalculationResultV1))
    (records : List (String × TrustedRecordV1)) : ParsedPart → Reading GroundedSegment
  | .prose text => pure (.prose text)
  | .placeholder handle => .claim <$> groundClaim handle deps results
  | .fact tag => .fact <$> groundFact tag deps records

/-- `ground_answer`. -/
def groundAnswer (text : String) (deps : AgentDepsV1)
    (results : List (String × TrustedCalculationResultV1))
    (records : List (String × TrustedRecordV1)) : Reading GroundedResponseV1 := do
  let segments ← (parsedParts text).mapM (groundPart deps results records)
  pure ⟨some deps.scenarioVersionId, segments⟩

end ShiftMind.Grounding
