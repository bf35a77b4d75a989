import ShiftMind.Contracts.Scenario
import ShiftMind.Library.Binary64

/-!
# ShiftMind — grounded answers

`application/contracts/grounding.py` and the scenario-projection answers the grounding gate reads:
what a planner is shown of an answer, and what it was checked against.
-/

namespace ShiftMind

/-! ## Values -/

/-- A Python number. -/
inductive PyNumber where
  | int (n : Int)
  | float (x : Binary64)
  deriving DecidableEq, Repr

/-- `not value`. -/
def PyNumber.isZero : PyNumber → Bool
  | int n => decide (n = 0)
  | float x => decide (x = .finite 0)

/-- The values of a record: what a JSON document may hold. -/
inductive JsonValue where
  | null
  | bool (b : Bool)
  | number (x : PyNumber)
  | str (s : String)
  | array (items : List JsonValue)
  | object (members : List (String × JsonValue))
  deriving Repr

/-! ## Claims and facts -/

/-- `MetricV1`. -/
inductive Metric where
  | requiredHeadcountMinutes
  | requiredDemandVolume
  | staffedMinutes
  | qualifiedWorkerCount
  | workerCount
  deriving DecidableEq, Repr

/-- `GroundingUnitV1`. -/
inductive GroundingUnit where
  | minutes
  | workers
  | units
  deriving DecidableEq, Repr

/-- `GroundingFailureV1`. -/
inductive GroundingFailure where
  | missingEvidence
  | unauthorizedEvidence
  | versionMismatch
  | calculationFailed
  | uncitedClaim
  deriving DecidableEq, Repr

/-- `FactFailureV1`. -/
inductive FactFailure where
  | missingEvidence
  | unknownField
  | valueMismatch
  | versionMismatch
  | unauthorizedEvidence
  deriving DecidableEq, Repr

/-- `GroundingVerdictV1`. -/
inductive GroundingVerdict where
  | supported
  | failed
  deriving DecidableEq, Repr

structure ClaimArgumentsV1 where
  taskId : Option String := none
  family : Option DemandFamily := none
  startMinute : Option Int := none
  endMinute : Option Int := none
  deriving DecidableEq, Repr

structure GroundedClaimV1 where
  metric : Metric := .requiredHeadcountMinutes
  arguments : ClaimArgumentsV1 := {}
  resultId : String := ""
  value : Option PyNumber := none
  unit : Option GroundingUnit := none
  evidenceRefs : List EvidenceRefV1 := []
  verdict : GroundingVerdict := .failed
  failure : Option GroundingFailure := none
  deriving DecidableEq, Repr

structure GroundedFactV1 where
  text : String := ""
  field : String := ""
  value : String := ""
  evidenceRefs : List EvidenceRefV1 := []
  verdict : GroundingVerdict := .failed
  failure : Option FactFailure := none
  deriving DecidableEq, Repr

/-- `GroundedResponseSegmentV1`. -/
inductive GroundedSegment where
  | prose (text : String)
  | claim (claim : GroundedClaimV1)
  | fact (fact : GroundedFactV1)
  deriving DecidableEq, Repr

/-- The text a planner is shown of a segment. -/
def GroundedSegment.shownText : GroundedSegment → String
  | .prose text => text
  | .claim _ => ""
  | .fact tagged => tagged.text

structure GroundedResponseV1 where
  scenarioVersionId : Option Uuid := none
  segments : List GroundedSegment := []
  deriving DecidableEq, Repr

/-- The claims of a response. -/
def GroundedResponseV1.claims (response : GroundedResponseV1) : List GroundedClaimV1 :=
  response.segments.filterMap fun
    | .claim claim => some claim
    | _ => none

/-! ## Trusted results and records -/

/-- `TrustedCalculationResultV1`. -/
structure TrustedCalculationResultV1 where
  metric : Metric
  arguments : ClaimArgumentsV1
  value : PyNumber
  unit : GroundingUnit
  evidenceRefs : List EvidenceRefV1
  scenarioVersionId : Uuid
  resultId : String
  consumedRowCount : Nat
  deriving DecidableEq, Repr

/-- `TrustedRecordV1`: one row a trusted inspect result returned. -/
structure TrustedRecordV1 where
  scenarioGroup : String
  record : List (String × JsonValue)
  scenarioVersionId : String

/-- `ResolutionOutcomeV1`. -/
inductive ResolutionOutcome where
  | resolved
  | notFound
  | versionMismatch
  deriving DecidableEq, Repr

/-- The resolution of one evidence reference; of the record it found, the identifier. -/
structure Resolution where
  outcome : ResolutionOutcome
  currentScenarioVersionId : Uuid
  item : Option String
  deriving DecidableEq, Repr

/-- The part of `ScenarioOverviewV1` a fact's reference is built from. -/
structure ScenarioOverviewV1 where
  scenarioVersionId : Uuid
  checksumAlgorithm : String
  checksumSchemaVersion : String
  checksumDigest : String
  baselineScheduleVersion : Option String
  deriving DecidableEq, Repr

end ShiftMind
