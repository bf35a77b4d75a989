import ShiftMind.Grounding.Pagination
import ShiftMind.Scheduling.CoverageTotals

/-!
# ShiftMind — a candidate beside its baseline

`application/contracts/comparison.py` and `application/scheduling/comparison.py`. The metrics of a
candidate are computed again, from the records of the scenario projection, and held against those
persisted when the run was finalised; a comparison is refused where they disagree.

* **`metricsDisagree`** — `_metrics_disagree`.
* **`calculateComparison`** — `calculate_comparison`.
-/

namespace ShiftMind.Comparison

open CandidateMetrics Projection

/-! ## Contracts -/

structure AssignmentDiffV1 where
  addedWorkerIds : List String := []
  removedWorkerIds : List String := []
  addedShiftIds : List String := []
  removedShiftIds : List String := []
  addedTaskIds : List String := []
  removedTaskIds : List String := []
  deriving DecidableEq, Repr

structure ComparisonV1 where
  candidateScheduleVersionId : Uuid
  candidateScheduleRunId : Uuid
  scenarioId : Uuid
  scenarioVersionId : Uuid
  expectedBaselineScheduleVersion : Option String
  currentBaselineScheduleVersion : Option String
  stale : Bool
  assignmentDiff : Option AssignmentDiffV1
  candidateMetrics : MetricSetV1
  baselineMetrics : Option MetricSetV1
  candidateConstraintResults : List ConstraintResultV1
  baselineHardConstraintResults : List ConstraintResultV1
  warnings : List String
  unresolvedGapRecordIds : List String
  evidenceRefs : List EvidenceRefV1
  deriving DecidableEq, Repr

/-- A `ScheduleVersionV1` as it is read back: what a comparison needs of it may be missing. -/
structure StoredVersion where
  scheduleVersionId : Option Uuid := none
  scheduleRunId : Option Uuid := none
  scenarioVersionId : Option Uuid := none
  assignments : List AssignmentV1 := []
  metrics : Option MetricSetV1 := none
  constraintResults : List ConstraintResultV1 := []
  warnings : List String := []
  evidenceRefs : List EvidenceRefV1 := []
  deriving DecidableEq, Repr

/-- A version that a finalised run persisted. -/
def stored (version : ScheduleVersionV1) : StoredVersion where
  scheduleVersionId := some version.scheduleVersionId
  scheduleRunId := some version.scheduleRunId
  scenarioVersionId := some version.scenarioVersionId
  assignments := version.assignments
  metrics := some version.metrics
  constraintResults := version.constraintResults
  warnings := version.warnings
  evidenceRefs := version.evidenceRefs

/-- `BaselineUnavailableReasonV1`. -/
inductive BaselineUnavailableReason where
  | unreadable
  | scenarioVersionMismatch
  | metricsUnavailable
  deriving DecidableEq, Repr

/-- What leaves `calculate_comparison`. -/
inductive ComparisonError where
  /-- `ComparisonIntegrityError` -/
  | integrity (message : String)
  /-- `BaselineSupplyUnavailableError` -/
  | baselineSupplyUnavailable (baseline : String) (current : Option String)
      (reason : BaselineUnavailableReason)
  /-- a bare `ValueError` -/
  | value (message : String)
  /-- an exception of the reader's -/
  | raised (message : String)
  /-- a `CalculationError` of a drain -/
  | calculation (error : CalculationError)
  /-- an exception of the metrics -/
  | metrics (error : PyError)
  deriving DecidableEq, Repr

/-- The columns of `ScenarioOverviewV1` that a comparison reads. -/
structure Overview where
  scenarioVersionId : Uuid
  siteId : Uuid
  horizonMinutes : Int
  checksumAlgorithm : String
  checksumSchemaVersion : String
  checksumDigest : String
  baselineScheduleVersion : Option String
  deriving DecidableEq, Repr

/-- A `ScenarioProjectionReader`, asked about one scenario. -/
structure Reader where
  getOverview : Except String (Option Overview)
  getTasks : Getter TaskV1
  getDemand : Getter DemandIntervalV1
  getWorkers : Getter WorkerV1

/-! ## Facts and metrics -/

/-- `_facts`. -/
def factsOf (workers : List WorkerV1) (tasks : List TaskV1) (demand : List DemandIntervalV1)
    (horizonMinutes : Int) : ValidationFactsV1 where
  horizonMinutes := horizonMinutes
  workers := workers.map fun worker =>
    { workerId := worker.recordId
      employmentType := worker.employmentType
      contractedHours := worker.contractedHours
      wagePerHour := 0
      qualifications := worker.qualifications
      availabilityWindows := worker.availabilityWindows }
  selectedShifts := []
  maxHoursPerWeek := []
  maxShiftsPerDay := []
  minimumGapMinutes := 0
  tasks := tasks
  demandIntervals := demand

/-- `_sorted_values`. -/
def sortedValues (pairs : List (String × ℚ)) : List ℚ :=
  (pairs.map Prod.snd).insertionSort (· ≤ ·)

/-- `_FLOAT_REL_TOL` and `_FLOAT_ABS_TOL`. -/
def tolerance : ℚ := 1 / 1000000000

/-- `_floats_close`: `math.isclose`. -/
def floatsClose (left right : ℚ) : Bool :=
  decide (|left - right| ≤ max (tolerance * max |left| |right|) tolerance)

/-- `_value_lists_close`. -/
def valueListsClose (left right : List ℚ) : Bool :=
  left.length = right.length && (left.zip right).all fun (a, b) => floatsClose a b

/-- `_named_pairs_close`. -/
def namedPairsClose (left right : List (String × ℚ)) : Bool :=
  let leftMap := Dict.ofPairs left
  let rightMap := Dict.ofPairs right
  (Dict.keys leftMap).all (fun name => name ∈ Dict.keys rightMap) &&
    (Dict.keys rightMap).all (fun name => name ∈ Dict.keys leftMap) &&
    leftMap.all fun (name, value) => floatsClose value ((Dict.get? rightMap name).getD 0)

/-- `_metrics_disagree`. -/
def metricsDisagree (recomputed persisted : MetricSetV1) : Bool :=
  recomputed.assignmentCount ≠ persisted.assignmentCount ||
    recomputed.memberCount ≠ persisted.memberCount ||
    !floatsClose recomputed.overtimeMinutes persisted.overtimeMinutes ||
    !floatsClose recomputed.totalCost persisted.totalCost ||
    !namedPairsClose recomputed.objectiveComponents persisted.objectiveComponents ||
    !namedPairsClose recomputed.functionCoverageRequiredMinutes
      persisted.functionCoverageRequiredMinutes ||
    !namedPairsClose recomputed.functionCoverageServedMinutes
      persisted.functionCoverageServedMinutes ||
    !valueListsClose (sortedValues recomputed.intervalCoverageRequiredMinutes)
      (sortedValues persisted.intervalCoverageRequiredMinutes) ||
    !valueListsClose (sortedValues recomputed.intervalCoverageServedMinutes)
      (sortedValues persisted.intervalCoverageServedMinutes)

/-! ## The difference of two schedules -/

/-- `sorted(first - second)`. -/
def sortedDifference (first second : List String) : List String :=
  ((first.filter fun id => id ∉ second).dedup).insertionSort (· ≤ ·)

/-- `_ids`, of the ids that are not null. -/
def idsOf (field : AssignmentV1 → Option String) (assignments : List AssignmentV1) : List String :=
  assignments.filterMap field

def assignmentDiff (candidate baseline : List AssignmentV1) : AssignmentDiffV1 :=
  let workers := idsOf fun a => some a.workerId
  let shifts := idsOf AssignmentV1.shiftId
  let tasks := idsOf fun a => some a.taskId
  { addedWorkerIds := sortedDifference (workers candidate) (workers baseline)
    removedWorkerIds := sortedDifference (workers baseline) (workers candidate)
    addedShiftIds := sortedDifference (shifts candidate) (shifts baseline)
    removedShiftIds := sortedDifference (shifts baseline) (shifts candidate)
    addedTaskIds := sortedDifference (tasks candidate) (tasks baseline)
    removedTaskIds := sortedDifference (tasks baseline) (tasks candidate) }

/-- The references to the assignments of a baseline. -/
def baselineRefs (overview : Overview) (scenarioVersionId : Uuid) (expected : Option String)
    (baseline : List AssignmentV1) : List EvidenceRefV1 :=
  baseline.map fun assignment =>
    { scenarioVersionId := scenarioVersionId
      checksumAlgorithm := overview.checksumAlgorithm
      checksumSchemaVersion := overview.checksumSchemaVersion
      checksumDigest := overview.checksumDigest
      producingRunVersion := expected
      baselineScheduleVersion := expected
      group := .baselineAssignments
      recordId := assignment.recordId }

/-! ## `calculate_comparison` -/

/-- What a comparison is asked for. -/
structure Request where
  scenarioId : Uuid
  scenarioVersionId : Uuid
  siteId : Uuid
  deriving DecidableEq, Repr

def Request.drain (request : Request) : DrainRequest where
  scenarioId := request.scenarioId
  scenarioVersionId := request.scenarioVersionId
  siteId := request.siteId
  pageSize := 200
  maxRows := 2000

/-- `calculate_candidate_metrics` on the projected facts, under a cost that is kept. -/
def recompute (assignments : List AssignmentV1) (tasks : List TaskV1)
    (demand : List DemandIntervalV1) (facts : ValidationFactsV1) (totalCost : ℚ) :
    Except ComparisonError MetricSetV1 :=
  match calculateCandidateMetrics assignments tasks demand facts [] with
  | .ok (metrics, _) => .ok { metrics with totalCost := totalCost }
  | .error e => .error (.metrics e)

/-- The overview of the scenario a candidate is bound to. -/
def boundOverview (reader : Reader) (request : Request) : Except ComparisonError Overview :=
  match reader.getOverview with
  | .error message => .error (.raised message)
  | .ok none =>
    let scenario := uuidStr request.scenarioId
    .error (.integrity s!"scenario {scenario} has no projection")
  | .ok (some overview) =>
    if overview.scenarioVersionId ≠ request.scenarioVersionId ∨
        overview.siteId ≠ request.siteId then
      .error (.integrity "candidate scenario binding does not match projection")
    else .ok overview

/-- The ids and the metrics of a candidate. -/
def candidateEvidence (candidate : StoredVersion) :
    Except ComparisonError (Uuid × Uuid × MetricSetV1) :=
  match candidate.scheduleVersionId, candidate.scheduleRunId, candidate.metrics with
  | some versionId, some runId, some metrics => .ok (versionId, runId, metrics)
  | some _, some _, none => .error (.integrity "candidate metrics are required")
  | _, _, _ => .error (.integrity "candidate version and run identifiers are required")

/-- One group of the projection. -/
def drained {T : Type} (getter : Getter T) (request : Request) : Except ComparisonError (List T) :=
  match (drainProjectionGroup getter request.drain).1 with
  | .ok items => .ok items
  | .error e => .error (.calculation e)

/-- The checks of a baseline: it is absent, or it is one of the pinned scenario version that has
metrics. -/
def baselineEvidence (overview : Overview) (request : Request) (expected : Option String)
    (baseline : Option StoredVersion) :
    Except ComparisonError (Option (StoredVersion × MetricSetV1)) :=
  match expected, baseline with
  | none, none => .ok none
  | none, some _ =>
    .error (.value
      "baseline_version must not be provided when expected_baseline_schedule_version is None")
  | some name, none =>
    .error (.baselineSupplyUnavailable name overview.baselineScheduleVersion .unreadable)
  | some name, some version =>
    if version.scenarioVersionId ≠ some request.scenarioVersionId then
      .error (.baselineSupplyUnavailable name overview.baselineScheduleVersion
        .scenarioVersionMismatch)
    else
      match version.metrics with
      | none =>
        .error (.baselineSupplyUnavailable name overview.baselineScheduleVersion
          .metricsUnavailable)
      | some metrics => .ok (some (version, metrics))

/-- The metrics of a baseline on the facts of the candidate, and its hard results. -/
def baselineColumn (tasks : List TaskV1) (demand : List DemandIntervalV1)
    (facts : ValidationFactsV1) :
    Option (StoredVersion × MetricSetV1) →
      Except ComparisonError (Option MetricSetV1 × List ConstraintResultV1)
  | none => .ok (none, [])
  | some (version, metrics) => do
    let recomputed ← recompute version.assignments tasks demand facts metrics.totalCost
    pure (some recomputed,
      version.constraintResults.filter fun result => result.constraintClass = .hard)

def calculateComparison (reader : Reader) (request : Request) (candidate : StoredVersion)
    (expected : Option String) (baseline : Option StoredVersion) :
    Except ComparisonError ComparisonV1 := do
  let overview ← boundOverview reader request
  let (versionId, runId, metrics) ← candidateEvidence candidate
  -- every page of the three groups, in this order
  let tasks ← drained reader.getTasks request
  let demand ← drained reader.getDemand request
  let workers ← drained reader.getWorkers request
  let baselineVersion ← baselineEvidence overview request expected baseline
  let facts := factsOf workers tasks demand overview.horizonMinutes
  let recomputed ← recompute candidate.assignments tasks demand facts metrics.totalCost
  -- the integrity check is on the candidate alone
  if metricsDisagree recomputed metrics then
    throw (.integrity "persisted candidate metrics disagree with recomputation")
  let (baselineMetrics, baselineHard) ← baselineColumn tasks demand facts baselineVersion
  let baselineAssignments := (baselineVersion.map fun b => b.1.assignments).getD []
  pure
    -- the recomputed metrics are reported, not the persisted ones
    { candidateScheduleVersionId := versionId
      candidateScheduleRunId := runId
      scenarioId := request.scenarioId
      scenarioVersionId := request.scenarioVersionId
      expectedBaselineScheduleVersion := expected
      currentBaselineScheduleVersion := overview.baselineScheduleVersion
      stale := expected ≠ overview.baselineScheduleVersion
      assignmentDiff :=
        baselineVersion.map fun _ => assignmentDiff candidate.assignments baselineAssignments
      candidateMetrics := recomputed
      baselineMetrics := baselineMetrics
      candidateConstraintResults := candidate.constraintResults
      baselineHardConstraintResults := baselineHard
      warnings := candidate.warnings
      unresolvedGapRecordIds := unresolvedGapRecordIds recomputed
      evidenceRefs := candidate.evidenceRefs ++
        baselineRefs overview request.scenarioVersionId expected baselineAssignments }

end ShiftMind.Comparison
