import ShiftMind.Contracts.Grounding
import ShiftMind.Grounding.Pagination
import ShiftMind.Grounding.ResultId
import ShiftMind.Library.Cutting
import ShiftMind.Library.Fallible

/-!
# ShiftMind — the metric calculators

`application/grounding/calculators.py`: one number from the records of a projection group, and a
reference to every record that was folded into it. Amounts and rates are exact rationals.

* **`calculateMetric`** — `calculate_metric`, for any reader.
* **`calculateMetric_demand`**, **`calculateMetric_staffed`** — what a value is on the projection.
* **`metric_window_additive`** — a window may be split.
-/

namespace ShiftMind.Projection

open ResultId

/-! ## Results -/

/-- `ScenarioOverviewV1`, with the site it is of. -/
structure PinnedOverview extends ScenarioOverviewV1 where
  siteId : Uuid
  deriving DecidableEq, Repr

structure CalculatedMetricV1 where
  metric : Metric
  arguments : ClaimArgumentsV1
  value : PyNumber
  unit : GroundingUnit
  evidenceRefs : List EvidenceRefV1
  scenarioVersionId : Uuid
  consumedRowCount : Nat := 0
  deriving DecidableEq, Repr

/-- A projection reader. -/
structure MetricReader where
  getOverview : Except String (Option PinnedOverview)
  getDemand : Getter DemandIntervalV1
  getWorkers : Getter WorkerV1
  getBaselineAssignments : Getter AssignmentV1

/-- The keyword arguments of a calculation. -/
structure MetricRequest where
  scenarioId : Uuid
  scenarioVersionId : Uuid
  siteId : Uuid
  pageSize : Int := 50
  maxRows : Int := 400

/-! ## Rows -/

/-- `interval_overlap_minutes`. -/
def intervalOverlapMinutes (leftStart leftEnd rightStart rightEnd : Int) : Int :=
  max 0 (min leftEnd rightEnd - max leftStart rightStart)

/-- The literal of a demand unit. -/
def demandUnitText : DemandUnit → String
  | .volume => "volume"
  | .headcount => "headcount"

/-- A set of texts, sorted, between slashes. -/
def joinedTexts (texts : List String) : String :=
  String.intercalate "/" (Log.sort id texts.dedup)

/-- `_dimension_message`. -/
def dimensionMessage (metric : Metric) (rows : List DemandIntervalV1) : String :=
  let name := metricText metric
  let needed := if metric = .requiredDemandVolume then "volume" else "headcount"
  let present := joinedTexts (rows.map fun row => demandUnitText row.unit)
  let families := joinedTexts (rows.map fun row => familyText row.family)
  let remedy :=
    if metric = .requiredDemandVolume then
      "this demand is a workforce requirement, not an output quantity, so no volume exists for " ++
        "it; use required_headcount_minutes"
    else
      "this demand is measured in volume, which cannot be converted to minutes without a " ++
        "per-worker rate (Epic 3); use required_demand_volume for the quantity, or " ++
        "staffed_minutes to ask about the people assigned to this task"
  s!"{name} needs demand measured in {needed}, but every matching row for this task and window " ++
    s!"is {present} (family {families}): {remedy}"

/-- `_evidence`. -/
def evidence (overview : PinnedOverview) (group : EvidenceGroup) (recordId field : String)
    (startMinute endMinute : Option Int := none) : EvidenceRefV1 where
  scenarioVersionId := overview.scenarioVersionId
  checksumAlgorithm := overview.checksumAlgorithm
  checksumSchemaVersion := overview.checksumSchemaVersion
  checksumDigest := overview.checksumDigest
  producingRunVersion := none
  baselineScheduleVersion := overview.baselineScheduleVersion
  group := group
  recordId := recordId
  field := some field
  startMinute := startMinute
  endMinute := endMinute

/-- `sum` of floats, which are exact rationals here: the integer zero of no summands. -/
def floatSum : List ℚ → PyNumber
  | [] => .int 0
  | x :: xs => .float (.finite (x :: xs).sum)

/-- `row.amount * overlap / (row.end_minute - row.start_minute)`, not rounded. -/
def proratedVolume (overlap : DemandIntervalV1 → Int) (row : DemandIntervalV1) :
    Except CalculationError ℚ :=
  if row.endMinute - row.startMinute = 0 then .error .zeroDivision
  else .ok (row.amount * overlap row / (row.endMinute - row.startMinute : Int))

/-! ## The checks of the arguments

The arguments are checked before the projection is read, each with its own message. -/

section Calculate

variable (reader : MetricReader) (request : MetricRequest)

/-- `_overview`. -/
def pinnedOverview : Except CalculationError PinnedOverview :=
  match reader.getOverview with
  | .error e => .error (.raised e)
  | .ok none =>
    let scenario := uuidStr request.scenarioId
    .error (.scenarioNotFound s!"scenario {scenario} has no projection")
  | .ok (some overview) =>
    if overview.scenarioVersionId ≠ request.scenarioVersionId then
      let found := uuidStr overview.scenarioVersionId
      let pinned := uuidStr request.scenarioVersionId
      .error (.versionMismatch s!"projection version {found} does not match pinned {pinned}")
    else if overview.siteId ≠ request.siteId then
      let found := uuidStr overview.siteId
      let trusted := uuidStr request.siteId
      .error (.siteMismatch s!"projection site {found} does not match trusted {trusted}")
    else .ok overview

/-- `_window`. -/
def windowOf (arguments : ClaimArgumentsV1) : Except CalculationError (Int × Int) :=
  match arguments.startMinute, arguments.endMinute with
  | some start, some stop =>
    if start < 0 ∨ stop ≤ start then
      .error (.arguments "metric window must be a non-empty half-open interval")
    else .ok (start, stop)
  | _, _ => .error (.arguments "metric requires start_minute and end_minute")

/-- `_require_task`. -/
def requireTask (arguments : ClaimArgumentsV1) : Except CalculationError String :=
  match arguments.taskId with
  | none => .error (.arguments "metric requires task_id")
  | some taskId => if taskId = "" then .error (.arguments "metric requires task_id") else .ok taskId

/-- `metric in FAMILY_AWARE_METRICS`: the metrics that read demand. -/
def readsDemand (metric : Metric) : Bool :=
  decide (metric = .requiredHeadcountMinutes ∨ metric = .requiredDemandVolume)

/-- `_check_family_is_meaningful`. -/
def checkFamilyIsMeaningful (metric : Metric) (arguments : ClaimArgumentsV1) :
    Except CalculationError Unit :=
  if arguments.family ≠ none ∧ readsDemand metric = false then
    let name := metricText metric
    .error (.arguments (s!"{name} does not read demand rows, which are the only records " ++
      "carrying family; it is per-task and family-agnostic"))
  else .ok ()

/-- `_demand_filters`. -/
def demandFiltersOf (taskId : String) (arguments : ClaimArgumentsV1) :
    List (String × FilterValue) :=
  ("task_id", .text taskId) ::
    match arguments.family with
    | none => []
    | some family => [("family", .text (familyText family))]

/-- `drain_projection_group` as the calculators call it. -/
def drained {T : Type} (getter : Getter T) (filters : List (String × FilterValue)) :
    Except CalculationError (List T) :=
  (drainProjectionGroup getter ⟨request.scenarioId, request.scenarioVersionId, request.siteId,
    request.pageSize, request.maxRows, filters⟩).1

/-! ## The calculation -/

/-- What is folded of the rows that were read, for the metrics with a window. -/
def foldRows (overview : PinnedOverview) (metric : Metric) (arguments : ClaimArgumentsV1)
    (taskId : String) (windowStart windowEnd : Int) (demandRows : List DemandIntervalV1)
    (assignmentRows : List AssignmentV1) : Except CalculationError CalculatedMetricV1 := do
  let overlap := fun row : DemandIntervalV1 =>
    intervalOverlapMinutes row.startMinute row.endMinute windowStart windowEnd
  let staffing := fun row : AssignmentV1 =>
    intervalOverlapMinutes row.startMinute row.endMinute windowStart windowEnd
  let wantedUnit := if metric ≠ .requiredDemandVolume then DemandUnit.headcount else .volume
  let windowDemand := demandRows.filter fun row =>
    decide (row.taskId = taskId ∧ (arguments.family = none ∨ some row.family = arguments.family) ∧
      overlap row ≠ 0)
  let matchedDemand := windowDemand.filter fun row => decide (row.unit = wantedUnit)
  if readsDemand metric = true ∧ windowDemand ≠ [] ∧ matchedDemand = [] then
    .error (.dimension (dimensionMessage metric windowDemand))
  else
    let matchedAssignments := assignmentRows.filter fun row =>
      decide (row.taskId = taskId ∧ staffing row ≠ 0)
    let requiredMinutes := floatSum (matchedDemand.map fun row => (overlap row : ℚ) * row.amount)
    -- the volumes are prorated for every metric
    let volumes ← matchedDemand.mapM (proratedVolume overlap)
    let requiredVolume := floatSum volumes
    let staffed := PyNumber.int (matchedAssignments.map staffing).sum
    let demandRefs := matchedDemand.map fun row =>
      evidence overview .demand row.recordId "amount" (some row.startMinute) (some row.endMinute)
    let assignmentRefs := matchedAssignments.map fun row =>
      evidence overview .baselineAssignments row.recordId "task_id" (some row.startMinute)
        (some row.endMinute)
    match metric with
    | .requiredHeadcountMinutes => .ok ⟨metric, arguments, requiredMinutes, .minutes, demandRefs,
        request.scenarioVersionId, matchedDemand.length⟩
    | .requiredDemandVolume => .ok ⟨metric, arguments, requiredVolume, .units, demandRefs,
        request.scenarioVersionId, matchedDemand.length⟩
    | .staffedMinutes => .ok ⟨metric, arguments, staffed, .minutes, assignmentRefs,
        request.scenarioVersionId, matchedAssignments.length⟩
    | _ =>
      let name := metricText metric
      .error (.arguments s!"unsupported metric: {name}")

/-- The demand rows a metric reads. -/
def demandRowsOf (metric : Metric) (arguments : ClaimArgumentsV1) (taskId : String) :
    Except CalculationError (List DemandIntervalV1) :=
  if readsDemand metric = true then
    drained request reader.getDemand (demandFiltersOf taskId arguments)
  else .ok []

/-- The assignment rows a metric reads. -/
def assignmentRowsOf (metric : Metric) (taskId : String) :
    Except CalculationError (List AssignmentV1) :=
  if metric = .staffedMinutes then
    drained request reader.getBaselineAssignments [("task_id", .text taskId)]
  else .ok []

/-- The metrics with a window. -/
def windowMetric (overview : PinnedOverview) (metric : Metric) (arguments : ClaimArgumentsV1)
    (taskId : String) : Except CalculationError CalculatedMetricV1 := do
  let window ← windowOf arguments
  let demandRows ← demandRowsOf reader request metric arguments taskId
  let assignmentRows ← assignmentRowsOf reader request metric taskId
  foldRows request overview metric arguments taskId window.1 window.2 demandRows assignmentRows

/-- `worker_count`. -/
def workerCount (overview : PinnedOverview) (arguments : ClaimArgumentsV1) :
    Except CalculationError CalculatedMetricV1 :=
  if arguments.taskId ≠ none ∨ arguments.family ≠ none ∨ arguments.startMinute ≠ none ∨
      arguments.endMinute ≠ none then
    .error (.arguments "worker_count is scenario-wide and takes no task, family, or window")
  else
    (drained request reader.getWorkers []).map fun workers =>
      ⟨.workerCount, arguments, .int workers.length, .workers,
        workers.map fun worker => evidence overview .workers worker.recordId "name",
        request.scenarioVersionId, workers.length⟩

/-- `qualified_worker_count`. -/
def qualifiedWorkerCount (overview : PinnedOverview) (arguments : ClaimArgumentsV1)
    (taskId : String) : Except CalculationError CalculatedMetricV1 :=
  if arguments.startMinute ≠ none ∨ arguments.endMinute ≠ none then
    .error (.arguments "qualified_worker_count is horizon-wide and takes no window")
  else
    (drained request reader.getWorkers [("qualified_task_id", .text taskId)]).map fun workers =>
      let matched := workers.filter fun worker =>
        worker.qualifications.any fun item => decide (item.taskId = taskId)
      ⟨.qualifiedWorkerCount, arguments, .int matched.length, .workers,
        matched.map fun worker => evidence overview .workers worker.recordId "qualifications",
        request.scenarioVersionId, matched.length⟩

/-- `calculate_metric`. -/
def calculateMetric (metric : Metric) (arguments : ClaimArgumentsV1) :
    Except CalculationError CalculatedMetricV1 := do
  let overview ← pinnedOverview reader request
  if metric = .workerCount then workerCount reader request overview arguments
  else do
    let taskId ← requireTask arguments
    checkFamilyIsMeaningful metric arguments
    if metric = .qualifiedWorkerCount then
      qualifiedWorkerCount reader request overview arguments taskId
    else windowMetric reader request overview metric arguments taskId

end Calculate

/-! ## Overlaps -/

/-- An overlap is the length in common. -/
theorem overlap_cast (leftStart leftEnd rightStart rightEnd : Int) :
    (intervalOverlapMinutes leftStart leftEnd rightStart rightEnd : ℚ) =
      Cutting.common ((leftStart : ℚ), (leftEnd : ℚ)) (rightStart, rightEnd) := by
  unfold intervalOverlapMinutes Cutting.common
  push_cast
  rfl

/-- What lies in a window lies in one of its halves. -/
theorem overlap_split (rowStart rowEnd : Int) {a b c : Int} (hab : a ≤ b) (hbc : b ≤ c) :
    (intervalOverlapMinutes rowStart rowEnd a c : ℚ) =
      intervalOverlapMinutes rowStart rowEnd a b + intervalOverlapMinutes rowStart rowEnd b c := by
  rw [overlap_cast, overlap_cast, overlap_cast]
  have hab' : (a : ℚ) ≤ b := by exact_mod_cast hab
  have hbc' : (b : ℚ) ≤ c := by exact_mod_cast hbc
  exact (Cutting.common_split _ hab' hbc').symm

/-- A row that overlaps a window has a length. -/
theorem length_pos_of_overlap {rowStart rowEnd a b : Int}
    (h : intervalOverlapMinutes rowStart rowEnd a b ≠ 0) : 0 < rowEnd - rowStart := by
  unfold intervalOverlapMinutes at h
  omega

theorem overlap_nonneg (rowStart rowEnd a b : Int) :
    0 ≤ intervalOverlapMinutes rowStart rowEnd a b := le_max_left _ _

/-! ## Values -/

/-- The exact rational a number stands for. -/
def exactValue : PyNumber → ℚ
  | .int n => n
  | .float (.finite q) => q
  | .float _ => 0

theorem exactValue_floatSum (xs : List ℚ) : exactValue (floatSum xs) = xs.sum := by
  cases xs with
  | nil => rfl
  | cons x xs => rfl

/-- The unit a demand metric reads. -/
def metricUnit (metric : Metric) : DemandUnit :=
  if metric ≠ .requiredDemandVolume then .headcount else .volume

/-- What a row is worth to a demand metric in a window. -/
def demandShare (metric : Metric) (a b : Int) (row : DemandIntervalV1) : ℚ :=
  let overlap : ℚ := intervalOverlapMinutes row.startMinute row.endMinute a b
  if metric = .requiredDemandVolume then
    row.amount * overlap / (row.endMinute - row.startMinute : Int)
  else overlap * row.amount

theorem demandShare_split (metric : Metric) (row : DemandIntervalV1) {a b c : Int} (hab : a ≤ b)
    (hbc : b ≤ c) :
    demandShare metric a c row = demandShare metric a b row + demandShare metric b c row := by
  unfold demandShare
  simp only [overlap_split row.startMinute row.endMinute hab hbc]
  split <;> ring

theorem demandShare_eq_zero {metric : Metric} {a b : Int} {row : DemandIntervalV1}
    (h : intervalOverlapMinutes row.startMinute row.endMinute a b = 0) :
    demandShare metric a b row = 0 := by
  unfold demandShare
  rw [h]
  simp

/-! ## A projection -/

/-- A scenario version as the projection shows it. -/
structure ScenarioProjection where
  scenarioId : Uuid
  overview : PinnedOverview
  tasks : List TaskV1 := []
  demand : List DemandIntervalV1
  workers : List WorkerV1
  baselineAssignments : List AssignmentV1
  constraints : List Drafting.ConstraintV1 := []

/-- The row every page is built from. -/
def ScenarioProjection.row (projection : ScenarioProjection) : ProjectionRow :=
  ⟨projection.scenarioId, projection.overview.scenarioVersionId, projection.overview.siteId⟩

/-- The reader of a projection. -/
def projectionReader (casefold : String → String) (projection : ScenarioProjection) :
    MetricReader where
  getOverview := .ok (some projection.overview)
  getDemand := groupGetter (some projection.row) DemandIntervalV1.recordId projection.demand
    demandSorts demandFilters
  getWorkers := groupGetter (some projection.row) WorkerV1.recordId projection.workers workerSorts
    (workerFilters casefold)
  getBaselineAssignments := groupGetter (some projection.row) AssignmentV1.recordId
    projection.baselineAssignments assignmentSorts assignmentFilters

/-- The demand of a task, and of a family. -/
def demandOf (demand : List DemandIntervalV1) (taskId : String) (family : Option DemandFamily) :
    List DemandIntervalV1 :=
  demand.filter fun row => decide (row.taskId = taskId ∧ (family = none ∨ some row.family = family))

/-- The part of it that overlaps a window. -/
def windowRows (demand : List DemandIntervalV1) (taskId : String) (family : Option DemandFamily)
    (a b : Int) : List DemandIntervalV1 :=
  demand.filter fun row =>
    decide (row.taskId = taskId ∧ (family = none ∨ some row.family = family) ∧
    intervalOverlapMinutes row.startMinute row.endMinute a b ≠ 0)

/-- The part of that a metric reads. -/
def unitRows (demand : List DemandIntervalV1) (metric : Metric) (taskId : String)
    (family : Option DemandFamily) (a b : Int) : List DemandIntervalV1 :=
  (windowRows demand taskId family a b).filter fun row => decide (row.unit = metricUnit metric)

/-- What a demand metric returns. -/
def demandResult (demand : List DemandIntervalV1) (request : MetricRequest)
    (overview : PinnedOverview) (metric : Metric) (arguments : ClaimArgumentsV1) (taskId : String)
    (a b : Int) : CalculatedMetricV1 where
  metric := metric
  arguments := arguments
  value := floatSum ((unitRows demand metric taskId arguments.family a b).map
    (demandShare metric a b))
  unit := if metric = .requiredDemandVolume then .units else .minutes
  evidenceRefs := (unitRows demand metric taskId arguments.family a b).map fun row =>
    evidence overview .demand row.recordId "amount" (some row.startMinute) (some row.endMinute)
  scenarioVersionId := request.scenarioVersionId
  consumedRowCount := (unitRows demand metric taskId arguments.family a b).length

section OnProjection

variable {casefold : String → String} {projection : ScenarioProjection} {request : MetricRequest}
  {metric : Metric} {arguments : ClaimArgumentsV1} {taskId : String} {a b : Int}

theorem readsDemand_iff :
    readsDemand metric = true ↔
      metric = .requiredHeadcountMinutes ∨ metric = .requiredDemandVolume := by
  unfold readsDemand
  rw [decide_eq_true_eq]

/-- **No volume is divided by zero**: a row that overlaps the window has a length. -/
theorem proratedVolume_ok {overlap : DemandIntervalV1 → Int} {rows : List DemandIntervalV1}
    (h : ∀ row ∈ rows, row.endMinute - row.startMinute ≠ 0) :
    rows.mapM (proratedVolume overlap) = .ok (rows.map fun row =>
      row.amount * overlap row / (row.endMinute - row.startMinute : Int)) := by
  apply Fallible.mapM_ok
  intro row hrow
  rw [proratedVolume, if_neg (h row hrow)]

/-- The demand metrics fold the rows of their unit, unless there are others only. -/
theorem foldRows_demand (hmetric : readsDemand metric = true) (overview : PinnedOverview)
    (demand : List DemandIntervalV1) (assignmentRows : List AssignmentV1) :
    foldRows request overview metric arguments taskId a b (demandOf demand taskId arguments.family)
        assignmentRows =
      if windowRows demand taskId arguments.family a b ≠ [] ∧
          unitRows demand metric taskId arguments.family a b = [] then
        .error (.dimension
          (dimensionMessage metric (windowRows demand taskId arguments.family a b)))
      else .ok (demandResult demand request overview metric arguments taskId a b) := by
  -- the two filters are one
  have hwindow : (demandOf demand taskId arguments.family).filter (fun row =>
      decide (row.taskId = taskId ∧
        (arguments.family = none ∨ some row.family = arguments.family) ∧
        intervalOverlapMinutes row.startMinute row.endMinute a b ≠ 0)) =
      windowRows demand taskId arguments.family a b := by
    unfold demandOf windowRows
    rw [List.filter_filter]
    congr 1
    funext row
    rw [← Bool.decide_and]
    apply decide_eq_decide.mpr
    tauto
  -- the unit asked for is that of the metric
  have hunit : (windowRows demand taskId arguments.family a b).filter (fun row =>
      decide (row.unit =
        if metric ≠ .requiredDemandVolume then DemandUnit.headcount else .volume)) =
      unitRows demand metric taskId arguments.family a b := rfl
  -- a row that overlaps the window has a positive length, so no division fails
  have hlength : ∀ row ∈ unitRows demand metric taskId arguments.family a b,
      row.endMinute - row.startMinute ≠ 0 := by
    intro row hrow
    have hoverlap := (of_decide_eq_true (List.mem_filter.mp (List.mem_filter.mp hrow).1).2).2.2
    have hpos := length_pos_of_overlap hoverlap
    omega
  unfold foldRows
  simp only [hwindow, hunit, hmetric, true_and]
  split
  · rfl
  · rw [proratedVolume_ok hlength]
    rcases readsDemand_iff.mp hmetric with rfl | rfl
    · rfl
    · rfl

/-! ## When a demand metric succeeds

Everything a returned result says of its call, and the other way: a call that is so returns. -/

/-- Neither filter of a demand query raises. -/
theorem passesAll_demand (row : DemandIntervalV1) (taskId : String) (arguments : ClaimArgumentsV1) :
    passesAll demandFilters row (demandFiltersOf taskId arguments) =
      .ok (decide (row.taskId = taskId ∧
        (arguments.family = none ∨ some row.family = arguments.family))) := by
  -- the filter on the task comes first, and decides alone where it fails
  have htask : ∀ rest, passesAll demandFilters row (("task_id", .text taskId) :: rest) =
      if row.taskId = taskId then passesAll demandFilters row rest else .ok false := by
    intro rest
    have hget : Dict.get? demandFilters "task_id" = some (textIs (·.taskId)) := rfl
    rw [passesAll, hget]
    simp only [textIs]
    by_cases h : row.taskId = taskId
    · rw [if_pos h, decide_eq_true (by rw [h])]
    · rw [if_neg h, decide_eq_false (by rintro ⟨⟩; exact h rfl)]
  unfold demandFiltersOf
  rw [htask]
  cases hfamily : arguments.family with
  | none =>
    by_cases h : row.taskId = taskId <;> simp [h, passesAll]
  | some family =>
    have hget : Dict.get? demandFilters "family" =
        some (textIs fun item => familyText item.family) := rfl
    -- families are told by their texts
    have hinjective : (FilterValue.text (familyText family) = .text (familyText row.family)) ↔
        row.family = family := by
      rw [FilterValue.text.injEq]
      exact ⟨fun h => (familyText_injective h).symm, fun h => by rw [h]⟩
    simp only [passesAll, hget, textIs, hinjective]
    by_cases h : row.taskId = taskId <;> by_cases h' : row.family = family <;> simp [h, h']

theorem filterItems_demand (demand : List DemandIntervalV1) (taskId : String)
    (arguments : ClaimArgumentsV1) :
    filterItems demandFilters (demandFiltersOf taskId arguments) demand =
      .ok (demandOf demand taskId arguments.family) :=
  filterItems_of_ok fun row _ => passesAll_demand row taskId arguments

/-- **What a demand metric needs**: its arguments, the pins, and bounds on the rows it reads. -/
structure DemandCall (projection : ScenarioProjection) (request : MetricRequest) (metric : Metric)
    (arguments : ClaimArgumentsV1) (taskId : String) (a b : Int) : Prop where
  task : arguments.taskId = some taskId
  named : taskId ≠ ""
  start : arguments.startMinute = some a
  stop : arguments.endMinute = some b
  window : 0 ≤ a ∧ a < b
  version : projection.overview.scenarioVersionId = request.scenarioVersionId
  site : projection.overview.siteId = request.siteId
  sizes : 1 ≤ request.pageSize ∧ 1 ≤ request.maxRows
  rows : ((demandOf projection.demand taskId arguments.family).length : Int) ≤ request.maxRows
  pages : ((demandOf projection.demand taskId arguments.family).length : Int) ≤
    maxPages * request.pageSize

theorem drained_demand_ok {found : List DemandIntervalV1}
    (h : drained request (projectionReader casefold projection).getDemand
      (demandFiltersOf taskId arguments) = .ok found) :
    found = demandOf projection.demand taskId arguments.family ∧
      projection.overview.scenarioVersionId = request.scenarioVersionId ∧
      projection.overview.siteId = request.siteId ∧
      (1 ≤ request.pageSize ∧ 1 ≤ request.maxRows) ∧ (found.length : Int) ≤ request.maxRows ∧
      (found.length : Int) ≤ maxPages * request.pageSize := by
  obtain ⟨hfiltered, hversion, hsite, hpage, hrows, hbound, hpages⟩ := drain_group_ok h
  have hfiltered : filterItems demandFilters (demandFiltersOf taskId arguments) projection.demand =
      .ok found := hfiltered
  rw [filterItems_demand] at hfiltered
  cases hfiltered
  exact ⟨rfl, hversion, hsite, ⟨hpage, hrows⟩, hbound, hpages⟩

theorem pinnedOverview_ok {reader : MetricReader} {overview : PinnedOverview}
    (h : pinnedOverview reader request = .ok overview) :
    reader.getOverview = .ok (some overview) ∧
      overview.scenarioVersionId = request.scenarioVersionId ∧
      overview.siteId = request.siteId := by
  unfold pinnedOverview at h
  split at h
  · cases h
  · cases h
  · rename_i found hfound
    split at h
    · cases h
    · rename_i hversion
      split at h
      · cases h
      · rename_i hsite
        rw [not_ne_iff] at hversion hsite
        cases h
        exact ⟨hfound, hversion, hsite⟩

theorem windowOf_ok (h : windowOf arguments = .ok (a, b)) :
    arguments.startMinute = some a ∧ arguments.endMinute = some b ∧ 0 ≤ a ∧ a < b := by
  unfold windowOf at h
  split at h
  · rename_i start stop hstart hstop
    split at h
    · cases h
    · cases h
      exact ⟨hstart, hstop, by omega, by omega⟩
  · cases h

theorem requireTask_ok (h : requireTask arguments = .ok taskId) :
    arguments.taskId = some taskId ∧ taskId ≠ "" := by
  unfold requireTask at h
  split at h
  · cases h
  · rename_i found hfound
    split at h
    · cases h
    · rename_i hnamed
      cases h
      exact ⟨hfound, hnamed⟩

/-- What a metric with a window passed before it read rows. -/
theorem calculateMetric_window {reader : MetricReader} {result : CalculatedMetricV1}
    (hworkers : metric ≠ .workerCount) (hqualified : metric ≠ .qualifiedWorkerCount)
    (h : calculateMetric reader request metric arguments = .ok result) :
    ∃ overview taskId, reader.getOverview = .ok (some overview) ∧
      overview.scenarioVersionId = request.scenarioVersionId ∧
      overview.siteId = request.siteId ∧ arguments.taskId = some taskId ∧ taskId ≠ "" ∧
      windowMetric reader request overview metric arguments taskId = .ok result := by
  unfold calculateMetric at h
  obtain ⟨overview, hoverview, h⟩ := Fallible.bind_ok h
  rw [if_neg hworkers] at h
  obtain ⟨taskId, htask, h⟩ := Fallible.bind_ok h
  obtain ⟨-, -, h⟩ := Fallible.bind_ok h
  rw [if_neg hqualified] at h
  have hpins := pinnedOverview_ok hoverview
  have hnamed := requireTask_ok htask
  exact ⟨overview, taskId, hpins.1, hpins.2.1, hpins.2.2, hnamed.1, hnamed.2, h⟩

theorem readsDemand_ne (hmetric : readsDemand metric = true) :
    metric ≠ .workerCount ∧ metric ≠ .qualifiedWorkerCount ∧ metric ≠ .staffedMinutes := by
  rcases readsDemand_iff.mp hmetric with rfl | rfl <;> decide

/-- **What a demand metric returns on the projection.** -/
theorem calculateMetric_demand (hmetric : readsDemand metric = true) {result : CalculatedMetricV1}
    (h : calculateMetric (projectionReader casefold projection) request metric arguments =
      .ok result) :
    ∃ taskId a b, DemandCall projection request metric arguments taskId a b ∧
      (windowRows projection.demand taskId arguments.family a b = [] ∨
        unitRows projection.demand metric taskId arguments.family a b ≠ []) ∧
      result = demandResult projection.demand request projection.overview metric arguments taskId
        a b := by
  obtain ⟨hworkers, hqualified, hstaffed⟩ := readsDemand_ne hmetric
  obtain ⟨overview, taskId, hoverview, hversion, hsite, htask, hnamed, h⟩ :=
    calculateMetric_window hworkers hqualified h
  cases hoverview
  unfold windowMetric at h
  obtain ⟨⟨a, b⟩, hwindow, h⟩ := Fallible.bind_ok h
  obtain ⟨rows, hrows, h⟩ := Fallible.bind_ok h
  obtain ⟨assignments, -, h⟩ := Fallible.bind_ok h
  rw [demandRowsOf, if_pos hmetric] at hrows
  obtain ⟨hfound, -, -, hsizes, hbound, hpages⟩ := drained_demand_ok hrows
  obtain ⟨hstart, hstop, hwindow⟩ := windowOf_ok hwindow
  rw [hfound] at h hbound hpages
  simp only [foldRows_demand hmetric] at h
  split at h
  · cases h
  · rename_i hdimension
    cases h
    refine ⟨taskId, a, b, ⟨htask, hnamed, hstart, hstop, hwindow, hversion, hsite, hsizes, hbound,
      hpages⟩, ?_, rfl⟩
    by_cases hempty : windowRows projection.demand taskId arguments.family a b = []
    · exact Or.inl hempty
    · exact Or.inr fun hnone => hdimension ⟨hempty, hnone⟩

/-- A demand metric succeeds where nothing is missing. -/
theorem calculateMetric_demand_of (casefold : String → String) (hmetric : readsDemand metric = true)
    (h : DemandCall projection request metric arguments taskId a b)
    (hunit : windowRows projection.demand taskId arguments.family a b = [] ∨
      unitRows projection.demand metric taskId arguments.family a b ≠ []) :
    calculateMetric (projectionReader casefold projection) request metric arguments =
      .ok (demandResult projection.demand request projection.overview metric arguments taskId
        a b) := by
  obtain ⟨hworkers, hqualified, hstaffed⟩ := readsDemand_ne hmetric
  -- each check in turn, with what the call says about it
  have hoverview : pinnedOverview (projectionReader casefold projection) request =
      .ok projection.overview := by
    show (if projection.overview.scenarioVersionId ≠ request.scenarioVersionId then _ else
      if projection.overview.siteId ≠ request.siteId then _ else
        Except.ok projection.overview : Except CalculationError PinnedOverview) = _
    rw [if_neg (not_ne_iff.mpr h.version), if_neg (not_ne_iff.mpr h.site)]
  have htask : requireTask arguments = .ok taskId := by
    unfold requireTask
    rw [h.task]
    exact if_neg h.named
  have hfamily : checkFamilyIsMeaningful metric arguments = .ok () := by
    unfold checkFamilyIsMeaningful
    rw [hmetric]
    exact if_neg fun hboth => Bool.noConfusion hboth.2
  have hwindow : windowOf arguments = .ok (a, b) := by
    have hbounds := h.window
    unfold windowOf
    rw [h.start, h.stop]
    exact if_neg (by omega)
  have hdrained : drained request (projectionReader casefold projection).getDemand
      (demandFiltersOf taskId arguments) =
        .ok (demandOf projection.demand taskId arguments.family) :=
    drain_whole h.version h.site (filterItems_demand _ _ _) h.sizes.1 h.sizes.2 h.rows h.pages
  have hfold : ¬ (windowRows projection.demand taskId arguments.family a b ≠ [] ∧
      unitRows projection.demand metric taskId arguments.family a b = []) := by
    rintro ⟨hsome, hnone⟩
    rcases hunit with hunit | hunit
    · exact hsome hunit
    · exact hunit hnone
  -- the checks stand in this order in the source
  unfold calculateMetric windowMetric
  rw [hoverview]
  show (if metric = .workerCount then _ else (requireTask arguments >>= _)) = _
  rw [if_neg hworkers, htask]
  show (checkFamilyIsMeaningful metric arguments >>= _) = _
  rw [hfamily]
  show (if metric = .qualifiedWorkerCount then _ else (windowOf arguments >>= _)) = _
  rw [if_neg hqualified, hwindow]
  show (demandRowsOf _ request metric arguments taskId >>= _) = _
  rw [demandRowsOf, if_pos hmetric, hdrained]
  show (assignmentRowsOf _ request metric taskId >>= _) = _
  rw [assignmentRowsOf, if_neg hstaffed]
  show foldRows _ _ _ _ _ _ _ _ _ = _
  rw [foldRows_demand hmetric, if_neg hfold]

/-! ## Staffed minutes -/

/-- What is staffed of a task in a window. -/
def staffedIn (assignments : List AssignmentV1) (taskId : String) (a b : Int) : Int :=
  ((assignments.filter fun row => decide (row.taskId = taskId)).map fun row =>
    intervalOverlapMinutes row.startMinute row.endMinute a b).sum

theorem passesAll_assignment (row : AssignmentV1) (taskId : String) :
    passesAll assignmentFilters row [("task_id", .text taskId)] =
      .ok (decide (row.taskId = taskId)) := by
  have hget : Dict.get? assignmentFilters "task_id" = some (textIs (·.taskId)) := rfl
  rw [passesAll, hget]
  simp only [textIs]
  by_cases h : row.taskId = taskId
  · rw [decide_eq_true (by rw [h]), decide_eq_true h]
    rfl
  · rw [decide_eq_false (by rintro ⟨⟩; exact h rfl), decide_eq_false h]

/-- **What the staffed minutes are on the projection.** -/
theorem calculateMetric_staffed {result : CalculatedMetricV1}
    (h : calculateMetric (projectionReader casefold projection) request .staffedMinutes arguments =
      .ok result) :
    ∃ taskId a b, arguments.taskId = some taskId ∧ arguments.startMinute = some a ∧
      arguments.endMinute = some b ∧
      result.value = .int (staffedIn projection.baselineAssignments taskId a b) := by
  obtain ⟨overview, taskId, -, -, -, htask, -, h⟩ :=
    calculateMetric_window (by decide) (by decide) h
  unfold windowMetric at h
  obtain ⟨⟨a, b⟩, hwindow, h⟩ := Fallible.bind_ok h
  obtain ⟨rows, hrows, h⟩ := Fallible.bind_ok h
  obtain ⟨assignments, hassignments, h⟩ := Fallible.bind_ok h
  obtain ⟨hstart, hstop, -⟩ := windowOf_ok hwindow
  rw [demandRowsOf, if_neg (by decide)] at hrows
  cases hrows
  rw [assignmentRowsOf, if_pos rfl] at hassignments
  have hfiltered : filterItems assignmentFilters [("task_id", .text taskId)]
      projection.baselineAssignments = .ok assignments := (drain_group_ok hassignments).1
  rw [filterItems_of_ok fun row _ => passesAll_assignment row taskId] at hfiltered
  cases hfiltered
  refine ⟨taskId, a, b, htask, hstart, hstop, ?_⟩
  unfold foldRows at h
  rw [if_neg (by rintro ⟨hreads, -⟩; exact Bool.noConfusion hreads)] at h
  cases h
  show PyNumber.int _ = _
  congr 1
  unfold staffedIn
  rw [List.filter_filter]
  -- the rows that the fold leaves out overlap nothing
  have hzero : ∀ row ∈
      projection.baselineAssignments.filter fun row => decide (row.taskId = taskId),
      decide (row.taskId = taskId ∧
        intervalOverlapMinutes row.startMinute row.endMinute a b ≠ 0) = false →
      intervalOverlapMinutes row.startMinute row.endMinute a b = 0 := by
    intro row hrow hkeep
    have htask : row.taskId = taskId := of_decide_eq_true (List.mem_filter.mp hrow).2
    have hnot := of_decide_eq_false hkeep
    tauto
  have hsum := Dict.sum_map_filter_of_zero _ hzero
  rw [List.filter_filter] at hsum
  exact hsum

/-! ## Windows and families -/

/-- The demand of the unit a metric reads. -/
def unitDemand (demand : List DemandIntervalV1) (metric : Metric) (taskId : String)
    (family : Option DemandFamily) : List DemandIntervalV1 :=
  (demandOf demand taskId family).filter fun row => decide (row.unit = metricUnit metric)

theorem unitRows_eq (demand : List DemandIntervalV1) (metric : Metric) (taskId : String)
    (family : Option DemandFamily) (a b : Int) :
    unitRows demand metric taskId family a b =
      (unitDemand demand metric taskId family).filter fun row =>
        decide (intervalOverlapMinutes row.startMinute row.endMinute a b ≠ 0) := by
  unfold unitRows windowRows unitDemand demandOf
  simp only [List.filter_filter]
  congr 1
  funext row
  simp only [← Bool.decide_and]
  apply decide_eq_decide.mpr
  tauto

/-- The value of a demand metric is what its demand is worth in the window. -/
theorem exactValue_demandResult (demand : List DemandIntervalV1) (request : MetricRequest)
    (overview : PinnedOverview) (metric : Metric) (arguments : ClaimArgumentsV1) (taskId : String)
    (a b : Int) :
    exactValue (demandResult demand request overview metric arguments taskId a b).value =
      ((unitDemand demand metric taskId arguments.family).map (demandShare metric a b)).sum := by
  show exactValue (floatSum _) = _
  rw [exactValue_floatSum, unitRows_eq]
  apply Dict.sum_map_filter_of_zero
  intro row _ hnone
  exact demandShare_eq_zero (not_not.mp (of_decide_eq_false hnone))

/-- The families of some rows. -/
def familiesOf (rows : List DemandIntervalV1) : List DemandFamily :=
  [DemandFamily.outbound, .inbound, .indirect].filter fun family =>
    rows.any fun row => decide (row.family = family)

/-- A sum over rows is the sum over the families of their sums. -/
theorem sum_by_family (g : DemandIntervalV1 → ℚ) (rows : List DemandIntervalV1) :
    (rows.map g).sum = ([DemandFamily.outbound, .inbound, .indirect].map fun family =>
      ((rows.filter fun row => decide (row.family = family)).map g).sum).sum := by
  induction rows with
  | nil => simp
  | cons row rows ih =>
    rw [List.map_cons, List.sum_cons, ih]
    simp only [List.filter_cons, List.map_cons, List.map_nil, List.sum_cons, List.sum_nil]
    cases row.family <;> simp <;> ring

theorem unitDemand_family (demand : List DemandIntervalV1) (metric : Metric) (taskId : String)
    (family : DemandFamily) :
    (unitDemand demand metric taskId none).filter (fun row => decide (row.family = family)) =
      unitDemand demand metric taskId (some family) := by
  unfold unitDemand demandOf
  simp only [List.filter_filter]
  congr 1
  funext row
  simp only [← Bool.decide_and]
  apply decide_eq_decide.mpr
  simp only [Option.some.injEq, reduceCtorEq, true_or, false_or, and_true]
  tauto

theorem demandOf_family_length (demand : List DemandIntervalV1) (taskId : String)
    (family : DemandFamily) :
    (demandOf demand taskId (some family)).length ≤ (demandOf demand taskId none).length := by
  unfold demandOf
  apply List.Sublist.length_le
  apply List.monotone_filter_right
  intro row hrow
  simp only [decide_eq_true_eq] at hrow ⊢
  exact ⟨hrow.1, Or.inl trivial⟩

/-- **The value over all families is the sum over those that overlap the window.** -/
theorem calculateMetric_families (hmetric : readsDemand metric = true)
    (hfamily : arguments.family = none) {result : CalculatedMetricV1}
    (h : calculateMetric (projectionReader casefold projection) request metric arguments =
      .ok result) :
    ∃ taskId a b, arguments.taskId = some taskId ∧ arguments.startMinute = some a ∧
      arguments.endMinute = some b ∧ ∃ value : DemandFamily → ℚ,
      (∀ family ∈ familiesOf (unitRows projection.demand metric taskId none a b), ∃ part,
        calculateMetric (projectionReader casefold projection) request metric
          { arguments with family := some family } = .ok part ∧
        exactValue part.value = value family) ∧
      exactValue result.value =
        ((familiesOf (unitRows projection.demand metric taskId none a b)).map value).sum := by
  obtain ⟨taskId, a, b, hcall, -, rfl⟩ := calculateMetric_demand hmetric h
  refine ⟨taskId, a, b, hcall.task, hcall.start, hcall.stop, fun family =>
    ((unitDemand projection.demand metric taskId (some family)).map (demandShare metric a b)).sum,
    ?_, ?_⟩
  · intro family hmem
    have hrows := hcall.rows
    have hpages := hcall.pages
    rw [hfamily] at hrows hpages
    have hlength := demandOf_family_length projection.demand taskId family
    -- the call for one family is sound, because the rows of a family are among all rows
    have hcallFamily : DemandCall projection request metric
        { arguments with family := some family } taskId a b :=
      ⟨hcall.task, hcall.named, hcall.start, hcall.stop, hcall.window, hcall.version, hcall.site,
        hcall.sizes, by simp only; omega, by simp only; omega⟩
    -- the family has a row that overlaps the window, so its call has a value
    have hsome : unitRows projection.demand metric taskId (some family) a b ≠ [] := by
      obtain ⟨row, hrow, heq⟩ := List.any_eq_true.mp (List.mem_filter.mp hmem).2
      apply List.ne_nil_of_mem (a := row)
      rw [unitRows_eq, ← unitDemand_family]
      rw [unitRows_eq] at hrow
      have hrow := List.mem_filter.mp hrow
      exact List.mem_filter.mpr ⟨List.mem_filter.mpr ⟨hrow.1, heq⟩, hrow.2⟩
    exact ⟨_, calculateMetric_demand_of casefold hmetric hcallFamily (Or.inr hsome),
      exactValue_demandResult ..⟩
  · rw [exactValue_demandResult, hfamily, sum_by_family]
    simp only [unitDemand_family]
    apply (Dict.sum_map_filter_of_zero _ _).symm
    intro family _ habsent
    -- no row of this family overlaps the window
    apply List.sum_eq_zero
    intro share hshare
    obtain ⟨row, hrow, rfl⟩ := List.mem_map.mp hshare
    apply demandShare_eq_zero
    by_contra hoverlap
    rw [← unitDemand_family] at hrow
    have hrow := List.mem_filter.mp hrow
    have hany : ((unitRows projection.demand metric taskId none a b).any fun row =>
        decide (row.family = family)) = true := by
      rw [unitRows_eq]
      exact List.any_eq_true.mpr
        ⟨row, List.mem_filter.mpr ⟨hrow.1, decide_eq_true hoverlap⟩, hrow.2⟩
    rw [hany] at habsent
    cases habsent

/-! ## No division by zero -/

section Division

variable {T : Type} {getter : Getter T} {drain : DrainRequest}

theorem checkedCount_ne_zeroDivision (known : Option Int) (page : PageV1 T) :
    checkedCount drain known page ≠ .error .zeroDivision := by
  intro h
  unfold checkedCount at h
  split at h
  · split at h <;> cases h
  · split at h <;> cases h

theorem admitPage_ne_zeroDivision (state : DrainState T) (page : PageV1 T) :
    admitPage drain state page ≠ .error .zeroDivision := by
  intro h
  unfold admitPage at h
  split at h
  · cases h
  · split at h
    · cases h
    · split at h
      · rename_i error hcount
        cases h
        exact checkedCount_ne_zeroDivision _ _ hcount
      · simp only at h
        split at h
        · cases h
        · split at h
          · split at h <;> cases h
          · split at h <;> cases h

/-- A drain divides nothing. -/
theorem drainLoop_ne_zeroDivision (fuel : Nat) (state : DrainState T) :
    (drainLoop getter drain fuel state).1 ≠ .error .zeroDivision := by
  induction fuel generalizing state with
  | zero => exact nofun
  | succ fuel ih =>
    intro h
    rw [drainLoop] at h
    split at h
    · rename_i result calls hpass
      cases h
      unfold drainPass at hpass
      split at hpass
      · cases hpass
      · split at hpass
        · cases hpass
        · split at hpass
          · cases hpass
          · cases hpass
          · split at hpass
            · rename_i error hadmit
              cases hpass
              -- a page is admitted without a division
              exact admitPage_ne_zeroDivision _ _ hadmit
            · cases hpass
            · cases hpass
    · exact ih _ h

theorem drained_ne_zeroDivision (request : MetricRequest) (filters : List (String × FilterValue)) :
    drained request getter filters ≠ .error .zeroDivision := by
  unfold drained drainProjectionGroup
  split
  · exact nofun
  · exact drainLoop_ne_zeroDivision _ _

end Division

theorem except_bind_error {ε α β : Type} {x : Except ε α} {f : α → Except ε β} {e : ε}
    (h : (x >>= f) = .error e) : x = .error e ∨ ∃ v, x = .ok v ∧ f v = .error e := by
  cases x with
  | error e' => cases h; exact Or.inl rfl
  | ok v => exact Or.inr ⟨v, rfl, h⟩

theorem except_map_error {ε α β : Type} {x : Except ε α} {f : α → β} {e : ε}
    (h : x.map f = .error e) : x = .error e := by
  cases x with
  | error e' => cases h; rfl
  | ok v => cases h

theorem foldRows_ne_zeroDivision (overview : PinnedOverview) (demandRows : List DemandIntervalV1)
    (assignmentRows : List AssignmentV1) :
    foldRows request overview metric arguments taskId a b demandRows assignmentRows ≠
      .error .zeroDivision := by
  intro h
  unfold foldRows at h
  generalize
    (if metric ≠ .requiredDemandVolume then DemandUnit.headcount else .volume) = wanted at h
  simp only at h
  split at h
  · cases h
  · rcases except_bind_error h with h | ⟨volumes, -, h⟩
    · rw [proratedVolume_ok fun row hrow => ?_] at h
      · cases h
      · have hkeep := of_decide_eq_true (List.mem_filter.mp (List.mem_filter.mp hrow).1).2
        have hpos := length_pos_of_overlap hkeep.2.2
        omega
    · cases metric <;> cases h

/-- **No call divides by zero**, for any reader. -/
theorem calculateMetric_ne_zeroDivision (reader : MetricReader) (request : MetricRequest)
    (metric : Metric) (arguments : ClaimArgumentsV1) :
    calculateMetric reader request metric arguments ≠ .error .zeroDivision := by
  intro h
  unfold calculateMetric at h
  -- every check in front of the fold raises something else
  rcases except_bind_error h with h | ⟨overview, -, h⟩
  · unfold pinnedOverview at h
    split at h
    · cases h
    · cases h
    · split at h
      · cases h
      · split at h <;> cases h
  · split at h
    · unfold workerCount at h
      split at h
      · cases h
      · exact drained_ne_zeroDivision _ _ (except_map_error h)
    · rcases except_bind_error h with h | ⟨taskId, -, h⟩
      · unfold requireTask at h
        split at h
        · cases h
        · split at h <;> cases h
      · rcases except_bind_error h with h | ⟨-, -, h⟩
        · unfold checkFamilyIsMeaningful at h
          split at h <;> cases h
        · split at h
          · unfold qualifiedWorkerCount at h
            split at h
            · cases h
            · exact drained_ne_zeroDivision _ _ (except_map_error h)
          · unfold windowMetric at h
            rcases except_bind_error h with h | ⟨window, -, h⟩
            · unfold windowOf at h
              split at h
              · split at h <;> cases h
              · cases h
            · rcases except_bind_error h with h | ⟨rows, -, h⟩
              · unfold demandRowsOf at h
                split at h
                · exact drained_ne_zeroDivision _ _ h
                · cases h
              · rcases except_bind_error h with h | ⟨assignments, -, h⟩
                · unfold assignmentRowsOf at h
                  split at h
                  · exact drained_ne_zeroDivision _ _ h
                  · cases h
                · exact foldRows_ne_zeroDivision _ _ _ h

/-! ## Additivity

Windows that split a window and families that split the rows: the values add up. -/

/-- A demand metric adds up over two halves of a window. -/
theorem demand_window_additive (hmetric : readsDemand metric = true) {family : Option DemandFamily}
    {task : Option String} {a b c : Int} (hab : a < b) (hbc : b < c)
    {whole left right : CalculatedMetricV1}
    (hwhole : calculateMetric (projectionReader casefold projection) request metric
      ⟨task, family, some a, some c⟩ = .ok whole)
    (hleft : calculateMetric (projectionReader casefold projection) request metric
      ⟨task, family, some a, some b⟩ = .ok left)
    (hright : calculateMetric (projectionReader casefold projection) request metric
      ⟨task, family, some b, some c⟩ = .ok right) :
    exactValue whole.value = exactValue left.value + exactValue right.value := by
  obtain ⟨taskId, a₁, c₁, hcall, -, rfl⟩ := calculateMetric_demand hmetric hwhole
  obtain ⟨taskId', a₂, b₂, hcall', -, rfl⟩ := calculateMetric_demand hmetric hleft
  obtain ⟨taskId'', b₃, c₃, hcall'', -, rfl⟩ := calculateMetric_demand hmetric hright
  cases hcall.task
  cases hcall'.task
  cases hcall''.task
  cases hcall.start
  cases hcall.stop
  cases hcall'.start
  cases hcall'.stop
  cases hcall''.start
  cases hcall''.stop
  rw [exactValue_demandResult, exactValue_demandResult, exactValue_demandResult,
    ← List.sum_map_add]
  congr 1
  apply List.map_congr_left
  intro row _
  exact demandShare_split metric row hab.le hbc.le

/-- So do the staffed minutes. -/
theorem staffed_window_additive {family : Option DemandFamily} {task : Option String} {a b c : Int}
    (hab : a < b) (hbc : b < c) {whole left right : CalculatedMetricV1}
    (hwhole : calculateMetric (projectionReader casefold projection) request .staffedMinutes
      ⟨task, family, some a, some c⟩ = .ok whole)
    (hleft : calculateMetric (projectionReader casefold projection) request .staffedMinutes
      ⟨task, family, some a, some b⟩ = .ok left)
    (hright : calculateMetric (projectionReader casefold projection) request .staffedMinutes
      ⟨task, family, some b, some c⟩ = .ok right) :
    exactValue whole.value = exactValue left.value + exactValue right.value := by
  obtain ⟨taskId, a₁, c₁, htask, hstart, hstop, hvalue⟩ := calculateMetric_staffed hwhole
  obtain ⟨taskId', a₂, b₂, htask', hstart', hstop', hvalue'⟩ := calculateMetric_staffed hleft
  obtain ⟨taskId'', b₃, c₃, htask'', hstart'', hstop'', hvalue''⟩ := calculateMetric_staffed hright
  -- the three results are about one task, and their windows meet at `b`
  cases htask
  cases htask'
  cases htask''
  cases hstart
  cases hstop
  cases hstart'
  cases hstop'
  cases hstart''
  cases hstop''
  rw [hvalue, hvalue', hvalue'']
  -- row by row, the overlap is split at `b`
  have hsplit : staffedIn projection.baselineAssignments taskId a c =
      staffedIn projection.baselineAssignments taskId a b +
        staffedIn projection.baselineAssignments taskId b c := by
    unfold staffedIn
    rw [← List.sum_map_add]
    congr 1
    apply List.map_congr_left
    intro row _
    exact_mod_cast overlap_split row.startMinute row.endMinute hab.le hbc.le
  show ((_ : Int) : ℚ) = (_ : Int) + (_ : Int)
  rw [hsplit]
  push_cast
  rfl

/-- **Metrics are additive over windows and families, and divide by no zero.** -/
theorem metric_window_additive (casefold : String → String) (projection : ScenarioProjection)
    (request : MetricRequest) :
    (∀ metric, readsDemand metric = true ∨ metric = .staffedMinutes →
      ∀ (task : Option String) (family : Option DemandFamily) (a b c : Int),
      0 ≤ a → a < b → b < c → ∀ whole left right,
      calculateMetric (projectionReader casefold projection) request metric
        ⟨task, family, some a, some c⟩ = .ok whole →
      calculateMetric (projectionReader casefold projection) request metric
        ⟨task, family, some a, some b⟩ = .ok left →
      calculateMetric (projectionReader casefold projection) request metric
        ⟨task, family, some b, some c⟩ = .ok right →
      exactValue whole.value = exactValue left.value + exactValue right.value) ∧
    (∀ metric, readsDemand metric = true → ∀ (taskId : String) (a b : Int) result,
      calculateMetric (projectionReader casefold projection) request metric
        ⟨some taskId, none, some a, some b⟩ = .ok result →
      ∃ value : DemandFamily → ℚ,
        (∀ family ∈ familiesOf (unitRows projection.demand metric taskId none a b), ∃ part,
          calculateMetric (projectionReader casefold projection) request metric
            ⟨some taskId, some family, some a, some b⟩ = .ok part ∧
          exactValue part.value = value family) ∧
        exactValue result.value =
          ((familiesOf (unitRows projection.demand metric taskId none a b)).map value).sum) ∧
    (∀ (reader : MetricReader) (metric : Metric) (arguments : ClaimArgumentsV1),
      calculateMetric reader request metric arguments ≠ .error .zeroDivision) := by
  refine ⟨?_, ?_, ?_⟩
  · intro metric hmetric task family a b c _ hab hbc whole left right hwhole hleft hright
    rcases hmetric with hmetric | rfl
    · exact demand_window_additive hmetric hab hbc hwhole hleft hright
    · exact staffed_window_additive hab hbc hwhole hleft hright
  · intro metric hmetric taskId a b result hresult
    obtain ⟨taskId', a', b', htask, hstart, hstop, hfamilies⟩ :=
      calculateMetric_families hmetric rfl hresult
    cases htask
    cases hstart
    cases hstop
    exact hfamilies
  · intro reader metric arguments
    exact calculateMetric_ne_zeroDivision reader request metric arguments

end OnProjection

namespace Straddling

/-- A task with rows of two families, one of which lies across the middle of the window. -/
def projection : ScenarioProjection where
  scenarioId := 1
  overview :=
    { scenarioVersionId := 2
      checksumAlgorithm := "sha256"
      checksumSchemaVersion := "rfc8785-v1"
      checksumDigest := "d1"
      baselineScheduleVersion := none
      siteId := 3 }
  demand :=
    [⟨"outbound:0", .outbound, "pick", none, 0, 60, 6, .volume⟩,
      ⟨"inbound:0:0", .inbound, "pick", none, 60, 90, 3, .volume⟩]
  workers := []
  baselineAssignments := []

def request : MetricRequest := { scenarioId := 1, scenarioVersionId := 2, siteId := 3 }

def arguments (a b : Int) : ClaimArgumentsV1 := ⟨some "pick", none, some a, some b⟩

theorem call {a b : Int} (hab : 0 ≤ a ∧ a < b) :
    DemandCall projection request .requiredDemandVolume (arguments a b) "pick" a b := by
  have hlength : ((demandOf projection.demand "pick" (arguments a b).family).length : Int) = 2 := by
    show ((demandOf projection.demand "pick" none).length : Int) = 2
    decide
  exact ⟨rfl, by decide, rfl, rfl, hab, rfl, rfl, by decide, by rw [hlength]; decide,
    by rw [hlength]; decide⟩

end Straddling

open Straddling in
theorem metric_window_additive_straddled :
    ∃ whole left right,
      calculateMetric (projectionReader id projection) request .requiredDemandVolume
        (arguments 0 90) = .ok whole ∧
      calculateMetric (projectionReader id projection) request .requiredDemandVolume
        (arguments 0 30) = .ok left ∧
      calculateMetric (projectionReader id projection) request .requiredDemandVolume
        (arguments 30 90) = .ok right ∧
      exactValue whole.value = exactValue left.value + exactValue right.value ∧
      ∃ value : DemandFamily → ℚ, exactValue whole.value =
        ((familiesOf (unitRows projection.demand .requiredDemandVolume "pick" none 0 90)).map
          value).sum := by
  have hwhole := calculateMetric_demand_of id rfl
    (call (show (0 : Int) ≤ 0 ∧ (0 : Int) < 90 by decide)) (Or.inr (by decide +kernel))
  have hleft := calculateMetric_demand_of id rfl
    (call (show (0 : Int) ≤ 0 ∧ (0 : Int) < 30 by decide)) (Or.inr (by decide +kernel))
  have hright := calculateMetric_demand_of id rfl
    (call (show (0 : Int) ≤ 30 ∧ (30 : Int) < 90 by decide)) (Or.inr (by decide +kernel))
  have hadditive := (metric_window_additive id projection request).1 .requiredDemandVolume
    (Or.inl rfl) (some "pick") none 0 30 90 (by decide) (by decide) (by decide) _ _ _ hwhole hleft
    hright
  obtain ⟨value, -, hvalue⟩ := (metric_window_additive id projection request).2.1
    .requiredDemandVolume rfl "pick" 0 90 _ hwhole
  exact ⟨_, _, _, hwhole, hleft, hright, hadditive, value, hvalue⟩

end ShiftMind.Projection
