import ShiftMind.Grounding.Calculators
import ShiftMind.Grounding.Integrity

/-!
# ShiftMind — computed claims

What becomes of a computed metric at the grounding gate. A projection answers the gate's resolvers
from the records the calculators read.

* **`zero_demand_accounted`** — where a demand metric is zero, no demand was left out.
-/

namespace ShiftMind.Projection

open Grounding Transactional

/-! ## The resolvers -/

/-- `_resolve_items`, of the record its identifier. -/
def resolveItems (recordIds : List String) (requested actual : Uuid) (recordId : String) :
    Resolution :=
  if requested ≠ actual then ⟨.versionMismatch, actual, none⟩
  else
    match recordIds.find? fun candidate => decide (candidate = recordId) with
    | some found => ⟨.resolved, actual, some found⟩
    | none => ⟨.notFound, actual, none⟩

/-- The records of an evidence group; no lock is projected. -/
def ScenarioProjection.recordIds (projection : ScenarioProjection) : EvidenceGroup → List String
  | .workAreasAndTasks => projection.tasks.map TaskV1.recordId
  | .workers => projection.workers.map WorkerV1.recordId
  | .demand => projection.demand.map DemandIntervalV1.recordId
  | .baselineAssignments => projection.baselineAssignments.map AssignmentV1.recordId
  | .locks => []
  | .constraintsAndObjectives => projection.constraints.map Drafting.ConstraintV1.recordId

/-- `resolve_task` and its siblings. -/
def ScenarioProjection.resolver (projection : ScenarioProjection) : Grounding.ProjectionReader where
  getOverview _ scenarioId :=
    .ok (if scenarioId = projection.scenarioId then some projection.overview.toScenarioOverviewV1
      else none)
  resolve _ group scenarioId scenarioVersionId recordId :=
    .ok (if scenarioId = projection.scenarioId then
      some (resolveItems (projection.recordIds group) scenarioVersionId
        projection.overview.scenarioVersionId recordId)
    else none)

/-- The trusted result of a calculation. -/
def CalculatedMetricV1.trusted (calculated : CalculatedMetricV1) (resultId : String) :
    TrustedCalculationResultV1 where
  metric := calculated.metric
  arguments := calculated.arguments
  value := calculated.value
  unit := calculated.unit
  evidenceRefs := calculated.evidenceRefs
  scenarioVersionId := calculated.scenarioVersionId
  resultId := resultId
  consumedRowCount := calculated.consumedRowCount

/-! ## Zero demand -/

/-- A row is among the references of a result. -/
def Listed (references : List EvidenceRefV1) (row : DemandIntervalV1) : Prop :=
  ∃ reference ∈ references, reference.group = .demand ∧ reference.recordId = row.recordId

/-- **No demand behind a zero**: no row overlaps the window, or every row of the unit that does has
the amount zero and is listed. -/
def NoneBehind (demand : List DemandIntervalV1) (metric : Metric) (taskId : String)
    (family : Option DemandFamily) (a b : Int) (references : List EvidenceRefV1) : Prop :=
  windowRows demand taskId family a b = [] ∨
    ∀ row ∈ unitRows demand metric taskId family a b, row.amount = 0 ∧ Listed references row

/-- **A zero that is accounted for**: no row overlaps the window, or rows of the unit do, all of
them are listed, and what they are worth cancels out; then amounts that are not negative are
zero. -/
def AccountedFor (demand : List DemandIntervalV1) (metric : Metric) (taskId : String)
    (family : Option DemandFamily) (a b : Int) (references : List EvidenceRefV1) : Prop :=
  windowRows demand taskId family a b = [] ∨
    (unitRows demand metric taskId family a b ≠ [] ∧
      (∀ row ∈ unitRows demand metric taskId family a b, Listed references row) ∧
      ((unitRows demand metric taskId family a b).map (demandShare metric a b)).sum = 0 ∧
      ((∀ row ∈ unitRows demand metric taskId family a b, 0 ≤ row.amount) →
        ∀ row ∈ unitRows demand metric taskId family a b, row.amount = 0))

section Zero

variable {casefold : String → String} {projection : ScenarioProjection} {request : MetricRequest}
  {metric : Metric} {arguments : ClaimArgumentsV1} {a b : Int}

/-- The share of a row in a window that it overlaps has the sign of its amount. -/
theorem demandShare_sign {row : DemandIntervalV1}
    (hoverlap : intervalOverlapMinutes row.startMinute row.endMinute a b ≠ 0) :
    (0 ≤ row.amount → 0 ≤ demandShare metric a b row) ∧
      (demandShare metric a b row = 0 → row.amount = 0) := by
  have hlength : (0 : ℚ) < (row.endMinute - row.startMinute : Int) := by
    exact_mod_cast length_pos_of_overlap hoverlap
  have hpos : (0 : ℚ) < intervalOverlapMinutes row.startMinute row.endMinute a b := by
    have hnonneg := overlap_nonneg row.startMinute row.endMinute a b
    exact_mod_cast lt_of_le_of_ne hnonneg (Ne.symm hoverlap)
  unfold demandShare
  simp only
  split
  · constructor
    · intro hamount
      positivity
    · intro hzero
      rcases div_eq_zero_iff.mp hzero with hproduct | hnone
      · exact (mul_eq_zero.mp hproduct).resolve_right hpos.ne'
      · exact absurd hnone hlength.ne'
  · constructor
    · intro hamount
      positivity
    · intro hzero
      exact (mul_eq_zero.mp hzero).resolve_left hpos.ne'

theorem overlap_of_mem_unitRows {demand : List DemandIntervalV1} {taskId : String}
    {family : Option DemandFamily} {row : DemandIntervalV1}
    (h : row ∈ unitRows demand metric taskId family a b) :
    intervalOverlapMinutes row.startMinute row.endMinute a b ≠ 0 :=
  (of_decide_eq_true (List.mem_filter.mp (List.mem_filter.mp h).1).2).2.2

/-- **A computed zero is accounted for.** -/
theorem zero_accounted (hmetric : readsDemand metric = true) {result : CalculatedMetricV1}
    (h : calculateMetric (projectionReader casefold projection) request metric arguments =
      .ok result)
    (hzero : exactValue result.value = 0) :
    ∃ taskId a b, arguments.taskId = some taskId ∧ arguments.startMinute = some a ∧
      arguments.endMinute = some b ∧
      AccountedFor projection.demand metric taskId arguments.family a b result.evidenceRefs := by
  obtain ⟨taskId, a, b, hcall, hunit, rfl⟩ := calculateMetric_demand hmetric h
  refine ⟨taskId, a, b, hcall.task, hcall.start, hcall.stop, ?_⟩
  rcases hunit with hnone | hsome
  · exact Or.inl hnone
  · have hsum : ((unitRows projection.demand metric taskId arguments.family a b).map
        (demandShare metric a b)).sum = 0 := by
      rw [← exactValue_floatSum]
      exact hzero
    refine Or.inr ⟨hsome, fun row hrow => ?_, hsum, fun hnonneg row hrow => ?_⟩
    · exact ⟨_, List.mem_map.mpr ⟨row, hrow, rfl⟩, rfl, rfl⟩
    · have hshares : ∀ row ∈ unitRows projection.demand metric taskId arguments.family a b,
          0 ≤ demandShare metric a b row := fun row hrow =>
        (demandShare_sign (overlap_of_mem_unitRows hrow)).1 (hnonneg row hrow)
      have hall := (Dict.sum_map_eq_zero_iff hshares).mp hsum
      exact (demandShare_sign (overlap_of_mem_unitRows hrow)).2 (hall row hrow)

end Zero

/-- **Zero demand is accounted for**: a demand metric that is zero left no demand out, at the
calculator and in a claim that the gate supports. -/
theorem zero_demand_accounted (casefold : String → String) (projection : ScenarioProjection)
    (request : MetricRequest) (metric : Metric) (hmetric : readsDemand metric = true)
    (arguments : ClaimArgumentsV1) (result : CalculatedMetricV1)
    (hresult : calculateMetric (projectionReader casefold projection) request metric arguments =
      .ok result) :
    (exactValue result.value = 0 → ∃ taskId a b, arguments.taskId = some taskId ∧
      arguments.startMinute = some a ∧ arguments.endMinute = some b ∧
      AccountedFor projection.demand metric taskId arguments.family a b result.evidenceRefs) ∧
    (∀ (resultId handle : String) (deps : AgentDepsV1)
      (results : List (String × TrustedCalculationResultV1)) (calls calls' : Nat)
      (claim : GroundedClaimV1) (value : PyNumber),
      Dict.get? results handle = some (result.trusted resultId) →
      (groundClaim handle deps results).run calls = (.ok claim, calls') →
      claim.verdict = .supported → claim.value = some value → exactValue value = 0 →
      ∃ taskId a b, claim.arguments.taskId = some taskId ∧
        claim.arguments.startMinute = some a ∧ claim.arguments.endMinute = some b ∧
        AccountedFor projection.demand claim.metric taskId claim.arguments.family a b
          claim.evidenceRefs) := by
  have hcalculated := zero_accounted hmetric hresult
  refine ⟨hcalculated, ?_⟩
  intro resultId handle deps results calls calls' claim value hget hclaim hverdict hvalue hzero
  obtain ⟨-, hsupported⟩ := groundClaim_ok hclaim
  obtain ⟨trusted, hget', hsupport⟩ := hsupported hverdict
  rw [hget] at hget'
  cases hget'
  have hsame : value = result.value := Option.some.inj (hvalue.symm.trans hsupport.value)
  obtain ⟨taskId, a, b, htask, hstart, hstop, haccounted⟩ := hcalculated (hsame ▸ hzero)
  obtain ⟨_, _, _, _, _, rfl⟩ := calculateMetric_demand hmetric hresult
  refine ⟨taskId, a, b, ?_, ?_, ?_, ?_⟩
  · rw [hsupport.arguments]
    exact htask
  · rw [hsupport.arguments]
    exact hstart
  · rw [hsupport.arguments]
    exact hstop
  · rw [hsupport.metric, hsupport.arguments, hsupport.evidenceRefs]
    exact haccounted

namespace Cancelling

/-- Two rows that cancel each other. -/
def projection : ScenarioProjection where
  scenarioId := 1
  overview :=
    { scenarioVersionId := 2
      checksumAlgorithm := "sha256"
      checksumSchemaVersion := "rfc8785-v1"
      checksumDigest := "d1"
      baselineScheduleVersion := none
      siteId := 3 }
  demand :=
    [⟨"outbound:0", .outbound, "pick", none, 0, 60, 6, .volume⟩,
      ⟨"outbound:1", .outbound, "pick", none, 60, 120, -6, .volume⟩]
  workers := []
  baselineAssignments := []

def request : MetricRequest := { scenarioId := 1, scenarioVersionId := 2, siteId := 3 }

def arguments : ClaimArgumentsV1 := ⟨some "pick", none, some 0, some 120⟩

def result : CalculatedMetricV1 :=
  demandResult projection.demand request projection.overview .requiredDemandVolume arguments "pick"
    0 120

def deps : AgentDepsV1 := ⟨projection.resolver, 1, 2⟩

def results : List (String × TrustedCalculationResultV1) := [("r1", result.trusted "calc")]

theorem calculated :
    calculateMetric (projectionReader id projection) request .requiredDemandVolume arguments =
      .ok result :=
  calculateMetric_demand_of id rfl
    ⟨rfl, by decide, rfl, rfl, by decide, rfl, rfl, by decide, by decide, by decide⟩
    (Or.inr (by decide +kernel))

end Cancelling

open Cancelling in
/-- The zero of two rows that cancel is supported. -/
theorem zero_of_cancelling_rows :
    calculateMetric (projectionReader id projection) request .requiredDemandVolume arguments =
      .ok result ∧
    (groundClaim "r1" deps results).run 0 = (.ok (supportedClaim (result.trusted "calc")), 2) ∧
    (supportedClaim (result.trusted "calc")).verdict = .supported ∧
    (supportedClaim (result.trusted "calc")).value = some (.float (.finite 0)) ∧
    ¬ NoneBehind projection.demand .requiredDemandVolume "pick" none 0 120
      (supportedClaim (result.trusted "calc")).evidenceRefs := by
  refine ⟨calculated, by decide +kernel, rfl, by decide +kernel, ?_⟩
  rintro (hnone | hzero)
  · have hsome : windowRows projection.demand "pick" none 0 120 ≠ [] := by decide +kernel
    exact hsome hnone
  · have hrow : (⟨"outbound:0", .outbound, "pick", none, 0, 60, 6, .volume⟩ : DemandIntervalV1) ∈
        unitRows projection.demand .requiredDemandVolume "pick" none 0 120 := by decide +kernel
    have hamount : (6 : ℚ) = 0 := (hzero _ hrow).1
    norm_num at hamount

open Cancelling in
theorem zero_demand_accounted_of_cancelling :
    AccountedFor projection.demand .requiredDemandVolume "pick" none 0 120 result.evidenceRefs := by
  have hzero : exactValue result.value = 0 := by decide +kernel
  obtain ⟨taskId, a, b, htask, hstart, hstop, h⟩ :=
    (zero_demand_accounted id projection request .requiredDemandVolume rfl arguments result
      calculated).1 hzero
  cases htask
  cases hstart
  cases hstop
  exact h

end ShiftMind.Projection
