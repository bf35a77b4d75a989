import ShiftMind.Grounding.ComputedClaims
import ShiftMind.Grounding.EvidenceRegistry

/-!
# ShiftMind — what is computed grounds

`application/capabilities/scheduling_compute.py` and the handles of
`application/grounding/evidence_registry.py`: a metric that was computed in a turn and is cited
there by its handle passes the gate, as long as the projection is the one it was computed from.

* **`schedulingCompute`** — `scheduling_compute`.
* **`calculateMetric_grounds`** — what every result of the calculators brings for the gate.
* **`computed_metrics_ground`** — a cited result is a supported claim.
-/

namespace ShiftMind.Projection

open Grounding Transactional ResultId

/-! ## What a result brings -/

/-- A result of a calculation whose references are of records of the projection, one for each row
folded in, and which is zero where there is none. -/
structure Groundable (projection : ScenarioProjection) (request : MetricRequest) (metric : Metric)
    (arguments : ClaimArgumentsV1) (result : CalculatedMetricV1) : Prop where
  metric_eq : result.metric = metric
  arguments_eq : result.arguments = arguments
  version : result.scenarioVersionId = request.scenarioVersionId
  counted : result.evidenceRefs.length = result.consumedRowCount
  zero : result.evidenceRefs = [] → result.value.isZero = true
  references : ∀ reference ∈ result.evidenceRefs,
    reference.scenarioVersionId = projection.overview.scenarioVersionId ∧
      reference.recordId ∈ projection.recordIds reference.group

section Grounds

variable {casefold : String → String} {projection : ScenarioProjection} {request : MetricRequest}
  {metric : Metric} {arguments : ClaimArgumentsV1} {taskId : String}

/-- What is read of a group of the projection is in it. -/
theorem drained_subset {T : Type} {recordId : T → String} {items found : List T}
    {sorts : SortTable T} {filters : FilterTable T} {wanted : List (String × FilterValue)}
    (h : drained request (groupGetter (some projection.row) recordId items sorts filters) wanted =
      .ok found) : ∀ item ∈ found, item ∈ items := by
  intro item hitem
  have hfound := filterItems_ok (drain_group_ok h).1
  rw [hfound] at hitem
  exact (List.mem_filter.mp hitem).1

/-- References to some of the rows of a group. -/
theorem references_of_rows {T : Type} {recordId : T → String} {items rows : List T}
    (hrows : ∀ row ∈ rows, row ∈ items) {group : EvidenceGroup} {field : String}
    {start stop : T → Option Int} (hgroup : projection.recordIds group = items.map recordId) :
    ∀ reference ∈ rows.map fun row =>
        evidence projection.overview group (recordId row) field (start row) (stop row),
      reference.scenarioVersionId = projection.overview.scenarioVersionId ∧
        reference.recordId ∈ projection.recordIds reference.group := by
  intro reference hreference
  obtain ⟨row, hrow, rfl⟩ := List.mem_map.mp hreference
  refine ⟨rfl, ?_⟩
  show recordId row ∈ projection.recordIds group
  rw [hgroup]
  exact List.mem_map.mpr ⟨row, hrows row hrow, rfl⟩

theorem workerCount_grounds {result : CalculatedMetricV1}
    (h : workerCount (projectionReader casefold projection) request projection.overview arguments =
      .ok result) : Groundable projection request .workerCount arguments result := by
  unfold workerCount at h
  split at h
  · cases h
  · cases hdrained : drained request (projectionReader casefold projection).getWorkers [] with
    | error e => rw [hdrained] at h; cases h
    | ok workers =>
      rw [hdrained] at h
      cases h
      refine ⟨rfl, rfl, rfl, List.length_map _, fun hnone => ?_,
        references_of_rows (drained_subset hdrained) rfl⟩
      rw [List.map_eq_nil_iff.mp hnone]
      rfl

theorem qualifiedWorkerCount_grounds {result : CalculatedMetricV1}
    (h : qualifiedWorkerCount (projectionReader casefold projection) request projection.overview
      arguments taskId = .ok result) :
    Groundable projection request .qualifiedWorkerCount arguments result := by
  unfold qualifiedWorkerCount at h
  split at h
  · cases h
  · cases hdrained : drained request (projectionReader casefold projection).getWorkers
        [("qualified_task_id", .text taskId)] with
    | error e => rw [hdrained] at h; cases h
    | ok workers =>
      rw [hdrained] at h
      cases h
      refine ⟨rfl, rfl, rfl, List.length_map _, fun hnone => ?_,
        references_of_rows (fun worker hworker =>
        drained_subset hdrained worker (List.mem_filter.mp hworker).1) rfl⟩
      show PyNumber.isZero (.int _) = true
      rw [List.map_eq_nil_iff.mp hnone]
      rfl

/-- What is folded of rows of the projection. -/
theorem foldRows_grounds {a b : Int} {demandRows : List DemandIntervalV1}
    {assignmentRows : List AssignmentV1} {result : CalculatedMetricV1}
    (hdemand : ∀ row ∈ demandRows, row ∈ projection.demand)
    (hassignments : ∀ row ∈ assignmentRows, row ∈ projection.baselineAssignments)
    (h : foldRows request projection.overview metric arguments taskId a b demandRows
      assignmentRows = .ok result) : Groundable projection request metric arguments result := by
  unfold foldRows at h
  generalize
    (if metric ≠ .requiredDemandVolume then DemandUnit.headcount else .volume) = wanted at h
  simp only at h
  split at h
  · cases h
  · obtain ⟨volumes, hvolumes, h⟩ := Fallible.bind_ok h
    -- the rows of the sum are rows of the projection
    have hmatched : ∀ row ∈ (demandRows.filter fun row => decide (row.taskId = taskId ∧
        (arguments.family = none ∨ some row.family = arguments.family) ∧
        intervalOverlapMinutes row.startMinute row.endMinute a b ≠ 0)).filter fun row =>
          decide (row.unit = wanted), row ∈ projection.demand := fun row hrow =>
      hdemand row (List.mem_filter.mp (List.mem_filter.mp hrow).1).1
    cases metric with
    | requiredHeadcountMinutes =>
      cases h
      refine ⟨rfl, rfl, rfl, List.length_map _, fun hnone => ?_, references_of_rows hmatched rfl⟩
      show (floatSum _).isZero = true
      rw [List.map_eq_nil_iff.mp hnone]
      rfl
    | requiredDemandVolume =>
      cases h
      refine ⟨rfl, rfl, rfl, List.length_map _, fun hnone => ?_, references_of_rows hmatched rfl⟩
      rw [List.map_eq_nil_iff.mp hnone] at hvolumes
      cases hvolumes
      rfl
    | staffedMinutes =>
      cases h
      refine ⟨rfl, rfl, rfl, List.length_map _, fun hnone => ?_, references_of_rows (fun row hrow =>
        hassignments row (List.mem_filter.mp hrow).1) rfl⟩
      show (PyNumber.int _).isZero = true
      rw [List.map_eq_nil_iff.mp hnone]
      rfl
    | qualifiedWorkerCount => cases h
    | workerCount => cases h

/-- **Every result of the calculators can be grounded.** -/
theorem calculateMetric_grounds {result : CalculatedMetricV1}
    (h : calculateMetric (projectionReader casefold projection) request metric arguments =
      .ok result) :
    Groundable projection request metric arguments result ∧
      projection.overview.scenarioVersionId = request.scenarioVersionId := by
  unfold calculateMetric at h
  obtain ⟨overview, hoverview, h⟩ := Fallible.bind_ok h
  -- the overview is pinned first, whatever the metric
  have hpins := pinnedOverview_ok hoverview
  cases hpins.1
  refine ⟨?_, hpins.2.1⟩
  split at h
  · rename_i hworkers
    rw [hworkers]
    exact workerCount_grounds h
  · obtain ⟨taskId, -, h⟩ := Fallible.bind_ok h
    obtain ⟨-, -, h⟩ := Fallible.bind_ok h
    split at h
    · rename_i hqualified
      rw [hqualified]
      exact qualifiedWorkerCount_grounds h
    · unfold windowMetric at h
      obtain ⟨window, -, h⟩ := Fallible.bind_ok h
      obtain ⟨demandRows, hdemand, h⟩ := Fallible.bind_ok h
      obtain ⟨assignmentRows, hassignments, h⟩ := Fallible.bind_ok h
      -- the rows folded were drained from the projection, or are none
      apply foldRows_grounds _ _ h
      · unfold demandRowsOf at hdemand
        split at hdemand
        · exact drained_subset hdemand
        · cases hdemand
          exact nofun
      · unfold assignmentRowsOf at hassignments
        split at hassignments
        · exact drained_subset hassignments
        · cases hassignments
          exact nofun

end Grounds

/-! ## The gate on the projection

What the capability computes is checked against the same projection when the answer cites it. -/

section Gate

variable {projection : ScenarioProjection} {deps : AgentDepsV1}

theorem resolveItems_of_mem {recordIds : List String} {version : Uuid} {recordId : String}
    (h : recordId ∈ recordIds) :
    resolveItems recordIds version version recordId = ⟨.resolved, version, some recordId⟩ := by
  unfold resolveItems
  rw [if_neg (not_ne_iff.mpr rfl)]
  cases hfind : recordIds.find? fun candidate => decide (candidate = recordId) with
  | none => exact absurd (decide_eq_true rfl) (List.find?_eq_none.mp hfind recordId h)
  | some found =>
    have hfound : found = recordId := by simpa using List.find?_some hfind
    rw [hfound]

/-- References to records of the projection resolve. -/
theorem firstLocatorFailure_projection (hreader : deps.projectionReader = projection.resolver)
    (hscenario : deps.scenarioId = projection.scenarioId)
    (hversion : deps.scenarioVersionId = projection.overview.scenarioVersionId)
    {references : List EvidenceRefV1}
    (h : ∀ reference ∈ references,
      reference.scenarioVersionId = projection.overview.scenarioVersionId ∧
        reference.recordId ∈ projection.recordIds reference.group) (calls : Nat) :
    (firstLocatorFailure deps references).run calls = (.ok none, calls + references.length) := by
  induction references generalizing calls with
  | nil => rfl
  | cons reference rest ih =>
    obtain ⟨hpinned, hmem⟩ := h reference (List.mem_cons_self ..)
    -- the reader is asked once, and finds the record
    have hlocated : (locatorFailure deps reference).run calls = (.ok none, calls + 1) := by
      unfold locatorFailure
      rw [if_neg (not_ne_iff.mpr (hpinned.trans hversion.symm))]
      apply Tx.bind_ok.mpr
      refine ⟨some ⟨.resolved, reference.scenarioVersionId, some reference.recordId⟩, calls + 1,
        ask_ok.mpr ⟨?_, rfl⟩, ?_⟩
      · rw [hreader, hscenario]
        show Except.ok (if projection.scenarioId = projection.scenarioId then _ else none) = _
        rw [if_pos rfl, ← hpinned, resolveItems_of_mem hmem]
      · unfold resolutionFailure
        simp
    rw [firstLocatorFailure]
    apply Tx.bind_ok.mpr
    refine ⟨none, calls + 1, hlocated, ?_⟩
    -- the references that follow, with the calls counted on
    have hrest := ih (fun reference hmem => h reference (List.mem_cons_of_mem _ hmem)) (calls + 1)
    show (firstLocatorFailure deps rest).run (calls + 1) = _
    rw [hrest, List.length_cons]
    congr 1
    omega

/-- **A cited result that can be grounded is a supported claim.** -/
theorem groundClaim_of_groundable {request : MetricRequest} {metric : Metric}
    {arguments : ClaimArgumentsV1} {result : CalculatedMetricV1}
    (hgroundable : Groundable projection request metric arguments result)
    (hpinned : projection.overview.scenarioVersionId = request.scenarioVersionId)
    (hreader : deps.projectionReader = projection.resolver)
    (hscenario : deps.scenarioId = projection.scenarioId)
    (hversion : deps.scenarioVersionId = request.scenarioVersionId)
    {results : List (String × TrustedCalculationResultV1)} {handle resultId : String}
    (hget : Dict.get? results handle = some (result.trusted resultId)) (calls : Nat) :
    (groundClaim handle deps results).run calls =
      (.ok (supportedClaim (result.trusted resultId)), calls + result.evidenceRefs.length) := by
  have hsame : ¬ (result.trusted resultId).scenarioVersionId ≠ deps.scenarioVersionId :=
    not_ne_iff.mpr (hgroundable.version.trans hversion.symm)
  have hcounted : ¬ (result.trusted resultId).evidenceRefs.length ≠
      (result.trusted resultId).consumedRowCount := not_ne_iff.mpr hgroundable.counted
  unfold groundClaim
  rw [hget]
  simp only
  rw [if_neg hsame, if_neg hcounted]
  by_cases hnone : result.evidenceRefs = []
  · rw [if_pos (show (result.trusted resultId).evidenceRefs = [] from hnone),
      if_pos (show (result.trusted resultId).value.isZero = true from hgroundable.zero hnone),
        hnone]
    rfl
  · rw [if_neg (show ¬ (result.trusted resultId).evidenceRefs = [] from hnone)]
    apply Tx.bind_ok.mpr
    exact ⟨none, _, firstLocatorFailure_projection hreader hscenario (hversion.trans hpinned.symm)
      hgroundable.references calls, rfl⟩

end Gate

/-! ## The capability -/

/-- The errors of the capability, by their code, and an exception of another kind. -/
inductive ComputeError where
  | code (code message : String)
  | raised (exception : String)
  deriving DecidableEq, Repr

/-- The error a calculation's is turned into. -/
def ComputeError.ofCalculation : CalculationError → ComputeError
  | .arguments message => .code "invalid_query" message
  | .dimension message => .code "metric_dimension_mismatch" message
  | .scenarioNotFound message => .code "scenario_not_found" message
  | .versionMismatch message => .code "version_mismatch" message
  | .siteMismatch message => .code "site_mismatch" message
  | .limit message => .code "calculation_failed" message
  | .base message => .code "calculation_failed" message
  | .zeroDivision => .raised "ZeroDivisionError"
  | .raised exception => .raised exception

structure SchedulingComputeResultV1 extends CalculatedMetricV1 where
  resultId : String
  citationHandle : String
  deriving DecidableEq, Repr

/-- The result, as the gate reads it. -/
def SchedulingComputeResultV1.trusted (result : SchedulingComputeResultV1) :
    TrustedCalculationResultV1 := result.toCalculatedMetricV1.trusted result.resultId

/-- A call of the capability: its request, the tool calls left, and the seconds that it takes by the
clock. -/
structure ComputeCall where
  metric : Metric
  arguments : ClaimArgumentsV1
  toolCallsLimit : Option Int := none
  elapsed : ℚ := 0

/-- What a turn computes with: its reader and pins, and the limits of the manifest. -/
structure ComputeDeps where
  reader : MetricReader
  scenarioId : Uuid
  scenarioVersionId : Activity.Uuid128
  siteId : Uuid
  budgetLimit : Int
  timeoutSeconds : ℚ

section Compute

variable (sha256 : ByteArray → String) (floatRepr : Binary64 → List Char)
  (seconds general : ℚ → String) (deps : ComputeDeps)

/-- What a calculation is asked for. -/
def ComputeDeps.request : MetricRequest where
  scenarioId := deps.scenarioId
  scenarioVersionId := deps.scenarioVersionId.1
  siteId := deps.siteId
  pageSize := min 50 deps.budgetLimit
  maxRows := deps.budgetLimit

/-- `scheduling_compute`; `seconds` writes a number under `:.2f`, `general` as it is. -/
def schedulingCompute (call : ComputeCall) (registry : EvidenceRegistry) :
    Except ComputeError (SchedulingComputeResultV1 × EvidenceRegistry) :=
  if call.toolCallsLimit.any fun left => decide (left ≤ 0) then
    .error (.code "budget_exhausted" "no tool-call budget remains for this run")
  else
    match calculateMetric deps.reader deps.request call.metric call.arguments with
    | .error e => .error (.ofCalculation e)
    | .ok calculated =>
      if deps.timeoutSeconds < call.elapsed then
        let budget := general deps.timeoutSeconds
        let elapsed := seconds call.elapsed
        .error (.code "calculation_failed"
          s!"calculation exceeded the {budget}s budget ({elapsed}s)")
      else
        match deriveResultId sha256 floatRepr calculated.metric
            ({ toClaimArgumentsV1 := calculated.arguments } : ArgumentRecord)
            deps.scenarioVersionId with
        | .error message => .error (.code "invalid_query" message)
        | .ok resultId =>
          let minted := registry.handleFor resultId
          .ok (⟨calculated, resultId, minted.1⟩, minted.2)

/-- What a turn has computed, and the handles it minted. -/
structure ComputeTurn where
  registry : EvidenceRegistry := {}
  results : List SchedulingComputeResultV1 := []

/-- One call in a turn; one that fails leaves nothing. -/
def ComputeTurn.step (turn : ComputeTurn) (call : ComputeCall) : ComputeTurn :=
  match schedulingCompute sha256 floatRepr seconds general deps call turn.registry with
  | .error _ => turn
  | .ok (result, registry) => ⟨registry, turn.results ++ [result]⟩

/-- The calls of a turn. -/
def computeTurn (calls : List ComputeCall) : ComputeTurn :=
  calls.foldl (ComputeTurn.step sha256 floatRepr seconds general deps) {}

/-- The citations of a turn. -/
def ComputeTurn.citations (turn : ComputeTurn) : List (String × TrustedCalculationResultV1) :=
  trustedResultsByCitation (turn.results.map SchedulingComputeResultV1.trusted)
    turn.registry.handleOf

/-- The bytes a call's result id digests. -/
def ComputeCall.input (call : ComputeCall) : ByteArray :=
  digestInput floatRepr call.metric ({ toClaimArgumentsV1 := call.arguments } : ArgumentRecord)
    deps.scenarioVersionId

end Compute

/-! ## Handles -/

theorem r_mem_handle {registry : EvidenceRegistry} (hsound : registry.Sound)
    {resultId handle : String} (h : registry.handleOf resultId = some handle) :
    'r' ∈ handle.toList := by
  obtain ⟨n, -, rfl⟩ := hsound.numberedResults resultId handle h
  rw [String.toList_append]
  exact List.mem_append_left _ (by decide)

/-! ## A turn -/

section Turn

variable {sha256 : ByteArray → String} {floatRepr : Binary64 → List Char}
  {seconds general : ℚ → String} {deps : ComputeDeps}

/-- What a result of a turn came from. -/
def ComputedBy (sha256 : ByteArray → String) (floatRepr : Binary64 → List Char)
    (deps : ComputeDeps) (call : ComputeCall) (result : SchedulingComputeResultV1) : Prop :=
  calculateMetric deps.reader deps.request call.metric call.arguments =
      .ok result.toCalculatedMetricV1 ∧
    result.resultId = sha256 (call.input floatRepr deps)

theorem schedulingCompute_ok {call : ComputeCall} {registry registry' : EvidenceRegistry}
    {result : SchedulingComputeResultV1}
    (hargs : ∀ calculated, calculateMetric deps.reader deps.request call.metric call.arguments =
      .ok calculated → calculated.metric = call.metric ∧ calculated.arguments = call.arguments)
    (h : schedulingCompute sha256 floatRepr seconds general deps call registry =
      .ok (result, registry')) :
    ComputedBy sha256 floatRepr deps call result ∧
      registry.Answers (.handleFor result.resultId) result.citationHandle registry' := by
  unfold schedulingCompute at h
  split at h
  · cases h
  · cases hcalculated : calculateMetric deps.reader deps.request call.metric call.arguments with
    | error e => rw [hcalculated] at h; cases h
    | ok calculated =>
      obtain ⟨hmetric, harguments⟩ := hargs calculated hcalculated
      rw [hcalculated] at h
      simp only at h
      split at h
      · cases h
      · have hderive : deriveResultId sha256 floatRepr calculated.metric
            ({ toClaimArgumentsV1 := calculated.arguments } : ArgumentRecord)
            deps.scenarioVersionId = .ok (sha256 (call.input floatRepr deps)) := by
          rw [deriveResultId, containsFloat_payload, hmetric, harguments]
          rfl
        rw [hderive] at h
        simp only at h
        cases h
        exact ⟨⟨hcalculated, rfl⟩, EvidenceRegistry.answers_of_call rfl⟩

/-- **After some calls of a turn**: each result was computed by one of them, and its handle is the
one minted for its id, in a registry that is sound. -/
structure TurnInv (sha256 : ByteArray → String) (floatRepr : Binary64 → List Char)
    (deps : ComputeDeps) (calls : List ComputeCall) (turn : ComputeTurn) : Prop where
  computed : ∀ result ∈ turn.results, ∃ call ∈ calls,
    ComputedBy sha256 floatRepr deps call result
  minted : ∀ result ∈ turn.results,
    turn.registry.handleOf result.resultId = some result.citationHandle
  sound : turn.registry.Sound

/-- The results of a calculation are of its arguments. -/
def Echoes (deps : ComputeDeps) : Prop :=
  ∀ metric arguments calculated, calculateMetric deps.reader deps.request metric arguments =
    .ok calculated → calculated.metric = metric ∧ calculated.arguments = arguments

/-- One call keeps that. -/
theorem TurnInv.step (hechoes : Echoes deps) {calls : List ComputeCall} {turn : ComputeTurn}
    {call : ComputeCall} (hmem : call ∈ calls) (h : TurnInv sha256 floatRepr deps calls turn) :
    TurnInv sha256 floatRepr deps calls
      (turn.step sha256 floatRepr seconds general deps call) := by
  unfold ComputeTurn.step
  split
  · exact h
  · rename_i result registry hresult
    obtain ⟨hcomputed, hanswers⟩ := schedulingCompute_ok (hechoes _ _) hresult
    refine ⟨?_, ?_, h.sound.answers hanswers⟩
    · intro result' hresult'
      rcases List.mem_append.mp hresult' with hold | hnew
      · exact h.computed result' hold
      · rw [List.mem_singleton.mp hnew]
        exact ⟨call, hmem, hcomputed⟩
    · intro result' hresult'
      rcases List.mem_append.mp hresult' with hold | hnew
      · have hnamed : turn.registry.Named (.handleFor result'.resultId) result'.citationHandle :=
          h.minted result' hold
        exact hanswers.kept hnamed
      · rw [List.mem_singleton.mp hnew]
        exact hanswers.named

/-- The calls of a turn keep it. -/
theorem TurnInv.foldl (hechoes : Echoes deps) {calls rest : List ComputeCall} {turn : ComputeTurn}
    (hrest : ∀ call ∈ rest, call ∈ calls) (h : TurnInv sha256 floatRepr deps calls turn) :
    TurnInv sha256 floatRepr deps calls
      (rest.foldl (ComputeTurn.step sha256 floatRepr seconds general deps) turn) := by
  induction rest generalizing turn with
  | nil => exact h
  | cons call rest ih =>
    rw [List.foldl_cons]
    apply ih fun call hmem => hrest call (List.mem_cons_of_mem _ hmem)
    exact h.step hechoes (hrest call (List.mem_cons_self ..))

theorem TurnInv.nil (calls : List ComputeCall) : TurnInv sha256 floatRepr deps calls {} where
  computed _ hresult := absurd hresult List.not_mem_nil
  minted _ hresult := absurd hresult List.not_mem_nil
  sound := .empty

theorem computeTurn_inv (sha256 : ByteArray → String) (floatRepr : Binary64 → List Char)
    (seconds general : ℚ → String) (hechoes : Echoes deps) (calls : List ComputeCall) :
    TurnInv sha256 floatRepr deps calls
      (computeTurn sha256 floatRepr seconds general deps calls) :=
  (TurnInv.nil calls).foldl hechoes fun _ hmem => hmem

/-- **A handle cites its result.** -/
theorem citations_of_handle {calls : List ComputeCall} {turn : ComputeTurn}
    (h : TurnInv sha256 floatRepr deps calls turn)
    (hhex : ∀ bytes, 'r' ∉ (sha256 bytes).toList)
    (hcollision : ∀ call ∈ calls, ∀ call' ∈ calls,
      sha256 (call.input floatRepr deps) = sha256 (call'.input floatRepr deps) →
      call.input floatRepr deps = call'.input floatRepr deps)
    {result : SchedulingComputeResultV1} (hresult : result ∈ turn.results) :
    Dict.get? turn.citations result.citationHandle = some result.trusted := by
  unfold ComputeTurn.citations trustedResultsByCitation
  apply Dict.get?_ofPairs_of_unique
  · rw [List.mem_flatMap]
    refine ⟨result.trusted, List.mem_map.mpr ⟨result, hresult, rfl⟩, List.mem_cons_of_mem _ ?_⟩
    have hhandle : turn.registry.handleOf result.trusted.resultId = some result.citationHandle :=
      h.minted result hresult
    rw [hhandle]
    exact List.mem_singleton_self _
  · intro cited hcited
    obtain ⟨value, hvalue, hpair⟩ := List.mem_flatMap.mp hcited
    obtain ⟨other, hother, rfl⟩ := List.mem_map.mp hvalue
    obtain ⟨call, hcall, hcomputed, hid⟩ := h.computed result hresult
    obtain ⟨call', hcall', hcomputed', hid'⟩ := h.computed other hother
    rcases List.mem_cons.mp hpair with heq | hminted
    · -- an id is no handle
      have hkey : result.citationHandle = other.resultId := congrArg Prod.fst heq
      have hr := r_mem_handle h.sound (h.minted result hresult)
      rw [hkey, hid'] at hr
      exact absurd hr (hhex _)
    · -- a handle is of one id, and an id of one calculation
      obtain ⟨handle, hhandle, heq⟩ := List.mem_map.mp hminted
      cases heq
      have hsame : result.resultId = other.resultId := h.sound.results.injective
        (h.minted result hresult) (Option.mem_toList.mp hhandle)
      rw [hid, hid'] at hsame
      have hinput := digestInput_injective (hcollision call hcall call' hcall' hsame)
      have harguments : call.arguments = call'.arguments :=
        congrArg ArgumentRecord.toClaimArgumentsV1 hinput.2.1
      rw [hinput.1, harguments] at hcomputed
      have hcalculated := Except.ok.inj (hcomputed.symm.trans hcomputed')
      unfold SchedulingComputeResultV1.trusted
      rw [hcalculated, hid, hid', hsame]

end Turn

/-- **Computed metrics ground**: in a turn over one projection, whatever a computation returns is,
if cited by its handle, a supported claim with its value and unit. -/
theorem computed_metrics_ground (sha256 : ByteArray → String) (floatRepr : Binary64 → List Char)
    (seconds general : ℚ → String) (casefold : String → String) (projection : ScenarioProjection)
    (deps : ComputeDeps) (hreader : deps.reader = projectionReader casefold projection)
    (calls : List ComputeCall) (hhex : ∀ bytes, 'r' ∉ (sha256 bytes).toList)
    (hcollision : ∀ call ∈ calls, ∀ call' ∈ calls,
      sha256 (call.input floatRepr deps) = sha256 (call'.input floatRepr deps) →
      call.input floatRepr deps = call'.input floatRepr deps)
    (gate : AgentDepsV1) (hgate : gate.projectionReader = projection.resolver)
    (hscenario : gate.scenarioId = projection.scenarioId)
    (hversion : gate.scenarioVersionId = deps.scenarioVersionId.1)
    (result : SchedulingComputeResultV1)
    (hresult : result ∈ (computeTurn sha256 floatRepr seconds general deps calls).results)
    (asked : Nat) :
    ∃ claim, (groundClaim result.citationHandle gate
        (computeTurn sha256 floatRepr seconds general deps calls).citations).run asked =
          (.ok claim, asked + result.evidenceRefs.length) ∧
      claim.verdict = .supported ∧ claim.value = some result.value ∧
      claim.unit = some result.unit ∧ claim.metric = result.metric ∧
      claim.arguments = result.arguments ∧ claim.evidenceRefs = result.evidenceRefs := by
  have hechoes : Echoes deps := by
    intro metric arguments calculated hcalculated
    rw [hreader] at hcalculated
    have hgrounds := (calculateMetric_grounds hcalculated).1
    exact ⟨hgrounds.metric_eq, hgrounds.arguments_eq⟩
  have hinv := computeTurn_inv sha256 floatRepr seconds general hechoes calls
  obtain ⟨call, -, hcalculated, -⟩ := hinv.computed result hresult
  rw [hreader] at hcalculated
  obtain ⟨hgrounds, hpinned⟩ := calculateMetric_grounds hcalculated
  exact ⟨_, groundClaim_of_groundable hgrounds hpinned hgate hscenario hversion
    (citations_of_handle hinv hhex hcollision hresult) asked, rfl, rfl, rfl, rfl, rfl, rfl⟩

namespace Straddling

/-- The digest of the one payload of the turn. -/
def sha256 (_ : ByteArray) : String :=
  "f3ef43b0cbec2c04f1cbb0aec33231ef3fc8ebd5058ac3b47b36782908b3bb26"

def deps : ComputeDeps where
  reader := projectionReader id projection
  scenarioId := 1
  scenarioVersionId := 2
  siteId := 3
  budgetLimit := 400
  timeoutSeconds := 5

def volumeCall : ComputeCall := ⟨.requiredDemandVolume, arguments 0 90, some 3, 1⟩

def turn : ComputeTurn :=
  computeTurn sha256 (fun _ => []) (fun _ => "") (fun _ => "") deps [volumeCall]

/-- The nine units of both rows. -/
def volume : SchedulingComputeResultV1 :=
  ⟨demandResult projection.demand deps.request projection.overview .requiredDemandVolume
    (arguments 0 90) "pick" 0 90, sha256 .empty, "r1"⟩

theorem volume_mem : volume ∈ turn.results := by decide +kernel

theorem r_not_mem : 'r' ∉ (sha256 .empty).toList := by decide +kernel

end Straddling

open Straddling in
theorem computed_metrics_ground_straddled :
    ∃ claim, (groundClaim "r1" ⟨projection.resolver, 1, 2⟩ turn.citations).run 0 = (.ok claim, 2) ∧
      claim.verdict = .supported ∧ claim.value = some (.float (.finite 9)) ∧
      claim.unit = some .units := by
  obtain ⟨claim, hclaim, hverdict, hvalue, hunit, -⟩ :=
    computed_metrics_ground sha256 (fun _ => []) (fun _ => "") (fun _ => "") id projection deps rfl
      [volumeCall] (fun _ => r_not_mem) (fun call hcall call' hcall' _ => by
        rw [List.mem_singleton.mp hcall, List.mem_singleton.mp hcall'])
      ⟨projection.resolver, 1, 2⟩ rfl rfl rfl volume volume_mem 0
  refine ⟨claim, hclaim, hverdict, hvalue.trans ?_, hunit⟩
  decide +kernel

end ShiftMind.Projection
