import ShiftMind.Library.Fallible
import ShiftMind.Library.Rounding
import ShiftMind.Scheduling.HardConstraints

/-!
# ShiftMind — candidate metrics

`application/scheduling/candidate_metrics.py`: the numbers of a candidate, recomputed from its
assignments and the source facts. The calculator raises in exactly three places — a volume row
whose task no worker is qualified for, a volume row whose qualified rates average zero, and an
assignment of an unknown worker — and `calculateCandidateMetrics_isOk_iff` says so of the whole.
Minutes and money are exact rationals, where the source computes with floats.
-/

namespace ShiftMind.CandidateMetrics

open HardConstraints (workersById)

/-- `_overlap`. -/
def overlap (start stop otherStart otherStop : Int) : Int :=
  max 0 (min stop otherStop - max start otherStart)

/-- `sorted` on name–value pairs. -/
def sortPairs (pairs : List (String × ℚ)) : List (String × ℚ) :=
  pairs.insertionSort fun a b => a.1 < b.1 ∨ (a.1 = b.1 ∧ a.2 ≤ b.2)

/-! ## Demand -/

/-- `qualified_rates_by_task.get(task_id, [])`: the rates of every worker qualified for a task,
assigned or not. -/
def qualifiedRates (facts : ValidationFactsV1) (taskId : String) : List ℚ :=
  ((Dict.get? (Dict.groupBy QualificationRefV1.taskId
    (facts.workers.flatMap WorkerSchedulingFactV1.qualifications)) taskId).getD []).map
      QualificationRefV1.rate

/-- The labour minutes a demand row asks for: a headcount row directly, a volume row through the
mean rate of the workers qualified for its task. -/
def requiredMinutes (facts : ValidationFactsV1) (row : DemandIntervalV1) : Except PyError ℚ :=
  match row.unit with
  | .headcount => .ok (((row.endMinute - row.startMinute : Int) : ℚ) * row.amount)
  | .volume =>
    let rates := qualifiedRates facts row.taskId
    if rates = [] then
      .error (.valueError
        s!"volume demand {row.recordId} has no worker qualified for task {row.taskId}")
    else if rates.sum / rates.length = 0 then .error .zeroDivisionError
    else .ok (row.amount / (rates.sum / rates.length) * 60)

/-- The minutes the assignments of a row's task serve inside the row. -/
def servedMinutes (assignments : List AssignmentV1) (row : DemandIntervalV1) : ℚ :=
  let matching := assignments.filter fun a => a.taskId = row.taskId &&
    overlap a.startMinute a.endMinute row.startMinute row.endMinute ≠ 0
  (((matching.map fun a =>
    overlap a.startMinute a.endMinute row.startMinute row.endMinute).sum : Int) : ℚ)

/-- What the demand loop accumulates for one row. -/
structure RowCoverage where
  recordId : String
  taskId : String
  function : String
  required : ℚ
  served : ℚ
  deriving DecidableEq, Repr

def rowCoverage (assignments : List AssignmentV1) (tasks : List TaskV1)
    (facts : ValidationFactsV1) (row : DemandIntervalV1) : Except PyError RowCoverage := do
  let required ← requiredMinutes facts row
  let function := ((Dict.get? (Dict.indexBy TaskV1.taskId tasks) row.taskId).map
    TaskV1.function).getD "Unknown"
  pure ⟨row.recordId, row.taskId, function, required, servedMinutes assignments row⟩

/-! ## Assigned work -/

/-- `assigned_by_worker`: the minutes assigned to each worker. -/
def assignedByWorker (assignments : List AssignmentV1) : List (String × Int) :=
  Dict.tally (assignments.map fun a => (a.workerId, a.endMinute - a.startMinute))

/-- `workers[worker_id]`. -/
def workerNamed (facts : ValidationFactsV1) (workerId : String) :
    Except PyError WorkerSchedulingFactV1 :=
  match Dict.get? (workersById facts) workerId with
  | none => .error (.keyError workerId)
  | some worker => .ok worker

/-- The cost of one assignment, at its worker's wage. -/
def assignmentCost (facts : ValidationFactsV1) (a : AssignmentV1) : Except PyError ℚ := do
  let worker ← workerNamed facts a.workerId
  pure (((a.endMinute - a.startMinute : Int) : ℚ) / 60 * worker.wagePerHour)

/-- A worker's assigned minutes above the contracted hours. -/
def overtimeOf (facts : ValidationFactsV1) (entry : String × Int) : Except PyError ℚ := do
  let worker ← workerNamed facts entry.1
  pure (max 0 ((entry.2 : ℚ) - worker.contractedHours * 60))

/-! ## Soft constraints -/

/-- `entities.get(group)`: the record a draft constraint resolved in a group. -/
def entityOf (constraint : DraftConstraintV1) (group : EvidenceGroup) : Option String :=
  Dict.get? (Dict.ofPairs (constraint.resolvedEntities.map fun e => (e.group, e.recordId))) group

/-- `_soft_constraint_result`. The kinds are the closed vocabulary of the contract, so the source's
final `raise` has no case here. -/
def softConstraintResult (assignments : List AssignmentV1) (assignedByWorker : List (String × Int))
    (requiredByTask servedByTask : List (String × ℚ)) (constraint : DraftConstraintV1) :
    ConstraintResultV1 :=
  let taskId := entityOf constraint .workAreasAndTasks
  let workerId := entityOf constraint .workers
  let (measured, limit, unit, satisfied) : ℚ × ℚ × String × Bool :=
    match constraint.kind with
    | .setMinWorkersPerTask =>
      let measured : ℚ := ((assignments.filter fun a => some a.taskId = taskId).map
        AssignmentV1.workerId).dedup.length
      let limit : ℚ := constraint.n.getD 0
      (measured, limit, "workers", limit ≤ measured)
    | .excludeWorkerFromTask =>
      let measured := assignments.countP fun a =>
        some a.workerId = workerId && some a.taskId = taskId
      (measured, 0, "assignments", measured = 0)
    | .setMaxHours =>
      let measured := (((Dict.get? assignedByWorker (workerId.getD "")).getD 0 : Int) : ℚ) / 60
      let limit := constraint.maxHours.getD 0
      (measured, limit, "hours", measured ≤ limit)
    | .lockWorkerShift =>
      let start := constraint.startMinute.getD 0
      let stop := constraint.endMinute.getD 0
      let measured := assignments.countP fun a =>
        some a.workerId = workerId && decide (a.startMinute < stop) && decide (start < a.endMinute)
      (measured, 1, "assignments", 1 ≤ measured)
    | .scaleDemand =>
      let measured := (Dict.get? servedByTask (taskId.getD "")).getD 0
      -- `constraint.factor or 1`: an absent factor and a factor of zero both read as one
      let factor := match constraint.factor with
        | some factor => if factor = 0 then 1 else factor
        | none => 1
      let limit := (Dict.get? requiredByTask (taskId.getD "")).getD 0 * factor
      (measured, limit, "minutes", limit ≤ measured)
  -- `task_id or worker_id or ''`: an empty id falls through like an absent one
  let named := match taskId with
    | some taskId => if taskId = "" then workerId.getD "" else taskId
    | none => workerId.getD ""
  { constraintId := "soft:" ++ constraint.kind.value ++ ":" ++ named
    constraintType := constraint.kind.value
    constraintClass := .soft
    satisfied := satisfied
    measuredValue := measured
    limit := limit
    unit := unit }

/-! ## The calculator -/

/-- `round(value, 2)`. -/
def roundCents (value : ℚ) : ℚ := (Rounding.roundHalfEven (value * 100) : ℚ) / 100

def calculateCandidateMetrics (assignments : List AssignmentV1) (tasks : List TaskV1)
    (demand : List DemandIntervalV1) (facts : ValidationFactsV1)
    (constraints : List DraftConstraintV1) :
    Except PyError (MetricSetV1 × List ConstraintResultV1) := do
  let rows ← demand.mapM (rowCoverage assignments tasks facts)
  let assigned := assignedByWorker assignments
  let costs ← assignments.mapM (assignmentCost facts)
  let overtimes ← assigned.mapM (overtimeOf facts)
  let overtime := overtimes.sum
  let totalRequired := (rows.map RowCoverage.required).sum
  let totalServed := (rows.map RowCoverage.served).sum
  -- the pairs are sorted, so that the digest does not depend on the order of the rows
  let metrics : MetricSetV1 :=
    { intervalCoverageRequiredMinutes := sortPairs (rows.map fun r => (r.recordId, r.required))
      intervalCoverageServedMinutes := sortPairs (rows.map fun r => (r.recordId, r.served))
      functionCoverageRequiredMinutes :=
        sortPairs (Dict.tally (rows.map fun r => (r.function, r.required)))
      functionCoverageServedMinutes :=
        sortPairs (Dict.tally (rows.map fun r => (r.function, r.served)))
      overtimeMinutes := overtime
      totalCost := roundCents costs.sum
      objectiveComponents :=
        [("unmet_minutes", max 0 (totalRequired - totalServed)), ("overtime_minutes", overtime)]
      assignmentCount := assignments.length
      memberCount := assigned.length }
  -- what the soft constraints on a task read
  let requiredByTask := Dict.tally (rows.map fun r => (r.taskId, r.required))
  let servedByTask := Dict.tally (rows.map fun r => (r.taskId, r.served))
  pure (metrics, constraints.map
    (softConstraintResult assignments assigned requiredByTask servedByTask))

/-! ## When the calculator returns -/

/-- A volume row's demand converts to minutes: some worker is qualified for its task, and the
qualified rates do not cancel out. A headcount row needs no conversion. -/
def Convertible (facts : ValidationFactsV1) (row : DemandIntervalV1) : Prop :=
  row.unit = .volume →
    qualifiedRates facts row.taskId ≠ [] ∧ (qualifiedRates facts row.taskId).sum ≠ 0

instance (facts : ValidationFactsV1) (row : DemandIntervalV1) : Decidable (Convertible facts row) :=
  inferInstanceAs (Decidable (_ → _))

theorem requiredMinutes_isOk_iff (facts : ValidationFactsV1) (row : DemandIntervalV1) :
    (∃ required, requiredMinutes facts row = .ok required) ↔ Convertible facts row := by
  unfold requiredMinutes Convertible
  cases hunit : row.unit with
  | headcount => simp
  | volume =>
    by_cases hrates : qualifiedRates facts row.taskId = []
    · simp [hrates]
    · have hlength : ((qualifiedRates facts row.taskId).length : ℚ) ≠ 0 := by
        simpa using hrates
      by_cases hsum : (qualifiedRates facts row.taskId).sum = 0
      · simp [hrates, hsum]
      · simp [hrates, hsum, hlength]

theorem rowCoverage_isOk_iff (assignments : List AssignmentV1) (tasks : List TaskV1)
    (facts : ValidationFactsV1) (row : DemandIntervalV1) :
    (∃ coverage, rowCoverage assignments tasks facts row = .ok coverage) ↔
      Convertible facts row := by
  rw [← requiredMinutes_isOk_iff]
  unfold rowCoverage
  cases requiredMinutes facts row with
  | error e => simp [bind, Except.bind]
  | ok required => simp [bind, Except.bind, pure, Except.pure]

/-- Every assigned worker is known to the facts. -/
def WorkersKnown (assignments : List AssignmentV1) (facts : ValidationFactsV1) : Prop :=
  ∀ a ∈ assignments, ∃ worker, Dict.get? (workersById facts) a.workerId = some worker

theorem workersKnown_of_valid {assignments : List AssignmentV1} {facts : ValidationFactsV1}
    {preservedLocks : List LockV1}
    (hvalid : HardConstraints.Valid assignments facts preservedLocks) :
    WorkersKnown assignments facts := by
  intro a ha
  obtain ⟨worker, hworker, -⟩ := HardConstraints.worker_of_valid hvalid ha
  exact ⟨worker, hworker⟩

theorem workerNamed_of_known {assignments : List AssignmentV1} {facts : ValidationFactsV1}
    (hknown : WorkersKnown assignments facts) {a : AssignmentV1} (ha : a ∈ assignments) :
    ∃ worker, workerNamed facts a.workerId = .ok worker := by
  obtain ⟨worker, hworker⟩ := hknown a ha
  exact ⟨worker, by simp [workerNamed, hworker]⟩

/-- The workers with assigned minutes are workers of some assignment. -/
theorem exists_assignment_of_mem_assigned {assignments : List AssignmentV1} {entry : String × Int}
    (h : entry ∈ assignedByWorker assignments) : ∃ a ∈ assignments, a.workerId = entry.1 := by
  unfold assignedByWorker Dict.tally at h
  rw [Dict.mem_accumulate] at h
  by_contra hnone
  push Not at hnone
  rw [List.filter_eq_nil_iff.mpr] at h
  · cases h
  · intro p hp
    obtain ⟨a, ha, rfl⟩ := List.mem_map.mp hp
    simpa using hnone a ha

theorem assignmentCost_of_known {assignments : List AssignmentV1} {facts : ValidationFactsV1}
    (hknown : WorkersKnown assignments facts) :
    ∃ costs, assignments.mapM (assignmentCost facts) = .ok costs := by
  rw [Fallible.mapM_isOk_iff]
  intro a ha
  obtain ⟨worker, hworker⟩ := workerNamed_of_known hknown ha
  exact ⟨_, by rw [assignmentCost, hworker]; rfl⟩

theorem overtimeOf_of_known {assignments : List AssignmentV1} {facts : ValidationFactsV1}
    (hknown : WorkersKnown assignments facts) :
    ∃ overtimes, (assignedByWorker assignments).mapM (overtimeOf facts) = .ok overtimes := by
  rw [Fallible.mapM_isOk_iff]
  intro entry hentry
  obtain ⟨a, ha, haEntry⟩ := exists_assignment_of_mem_assigned hentry
  obtain ⟨worker, hworker⟩ := workerNamed_of_known hknown ha
  exact ⟨_, by rw [overtimeOf, ← haEntry, hworker]; rfl⟩

/-- **The calculator returns exactly on convertible demand.** Once every assigned worker is known,
only a volume row without a usable rate can make it raise. -/
theorem calculateCandidateMetrics_isOk_iff {assignments : List AssignmentV1} {tasks : List TaskV1}
    {demand : List DemandIntervalV1} {facts : ValidationFactsV1}
    {constraints : List DraftConstraintV1} (hknown : WorkersKnown assignments facts) :
    (∃ r, calculateCandidateMetrics assignments tasks demand facts constraints = .ok r) ↔
      ∀ row ∈ demand, Convertible facts row := by
  obtain ⟨costs, hcosts⟩ := assignmentCost_of_known hknown
  obtain ⟨overtimes, hovertimes⟩ := overtimeOf_of_known hknown
  have hrows : (∀ row ∈ demand, Convertible facts row) ↔
      ∃ rows, demand.mapM (rowCoverage assignments tasks facts) = .ok rows := by
    rw [Fallible.mapM_isOk_iff]
    exact ⟨fun h row hrow => (rowCoverage_isOk_iff ..).mpr (h row hrow),
      fun h row hrow => (rowCoverage_isOk_iff ..).mp (h row hrow)⟩
  rw [hrows]
  unfold calculateCandidateMetrics
  cases hmap : demand.mapM (rowCoverage assignments tasks facts) with
  | error e => simp [bind, Except.bind]
  | ok rows => simp [bind, Except.bind, hcosts, hovertimes, pure, Except.pure]

/-! ## What the calculator raises

An exception of the calculator comes from one row or from one assignment. -/

/-- A demand row's data raises one of two exceptions. -/
theorem rowCoverage_error {assignments : List AssignmentV1} {tasks : List TaskV1}
    {facts : ValidationFactsV1} {row : DemandIntervalV1} {e : PyError}
    (h : rowCoverage assignments tasks facts row = .error e) :
    (∃ message, e = .valueError message) ∨ e = .zeroDivisionError := by
  have hrequired : requiredMinutes facts row = .error e := by
    unfold rowCoverage at h
    cases hrow : requiredMinutes facts row with
    | error e' => rw [hrow] at h; cases h; rfl
    | ok required => rw [hrow] at h; cases h
  unfold requiredMinutes at hrequired
  cases hunit : row.unit with
  | headcount => rw [hunit] at hrequired; cases hrequired
  | volume =>
    rw [hunit] at hrequired
    simp only at hrequired
    split_ifs at hrequired with hrates hmean
    · cases hrequired; exact .inl ⟨_, rfl⟩
    · cases hrequired; exact .inr rfl

/-- **A failing calculation is a demand row's**, as long as every assigned worker is known: the
division by the mean rate, or the complaint that there is none. -/
theorem calculateCandidateMetrics_error {assignments : List AssignmentV1} {tasks : List TaskV1}
    {demand : List DemandIntervalV1} {facts : ValidationFactsV1}
    {constraints : List DraftConstraintV1} {e : PyError}
    (hknown : WorkersKnown assignments facts)
    (h : calculateCandidateMetrics assignments tasks demand facts constraints = .error e) :
    (∃ message, e = .valueError message) ∨ e = .zeroDivisionError := by
  obtain ⟨costs, hcosts⟩ := assignmentCost_of_known hknown
  obtain ⟨overtimes, hovertimes⟩ := overtimeOf_of_known hknown
  unfold calculateCandidateMetrics at h
  cases hrows : demand.mapM (rowCoverage assignments tasks facts) with
  | ok rows => simp [bind, Except.bind, hrows, hcosts, hovertimes, pure, Except.pure] at h
  | error e' =>
    simp only [bind, Except.bind, hrows, Except.error.injEq] at h
    subst h
    have hraised := Fallible.exists_of_mapM_error hrows
    obtain ⟨row, -, hrow⟩ := hraised
    exact rowCoverage_error hrow

end ShiftMind.CandidateMetrics
