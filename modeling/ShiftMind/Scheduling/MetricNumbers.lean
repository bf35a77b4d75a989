import ShiftMind.Scheduling.Recalculation
import ShiftMind.Store.Columns

/-!
# ShiftMind — the numbers of a candidate

What the calculator returns, as formulas over the assignments and the facts, and when all of it has
a canonical text. A double that overflowed has none, and neither has a candidate with such a number.

* **`calculate_closed`** — what a calculation that returns has computed.
* **`NumbersFit`** — the formulas that must be finite as doubles.
* **`numbers_canonical_iff`** — the numbers of a candidate are canonical exactly then.
-/

namespace ShiftMind.CandidateMetrics

open HardConstraints (workersById)

section Formulas

variable (assignments : List AssignmentV1) (facts : ValidationFactsV1)

/-! ## The formulas -/

/-- The minutes a row asks for: a volume is converted at the mean of the qualified rates. -/
def demandedMinutes (row : DemandIntervalV1) : ℚ :=
  match row.unit with
  | .headcount => ((row.endMinute - row.startMinute : Int) : ℚ) * row.amount
  | .volume => row.amount /
      ((qualifiedRates facts row.taskId).sum / (qualifiedRates facts row.taskId).length) * 60

/-- A field of a worker, zero for a worker who is not known. -/
def workerFact (field : WorkerSchedulingFactV1 → ℚ) (workerId : String) : ℚ :=
  ((Dict.get? (workersById facts) workerId).map field).getD 0

/-- The minutes assigned to a worker. -/
def workedMinutes (workerId : String) : Int :=
  ((assignments.filter fun a => a.workerId = workerId).map fun a => a.endMinute - a.startMinute).sum

/-- The wages of the assignments. -/
def wageCost : ℚ :=
  (assignments.map fun a => ((a.endMinute - a.startMinute : Int) : ℚ) / 60 *
    workerFact facts WorkerSchedulingFactV1.wagePerHour a.workerId).sum

/-- The minutes above the contracted hours, over the workers with an assignment. -/
def overtime : ℚ :=
  ((assignedByWorker assignments).map fun entry => max 0 ((entry.2 : ℚ) -
    workerFact facts WorkerSchedulingFactV1.contractedHours entry.1 * 60)).sum

/-- What a draft constraint measures, and the limit it measures it against. -/
def softNumbers (constraint : DraftConstraintV1) : ℚ × ℚ :=
  let onTask (taskId : String) : Bool := some taskId = entityOf constraint .workAreasAndTasks
  let ofWorker (workerId : String) : Bool := some workerId = entityOf constraint .workers
  let task := (entityOf constraint .workAreasAndTasks).getD ""
  let rows := facts.demandIntervals.filter fun row => row.taskId = task
  match constraint.kind with
  | .setMinWorkersPerTask =>
    (((assignments.filter fun a => onTask a.taskId).map AssignmentV1.workerId).dedup.length,
      constraint.n.getD 0)
  | .excludeWorkerFromTask =>
    (assignments.countP fun a => ofWorker a.workerId && onTask a.taskId, 0)
  | .setMaxHours =>
    ((workedMinutes assignments ((entityOf constraint .workers).getD "") : ℚ) / 60,
      constraint.maxHours.getD 0)
  | .lockWorkerShift =>
    (assignments.countP fun a => ofWorker a.workerId &&
      decide (a.startMinute < constraint.endMinute.getD 0) &&
      decide (constraint.startMinute.getD 0 < a.endMinute), 1)
  | .scaleDemand =>
    ((rows.map (servedMinutes assignments)).sum,
      (rows.map (demandedMinutes facts)).sum *
        match constraint.factor with
        | some factor => if factor = 0 then 1 else factor
        | none => 1)

/-- What the demand loop accumulates for a row. -/
def coverageOf (row : DemandIntervalV1) : RowCoverage :=
  ⟨row.recordId, row.taskId, functionName facts.tasks row.taskId, demandedMinutes facts row,
    servedMinutes assignments row⟩

end Formulas

section Closed

variable {assignments : List AssignmentV1} {facts : ValidationFactsV1}
  {constraints : List DraftConstraintV1} {metrics : MetricSetV1} {soft : List ConstraintResultV1}

/-! ## What the calculator returns -/

theorem requiredMinutes_closed {row : DemandIntervalV1} {required : ℚ}
    (h : requiredMinutes facts row = .ok required) : required = demandedMinutes facts row := by
  unfold requiredMinutes at h
  unfold demandedMinutes
  cases hunit : row.unit with
  | headcount => rw [hunit] at h; cases h; rfl
  | volume =>
    rw [hunit] at h
    simp only at h
    split_ifs at h
    cases h
    rfl

theorem rowCoverage_closed {row : DemandIntervalV1} {coverage : RowCoverage}
    (h : rowCoverage assignments facts.tasks facts row = .ok coverage) :
    coverage = coverageOf assignments facts row := by
  obtain ⟨required, hrequired, h⟩ := Fallible.bind_ok h
  cases h
  rw [requiredMinutes_closed hrequired]
  rfl

theorem workerFact_of_named {workerId : String} {worker : WorkerSchedulingFactV1}
    (h : workerNamed facts workerId = .ok worker) (field : WorkerSchedulingFactV1 → ℚ) :
    workerFact facts field workerId = field worker := by
  unfold workerFact
  rw [workerNamed_ok h]
  rfl

/-- The minutes under a worker are the minutes of its assignments. -/
theorem getD_assignedByWorker (workerId : String) :
    (Dict.get? (assignedByWorker assignments) workerId).getD 0 =
      workedMinutes assignments workerId := by
  unfold assignedByWorker workedMinutes
  rw [Dict.getD_tally, List.filter_map, List.map_map]
  rfl

/-- A sum under a task is one over its rows. -/
theorem getD_tally_rows (value : DemandIntervalV1 → ℚ) (taskId : String) :
    (Dict.get? (Dict.tally (facts.demandIntervals.map fun row => (row.taskId, value row)))
      taskId).getD 0 =
      ((facts.demandIntervals.filter fun row => row.taskId = taskId).map value).sum := by
  rw [Dict.getD_tally, List.filter_map, List.map_map]
  rfl

theorem softConstraintResult_closed (constraint : DraftConstraintV1) :
    let result := softConstraintResult assignments (assignedByWorker assignments)
      (Dict.tally (facts.demandIntervals.map fun row => (row.taskId, demandedMinutes facts row)))
      (Dict.tally (facts.demandIntervals.map fun row =>
        (row.taskId, servedMinutes assignments row)))
      constraint
    (result.measuredValue, result.limit) = softNumbers assignments facts constraint := by
  unfold softConstraintResult softNumbers
  cases constraint.kind with
  | setMinWorkersPerTask => rfl
  | excludeWorkerFromTask => rfl
  | setMaxHours => simp only [getD_assignedByWorker]
  | lockWorkerShift => rfl
  | scaleDemand =>
    -- the factor is read alike, so only the two sums are left
    exact Prod.ext (getD_tally_rows _ _) (congrArg (· * _) (getD_tally_rows _ _))

/-- The metrics, by their formulas. -/
def closedMetrics (assignments : List AssignmentV1) (facts : ValidationFactsV1) : MetricSetV1 where
  intervalCoverageRequiredMinutes :=
    sortPairs (facts.demandIntervals.map fun row => (row.recordId, demandedMinutes facts row))
  intervalCoverageServedMinutes :=
    sortPairs (facts.demandIntervals.map fun row => (row.recordId, servedMinutes assignments row))
  functionCoverageRequiredMinutes :=
    sortPairs (Dict.tally (facts.demandIntervals.map fun row =>
      (functionName facts.tasks row.taskId, demandedMinutes facts row)))
  functionCoverageServedMinutes :=
    sortPairs (Dict.tally (facts.demandIntervals.map fun row =>
      (functionName facts.tasks row.taskId, servedMinutes assignments row)))
  overtimeMinutes := overtime assignments facts
  totalCost := roundCents (wageCost assignments facts)
  objectiveComponents :=
    [("unmet_minutes", max 0 ((facts.demandIntervals.map (demandedMinutes facts)).sum -
        (facts.demandIntervals.map (servedMinutes assignments)).sum)),
      ("overtime_minutes", overtime assignments facts)]
  assignmentCount := assignments.length
  memberCount := (assignedByWorker assignments).length

/-- **What a calculation that returns has computed**: its formulas. -/
theorem calculate_closed
    (h : calculateCandidateMetrics assignments facts.tasks facts.demandIntervals facts constraints =
      .ok (metrics, soft)) :
    metrics = closedMetrics assignments facts ∧
      soft.map (fun result => (result.measuredValue, result.limit)) =
        constraints.map (softNumbers assignments facts) := by
  obtain ⟨rows, hrows, h⟩ := Fallible.bind_ok h
  obtain ⟨costs, hcosts, h⟩ := Fallible.bind_ok h
  obtain ⟨overtimes, hovertimes, h⟩ := Fallible.bind_ok h
  -- each mapping of the calculator is a formula on its rows
  have hcoverage : rows = facts.demandIntervals.map (coverageOf assignments facts) := by
    have hmap := Fallible.map_eq_of_mapM (g := id) (fun _ _ h => rowCoverage_closed h) hrows
    rwa [List.map_id] at hmap
  have hcost : costs.sum = wageCost assignments facts := by
    have hmap := Fallible.map_eq_of_mapM (g := id) (fun a cost h => by
      obtain ⟨worker, hworker, hcost⟩ := Fallible.bind_ok h
      cases hcost
      show ((a.endMinute - a.startMinute : Int) : ℚ) / 60 * worker.wagePerHour = _
      rw [← workerFact_of_named hworker WorkerSchedulingFactV1.wagePerHour]) hcosts
    rw [List.map_id] at hmap
    rw [hmap]
    rfl
  have hovertime : overtimes.sum = overtime assignments facts := by
    have hmap := Fallible.map_eq_of_mapM (g := id) (fun entry minutes h => by
      obtain ⟨worker, hworker, hminutes⟩ := Fallible.bind_ok h
      cases hminutes
      show max 0 ((entry.2 : ℚ) - worker.contractedHours * 60) = _
      rw [← workerFact_of_named hworker WorkerSchedulingFactV1.contractedHours]) hovertimes
    rw [List.map_id] at hmap
    rw [hmap]
    rfl
  cases h
  subst hcoverage
  constructor
  · simp only [closedMetrics, hcost, hovertime, List.map_map]
    rfl
  · rw [List.map_map]
    refine List.map_congr_left fun constraint _ => ?_
    simp only [Function.comp_apply, List.map_map]
    exact softConstraintResult_closed constraint

end Closed

/-! ## When the numbers are canonical

A number is canonical where it is finite as a double. -/

/-- The double nearest to a rational is finite. -/
def FitsDouble (q : ℚ) : Prop := (PyNumber.ofRat q).canonical = true

instance (q : ℚ) : Decidable (FitsDouble q) := inferInstanceAs (Decidable (_ = true))

/-- **The numbers that a candidate is written with fit**: its integers are exact as doubles, and
every other number, computed by its formula, is finite as one. -/
structure NumbersFit (assignments : List AssignmentV1) (facts : ValidationFactsV1)
    (constraints : List DraftConstraintV1) (references : List EvidenceRefV1) : Prop where
  minutes : ∀ a ∈ assignments, (PyNumber.int a.startMinute).canonical = true ∧
    (PyNumber.int a.endMinute).canonical = true
  rates : ∀ a ∈ assignments, ∀ qualification ∈ a.qualificationRefs, FitsDouble qualification.rate
  references : ∀ reference ∈ references,
    ∀ minute ∈ reference.endMinute.toList ++ reference.startMinute.toList,
      (PyNumber.int minute).canonical = true
  demanded : ∀ row ∈ facts.demandIntervals, FitsDouble (demandedMinutes facts row)
  served : ∀ row ∈ facts.demandIntervals, FitsDouble (servedMinutes assignments row)
  demandedBy : ∀ function, FitsDouble ((facts.demandIntervals.filter fun row =>
    functionName facts.tasks row.taskId = function).map (demandedMinutes facts)).sum
  servedBy : ∀ function, FitsDouble ((facts.demandIntervals.filter fun row =>
    functionName facts.tasks row.taskId = function).map (servedMinutes assignments)).sum
  unmet : FitsDouble (max 0 ((facts.demandIntervals.map (demandedMinutes facts)).sum -
    (facts.demandIntervals.map (servedMinutes assignments)).sum))
  overtime : FitsDouble (overtime assignments facts)
  cost : FitsDouble (roundCents (wageCost assignments facts))
  soft : ∀ constraint ∈ constraints, FitsDouble (softNumbers assignments facts constraint).1 ∧
    FitsDouble (softNumbers assignments facts constraint).2

theorem fitsDouble_zero : FitsDouble 0 := by decide +kernel

theorem forall_mem_sortPairs {P : ℚ → Prop} (pairs : List (String × ℚ)) :
    (∀ p ∈ sortPairs pairs, P p.2) ↔ ∀ p ∈ pairs, P p.2 := by
  constructor
  · intro h p hp
    exact h p ((perm_sortPairs pairs).mem_iff.mpr hp)
  · intro h p hp
    exact h p ((perm_sortPairs pairs).mem_iff.mp hp)

/-- The sums under the functions. -/
theorem forall_tally_functions {facts : ValidationFactsV1} (value : DemandIntervalV1 → ℚ) :
    (∀ p ∈ Dict.tally (facts.demandIntervals.map fun row =>
      (functionName facts.tasks row.taskId, value row)), FitsDouble p.2) ↔
      ∀ function, FitsDouble ((facts.demandIntervals.filter fun row =>
        functionName facts.tasks row.taskId = function).map value).sum := by
  rw [Dict.forall_tally_iff fitsDouble_zero]
  refine forall_congr' fun function => ?_
  rw [List.filter_map, List.map_map]
  rfl

theorem canonical_assignments_iff {assignments : List AssignmentV1} :
    (∀ x ∈ assignments.flatMap AssignmentV1.numbers, x.canonical = true) ↔
      ∀ a ∈ assignments, ((PyNumber.int a.startMinute).canonical = true ∧
        (PyNumber.int a.endMinute).canonical = true) ∧
        ∀ qualification ∈ a.qualificationRefs, FitsDouble qualification.rate := by
  rw [List.forall_mem_flatMap]
  refine forall₂_congr fun a _ => ?_
  simp only [AssignmentV1.numbers, List.forall_mem_cons, List.forall_mem_map]
  constructor
  · rintro ⟨hend, hstart, hrates⟩
    exact ⟨⟨hstart, hend⟩, hrates⟩
  · rintro ⟨⟨hstart, hend⟩, hrates⟩
    exact ⟨hend, hstart, hrates⟩

theorem canonical_metrics_iff {assignments : List AssignmentV1} {facts : ValidationFactsV1} :
    (∀ x ∈ (closedMetrics assignments facts).numbers, x.canonical = true) ↔
      ((∀ function, FitsDouble ((facts.demandIntervals.filter fun row =>
          functionName facts.tasks row.taskId = function).map (demandedMinutes facts)).sum) ∧
        (∀ function, FitsDouble ((facts.demandIntervals.filter fun row =>
          functionName facts.tasks row.taskId = function).map (servedMinutes assignments)).sum)) ∧
      ((∀ row ∈ facts.demandIntervals, FitsDouble (demandedMinutes facts row)) ∧
        ∀ row ∈ facts.demandIntervals, FitsDouble (servedMinutes assignments row)) ∧
      FitsDouble (max 0 ((facts.demandIntervals.map (demandedMinutes facts)).sum -
        (facts.demandIntervals.map (servedMinutes assignments)).sum)) ∧
      FitsDouble (overtime assignments facts) ∧
      FitsDouble (roundCents (wageCost assignments facts)) := by
  have hfits : ∀ q : ℚ, ((PyNumber.ofRat q).canonical = true) = FitsDouble q := fun _ => rfl
  unfold MetricSetV1.numbers
  simp only [List.forall_mem_map, List.forall_mem_append, hfits]
  -- the keys of the metrics do not matter, so each table is read as its values
  simp only [closedMetrics, forall_mem_sortPairs, forall_tally_functions, List.forall_mem_map,
    List.forall_mem_cons]
  constructor
  · rintro ⟨⟨⟨⟨⟨hdemandedBy, hservedBy⟩, hdemanded⟩, hserved⟩, hunmet, hovertime, -⟩, -, hcost, -⟩
    exact ⟨⟨hdemandedBy, hservedBy⟩, ⟨hdemanded, hserved⟩, hunmet, hovertime, hcost⟩
  · rintro ⟨⟨hdemandedBy, hservedBy⟩, ⟨hdemanded, hserved⟩, hunmet, hovertime, hcost⟩
    exact ⟨⟨⟨⟨⟨hdemandedBy, hservedBy⟩, hdemanded⟩, hserved⟩, hunmet, hovertime,
      fun _ h => absurd h List.not_mem_nil⟩, hovertime, hcost, fun _ h => absurd h List.not_mem_nil⟩

/-- **The numbers of a candidate** with these metrics are canonical exactly if they fit. -/
theorem numbers_canonical_iff {candidate : ScheduleVersionV1} {facts : ValidationFactsV1}
    {constraints : List DraftConstraintV1} {references : List EvidenceRefV1}
    {hard soft : List ConstraintResultV1}
    (hmetrics : candidate.metrics = closedMetrics candidate.assignments facts)
    (hresults : candidate.constraintResults = hard ++ soft)
    (hhard : ∀ result ∈ hard, result.measuredValue = 0 ∧ result.limit = 0)
    (hsoft : soft.map (fun result => (result.measuredValue, result.limit)) =
      constraints.map (softNumbers candidate.assignments facts))
    (hreferences : candidate.evidenceRefs.flatMap EvidenceRefV1.numbers =
      references.flatMap EvidenceRefV1.numbers) :
    (∀ x ∈ candidate.numbers, x.canonical = true) ↔
      NumbersFit candidate.assignments facts constraints references := by
  have hresult : ∀ results : List ConstraintResultV1,
      (∀ x ∈ results.flatMap ConstraintResultV1.numbers, x.canonical = true) ↔
        ∀ p ∈ results.map fun result => (result.measuredValue, result.limit),
          FitsDouble p.1 ∧ FitsDouble p.2 := by
    intro results
    rw [List.forall_mem_flatMap, List.forall_mem_map]
    refine forall₂_congr fun result _ => ?_
    simp [ConstraintResultV1.numbers, FitsDouble, and_comm]
  -- a rule that passed measures zero against zero
  have hrules : ∀ p ∈ hard.map fun result => (result.measuredValue, result.limit),
      FitsDouble p.1 ∧ FitsDouble p.2 := by
    rw [List.forall_mem_map]
    intro result hmem
    rw [(hhard result hmem).1, (hhard result hmem).2]
    exact ⟨fitsDouble_zero, fitsDouble_zero⟩
  have hminutes : (∀ x ∈ references.flatMap EvidenceRefV1.numbers, x.canonical = true) ↔
      ∀ reference ∈ references,
        ∀ minute ∈ reference.endMinute.toList ++ reference.startMinute.toList,
          (PyNumber.int minute).canonical = true := by
    rw [List.forall_mem_flatMap]
    exact forall₂_congr fun reference _ => List.forall_mem_map
  unfold ScheduleVersionV1.numbers
  rw [List.forall_mem_append, List.forall_mem_append, List.forall_mem_append,
    canonical_assignments_iff, hresult, hresults, List.map_append, List.forall_mem_append, hsoft,
    hreferences, hminutes, hmetrics, canonical_metrics_iff]
  -- what is left is to sort the same conditions by where they stand
  have hconstraints : (∀ p ∈ constraints.map (softNumbers candidate.assignments facts),
      FitsDouble p.1 ∧ FitsDouble p.2) ↔ ∀ constraint ∈ constraints,
        FitsDouble (softNumbers candidate.assignments facts constraint).1 ∧
        FitsDouble (softNumbers candidate.assignments facts constraint).2 := List.forall_mem_map
  rw [hconstraints]
  constructor
  · rintro ⟨⟨⟨hassignments, -, hsoft⟩, hreferences⟩, ⟨hdemandedBy, hservedBy⟩,
      ⟨hdemanded, hserved⟩, hunmet, hovertime, hcost⟩
    exact ⟨fun a ha => (hassignments a ha).1, fun a ha => (hassignments a ha).2, hreferences,
      hdemanded, hserved, hdemandedBy, hservedBy, hunmet, hovertime, hcost, hsoft⟩
  · intro h
    exact ⟨⟨⟨fun a ha => ⟨h.minutes a ha, h.rates a ha⟩, hrules, h.soft⟩, h.references⟩,
      ⟨h.demandedBy, h.servedBy⟩, ⟨h.demanded, h.served⟩, h.unmet, h.overtime, h.cost⟩

end ShiftMind.CandidateMetrics
