import Mathlib.Data.List.Forall2
import ShiftMind.Library.Fallible
import ShiftMind.Scheduling.CoverageTotals

/-!
# ShiftMind — the same facts under other record ids

The metrics of a candidate depend on the record ids of the demand only in how the coverage of the
intervals is labelled and listed, and on the wages only in the cost. Two presentations of the same
facts give the same metrics otherwise.

* **`SameFacts`** — the demand, the functions, the rates and the contracted hours agree.
* **`calculate_of_sameFacts`** — the metrics agree.
-/

namespace ShiftMind.CandidateMetrics

open HardConstraints (workersById)

/-- The function of a task. -/
def functionName (tasks : List TaskV1) (taskId : String) : String :=
  ((Dict.get? (Dict.indexBy TaskV1.taskId tasks) taskId).map TaskV1.function).getD "Unknown"

/-- What the metrics read of a demand row, beside its record id. -/
def demandCore (row : DemandIntervalV1) : String × Int × Int × ℚ × DemandUnit :=
  (row.taskId, row.startMinute, row.endMinute, row.amount, row.unit)

/-- What they make of it. -/
def coverageCore (coverage : RowCoverage) : String × String × ℚ × ℚ :=
  (coverage.taskId, coverage.function, coverage.required, coverage.served)

/-- **The same facts**, under other record ids and other wages. -/
structure SameFacts (tasks tasks' : List TaskV1) (demand demand' : List DemandIntervalV1)
    (facts facts' : ValidationFactsV1) : Prop where
  rows : demand.map demandCore = demand'.map demandCore
  functions : functionName tasks = functionName tasks'
  rates : ∀ row ∈ demand, row.unit = .volume →
    qualifiedRates facts row.taskId = qualifiedRates facts' row.taskId
  hours : ∀ workerId worker, Dict.get? (workersById facts) workerId = some worker →
    ∃ worker', Dict.get? (workersById facts') workerId = some worker' ∧
      worker'.contractedHours = worker.contractedHours

/-- **The same metrics**, with the coverage of the intervals in any order and under any record ids,
and at any cost. -/
structure SameMetrics (metrics metrics' : MetricSetV1) : Prop where
  required : (metrics.intervalCoverageRequiredMinutes.map Prod.snd).Perm
    (metrics'.intervalCoverageRequiredMinutes.map Prod.snd)
  served : (metrics.intervalCoverageServedMinutes.map Prod.snd).Perm
    (metrics'.intervalCoverageServedMinutes.map Prod.snd)
  functionRequired :
    metrics.functionCoverageRequiredMinutes = metrics'.functionCoverageRequiredMinutes
  functionServed : metrics.functionCoverageServedMinutes = metrics'.functionCoverageServedMinutes
  overtime : metrics.overtimeMinutes = metrics'.overtimeMinutes
  objective : metrics.objectiveComponents = metrics'.objectiveComponents
  assignments : metrics.assignmentCount = metrics'.assignmentCount
  members : metrics.memberCount = metrics'.memberCount

/-! ## One row -/

section

variable {assignments : List AssignmentV1} {tasks tasks' : List TaskV1}
  {facts facts' : ValidationFactsV1}

/-- A row that is covered is covered alike under another record id. -/
theorem rowCoverage_of_core {row row' : DemandIntervalV1} {coverage : RowCoverage}
    (hcore : demandCore row = demandCore row')
    (hfunctions : functionName tasks = functionName tasks')
    (hrates : row.unit = .volume →
      qualifiedRates facts row.taskId = qualifiedRates facts' row.taskId)
    (h : rowCoverage assignments tasks facts row = .ok coverage) :
    ∃ coverage', rowCoverage assignments tasks' facts' row' = .ok coverage' ∧
      coverageCore coverage' = coverageCore coverage := by
  obtain ⟨htask, hstart, hend, hamount, hunit⟩ : row.taskId = row'.taskId ∧
      row.startMinute = row'.startMinute ∧ row.endMinute = row'.endMinute ∧
      row.amount = row'.amount ∧ row.unit = row'.unit := by
    simpa [demandCore] using hcore
  obtain ⟨required, hrequired, hcoverage⟩ := Fallible.bind_ok h
  cases hcoverage
  have hrequired' : requiredMinutes facts' row' = .ok required := by
    unfold requiredMinutes at hrequired ⊢
    rw [← hunit]
    cases hkind : row.unit with
    | headcount =>
      rw [hkind] at hrequired
      rw [← hstart, ← hend, ← hamount]
      exact hrequired
    | volume =>
      rw [hkind] at hrequired
      simp only at hrequired ⊢
      rw [hrates hkind] at hrequired
      rw [← htask, ← hamount]
      -- the record id is only in the message of a row that is not converted
      split_ifs at hrequired ⊢ with hnone hzero
      exact hrequired
  have hserved : servedMinutes assignments row' = servedMinutes assignments row := by
    unfold servedMinutes
    rw [htask, hstart, hend]
  refine ⟨⟨row'.recordId, row'.taskId, functionName tasks' row'.taskId, required,
    servedMinutes assignments row'⟩, ?_, ?_⟩
  · unfold rowCoverage
    rw [hrequired']
    rfl
  · show (row'.taskId, functionName tasks' row'.taskId, required, servedMinutes assignments row') =
      (row.taskId, functionName tasks row.taskId, required, servedMinutes assignments row)
    rw [← htask, hserved, hfunctions]

/-- The rows are covered alike, one by one. -/
theorem rowCoverages_of_core {demand demand' : List DemandIntervalV1} {rows : List RowCoverage}
    (hcore : demand.map demandCore = demand'.map demandCore)
    (hfunctions : functionName tasks = functionName tasks')
    (hrates : ∀ row ∈ demand, row.unit = .volume →
      qualifiedRates facts row.taskId = qualifiedRates facts' row.taskId)
    (h : demand.mapM (rowCoverage assignments tasks facts) = .ok rows) :
    ∃ rows', demand'.mapM (rowCoverage assignments tasks' facts') = .ok rows' ∧
      rows'.map coverageCore = rows.map coverageCore := by
  induction demand generalizing demand' rows with
  | nil =>
    have hnil : demand' = [] := List.map_eq_nil_iff.mp hcore.symm
    cases h
    exact ⟨[], by rw [hnil]; rfl, rfl⟩
  | cons row demand ih =>
    obtain ⟨row', rest', rfl, hrow, hrest⟩ := List.map_eq_cons_iff.mp hcore.symm
    rw [List.mapM_cons] at h
    obtain ⟨coverage, hcoverage, h⟩ := Fallible.bind_ok h
    obtain ⟨coverages, hcoverages, h⟩ := Fallible.bind_ok h
    cases h
    obtain ⟨coverage', hcoverage', hsame⟩ := rowCoverage_of_core hrow.symm hfunctions
      (hrates row List.mem_cons_self) hcoverage
    obtain ⟨coverages', hcoverages', hsames⟩ := ih hrest.symm
      (fun row hrow => hrates row (List.mem_cons_of_mem _ hrow)) hcoverages
    refine ⟨coverage' :: coverages', ?_, ?_⟩
    · rw [List.mapM_cons, hcoverage', hcoverages']
      rfl
    · rw [List.map_cons, List.map_cons, hsame, hsames]

/-! ## The workers -/

theorem workerNamed_ok {workerId : String} {worker : WorkerSchedulingFactV1}
    (h : workerNamed facts workerId = .ok worker) :
    Dict.get? (workersById facts) workerId = some worker := by
  unfold workerNamed at h
  cases hget : Dict.get? (workersById facts) workerId with
  | none =>
    rw [hget] at h
    cases h
  | some found =>
    rw [hget] at h
    cases h
    rfl

theorem overtimeOf_of_hours {entry : String × Int} {overtime : ℚ}
    (hhours : ∀ workerId worker, Dict.get? (workersById facts) workerId = some worker →
      ∃ worker', Dict.get? (workersById facts') workerId = some worker' ∧
        worker'.contractedHours = worker.contractedHours)
    (h : overtimeOf facts entry = .ok overtime) : overtimeOf facts' entry = .ok overtime := by
  obtain ⟨worker, hworker, h⟩ := Fallible.bind_ok h
  cases h
  obtain ⟨worker', hworker', hsame⟩ := hhours _ _ (workerNamed_ok hworker)
  unfold overtimeOf workerNamed
  rw [hworker']
  show Except.ok (max 0 ((entry.2 : ℚ) - worker'.contractedHours * 60)) = _
  rw [hsame]

/-- Every assigned worker of a calculation that costed its assignments is known. -/
theorem workersKnown_of_costs {costs : List ℚ}
    (h : assignments.mapM (assignmentCost facts) = .ok costs) : WorkersKnown assignments facts := by
  intro a ha
  obtain ⟨cost, hcost⟩ := Fallible.mapM_isOk_iff.mp ⟨costs, h⟩ a ha
  obtain ⟨worker, hworker, -⟩ := Fallible.bind_ok hcost
  exact ⟨worker, workerNamed_ok hworker⟩

end

/-! ## The metrics

Two readings of the same facts give the same metrics, up to the order and the ids of the intervals.
-/

/-- The metrics of the rows, the costs and the overtimes. -/
def metricsOf (assignments : List AssignmentV1) (rows : List RowCoverage)
    (costs overtimes : List ℚ) : MetricSetV1 where
  intervalCoverageRequiredMinutes := sortPairs (rows.map fun r => (r.recordId, r.required))
  intervalCoverageServedMinutes := sortPairs (rows.map fun r => (r.recordId, r.served))
  functionCoverageRequiredMinutes :=
    sortPairs (Dict.tally (rows.map fun r => (r.function, r.required)))
  functionCoverageServedMinutes := sortPairs (Dict.tally (rows.map fun r => (r.function, r.served)))
  overtimeMinutes := overtimes.sum
  totalCost := roundCents costs.sum
  objectiveComponents :=
    [("unmet_minutes",
        max 0 ((rows.map RowCoverage.required).sum - (rows.map RowCoverage.served).sum)),
      ("overtime_minutes", overtimes.sum)]
  assignmentCount := assignments.length
  memberCount := (assignedByWorker assignments).length

section

variable {assignments : List AssignmentV1} {tasks tasks' : List TaskV1}
  {demand demand' : List DemandIntervalV1} {facts facts' : ValidationFactsV1}
  {constraints constraints' : List DraftConstraintV1}

/-- What a calculation that returns has computed. -/
theorem calculate_ok {metrics : MetricSetV1} {soft : List ConstraintResultV1}
    (h : calculateCandidateMetrics assignments tasks demand facts constraints =
      .ok (metrics, soft)) :
    ∃ rows costs overtimes, demand.mapM (rowCoverage assignments tasks facts) = .ok rows ∧
      assignments.mapM (assignmentCost facts) = .ok costs ∧
      (assignedByWorker assignments).mapM (overtimeOf facts) = .ok overtimes ∧
      metrics = metricsOf assignments rows costs overtimes := by
  obtain ⟨rows, hrows, h⟩ := Fallible.bind_ok h
  obtain ⟨costs, hcosts, h⟩ := Fallible.bind_ok h
  obtain ⟨overtimes, hovertimes, h⟩ := Fallible.bind_ok h
  cases h
  exact ⟨rows, costs, overtimes, hrows, hcosts, hovertimes, rfl⟩

/-- A calculation returns once its parts do. -/
theorem calculate_of_parts {rows : List RowCoverage} {costs overtimes : List ℚ}
    (hrows : demand.mapM (rowCoverage assignments tasks facts) = .ok rows)
    (hcosts : assignments.mapM (assignmentCost facts) = .ok costs)
    (hovertimes : (assignedByWorker assignments).mapM (overtimeOf facts) = .ok overtimes) :
    ∃ soft, calculateCandidateMetrics assignments tasks demand facts constraints =
      .ok (metricsOf assignments rows costs overtimes, soft) := by
  unfold calculateCandidateMetrics
  simp only [hrows, hcosts, hovertimes]
  exact ⟨_, rfl⟩

/-- The metrics of rows that are covered alike. -/
theorem sameMetrics_of_core {rows rows' : List RowCoverage} {costs costs' overtimes : List ℚ}
    (hcore : rows'.map coverageCore = rows.map coverageCore) :
    SameMetrics (metricsOf assignments rows' costs' overtimes)
      (metricsOf assignments rows costs overtimes) := by
  -- whatever is read off the rows without their record ids is the same
  have hmap : ∀ {β : Type} (f : String × String × ℚ × ℚ → β),
      rows'.map (fun r => f (coverageCore r)) = rows.map fun r => f (coverageCore r) := by
    intro β f
    have hf := congrArg (List.map f) hcore
    rwa [List.map_map, List.map_map] at hf
  have hrequired : rows'.map RowCoverage.required = rows.map RowCoverage.required :=
    hmap fun c => c.2.2.1
  have hserved : rows'.map RowCoverage.served = rows.map RowCoverage.served :=
    hmap fun c => c.2.2.2
  have hvalues : ∀ field : RowCoverage → ℚ, rows'.map field = rows.map field →
      ((sortPairs (rows'.map fun r => (r.recordId, field r))).map Prod.snd).Perm
        ((sortPairs (rows.map fun r => (r.recordId, field r))).map Prod.snd) := by
    intro field hfield
    have hleft := (perm_sortPairs (rows'.map fun r => (r.recordId, field r))).map Prod.snd
    have hright := (perm_sortPairs (rows.map fun r => (r.recordId, field r))).map Prod.snd
    rw [List.map_map] at hleft hright
    have hfield : rows'.map (Prod.snd ∘ fun r => (r.recordId, field r)) =
        rows.map (Prod.snd ∘ fun r => (r.recordId, field r)) := hfield
    rw [hfield] at hleft
    exact hleft.trans hright.symm
  refine ⟨hvalues _ hrequired, hvalues _ hserved, ?_, ?_, rfl, ?_, rfl, rfl⟩
  · show sortPairs (Dict.tally (rows'.map fun r => (r.function, r.required))) =
      sortPairs (Dict.tally (rows.map fun r => (r.function, r.required)))
    exact congrArg (fun pairs => sortPairs (Dict.tally pairs)) (hmap fun c => (c.2.1, c.2.2.1))
  · show sortPairs (Dict.tally (rows'.map fun r => (r.function, r.served))) =
      sortPairs (Dict.tally (rows.map fun r => (r.function, r.served)))
    exact congrArg (fun pairs => sortPairs (Dict.tally pairs)) (hmap fun c => (c.2.1, c.2.2.2))
  · show [("unmet_minutes", _), ("overtime_minutes", _)] = _
    rw [hrequired, hserved]
    rfl

/-- **The same facts give the same metrics.** -/
theorem calculate_of_sameFacts (hsame : SameFacts tasks tasks' demand demand' facts facts')
    {metrics : MetricSetV1} {soft : List ConstraintResultV1}
    (h : calculateCandidateMetrics assignments tasks demand facts constraints =
      .ok (metrics, soft)) :
    ∃ metrics' soft', calculateCandidateMetrics assignments tasks' demand' facts' constraints' =
        .ok (metrics', soft') ∧ SameMetrics metrics' metrics := by
  obtain ⟨rows, costs, overtimes, hrows, hcosts, hovertimes, rfl⟩ := calculate_ok h
  obtain ⟨rows', hrows', hcore⟩ :=
    rowCoverages_of_core hsame.rows hsame.functions hsame.rates hrows
  have hknown : WorkersKnown assignments facts' := by
    intro a ha
    obtain ⟨worker, hworker⟩ := workersKnown_of_costs hcosts a ha
    obtain ⟨worker', hworker', -⟩ := hsame.hours _ _ hworker
    exact ⟨worker', hworker'⟩
  obtain ⟨costs', hcosts'⟩ := assignmentCost_of_known hknown
  have hovertimes' : (assignedByWorker assignments).mapM (overtimeOf facts') = .ok overtimes :=
    Fallible.mapM_ok_of_ok (fun _ _ hone => overtimeOf_of_hours hsame.hours hone) hovertimes
  obtain ⟨soft', hsoft'⟩ : ∃ soft', calculateCandidateMetrics assignments tasks' demand' facts'
      constraints' = .ok (metricsOf assignments rows' costs' overtimes, soft') :=
    calculate_of_parts hrows' hcosts' hovertimes'
  exact ⟨_, soft', hsoft', sameMetrics_of_core hcore⟩

end

end ShiftMind.CandidateMetrics
