import ShiftMind.Scheduling.Comparison
import ShiftMind.Scheduling.Recalculation

/-!
# ShiftMind — when a comparison accepts a candidate

* **`metricsDisagree_of_same`** — metrics that differ only in how the intervals are listed do not
  disagree.
* **`calculateComparison_of_same`** — a comparison whose recomputation gives the same metrics
  returns, and reports them.
-/

namespace ShiftMind.Comparison

open CandidateMetrics Projection

/-! ## The tolerances -/

theorem floatsClose_self (x : ℚ) : floatsClose x x = true := by
  have hzero : |x - x| ≤ max (tolerance * max |x| |x|) tolerance := by
    rw [sub_self, abs_zero]
    exact le_max_of_le_right (by unfold tolerance; norm_num)
  exact decide_eq_true hzero

theorem valueListsClose_self (values : List ℚ) : valueListsClose values values = true := by
  unfold valueListsClose
  rw [Bool.and_eq_true, List.all_eq_true]
  refine ⟨decide_eq_true rfl, ?_⟩
  intro pair hpair
  obtain ⟨i, hi, rfl⟩ := List.mem_iff_getElem.mp hpair
  rw [List.getElem_zip]
  exact floatsClose_self _

theorem namedPairsClose_self (pairs : List (String × ℚ)) : namedPairsClose pairs pairs = true := by
  have hkeys : ∀ name ∈ Dict.keys (Dict.ofPairs pairs),
      decide (name ∈ Dict.keys (Dict.ofPairs pairs)) = true :=
    fun name hname => decide_eq_true hname
  unfold namedPairsClose
  simp only [Bool.and_eq_true, List.all_eq_true]
  refine ⟨⟨hkeys, hkeys⟩, ?_⟩
  intro pair hpair
  show floatsClose pair.2 ((Dict.get? (Dict.ofPairs pairs) pair.1).getD 0) = true
  rw [Dict.get?_of_mem (Dict.nodup_keys_ofPairs pairs) hpair]
  exact floatsClose_self pair.2

/-- The same values under any ids and in any order sort alike. -/
theorem sortedValues_of_perm {pairs pairs' : List (String × ℚ)}
    (h : (pairs.map Prod.snd).Perm (pairs'.map Prod.snd)) :
    sortedValues pairs = sortedValues pairs' := by
  unfold sortedValues
  have hperm : ((pairs.map Prod.snd).insertionSort (· ≤ ·)).Perm
      ((pairs'.map Prod.snd).insertionSort (· ≤ ·)) :=
    (List.perm_insertionSort _ _).trans (h.trans (List.perm_insertionSort _ _).symm)
  exact hperm.eq_of_pairwise (fun _ _ _ _ hab hba => le_antisymm hab hba)
    (List.pairwise_insertionSort _ _) (List.pairwise_insertionSort _ _)

/-- **The same metrics do not disagree**, once the cost is that of the persisted ones. -/
theorem metricsDisagree_of_same {recomputed persisted : MetricSetV1}
    (h : SameMetrics recomputed persisted) :
    metricsDisagree { recomputed with totalCost := persisted.totalCost } persisted = false := by
  unfold metricsDisagree
  simp [h.assignments, h.members, h.overtime, h.objective, h.functionRequired, h.functionServed,
    sortedValues_of_perm h.required, sortedValues_of_perm h.served, floatsClose_self,
    namedPairsClose_self, valueListsClose_self]

/-! ## A comparison that returns -/

/-- A calculation that gives the same metrics, but for the cost. -/
def Recomputes (assignments : List AssignmentV1) (tasks : List TaskV1)
    (demand : List DemandIntervalV1) (facts : ValidationFactsV1) (persisted : MetricSetV1) : Prop :=
  ∃ metrics soft, calculateCandidateMetrics assignments tasks demand facts [] =
    .ok (metrics, soft) ∧ SameMetrics metrics persisted

theorem Recomputes.recompute {assignments : List AssignmentV1} {tasks : List TaskV1}
    {demand : List DemandIntervalV1} {facts : ValidationFactsV1} {persisted : MetricSetV1}
    (h : Recomputes assignments tasks demand facts persisted) :
    ∃ metrics, recompute assignments tasks demand facts persisted.totalCost = .ok metrics ∧
      SameMetrics metrics persisted ∧ metrics.totalCost = persisted.totalCost ∧
      metricsDisagree metrics persisted = false := by
  obtain ⟨metrics, soft, hmetrics, hsame⟩ := h
  refine ⟨{ metrics with totalCost := persisted.totalCost }, ?_, ?_, rfl,
    metricsDisagree_of_same hsame⟩
  · unfold Comparison.recompute
    rw [hmetrics]
  · exact ⟨hsame.required, hsame.served, hsame.functionRequired, hsame.functionServed,
      hsame.overtime, hsame.objective, hsame.assignments, hsame.members⟩

/-- A comparison returns once its parts do, and reports their metrics. -/
theorem calculateComparison_of_parts {reader : Reader} {request : Request} {overview : Overview}
    {tasks : List TaskV1} {demand : List DemandIntervalV1} {workers : List WorkerV1}
    (hoverview : boundOverview reader request = .ok overview)
    (htasks : drained reader.getTasks request = .ok tasks)
    (hdemand : drained reader.getDemand request = .ok demand)
    (hworkers : drained reader.getWorkers request = .ok workers)
    {candidate : ScheduleVersionV1} {metrics : MetricSetV1}
    (hrecompute : recompute candidate.assignments tasks demand
      (factsOf workers tasks demand overview.horizonMinutes) candidate.metrics.totalCost =
        .ok metrics)
    (hagree : metricsDisagree metrics candidate.metrics = false)
    {expected : Option String} {baseline : Option StoredVersion}
    {evidence : Option (StoredVersion × MetricSetV1)}
    (hevidence : baselineEvidence overview request expected baseline = .ok evidence)
    {column : Option MetricSetV1 × List ConstraintResultV1}
    (hcolumn : baselineColumn tasks demand (factsOf workers tasks demand overview.horizonMinutes)
      evidence = .ok column) :
    ∃ comparison, calculateComparison reader request (stored candidate) expected baseline =
        .ok comparison ∧ comparison.candidateMetrics = metrics ∧
      comparison.baselineMetrics = column.1 := by
  have hcandidate : candidateEvidence (stored candidate) =
      .ok (candidate.scheduleVersionId, candidate.scheduleRunId, candidate.metrics) := rfl
  have hassignments : (stored candidate).assignments = candidate.assignments := rfl
  unfold calculateComparison
  simp only [hoverview, hcandidate, htasks, hdemand, hworkers, hevidence, hassignments, hrecompute,
    hagree, hcolumn, bind, Except.bind, pure, Except.pure, Bool.false_eq_true, ↓reduceIte]
  exact ⟨_, rfl, rfl, rfl⟩

/-- **A comparison whose recomputation gives the same metrics returns**, and reports them, for the
candidate and for the baseline. -/
theorem calculateComparison_of_same {reader : Reader} {request : Request} {overview : Overview}
    {tasks : List TaskV1} {demand : List DemandIntervalV1} {workers : List WorkerV1}
    (hoverview : boundOverview reader request = .ok overview)
    (htasks : drained reader.getTasks request = .ok tasks)
    (hdemand : drained reader.getDemand request = .ok demand)
    (hworkers : drained reader.getWorkers request = .ok workers)
    {candidate : ScheduleVersionV1}
    (hcandidate : Recomputes candidate.assignments tasks demand
      (factsOf workers tasks demand overview.horizonMinutes) candidate.metrics)
    {baseline : Option (String × ScheduleVersionV1)}
    (hbaseline : ∀ b ∈ baseline, b.2.scenarioVersionId = request.scenarioVersionId ∧
      Recomputes b.2.assignments tasks demand
        (factsOf workers tasks demand overview.horizonMinutes) b.2.metrics) :
    ∃ comparison, calculateComparison reader request (stored candidate) (baseline.map Prod.fst)
        (baseline.map fun b => stored b.2) = .ok comparison ∧
      SameMetrics comparison.candidateMetrics candidate.metrics ∧
      comparison.candidateMetrics.totalCost = candidate.metrics.totalCost ∧
      ∀ b ∈ baseline, ∃ metrics, comparison.baselineMetrics = some metrics ∧
        SameMetrics metrics b.2.metrics ∧ metrics.totalCost = b.2.metrics.totalCost := by
  -- the candidate's metrics pass the integrity check, whichever the baseline
  obtain ⟨metrics, hrecompute, hsame, hcost, hagree⟩ := hcandidate.recompute
  cases baseline with
  | none =>
    obtain ⟨comparison, hcomparison, hmetrics, -⟩ :=
      calculateComparison_of_parts hoverview htasks hdemand hworkers hrecompute hagree
        (show baselineEvidence overview request none none = .ok none from rfl) rfl
    refine ⟨comparison, hcomparison, ?_, ?_, nofun⟩
    · rw [hmetrics]
      exact hsame
    · rw [hmetrics]
      exact hcost
  | some named =>
    obtain ⟨name, version⟩ := named
    obtain ⟨hversion, hrecomputes⟩ := hbaseline _ rfl
    obtain ⟨metrics', hrecompute', hsame', hcost', -⟩ := hrecomputes.recompute
    -- the baseline is of the scenario version that was asked for
    have hevidence : baselineEvidence overview request (some name) (some (stored version)) =
        .ok (some (stored version, version.metrics)) := by
      unfold baselineEvidence
      show (if some version.scenarioVersionId ≠ some request.scenarioVersionId then _ else _) = _
      rw [if_neg (not_not.mpr (congrArg some hversion))]
      rfl
    -- its assignments are computed again over the same facts
    have hcolumn : baselineColumn tasks demand
        (factsOf workers tasks demand overview.horizonMinutes)
        (some (stored version, version.metrics)) = .ok (some metrics',
          version.constraintResults.filter fun result => result.constraintClass = .hard) := by
      have hassignments : (stored version).assignments = version.assignments := rfl
      unfold baselineColumn
      simp only [hassignments, hrecompute', bind, Except.bind, pure, Except.pure]
      rfl
    obtain ⟨comparison, hcomparison, hmetrics, hbase⟩ :=
      calculateComparison_of_parts hoverview htasks hdemand hworkers hrecompute hagree hevidence
        hcolumn
    refine ⟨comparison, hcomparison, ?_, ?_, ?_⟩
    · rw [hmetrics]
      exact hsame
    · rw [hmetrics]
      exact hcost
    · intro b hb
      rw [← Option.some.inj hb]
      exact ⟨metrics', hbase, hsame', hcost'⟩

end ShiftMind.Comparison
