import Mathlib.Algebra.Order.BigOperators.Group.List
import Mathlib.Algebra.BigOperators.Group.Multiset.Basic
import Mathlib.Algebra.BigOperators.Ring.Finset
import Mathlib.Data.Int.Interval
import ShiftMind.Scheduling.CandidateMetrics

/-!
# ShiftMind — what the coverage totals say

The totals that `application/scheduling/candidate_metrics.py` reports over all demand intervals, and
what `application/scheduling/comparison.py` reads off the intervals themselves.

* **`unresolvedGapRecordIds`** — the gaps a comparison lists.
* **`unmetMinutes_netted`** — `unmet_minutes` is a netted total: a surplus hides a shortfall.
* **`servedMinutes_conserved_iff`** — when the minutes credited to the demand rows of a task are
  minutes that were assigned to it.
-/

namespace ShiftMind.CandidateMetrics

open HardConstraints (workersById)

/-! ## What the calculator reports -/

/-- `dict(metrics.objective_components)["unmet_minutes"]`. -/
def unmetMinutes (metrics : MetricSetV1) : ℚ :=
  (Dict.get? (Dict.ofPairs metrics.objectiveComponents) "unmet_minutes").getD 0

/-- `unresolved` of `calculate_comparison`. -/
def unresolvedGapRecordIds (metrics : MetricSetV1) : List String :=
  let served := Dict.ofPairs metrics.intervalCoverageServedMinutes
  (metrics.intervalCoverageRequiredMinutes.filter fun pair =>
    (Dict.get? served pair.1).getD 0 < pair.2).map Prod.fst

/-- The intervals' shortfalls, added up. -/
def shortfallMinutes (rows : List RowCoverage) : ℚ :=
  (rows.map fun r => max 0 (r.required - r.served)).sum

section Report

variable {assignments : List AssignmentV1} {tasks : List TaskV1} {demand : List DemandIntervalV1}
  {facts : ValidationFactsV1} {constraints : List DraftConstraintV1} {metrics : MetricSetV1}
  {soft : List ConstraintResultV1}

/-- What a calculation that returns has computed of the demand. -/
theorem rows_of_calculate
    (h : calculateCandidateMetrics assignments tasks demand facts constraints =
      .ok (metrics, soft)) :
    ∃ rows, demand.mapM (rowCoverage assignments tasks facts) = .ok rows ∧
      metrics.intervalCoverageRequiredMinutes =
        sortPairs (rows.map fun r => (r.recordId, r.required)) ∧
      metrics.intervalCoverageServedMinutes =
        sortPairs (rows.map fun r => (r.recordId, r.served)) ∧
      unmetMinutes metrics =
        max 0 ((rows.map RowCoverage.required).sum - (rows.map RowCoverage.served).sum) := by
  unfold calculateCandidateMetrics at h
  cases hrows : demand.mapM (rowCoverage assignments tasks facts) with
  | error e => simp [bind, Except.bind, hrows] at h
  | ok rows =>
    cases hcosts : assignments.mapM (assignmentCost facts) with
    | error e => simp [bind, Except.bind, hrows, hcosts] at h
    | ok costs =>
      cases hovertimes : (assignedByWorker assignments).mapM (overtimeOf facts) with
      | error e => simp [bind, Except.bind, hrows, hcosts, hovertimes] at h
      | ok overtimes =>
        simp only [bind, Except.bind, hrows, hcosts, hovertimes, pure, Except.pure,
          Except.ok.injEq, Prod.mk.injEq] at h
        refine ⟨rows, rfl, ?_, ?_, ?_⟩
        · rw [← h.1]
        · rw [← h.1]
        · rw [← h.1]
          rfl

/-- Each interval's record id is its row's. -/
theorem rowCoverage_fields {row : DemandIntervalV1} {r : RowCoverage}
    (h : rowCoverage assignments tasks facts row = .ok r) :
    r.recordId = row.recordId ∧ requiredMinutes facts row = .ok r.required ∧
      r.served = servedMinutes assignments row := by
  unfold rowCoverage at h
  cases hrequired : requiredMinutes facts row with
  | error e => rw [hrequired] at h; cases h
  | ok required =>
    rw [hrequired] at h
    cases h
    exact ⟨rfl, rfl, rfl⟩

end Report

/-! ## Netted totals

A total over intervals nets a surplus against a shortage, so it can be zero where an interval is
short. -/

/-- A netted sum is at most the sum of the positive parts. -/
theorem max_sum_le (xs : List ℚ) : max 0 xs.sum ≤ (xs.map fun x => max 0 x).sum := by
  induction xs with
  | nil => simp
  | cons x xs ih =>
    rw [List.sum_cons, List.map_cons, List.sum_cons]
    have hx := le_max_right 0 x
    have hx' := le_max_left 0 x
    have hsum := le_max_right 0 xs.sum
    have hsum' := le_max_left 0 xs.sum
    exact max_le (by linarith) (by linarith)

/-- **Netting is exact** when no number is positive beside a negative one, and only then. -/
theorem max_sum_eq_iff (xs : List ℚ) : max 0 xs.sum = (xs.map fun x => max 0 x).sum ↔
    (∀ x ∈ xs, 0 ≤ x) ∨ ∀ x ∈ xs, x ≤ 0 := by
  constructor
  · intro h
    by_contra hmixed
    rw [not_or, not_forall, not_forall] at hmixed
    obtain ⟨⟨x, hx⟩, ⟨y, hy⟩⟩ := hmixed
    rw [Classical.not_imp, not_le] at hx hy
    -- the positive parts are more than nothing, because of `y`, and more than the sum, because of
    -- `x`
    have hpositive : 0 < (xs.map fun x => max 0 x).sum := by
      have hle : max 0 y ≤ (xs.map fun x => max 0 x).sum := by
        apply List.single_le_sum
        · intro z hz
          obtain ⟨x', -, rfl⟩ := List.mem_map.mp hz
          exact le_max_left _ _
        · exact List.mem_map.mpr ⟨y, hy.1, rfl⟩
      exact lt_of_lt_of_le (lt_max_of_lt_right hy.2) hle
    have hmore : xs.sum < (xs.map fun x => max 0 x).sum := by
      have hlt : (xs.map id).sum < (xs.map fun x => max 0 x).sum :=
        List.sum_lt_sum id (fun x => max 0 x) (fun x _ => le_max_right _ _)
          ⟨x, hx.1, lt_max_of_lt_left hx.2⟩
      rwa [List.map_id] at hlt
    rcases max_choice 0 xs.sum with hmax | hmax
    · rw [hmax] at h
      exact absurd h hpositive.ne
    · rw [hmax] at h
      exact absurd h hmore.ne
  · intro h
    rcases h with h | h
    · have hparts : (xs.map fun x => max 0 x) = xs := by
        conv_rhs => rw [← List.map_id xs]
        exact List.map_congr_left fun x hx => max_eq_right (h x hx)
      rw [hparts, max_eq_right (List.sum_nonneg h)]
    · have hparts : (xs.map fun x => max 0 x) = xs.map fun _ => (0 : ℚ) :=
        List.map_congr_left fun x hx => max_eq_left (h x hx)
      have hle := max_sum_le xs
      rw [hparts, List.map_const', List.sum_replicate, nsmul_zero] at hle
      rw [hparts, List.map_const', List.sum_replicate, nsmul_zero]
      exact le_antisymm hle (le_max_left _ _)

theorem sum_map_sub (rows : List RowCoverage) :
    (rows.map RowCoverage.required).sum - (rows.map RowCoverage.served).sum =
      (rows.map fun r => r.required - r.served).sum := by
  induction rows with
  | nil => simp
  | cons r rows ih =>
    simp only [List.map_cons, List.sum_cons, ← ih]
    ring

/-! ## The gaps of a comparison -/

theorem perm_sortPairs (pairs : List (String × ℚ)) : (sortPairs pairs).Perm pairs :=
  List.perm_insertionSort _ pairs

/-- With distinct record ids, a comparison lists no gap exactly when no interval is short. -/
theorem unresolved_iff {metrics : MetricSetV1} {rows : List RowCoverage}
    (hids : (rows.map RowCoverage.recordId).Nodup)
    (hrequired : metrics.intervalCoverageRequiredMinutes =
      sortPairs (rows.map fun r => (r.recordId, r.required)))
    (hserved : metrics.intervalCoverageServedMinutes =
      sortPairs (rows.map fun r => (r.recordId, r.served))) :
    unresolvedGapRecordIds metrics = [] ↔ ∀ r ∈ rows, r.required ≤ r.served := by
  have hkeys : ((sortPairs (rows.map fun r => (r.recordId, r.served))).map Prod.fst).Nodup := by
    rw [((perm_sortPairs _).map Prod.fst).nodup_iff, List.map_map]
    exact hids
  have hget : ∀ r ∈ rows, (Dict.get? (Dict.ofPairs
      (sortPairs (rows.map fun r => (r.recordId, r.served)))) r.recordId).getD 0 = r.served := by
    intro r hr
    rw [Dict.get?_ofPairs_of_mem hkeys
      ((perm_sortPairs _).mem_iff.mpr (List.mem_map.mpr ⟨r, hr, rfl⟩))]
    rfl
  unfold unresolvedGapRecordIds
  simp only [hrequired, hserved, List.map_eq_nil_iff, List.filter_eq_nil_iff, decide_eq_true_eq,
    not_lt]
  constructor
  · intro h r hr
    have hle := h (r.recordId, r.required)
      ((perm_sortPairs _).mem_iff.mpr (List.mem_map.mpr ⟨r, hr, rfl⟩))
    rw [hget r hr] at hle
    exact hle
  · intro h pair hpair
    obtain ⟨r, hr, rfl⟩ := List.mem_map.mp ((perm_sortPairs _).mem_iff.mp hpair)
    rw [hget r hr]
    exact h r hr

/-- **`unmet_minutes` is a netted total.** It is what the required minutes of all intervals exceed
the served ones by, and at most the sum of the intervals' shortfalls. It is that sum, and so zero
exactly when no interval is short and a comparison lists no gap, exactly when no interval is served
beyond what it requires while another is short. -/
theorem unmetMinutes_netted {assignments : List AssignmentV1} {tasks : List TaskV1}
    {demand : List DemandIntervalV1} {facts : ValidationFactsV1}
    {constraints : List DraftConstraintV1} {metrics : MetricSetV1}
    {soft : List ConstraintResultV1}
    (h : calculateCandidateMetrics assignments tasks demand facts constraints =
      .ok (metrics, soft)) :
    ∃ rows, demand.mapM (rowCoverage assignments tasks facts) = .ok rows ∧
      unmetMinutes metrics =
        max 0 ((rows.map RowCoverage.required).sum - (rows.map RowCoverage.served).sum) ∧
      unmetMinutes metrics ≤ shortfallMinutes rows ∧
      (unmetMinutes metrics = shortfallMinutes rows ↔
        (∀ r ∈ rows, r.served ≤ r.required) ∨ ∀ r ∈ rows, r.required ≤ r.served) ∧
      (shortfallMinutes rows = 0 ↔ ∀ r ∈ rows, r.required ≤ r.served) ∧
      ((demand.map DemandIntervalV1.recordId).Nodup →
        (unresolvedGapRecordIds metrics = [] ↔ ∀ r ∈ rows, r.required ≤ r.served)) := by
  obtain ⟨rows, hrows, hrequired, hserved, hunmet⟩ := rows_of_calculate h
  -- the shortfalls are the positive parts of the differences whose sum is the total
  have hparts : shortfallMinutes rows =
      ((rows.map fun r => r.required - r.served).map fun x => max 0 x).sum := by
    rw [List.map_map]
    rfl
  rw [sum_map_sub] at hunmet
  refine ⟨rows, hrows, by rw [hunmet, sum_map_sub], ?_, ?_, ?_, ?_⟩
  · rw [hunmet, hparts]
    exact max_sum_le _
  · rw [hunmet, hparts, max_sum_eq_iff, or_comm]
    simp only [List.forall_mem_map, sub_nonneg, sub_nonpos]
    exact or_comm
  · constructor
    · -- each shortfall is at most their sum
      intro hzero r hr
      have hle : max 0 (r.required - r.served) ≤ shortfallMinutes rows := by
        rw [hparts]
        apply List.single_le_sum
        · intro x hx
          obtain ⟨y, -, rfl⟩ := List.mem_map.mp hx
          exact le_max_left _ _
        · rw [List.map_map]
          exact List.mem_map.mpr ⟨r, hr, rfl⟩
      rw [hzero] at hle
      exact sub_nonpos.mp (le_trans (le_max_right _ _) hle)
    · intro hall
      have hzero : (rows.map fun r => max 0 (r.required - r.served)) = rows.map fun _ => (0 : ℚ) :=
        List.map_congr_left fun r hr => max_eq_left (sub_nonpos.mpr (hall r hr))
      unfold shortfallMinutes
      rw [hzero, List.map_const', List.sum_replicate, nsmul_zero]
  · intro hids
    refine unresolved_iff ?_ hrequired hserved
    rw [Fallible.map_eq_of_mapM (fun _ _ hrow => (rowCoverage_fields hrow).1) hrows]
    exact hids

namespace Depot

/-- Ana and Ben each put away for the whole first hour. -/
def assignments : List AssignmentV1 :=
  ["w1", "w2"].map fun worker =>
    { recordId := worker, workerId := worker, taskId := "putaway", shiftId := some "s1"
      startMinute := 0, endMinute := 60 }

/-- One head for putting away in each of two hours. -/
def demand : List DemandIntervalV1 :=
  [⟨"indirect:0", .indirect, "putaway", none, 0, 60, 1, .headcount⟩,
    ⟨"indirect:1", .indirect, "putaway", none, 60, 120, 1, .headcount⟩]

def facts : ValidationFactsV1 where
  horizonMinutes := 10080
  workers := ["w1", "w2"].map fun worker => ⟨worker, "casual", 8, 30, [⟨"putaway", 10⟩], []⟩
  selectedShifts := []
  maxHoursPerWeek := []
  maxShiftsPerDay := []
  minimumGapMinutes := 0

/-- What the calculator returns there. -/
def report : MetricSetV1 × List ConstraintResultV1 :=
  match calculateCandidateMetrics assignments [] demand facts [] with
  | .ok report => report
  | .error _ => ({}, [])

theorem calculate_report :
    calculateCandidateMetrics assignments [] demand facts [] = .ok report := by
  decide +kernel

end Depot

/-- The depot's two intervals, one served twice over and one not at all. -/
theorem unmetMinutes_netted_depot :
    ∃ rows, Depot.demand.mapM (rowCoverage Depot.assignments [] Depot.facts) = .ok rows ∧
      unmetMinutes Depot.report.1 =
        max 0 ((rows.map RowCoverage.required).sum - (rows.map RowCoverage.served).sum) ∧
      unmetMinutes Depot.report.1 ≤ shortfallMinutes rows ∧
      (unmetMinutes Depot.report.1 = shortfallMinutes rows ↔
        (∀ r ∈ rows, r.served ≤ r.required) ∨ ∀ r ∈ rows, r.required ≤ r.served) ∧
      (shortfallMinutes rows = 0 ↔ ∀ r ∈ rows, r.required ≤ r.served) ∧
      (unresolvedGapRecordIds Depot.report.1 = [] ↔ ∀ r ∈ rows, r.required ≤ r.served) := by
  obtain ⟨rows, hrows, hunmet, hle, hexact, hshort, hgaps⟩ :=
    unmetMinutes_netted Depot.calculate_report
  exact ⟨rows, hrows, hunmet, hle, hexact, hshort, hgaps (by decide)⟩

/-- **A surplus hides a shortfall.** The second hour is not served at all and a comparison lists it
as a gap, while `unmet_minutes` is zero. -/
theorem surplus_hides_shortfall :
    ∃ metrics soft rows,
      calculateCandidateMetrics Depot.assignments [] Depot.demand Depot.facts [] =
        .ok (metrics, soft) ∧
      Depot.demand.mapM (rowCoverage Depot.assignments [] Depot.facts) = .ok rows ∧
      unmetMinutes metrics = 0 ∧ unresolvedGapRecordIds metrics = ["indirect:1"] ∧
      shortfallMinutes rows = 60 :=
  ⟨Depot.report.1, Depot.report.2,
    [⟨"indirect:0", "putaway", "Unknown", 60, 120⟩, ⟨"indirect:1", "putaway", "Unknown", 60, 0⟩],
    Depot.calculate_report, by decide +kernel, by decide +kernel, by decide +kernel,
    by decide +kernel⟩

/-! ## Served minutes

A minute serves two rows of a task where both contain it. -/

/-- The minutes of an interval. -/
def minutes (start stop : Int) : Finset Int :=
  @Finset.Ico Int Int.instLinearOrder.toPartialOrder.toPreorder inferInstance start stop

/-- The assignments on a task. -/
def assignmentsOn (assignments : List AssignmentV1) (taskId : String) : List AssignmentV1 :=
  assignments.filter fun a => a.taskId = taskId

/-- The demand rows of a task. -/
def rowsOn (demand : List DemandIntervalV1) (taskId : String) : List DemandIntervalV1 :=
  demand.filter fun row => row.taskId = taskId

/-- The minutes assigned to a task. -/
def assignedOn (assignments : List AssignmentV1) (taskId : String) : Nat :=
  ((assignmentsOn assignments taskId).map fun a =>
    (minutes a.startMinute a.endMinute).card).sum

/-- The minutes that the calculator attributes to the demand rows of a task. -/
def servedOn (assignments : List AssignmentV1) (demand : List DemandIntervalV1)
    (taskId : String) : ℚ :=
  ((rowsOn demand taskId).map (servedMinutes assignments)).sum

/-- How many rows ask for a minute. -/
def rowsAt (rows : List DemandIntervalV1) (minute : Int) : Nat :=
  rows.countP fun row => minute ∈ minutes row.startMinute row.endMinute

/-- The assigned minutes that some row of the task asks for, each of them once. -/
def wantedOn (assignments : List AssignmentV1) (demand : List DemandIntervalV1)
    (taskId : String) : Nat :=
  ((assignmentsOn assignments taskId).map fun a =>
    ((minutes a.startMinute a.endMinute).filter fun minute =>
      rowsAt (rowsOn demand taskId) minute ≠ 0).card).sum

/-- The assigned minutes that more than one row of the task asks for, each as often as there are
rows beyond the first. -/
def repeatedOn (assignments : List AssignmentV1) (demand : List DemandIntervalV1)
    (taskId : String) : Nat :=
  ((assignmentsOn assignments taskId).map fun a =>
    ∑ minute ∈ minutes a.startMinute a.endMinute,
      (rowsAt (rowsOn demand taskId) minute - 1)).sum

/-- The overlap of two intervals is the number of their common minutes. -/
theorem overlap_eq_card (start stop start' stop' : Int) :
    overlap start stop start' stop' = ((minutes start stop ∩ minutes start' stop').card : Int) := by
  unfold minutes overlap
  rw [Finset.Ico_inter_Ico, Int.card_Ico, Int.toNat_eq_max, max_comm]

theorem rowsAt_cons (row : DemandIntervalV1) (rows : List DemandIntervalV1) (minute : Int) :
    rowsAt (row :: rows) minute =
      rowsAt rows minute + if minute ∈ minutes row.startMinute row.endMinute then 1 else 0 := by
  unfold rowsAt
  rw [List.countP_cons]
  simp only [decide_eq_true_eq]

/-- What one assignment serves, minute by minute. -/
theorem sum_overlap_eq (a : AssignmentV1) (rows : List DemandIntervalV1) :
    (rows.map fun row => overlap a.startMinute a.endMinute row.startMinute row.endMinute).sum =
      ((∑ minute ∈ minutes a.startMinute a.endMinute, rowsAt rows minute : Nat) : Int) := by
  induction rows with
  | nil => simp [rowsAt]
  | cons row rows ih =>
    rw [List.map_cons, List.sum_cons, ih, Finset.sum_congr rfl fun minute _ =>
      rowsAt_cons row rows minute, Finset.sum_add_distrib, ← Finset.card_filter, overlap_eq_card,
      Finset.filter_mem_eq_inter]
    push_cast
    ring

/-- A row is served by all assignments of its task; the others overlap it in no minute. -/
theorem servedMinutes_eq (assignments : List AssignmentV1) (row : DemandIntervalV1) :
    servedMinutes assignments row = ((((assignmentsOn assignments row.taskId).map fun a =>
      overlap a.startMinute a.endMinute row.startMinute row.endMinute).sum : Int) : ℚ) := by
  unfold servedMinutes assignmentsOn
  simp only
  congr 1
  induction assignments with
  | nil => rfl
  | cons a assignments ih =>
    simp only [ne_eq, decide_not] at ih
    by_cases htask : a.taskId = row.taskId
    · by_cases hzero : overlap a.startMinute a.endMinute row.startMinute row.endMinute = 0
      · simp [htask, hzero, ih]
      · simp [htask, hzero, ih]
    · simp [htask, ih]

/-- **Double counting.** The minutes attributed to the rows of a task are the minutes assigned to
it, each as often as there are rows that ask for it. -/
theorem servedOn_eq (assignments : List AssignmentV1) (demand : List DemandIntervalV1)
    (taskId : String) : servedOn assignments demand taskId =
      ((((assignmentsOn assignments taskId).map fun a =>
        ∑ minute ∈ minutes a.startMinute a.endMinute,
          rowsAt (rowsOn demand taskId) minute).sum : Nat) : ℚ) := by
  -- all rows are for one task, so each is served by its assignments
  have hrows : (rowsOn demand taskId).map (servedMinutes assignments) =
      (rowsOn demand taskId).map fun row => ((((assignmentsOn assignments taskId).map fun a =>
        overlap a.startMinute a.endMinute row.startMinute row.endMinute).sum : Int) : ℚ) := by
    apply List.map_congr_left
    intro row hrow
    have htask : row.taskId = taskId := by simpa [rowsOn] using (List.mem_filter.mp hrow).2
    rw [servedMinutes_eq, htask]
  have hcast : ∀ f : DemandIntervalV1 → Int,
      ((rowsOn demand taskId).map fun row => (f row : ℚ)).sum =
        (((rowsOn demand taskId).map f).sum : Int) := by
    intro f
    rw [Int.cast_list_sum, List.map_map]
    rfl
  -- summed by assignment instead of by row
  have hswap : ((rowsOn demand taskId).map fun row =>
      ((assignmentsOn assignments taskId).map fun a =>
        overlap a.startMinute a.endMinute row.startMinute row.endMinute).sum).sum =
      ((assignmentsOn assignments taskId).map fun a => ((rowsOn demand taskId).map fun row =>
        overlap a.startMinute a.endMinute row.startMinute row.endMinute).sum).sum :=
    by
      simpa only [Multiset.map_coe, Multiset.sum_coe] using
        Multiset.sum_map_sum_map (rowsOn demand taskId : Multiset DemandIntervalV1)
          (assignmentsOn assignments taskId : Multiset AssignmentV1)
  unfold servedOn
  rw [hrows, hcast, hswap]
  simp only [sum_overlap_eq]
  rw [← Int.cast_natCast, Nat.cast_list_sum, List.map_map]
  rfl

/-- Each assigned minute that a row asks for is counted once, and once more for every row beyond
the first. -/
theorem counted_eq (assignments : List AssignmentV1) (demand : List DemandIntervalV1)
    (taskId : String) :
    ((assignmentsOn assignments taskId).map fun a =>
      ∑ minute ∈ minutes a.startMinute a.endMinute, rowsAt (rowsOn demand taskId) minute).sum =
      wantedOn assignments demand taskId + repeatedOn assignments demand taskId := by
  unfold wantedOn repeatedOn
  rw [← List.sum_map_add]
  congr 1
  apply List.map_congr_left
  intro a _
  rw [Finset.card_filter, ← Finset.sum_add_distrib]
  apply Finset.sum_congr rfl
  intro minute _
  split
  · omega
  · omega

theorem wantedOn_le (assignments : List AssignmentV1) (demand : List DemandIntervalV1)
    (taskId : String) : wantedOn assignments demand taskId ≤ assignedOn assignments taskId :=
  List.sum_le_sum fun _ _ => Finset.card_filter_le _ _

/-- **Served minutes are conserved**: those attributed to the rows of a task are within the minutes
assigned to it, and no assigned minute is counted for two rows. -/
structure Conserved (assignments : List AssignmentV1) (demand : List DemandIntervalV1) :
    Prop where
  within : ∀ taskId, servedOn assignments demand taskId ≤ assignedOn assignments taskId
  once : ∀ taskId, servedOn assignments demand taskId = wantedOn assignments demand taskId

/-- Nothing is counted again where no minute of an assignment is asked for twice. -/
theorem conserved_iff_repeatedOn {assignments : List AssignmentV1}
    {demand : List DemandIntervalV1} :
    Conserved assignments demand ↔ ∀ taskId, repeatedOn assignments demand taskId = 0 := by
  constructor
  · intro h taskId
    have hcounted := counted_eq assignments demand taskId
    have honce := h.once taskId
    rw [servedOn_eq, Nat.cast_inj] at honce
    omega
  · intro h
    have honce : ∀ taskId, servedOn assignments demand taskId =
        wantedOn assignments demand taskId := by
      intro taskId
      have hcounted := counted_eq assignments demand taskId
      rw [h taskId, Nat.add_zero] at hcounted
      rw [servedOn_eq, hcounted]
    refine ⟨fun taskId => ?_, honce⟩
    rw [honce taskId, Nat.cast_le]
    exact wantedOn_le assignments demand taskId

/-- No worker does two things at once. -/
def OneTaskAtOnce (assignments : List AssignmentV1) : Prop :=
  assignments.Pairwise fun a b => a.workerId = b.workerId →
    minutes a.startMinute a.endMinute ∩ minutes b.startMinute b.endMinute = ∅

/-- No two demand rows of one task ask for the same minute. -/
def RowsApart (demand : List DemandIntervalV1) : Prop :=
  demand.Pairwise fun row row' => row.taskId = row'.taskId →
    min row.endMinute row'.endMinute ≤ max row.startMinute row'.startMinute

/-- Some assignment can be calculated with: a worker is known, and all demand converts. -/
def Calculable (demand : List DemandIntervalV1) (facts : ValidationFactsV1) : Prop :=
  facts.workers ≠ [] ∧ ∀ row ∈ demand, Convertible facts row

/-- No two demand rows of an assignment's task ask for the same minute of it. -/
def RowsApartWithin (a : AssignmentV1) (demand : List DemandIntervalV1) : Prop :=
  (rowsOn demand a.taskId).Pairwise fun row row' =>
    min a.endMinute (min row.endMinute row'.endMinute) ≤
      max a.startMinute (max row.startMinute row'.startMinute)

/-- Minutes are asked for once at most exactly where no two rows share one. -/
theorem rowsAt_le_one_iff (p : Int → Prop) (rows : List DemandIntervalV1) :
    (∀ minute, p minute → rowsAt rows minute ≤ 1) ↔
      rows.Pairwise fun row row' => ∀ minute, p minute →
        minute ∈ minutes row.startMinute row.endMinute →
          minute ∉ minutes row'.startMinute row'.endMinute := by
  induction rows with
  | nil => simp [rowsAt]
  | cons row rows ih =>
    rw [List.pairwise_cons, ← ih]
    constructor
    · intro h
      refine ⟨fun row' hrow' minute hp hmem hmem' => ?_, fun minute hp => ?_⟩
      · -- the first row and a later one both count the minute
        have hle := h minute hp
        have hpos : 0 < rowsAt rows minute :=
          List.countP_pos_iff.mpr ⟨row', hrow', decide_eq_true hmem'⟩
        rw [rowsAt_cons, if_pos hmem] at hle
        omega
      · have hle := h minute hp
        rw [rowsAt_cons] at hle
        omega
    · rintro ⟨hfirst, hrest⟩ minute hp
      rw [rowsAt_cons]
      split
      · rename_i hmem
        have hnone : rowsAt rows minute = 0 := by
          apply List.countP_eq_zero.mpr
          intro row' hrow' hmem'
          exact hfirst row' hrow' minute hp hmem (of_decide_eq_true hmem')
        omega
      · exact hrest minute hp

/-- Rows are apart exactly when each minute is asked for once at most, whatever the task. -/
theorem rowsApart_iff (demand : List DemandIntervalV1) :
    RowsApart demand ↔ ∀ taskId minute, rowsAt (rowsOn demand taskId) minute ≤ 1 := by
  constructor
  · intro hapart taskId minute
    refine (rowsAt_le_one_iff (fun _ => True) _).mpr ?_ minute trivial
    refine List.pairwise_filter.mpr (hapart.imp fun {row row'} h hrow hrow' minute _ => ?_)
    have hle := h ((of_decide_eq_true hrow).trans (of_decide_eq_true hrow').symm)
    simp only [minutes, Finset.mem_Ico]
    omega
  · intro hone
    refine List.pairwise_iff_forall_sublist.mpr fun {row row'} hsub htask => ?_
    have hpairs := List.pairwise_filter.mp
      ((rowsAt_le_one_iff (fun _ => True) _).mp fun minute _ => hone row.taskId minute)
    have hnot := List.pairwise_iff_forall_sublist.mp hpairs hsub (decide_eq_true rfl)
      (decide_eq_true htask.symm) (max row.startMinute row'.startMinute) trivial
    simp only [minutes, Finset.mem_Ico] at hnot
    omega

/-- The minutes of an assignment are asked for once at most exactly when its rows are apart within
it. -/
theorem rowsApartWithin_iff (a : AssignmentV1) (demand : List DemandIntervalV1) :
    RowsApartWithin a demand ↔ ∀ minute ∈ minutes a.startMinute a.endMinute,
      rowsAt (rowsOn demand a.taskId) minute ≤ 1 := by
  rw [rowsAt_le_one_iff (· ∈ minutes a.startMinute a.endMinute)]
  refine List.pairwise_iff_forall_sublist.trans (Iff.trans ?_ List.pairwise_iff_forall_sublist.symm)
  refine forall_congr' fun row => forall_congr' fun row' => forall_congr' fun _ => ?_
  simp only [minutes, Finset.mem_Ico]
  constructor
  · intro hle minute hmem hmem'
    omega
  · intro hnot
    by_contra hlt
    have hboth := hnot (max a.startMinute (max row.startMinute row'.startMinute))
    omega

/-- One known worker's assignment to one minute of a task. -/
def minuteOn (worker : WorkerSchedulingFactV1) (taskId : String) (minute : Int) : AssignmentV1 where
  recordId := "minute"
  workerId := worker.workerId
  taskId := taskId
  shiftId := none
  startMinute := minute
  endMinute := minute + 1

theorem minutes_minuteOn (worker : WorkerSchedulingFactV1) (taskId : String) (minute : Int) :
    minutes (minuteOn worker taskId minute).startMinute
      (minuteOn worker taskId minute).endMinute = {minute} := by
  ext m
  simp only [minuteOn, minutes, Finset.mem_Ico, Finset.mem_singleton]
  omega

/-- **One list of assignments.** Its minutes are conserved exactly when no two rows of a task share
a minute at which an assignment to it works. -/
theorem conserved_iff {assignments : List AssignmentV1} {demand : List DemandIntervalV1} :
    Conserved assignments demand ↔ ∀ a ∈ assignments, RowsApartWithin a demand := by
  rw [conserved_iff_repeatedOn]
  constructor
  · intro hnone a ha
    have hzero := List.sum_eq_zero_iff.mp (hnone a.taskId) _ (List.mem_map.mpr
      ⟨a, List.mem_filter.mpr ⟨ha, decide_eq_true rfl⟩, rfl⟩)
    rw [rowsApartWithin_iff]
    intro minute hmem
    have hterm := Finset.sum_eq_zero_iff.mp hzero minute hmem
    omega
  · intro hapart taskId
    apply List.sum_eq_zero_iff.mpr
    intro n hn
    obtain ⟨a, ha, rfl⟩ := List.mem_map.mp hn
    obtain ⟨hmem, htask⟩ := List.mem_filter.mp ha
    apply Finset.sum_eq_zero
    intro minute hminute
    have hle := (rowsApartWithin_iff a demand).mp (hapart a hmem) minute hminute
    rw [of_decide_eq_true htask] at hle
    omega

/-- What a calculation with some assignment presupposes. -/
theorem calculable_of_calculate {assignments : List AssignmentV1} {tasks : List TaskV1}
    {demand : List DemandIntervalV1} {facts : ValidationFactsV1}
    {constraints : List DraftConstraintV1} {r : MetricSetV1 × List ConstraintResultV1}
    (h : calculateCandidateMetrics assignments tasks demand facts constraints = .ok r)
    (hsome : ∃ a, a ∈ assignments) : Calculable demand facts := by
  obtain ⟨a, ha⟩ := hsome
  unfold calculateCandidateMetrics at h
  cases hrows : demand.mapM (rowCoverage assignments tasks facts) with
  | error e => simp [bind, Except.bind, hrows] at h
  | ok rows =>
    cases hcosts : assignments.mapM (assignmentCost facts) with
    | error e => simp [bind, Except.bind, hrows, hcosts] at h
    | ok costs =>
      constructor
      · obtain ⟨cost, hcost⟩ := Fallible.mapM_isOk_iff.mp ⟨costs, hcosts⟩ a ha
        intro hnone
        -- no worker, and so no wage
        have hget : Dict.get? (workersById facts) a.workerId = none := by
          unfold workersById
          rw [hnone]
          rfl
        simp [assignmentCost, workerNamed, hget, bind, Except.bind] at hcost
      · intro row hrow
        exact (rowCoverage_isOk_iff ..).mp (Fallible.mapM_isOk_iff.mp ⟨rows, hrows⟩ row hrow)

/-- **When served minutes are conserved.** For one list of assignments, the minutes that the
calculator attributes to the demand rows of every task are within the minutes assigned to it, none
of them counted for two rows, exactly when no two rows of a task share a minute at which an
assignment to it works. And for one problem this holds of every list that the calculator accepts
exactly when no two demand rows of one task share a minute, unless it accepts no assignment at
all. -/
theorem servedMinutes_conserved_iff (tasks : List TaskV1) (demand : List DemandIntervalV1)
    (facts : ValidationFactsV1) (constraints : List DraftConstraintV1) :
    (∀ assignments, Conserved assignments demand ↔
      ∀ a ∈ assignments, RowsApartWithin a demand) ∧
    ((∀ assignments, OneTaskAtOnce assignments →
      (∃ r, calculateCandidateMetrics assignments tasks demand facts constraints = .ok r) →
        Conserved assignments demand) ↔
      (Calculable demand facts → RowsApart demand)) := by
  refine ⟨fun assignments => conserved_iff, ?_, ?_⟩
  · intro hconserved hcalculable
    rw [rowsApart_iff]
    intro taskId minute
    obtain ⟨worker, hworker⟩ := List.exists_mem_of_ne_nil _ hcalculable.1
    -- a single minute of one known worker, on the task in question
    have hknown : WorkersKnown [minuteOn worker taskId minute] facts := by
      intro a ha
      rw [List.mem_singleton.mp ha]
      exact Dict.get?_indexBy_isSome hworker
    have hone := hconserved [minuteOn worker taskId minute] (List.pairwise_singleton _ _)
      ((calculateCandidateMetrics_isOk_iff hknown).mpr hcalculable.2)
    have hwithin := (rowsApartWithin_iff _ demand).mp
      (conserved_iff.mp hone _ (List.mem_singleton_self _))
    apply hwithin
    rw [minutes_minuteOn]
    exact Finset.mem_singleton_self minute
  · intro hapart assignments _ hok
    rw [conserved_iff]
    intro a ha
    -- the calculator accepted this assignment, so the problem is one it can calculate with
    obtain ⟨r, hr⟩ := hok
    have hrows := (rowsApart_iff demand).mp (hapart (calculable_of_calculate hr ⟨a, ha⟩))
    exact (rowsApartWithin_iff a demand).mpr fun minute _ => hrows a.taskId minute

/-- **One minute serves two rows.** Ana puts away for an hour in which an outbound and an inbound
row ask for putting away; the hour is attributed to both. -/
theorem minute_serves_two_rows :
    let assignments := Depot.assignments.take 1
    let demand : List DemandIntervalV1 :=
      [⟨"outbound:0", .outbound, "putaway", none, 0, 60, 10, .volume⟩,
        ⟨"inbound:0:0", .inbound, "putaway", none, 0, 60, 10, .volume⟩]
    OneTaskAtOnce assignments ∧
    (∃ r, calculateCandidateMetrics assignments [] demand Depot.facts [] = .ok r) ∧
    assignedOn assignments "putaway" = 60 ∧ servedOn assignments demand "putaway" = 120 ∧
    ¬ Conserved assignments demand := by
  have hserved : servedOn (Depot.assignments.take 1)
      [⟨"outbound:0", .outbound, "putaway", none, 0, 60, 10, .volume⟩,
        ⟨"inbound:0:0", .inbound, "putaway", none, 0, 60, 10, .volume⟩] "putaway" = 120 := by
    decide +kernel
  have hassigned : assignedOn (Depot.assignments.take 1) "putaway" = 60 := by decide +kernel
  refine ⟨List.pairwise_singleton _ _, ?_, hassigned, hserved, fun hconserved => ?_⟩
  · refine (calculateCandidateMetrics_isOk_iff fun a ha => ?_).mpr (by decide +kernel)
    rw [List.mem_singleton.mp ha]
    exact ⟨_, rfl⟩
  · have hle := hconserved.within "putaway"
    rw [hserved, hassigned] at hle
    norm_num at hle

end ShiftMind.CandidateMetrics
