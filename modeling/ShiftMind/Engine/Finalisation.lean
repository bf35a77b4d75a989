import ShiftMind.Engine.GovernedAdapter
import ShiftMind.UseCases.LeaseAndExecute
import ShiftMind.Engine.CountedDemand

/-!
# ShiftMind — what becomes of a governed solve

The outcome of the governed adapter on its way through `finalize_schedule_run`. Two things can
keep a solution that passed the hard-constraint check from becoming a candidate:

* **the metrics calculator raises** — a volume row of the problem has no usable qualified rate
  (`DemandConvertible` fails);
* **the second round ends without a solution** — the adapter then reports the first round's
  assignments under the second round's status, and `_terminal` reads nothing but the status.
-/

namespace ShiftMind.Engine

open CandidateMetrics HardConstraints Transactional

/-! ## Demand that converts to minutes -/

namespace CpSatBuilder

variable (b : CpSatBuilder)

/-- The rates of the members qualified for a task, one for each qualification row. -/
def qualifiedRates (taskId : String) : List ℚ :=
  ((b.p.members.flatMap Member.qualifications).filter fun q => q.taskId = taskId).map
    Qualification.rate

/-- **Every volume row of the problem has a rate**: some member is qualified for its task, and the
rates of its qualified members do not add up to zero. -/
def DemandConvertible : Prop :=
  ∀ band ∈ b.p.demand, band.family ≠ .indirect →
    b.qualifiedRates band.taskId ≠ [] ∧ (b.qualifiedRates band.taskId).sum ≠ 0

instance : Decidable b.DemandConvertible :=
  inferInstanceAs (Decidable (∀ band ∈ b.p.demand, _))

variable {b}

/-- The calculator sees the rates the problem has. -/
theorem qualifiedRates_validationFacts (digest : DigestInput → String)
    (values : Option (Var → Int)) (taskId : String) :
    CandidateMetrics.qualifiedRates (b.validationFacts digest values) taskId =
      b.qualifiedRates taskId := by
  have hfacts : (b.validationFacts digest values).workers.flatMap
        WorkerSchedulingFactV1.qualifications =
      (b.p.members.flatMap Member.qualifications).map
        fun q => (⟨q.taskId, q.rate⟩ : QualificationRefV1) := by
    rw [List.map_flatMap]
    show (b.p.members.map workerFact).flatMap _ = _
    rw [List.flatMap_map]
    rfl
  rw [CandidateMetrics.qualifiedRates, hfacts, Dict.getD_groupBy, List.filter_map, List.map_map]
  rfl

/-- The rows the calculator reads convert exactly when the bands of the problem do. -/
theorem convertible_iff (digest : DigestInput → String) (values : Option (Var → Int)) :
    (∀ row ∈ (b.validationFacts digest values).demandIntervals,
      Convertible (b.validationFacts digest values) row) ↔ b.DemandConvertible := by
  have hrow : ∀ band, Convertible (b.validationFacts digest values) (demandFact digest band) ↔
      (band.family ≠ .indirect →
        b.qualifiedRates band.taskId ≠ [] ∧ (b.qualifiedRates band.taskId).sum ≠ 0) := by
    intro band
    have hunit : (demandFact digest band).unit = .volume ↔ band.family ≠ .indirect := by
      unfold demandFact
      by_cases hfamily : band.family = .indirect
      · simp [hfamily]
      · simp [hfamily]
    unfold Convertible
    rw [hunit, qualifiedRates_validationFacts]
    rfl
  show (∀ row ∈ b.p.demand.map (demandFact digest), _) ↔ _
  rw [List.forall_mem_map]
  exact forall₂_congr fun band _ => hrow band

end CpSatBuilder

/-! ## Finalising a solution

From the values of a solution to the candidate of the run: the checker, the metrics and the status.
-/

/-- `finalize_schedule_run` gets as far as `repository.finalize_run`, with a terminal status. -/
def ReachesFinalizeRun (env : Ambient) (snapshot : RunSnapshotV1) (outcome : SolverOutcomeV1) :
    Prop :=
  ∃ f, finalized env snapshot outcome = .ok f ∧ f.status.terminal = true

namespace CpSatBuilder

variable {b : CpSatBuilder} {digest : DigestInput → String} (env : Ambient)
  {snapshot : RunSnapshotV1} {status : SolverStatus} {values : Var → Int}

/-- The metrics of a solution, from the facts the adapter reports with it. -/
def metricsOf (b : CpSatBuilder) (digest : DigestInput → String) (snapshot : RunSnapshotV1)
    (values : Var → Int) : Except PyError (MetricSetV1 × List ConstraintResultV1) :=
  calculateCandidateMetrics (b.assignments digest values)
    (b.validationFacts digest (some values)).tasks
    (b.validationFacts digest (some values)).demandIntervals
    (b.validationFacts digest (some values)) snapshot.constraints

theorem metricsOf_isOk_iff
    (hvalid : Valid (b.assignments digest values) (b.validationFacts digest (some values))
      snapshot.preservedLocks) :
    (∃ r, b.metricsOf digest snapshot values = .ok r) ↔ b.DemandConvertible := by
  rw [← convertible_iff digest (some values)]
  exact calculateCandidateMetrics_isOk_iff (workersKnown_of_valid hvalid)

theorem terminalOf_outcome (hstatus : status.hasSolution = true) :
    terminalOf (b.outcome digest { status := status, values := some values }) =
      (.solverCompleted, none) := by
  cases status with
  | optimal => rfl
  | feasible => rfl
  | infeasible => cases hstatus
  | modelInvalid => cases hstatus
  | unknown => cases hstatus

/-- What a finalisation that passed the check makes of the calculator's result. -/
def concluded (env : Ambient) (snapshot : RunSnapshotV1) (outcome : SolverOutcomeV1)
    (hard : List ConstraintResultV1) :
    Except PyError (MetricSetV1 × List ConstraintResultV1) →
      Except PyError FinalizedScheduleRunV1
  | .error (.hardConstraintViolation _) =>
    .ok ⟨.solverFailed, some "hard_constraint_violated", none⟩
  | .error e => .error e
  | .ok (metrics, soft) =>
    .ok ⟨.solverCompleted, none, some (candidateOf env snapshot outcome metrics (hard ++ soft))⟩

/-- A solution that passes the check is finalised as whatever the calculator makes of it. -/
theorem finalized_outcome (hstatus : status.hasSolution = true)
    (hvalid : Valid (b.assignments digest values) (b.validationFacts digest (some values))
      snapshot.preservedLocks) :
    finalized env snapshot (b.outcome digest { status := status, values := some values }) =
      concluded env snapshot (b.outcome digest { status := status, values := some values })
        (validateHardConstraints (b.assignments digest values)
          (b.validationFacts digest (some values)) snapshot.preservedLocks)
        (b.metricsOf digest snapshot values) := by
  unfold finalized
  rw [terminalOf_outcome hstatus]
  have hfacts : (b.outcome digest { status := status, values := some values }).validationFacts =
      some (b.validationFacts digest (some values)) := rfl
  have hrequire : requireHardConstraints
      (b.outcome digest { status := status, values := some values }).assignments
      (b.validationFacts digest (some values)) snapshot.preservedLocks =
      .ok (validateHardConstraints (b.assignments digest values)
        (b.validationFacts digest (some values)) snapshot.preservedLocks) :=
    requireHardConstraints_eq_ok.mp hvalid
  simp only [ne_eq, not_true_eq_false, ↓reduceIte, hfacts, hrequire]
  rfl

/-- What a demand row raises goes through every handler up to the worker's classification, and is
not among the causes that end a job. -/
theorem finalized_error (hstatus : status.hasSolution = true)
    (hvalid : Valid (b.assignments digest values) (b.validationFacts digest (some values))
      snapshot.preservedLocks)
    (hdemand : ¬ b.DemandConvertible) :
    ∃ e, fatalExecutionError e = false ∧
      finalized env snapshot (b.outcome digest { status := status, values := some values }) =
        .error e := by
  have hnone := mt (metricsOf_isOk_iff hvalid).mp hdemand
  rw [finalized_outcome env hstatus hvalid]
  cases hcalc : b.metricsOf digest snapshot values with
  | ok r => exact absurd ⟨r, hcalc⟩ hnone
  | error e =>
    rcases calculateCandidateMetrics_error (workersKnown_of_valid hvalid) hcalc
      with ⟨message, rfl⟩ | rfl
    · exact ⟨_, rfl, rfl⟩
    · exact ⟨_, rfl, rfl⟩

/-- On convertible demand the solution becomes the candidate of a completed run. -/
theorem finalized_completed (hstatus : status.hasSolution = true)
    (hvalid : Valid (b.assignments digest values) (b.validationFacts digest (some values))
      snapshot.preservedLocks)
    (hdemand : b.DemandConvertible) :
    ∃ candidate, candidate.assignments = b.assignments digest values ∧
      finalized env snapshot (b.outcome digest { status := status, values := some values }) =
        .ok ⟨.solverCompleted, none, some candidate⟩ := by
  have hcalc := (metricsOf_isOk_iff hvalid).mpr hdemand
  obtain ⟨⟨metrics, soft⟩, hcalc⟩ := hcalc
  rw [finalized_outcome env hstatus hvalid, hcalc]
  exact ⟨_, rfl, rfl⟩

end CpSatBuilder

/-! ## An hour of receiving -/

namespace Floor

def env : Ambient :=
  ⟨1000000, 1000000, fun k => 100 + k, fun members => toString (members.map Prod.fst)⟩

def digest (input : DigestInput) : String :=
  match input with
  | .assignment workerId taskId _ _ _ => workerId ++ taskId
  | .demand band => band.orderId

def snapshot : RunSnapshotV1 where
  snapshotId := 1
  scheduleRunId := 2
  scenarioId := 3
  scenarioVersionId := 4
  checksumAlgorithm := "sha256"
  checksumSchemaVersion := "rfc8785-v1"
  checksumDigest := "digest"
  baselineScheduleVersion := none
  proposalId := 5
  proposalVersionId := 6
  proposalResourceVersion := 1
  preservedLocks := []
  constraints := []
  acceptedAt := 0
  inputEvidenceRefs := []

/-- Fifty units to receive. -/
def receivingOne : CpSatBuilder := ⟨problem [⟨"receive", .inbound, 0, 1, 50, "IB0"⟩], []⟩

/-- Ana receives for the hour. -/
def works : Var → Int
  | .shift 0 | .task 0 0 => 1
  | _ => 0

end Floor

/-! ## The first round's solution -/

/-- The first round ends with a solution. -/
def SolverOracle.FirstSolved (oracle : SolverOracle) : Prop :=
  oracle.firstBudget = .applied ∧ oracle.first.status.hasSolution = true

/-- The second round runs, and ends with a solution of its own. -/
def SolverOracle.SecondSolved (oracle : SolverOracle) : Prop :=
  oracle.secondBudget = .applied ∧ oracle.second.status.hasSolution = true

instance (oracle : SolverOracle) : Decidable oracle.FirstSolved :=
  inferInstanceAs (Decidable (_ ∧ _))

instance (oracle : SolverOracle) : Decidable oracle.SecondSolved :=
  inferInstanceAs (Decidable (_ ∧ _))

/-- The solution to be kept: the second round's if it found one, the first round's otherwise. -/
def SolverOracle.kept (oracle : SolverOracle) : Var → Int :=
  if oracle.SecondSolved then oracle.second.solution else oracle.first.solution

theorem solveLexicographicGoverned_of_solved {oracle : SolverOracle}
    (hfirst : oracle.FirstSolved) (hsecond : oracle.SecondSolved) :
    solveLexicographicGoverned oracle =
      { status := oracle.second.status, values := some oracle.second.solution } := by
  unfold solveLexicographicGoverned
  simp [hfirst.1, hfirst.2, hsecond.1, hsecond.2]

/-- **The adapter keeps the first solution's values**, but under a status without a solution. -/
theorem solveLexicographicGoverned_of_unsolved {oracle : SolverOracle}
    (hfirst : oracle.FirstSolved) (hsecond : ¬ oracle.SecondSolved) :
    (solveLexicographicGoverned oracle).values = some oracle.first.solution ∧
      (solveLexicographicGoverned oracle).status.hasSolution = false := by
  unfold solveLexicographicGoverned
  simp only [hfirst.1, hfirst.2, ne_eq, not_true_eq_false, ↓reduceIte, Bool.not_true,
    Bool.false_eq_true]
  by_cases hbudget : oracle.secondBudget = .applied
  · have hstatus : oracle.second.status.hasSolution = false := by
      cases h : oracle.second.status.hasSolution with
      | false => rfl
      | true => exact absurd ⟨hbudget, h⟩ hsecond
    simp [hbudget, hstatus]
  · simp [hbudget, SolverStatus.hasSolution]

/-- A status without a solution is never finalised as completed. -/
theorem terminalOf_ne_completed {outcome : SolverOutcomeV1}
    (hstatus : outcome.solverStatus.hasSolution = false) :
    (terminalOf outcome).1 ≠ .solverCompleted := by
  unfold terminalOf
  split_ifs
  · simp
  · simp
  · simp
  · cases h : outcome.solverStatus with
    | optimal => rw [h] at hstatus; cases hstatus
    | feasible => rw [h] at hstatus; cases hstatus
    | infeasible => simp
    | modelInvalid => simp
    | unknown => simp

section FirstRound

variable (b : CpSatBuilder) (digest : DigestInput → String) (env : Ambient)
  (snapshot : RunSnapshotV1)

/-- The governed execution ends with a candidate of the kept solution, in a completed run. -/
def CandidateKept (oracle : SolverOracle) : Prop :=
  ∃ candidate, candidate.assignments = b.assignments digest oracle.kept ∧
    finalized env snapshot (b.outcome digest (solveLexicographicGoverned oracle)) =
      .ok ⟨.solverCompleted, none, some candidate⟩

/-- **When the solution survives**: the first round found one, and what is to be kept passes the
hard-constraint check. The run then completes with it exactly when the second round found a
solution as well and the problem's demand converts to minutes. -/
theorem first_round_kept_iff {oracle : SolverOracle} (hfirst : oracle.FirstSolved)
    (hvalid : Valid (b.assignments digest oracle.kept)
      (b.validationFacts digest (some oracle.kept)) snapshot.preservedLocks) :
    CandidateKept b digest env snapshot oracle ↔
      oracle.SecondSolved ∧ b.DemandConvertible := by
  by_cases hsecond : oracle.SecondSolved
  · have hkept : oracle.kept = oracle.second.solution := if_pos hsecond
    unfold CandidateKept
    rw [hkept, solveLexicographicGoverned_of_solved hfirst hsecond]
    rw [hkept] at hvalid
    constructor
    · intro ⟨candidate, _, hf⟩
      refine ⟨hsecond, ?_⟩
      by_contra hdemand
      have herror := CpSatBuilder.finalized_error env hsecond.2 hvalid hdemand
      obtain ⟨e, -, he⟩ := herror
      rw [he] at hf
      cases hf
    · intro ⟨_, hdemand⟩
      exact CpSatBuilder.finalized_completed env hsecond.2 hvalid hdemand
  · constructor
    · intro ⟨candidate, _, hf⟩
      have hlost := solveLexicographicGoverned_of_unsolved hfirst hsecond
      have hterminal : (terminalOf (b.outcome digest (solveLexicographicGoverned oracle))).1 ≠
          .solverCompleted := terminalOf_ne_completed hlost.2
      -- `finalized` stops at the status, before it looks at the assignments
      unfold finalized at hf
      simp only [if_pos hterminal, Except.ok.injEq, FinalizedScheduleRunV1.mk.injEq] at hf
      exact absurd hf.1 hterminal
    · intro ⟨hsolved, _⟩
      exact absurd hsolved hsecond

end FirstRound

namespace Floor

/-- Round 1 is solved to optimality, and the second round runs out of time. -/
def secondTimesOut : SolverOracle where
  first := ⟨.optimal, works⟩
  second := ⟨.unknown, fun _ => 0⟩

/-- Both rounds are solved to optimality. -/
def bothSolved : SolverOracle where
  first := ⟨.optimal, works⟩
  second := ⟨.optimal, works⟩

end Floor

open CpSatBuilder in
theorem first_round_kept_iff_receiving :
    CandidateKept Floor.receivingOne Floor.digest Floor.env Floor.snapshot Floor.bothSolved := by
  refine (first_round_kept_iff Floor.receivingOne Floor.digest Floor.env Floor.snapshot
    ?_ ?_).mpr ?_
  · decide
  · unfold Valid
    decide +kernel
  · decide +kernel

open CpSatBuilder in
/-- **A lost solution**: round 1 found Ana's hour, it passes the check and its demand converts, and
the run is finalised as timed out, without a candidate. -/
theorem second_round_loses_solution :
    Floor.secondTimesOut.FirstSolved ∧
      Valid (Floor.receivingOne.assignments Floor.digest Floor.secondTimesOut.kept)
        (Floor.receivingOne.validationFacts Floor.digest (some Floor.secondTimesOut.kept))
        Floor.snapshot.preservedLocks ∧
      Floor.receivingOne.DemandConvertible ∧
      finalized Floor.env Floor.snapshot (Floor.receivingOne.outcome Floor.digest
        (solveLexicographicGoverned Floor.secondTimesOut)) =
          .ok ⟨.solverTimedOut, some "budget_exhausted", none⟩ ∧
      ¬ CandidateKept Floor.receivingOne Floor.digest Floor.env Floor.snapshot
        Floor.secondTimesOut := by
  have hfinalized : finalized Floor.env Floor.snapshot (Floor.receivingOne.outcome Floor.digest
      (solveLexicographicGoverned Floor.secondTimesOut)) =
        .ok ⟨.solverTimedOut, some "budget_exhausted", none⟩ := by
    decide +kernel
  refine ⟨?_, ?_, ?_, hfinalized, ?_⟩
  · decide
  · unfold Valid
    decide +kernel
  · decide +kernel
  · intro ⟨candidate, _, hf⟩
    rw [hfinalized] at hf
    cases hf

end ShiftMind.Engine
