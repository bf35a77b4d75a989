import ShiftMind.Store.ScheduleRun
import ShiftMind.Scheduling.CandidateMetrics

/-!
# ShiftMind — finalising and executing a schedule run

`application/use_cases/finalize_schedule_run.py` and
`application/use_cases/execute_schedule_run.py`. `finalized` decides the literal terminal status
of an outcome and assembles its candidate; `finalizeScheduleRun` persists that decision under the
worker's fence. The solver is an oracle: a `Solve` is whatever it returned or raised.
-/

namespace ShiftMind

open Transactional ScheduleRunRepository

/-- `FinalizedScheduleRunV1`. -/
structure FinalizedScheduleRunV1 where
  status : ScheduleRunStatus
  reason : Option String
  candidate : Option ScheduleVersionV1
  deriving DecidableEq, Repr

/-! ## `finalize_schedule_run` -/

/-- `_terminal`: the terminal status an outcome reports. -/
def terminalOf (outcome : SolverOutcomeV1) : ScheduleRunStatus × Option String :=
  if outcome.reason = some "cancelled" then (.solverCancelled, some "cancelled")
  else if outcome.reason = some "deterministic_budget_exhausted" then
    (.solverFailed, some "budget_exhausted")
  -- `if outcome.reason:`, so an empty reason falls through
  else if outcome.reason ≠ none ∧ outcome.reason ≠ some "" then (.solverFailed, outcome.reason)
  else match outcome.solverStatus with
    | .infeasible => (.solverInfeasible, some "model_infeasible")
    | .modelInvalid => (.solverFailed, some "model_invalid")
    | .unknown => (.solverTimedOut, some "budget_exhausted")
    | .optimal | .feasible => (.solverCompleted, none)

/-- The candidate of a completed outcome. -/
def candidateOf (env : Ambient) (snapshot : RunSnapshotV1) (outcome : SolverOutcomeV1)
    (metrics : MetricSetV1) (results : List ConstraintResultV1) : ScheduleVersionV1 where
  scheduleVersionId := env.uuid4 0
  scheduleRunId := snapshot.scheduleRunId
  scenarioId := snapshot.scenarioId
  scenarioVersionId := snapshot.scenarioVersionId
  proposalId := snapshot.proposalId
  proposalVersionId := snapshot.proposalVersionId
  feasibleSolverStatus := outcome.solverStatus
  assignments := outcome.assignments
  metrics := metrics
  constraintResults := results
  warnings := outcome.warnings
  evidenceRefs := snapshot.inputEvidenceRefs.map fun reference =>
    { reference with producingRunVersion := some (toString (env.uuid4 0)) }
  createdAt := env.clock

/-- What `finalize_schedule_run` hands to the repository. Of the exceptions the calculation may
raise only the hard-constraint violation is caught; any other leaves the use case. -/
def finalized (env : Ambient) (snapshot : RunSnapshotV1) (outcome : SolverOutcomeV1) :
    Except PyError FinalizedScheduleRunV1 :=
  let (status, reason) := terminalOf outcome
  if status ≠ .solverCompleted then .ok ⟨status, reason, none⟩
  else match outcome.validationFacts with
    | none => .ok ⟨.solverFailed, some "validation_facts_missing", none⟩
    -- the independent checker has the last word over the solver
    | some facts =>
      match HardConstraints.requireHardConstraints outcome.assignments facts
        snapshot.preservedLocks with
      | .error _ => .ok ⟨.solverFailed, some "hard_constraint_violated", none⟩
      | .ok hard =>
        match CandidateMetrics.calculateCandidateMetrics outcome.assignments facts.tasks
          facts.demandIntervals facts snapshot.constraints with
        | .error (.hardConstraintViolation _) =>
          .ok ⟨.solverFailed, some "hard_constraint_violated", none⟩
        | .error e => .error e
        | .ok (metrics, soft) =>
          .ok ⟨status, reason, some (candidateOf env snapshot outcome metrics (hard ++ soft))⟩

/-- `finalize_schedule_run`, through the repository that injects the lease epoch. -/
def finalizeScheduleRun (env : Ambient) (fencingEpoch : Int) (requestId : Option Uuid)
    (snapshot : RunSnapshotV1) (outcome : SolverOutcomeV1) (siteId : Uuid) :
    DbTx FinalizedScheduleRunV1 := do
  let f ← Tx.lift (finalized env snapshot outcome)
  finalizeRun env snapshot.scheduleRunId siteId fencingEpoch f.status f.reason f.candidate
    (some env.clock) requestId
  pure f

/-! ## `execute_schedule_run` -/

/-- What the solver did: returned an outcome, or raised an exception with an optional `code`. -/
abbrev Solve := Except (Option String) SolverOutcomeV1

/-- A solver exception becomes an unknown outcome that carries its code. -/
def outcomeOf : Solve → SolverOutcomeV1
  | .ok outcome => outcome
  | .error code => { solverStatus := .unknown, reason := some (code.getD "solver_adapter_failed") }

def executeScheduleRun (env : Ambient) (fencingEpoch : Int) (requestId : Option Uuid)
    (leaseSeconds : Int) (snapshot : RunSnapshotV1) (solve : Solve) (siteId : Uuid) :
    DbTx FinalizedScheduleRunV1 :=
  if leaseSeconds ≤ 0 then throw (.valueError "lease_seconds must be positive to renew a lease")
  else finalizeScheduleRun env fencingEpoch requestId snapshot (outcomeOf solve) siteId

/-! ## What is persisted is well formed -/

/-- The shape `ck_schedule_run_candidate_completed` and the state machine share: a terminal
status, with a candidate exactly when the run completed. -/
structure FinalizedScheduleRunV1.WellFormed (f : FinalizedScheduleRunV1) : Prop where
  terminal : f.status.terminal = true
  candidate : f.candidate.isSome = true ↔ f.status = .solverCompleted

theorem terminalOf_terminal (outcome : SolverOutcomeV1) :
    (terminalOf outcome).1.terminal = true := by
  unfold terminalOf
  split_ifs
  · rfl
  · rfl
  · rfl
  · cases outcome.solverStatus <;> rfl

/-- **Every finalisation is well formed**: whatever the outcome was, the status handed to the
repository is terminal and a candidate accompanies exactly `solver_completed`. -/
theorem finalized_wellFormed {env : Ambient} {snapshot : RunSnapshotV1}
    {outcome : SolverOutcomeV1} {f : FinalizedScheduleRunV1}
    (h : finalized env snapshot outcome = .ok f) : f.WellFormed := by
  have hterminal := terminalOf_terminal outcome
  unfold finalized at h
  simp only at h
  split at h
  · rename_i hstatus
    cases h
    exact ⟨hterminal, by simpa using hstatus⟩
  · rename_i hstatus
    rw [ne_eq, not_not] at hstatus
    split at h
    · cases h; exact ⟨rfl, by simp⟩
    · split at h
      · cases h; exact ⟨rfl, by simp⟩
      · split at h
        · cases h; exact ⟨rfl, by simp⟩
        · cases h
        · cases h; exact ⟨by rw [hstatus]; rfl, by simp [hstatus]⟩

end ShiftMind
