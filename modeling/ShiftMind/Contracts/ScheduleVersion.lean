import ShiftMind.Contracts.Scenario

/-!
# ShiftMind — governed solver output

`application/contracts/schedule_version.py`: the statuses of a schedule run, what a governed
solve reports, and the candidate schedule version a completed run persists.
-/

namespace ShiftMind

/-! ## Schedule-run statuses -/

/-- `ScheduleRunStatusV1`. -/
inductive ScheduleRunStatus where
  | solverQueued
  | solverRunning
  | cancellationRequested
  | solverCompleted
  | solverInfeasible
  | solverTimedOut
  | solverCancelled
  | solverFailed
  deriving DecidableEq, Repr

namespace ScheduleRunStatus

/-- The literal the status is stored and reported under. -/
def value : ScheduleRunStatus → String
  | solverQueued => "solver_queued"
  | solverRunning => "solver_running"
  | cancellationRequested => "cancellation_requested"
  | solverCompleted => "solver_completed"
  | solverInfeasible => "solver_infeasible"
  | solverTimedOut => "solver_timed_out"
  | solverCancelled => "solver_cancelled"
  | solverFailed => "solver_failed"

/-- `RUN_EVENT_TYPES`: the published event type of a transition into a status. -/
def runEventType : ScheduleRunStatus → String
  | solverQueued => "run.queued.v1"
  | solverRunning => "run.running.v1"
  | cancellationRequested => "run.cancellation_requested.v1"
  | solverCompleted => "run.completed.v1"
  | solverInfeasible => "run.infeasible.v1"
  | solverTimedOut => "run.timed_out.v1"
  | solverCancelled => "run.cancelled.v1"
  | solverFailed => "run.failed.v1"

/-- `_FINALIZE_STATUSES` / `_TERMINAL_STATUSES`: the five statuses a run ends in. -/
def terminal : ScheduleRunStatus → Bool
  | solverCompleted | solverInfeasible | solverTimedOut | solverCancelled | solverFailed => true
  | solverQueued | solverRunning | cancellationRequested => false

end ScheduleRunStatus

/-! ## Solver outcomes -/

/-- `SolverStatusV1`. -/
inductive SolverStatus where
  | optimal
  | feasible
  | infeasible
  | modelInvalid
  | unknown
  deriving DecidableEq, Repr

structure WorkerSchedulingFactV1 where
  workerId : String
  employmentType : String
  contractedHours : ℚ
  wagePerHour : ℚ
  qualifications : List QualificationRefV1
  availabilityWindows : List AvailabilityWindowV1
  deriving DecidableEq, Repr

structure SelectedShiftFactV1 where
  shiftId : String
  workerId : String
  windowId : String
  windowKind : WindowKind
  startMinute : Int
  endMinute : Int
  effectiveMinutes : Int
  deriving DecidableEq, Repr

structure ValidationFactsV1 where
  horizonMinutes : Int
  workers : List WorkerSchedulingFactV1
  selectedShifts : List SelectedShiftFactV1
  maxHoursPerWeek : List (String × ℚ)
  maxShiftsPerDay : List (String × Int)
  minimumGapMinutes : Int
  tasks : List TaskV1 := []
  demandIntervals : List DemandIntervalV1 := []
  deriving DecidableEq, Repr

structure MetricSetV1 where
  intervalCoverageRequiredMinutes : List (String × ℚ) := []
  intervalCoverageServedMinutes : List (String × ℚ) := []
  functionCoverageRequiredMinutes : List (String × ℚ) := []
  functionCoverageServedMinutes : List (String × ℚ) := []
  overtimeMinutes : ℚ := 0
  totalCost : ℚ := 0
  objectiveComponents : List (String × ℚ) := []
  assignmentCount : Nat := 0
  memberCount : Nat := 0
  deriving DecidableEq, Repr

inductive ConstraintClass where
  | hard
  | soft
  deriving DecidableEq, Repr

structure ConstraintResultV1 where
  constraintId : String
  constraintType : String
  constraintClass : ConstraintClass
  satisfied : Bool
  measuredValue : ℚ
  limit : ℚ
  unit : String
  contributingAssignmentIds : List String := []
  deriving DecidableEq, Repr

structure SolverOutcomeV1 where
  solverStatus : SolverStatus := .unknown
  assignments : List AssignmentV1 := []
  warnings : List String := []
  validationFacts : Option ValidationFactsV1 := none
  reason : Option String := none
  deriving DecidableEq, Repr

/-- The candidate schedule a completed run persists. -/
structure ScheduleVersionV1 where
  scheduleVersionId : Uuid
  scheduleRunId : Uuid
  scenarioId : Uuid
  scenarioVersionId : Uuid
  proposalId : Uuid
  proposalVersionId : Uuid
  feasibleSolverStatus : SolverStatus
  assignments : List AssignmentV1
  metrics : MetricSetV1
  constraintResults : List ConstraintResultV1
  warnings : List String
  evidenceRefs : List EvidenceRefV1
  createdAt : Instant
  deriving DecidableEq, Repr

end ShiftMind
