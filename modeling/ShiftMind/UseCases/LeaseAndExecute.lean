import ShiftMind.UseCases.FinalizeScheduleRun

/-!
# ShiftMind — the worker

`application/use_cases/lease_and_execute_schedule_run.py`: the two transactions of one leased
attempt and the transaction that ends it permanently. A read of the run's state is unlocked, so
what it saw may be superseded before the guarded statements run: `transactionAFrom`,
`transactionBFrom` and `recordFatalFailureFrom` take that observation as an argument, and the
transactions of the source are these with a fresh observation.
-/

namespace ShiftMind

open Transactional ScheduleRunRepository

/-- `_FATAL_EXECUTION_ERRORS`: causes that replaying the job would reproduce exactly. -/
def fatalExecutionError : PyError → Bool
  | .fatalJob _ | .runTransitionConflict _ | .illegalTransition _ => true
  | _ => false

/-! ## Transaction A -/

/-- How Transaction A ends: the attempt is over, or the solve goes ahead. -/
inductive AfterTransactionA where
  | finished (status : ScheduleRunStatus)
  | execute (snapshot : RunSnapshotV1)
  deriving DecidableEq, Repr

/-- End an acknowledged cancellation: `solver_cancelled`, and the job completed. -/
def finishCancelled (env : Ambient) (lease : JobLeaseV1) : DbTx Unit := do
  finalizeRun env lease.scheduleRunId lease.siteId lease.fencingEpoch .solverCancelled
    (some "cancelled") none none lease.attemptId
  completeJob env lease.jobId lease.siteId lease.fencingEpoch

/-- One round of the loop `for attempt in (1, 2)`, with `attempts` rounds left: dispatch on the
observed state, and re-read once after losing `mark_running`'s compare-and-set. -/
def checkpointA (env : Ambient) (lease : JobLeaseV1) (snapshot : RunSnapshotV1) :
    Nat → Option ScheduleRunStateV1 → DbTx AfterTransactionA
  | 0, _ => pure (.execute snapshot)
  | _, none => throw (.fatalJob "leased job references a missing schedule run")
  | attempts + 1, some state =>
    match state.status with
    | .solverQueued =>
      tryCatch
        (do
          markRunning env lease.scheduleRunId lease.siteId lease.fencingEpoch lease.attemptId
          pure (.execute snapshot))
        fun e =>
          match e with
          -- only the lost race is tried again; any other exception leaves
          | .runTransitionConflict _ =>
            if attempts = 0 then throw e
            else do
              let state ← getRunState lease.scheduleRunId lease.siteId
              checkpointA env lease snapshot attempts state
          | e => throw e
    -- an earlier attempt under this job had started the run
    | .solverRunning => pure (.execute snapshot)
    | .cancellationRequested => do
      finishCancelled env lease
      pure (.finished .solverCancelled)
    -- the run has ended: only the job is left to close
    | status => do
      completeJob env lease.jobId lease.siteId lease.fencingEpoch
      pure (.finished status)

/-- Transaction A on an observed state. The snapshot may be read at any time: a run keeps the
snapshot it was opened with. -/
def transactionAFrom (env : Ambient) (lease : JobLeaseV1) (observed : Option ScheduleRunStateV1) :
    DbTx AfterTransactionA := do
  let snapshot ← loadSnapshot lease.scheduleRunId lease.siteId
  match snapshot with
  | none => throw (.fatalJob "leased job references a missing run snapshot")
  | some snapshot => checkpointA env lease snapshot 2 observed

def transactionA (env : Ambient) (lease : JobLeaseV1) : DbTx AfterTransactionA := do
  let snapshot ← loadSnapshot lease.scheduleRunId lease.siteId
  match snapshot with
  | none => throw (.fatalJob "leased job references a missing run snapshot")
  | some snapshot =>
    let state ← getRunState lease.scheduleRunId lease.siteId
    checkpointA env lease snapshot 2 state

/-! ## Transaction B

The second transaction reads the run again, and looks at the solver only while the run is running.
-/

def transactionBFrom (env : Ambient) (lease : JobLeaseV1) (snapshot : RunSnapshotV1)
    (leaseSeconds : Int) (solve : Solve) :
    Option ScheduleRunStateV1 → DbTx ScheduleRunStatus
  | none => throw (.fatalJob "leased job references a missing schedule run")
  | some state =>
    match state.status with
    | .cancellationRequested => do
      finishCancelled env lease
      pure .solverCancelled
    | .solverRunning => do
      let f ← executeScheduleRun env lease.fencingEpoch lease.attemptId leaseSeconds snapshot solve
        lease.siteId
      completeJob env lease.jobId lease.siteId lease.fencingEpoch
      pure f.status
    | status => do
      completeJob env lease.jobId lease.siteId lease.fencingEpoch
      pure status

def transactionB (env : Ambient) (lease : JobLeaseV1) (snapshot : RunSnapshotV1)
    (leaseSeconds : Int) (solve : Solve) : DbTx ScheduleRunStatus := do
  let state ← getRunState lease.scheduleRunId lease.siteId
  transactionBFrom env lease snapshot leaseSeconds solve state

/-! ## The permanent failure -/

/-- The terminal status and reason of a failed attempt: an acknowledged cancellation is not
rewritten as a failure. -/
def fatalTerminal (observed : ScheduleRunStatus) : ScheduleRunStatus × String :=
  if observed = .cancellationRequested then (.solverCancelled, "cancelled")
  else (.solverFailed, "job_execution_failed")

/-- `_record_fatal_failure`: a recovery write that fails surfaces the original cause. -/
def recordFatalFailureFrom (env : Ambient) (lease : JobLeaseV1) (cause : PyError)
    (observed : Option ScheduleRunStateV1) : DbTx ScheduleRunStatus :=
  tryCatch
    (match observed with
      | none => throw cause
      | some state =>
        if state.status.terminal then do
          failJob env lease.jobId lease.siteId lease.fencingEpoch
          pure state.status
        else do
          finalizeRun env lease.scheduleRunId lease.siteId lease.fencingEpoch
            (fatalTerminal state.status).1 (some (fatalTerminal state.status).2) none none
            lease.attemptId
          failJob env lease.jobId lease.siteId lease.fencingEpoch
          pure (fatalTerminal state.status).1)
    fun _ => throw cause

def recordFatalFailure (env : Ambient) (lease : JobLeaseV1) (cause : PyError) :
    DbTx ScheduleRunStatus := do
  let state ← getRunState lease.scheduleRunId lease.siteId
  recordFatalFailureFrom env lease cause state

end ShiftMind
