import ShiftMind.Store.Columns
import Mathlib.Data.List.Sort

/-!
# ShiftMind — the schedule-run repository

`adapters/postgres/schedule_run.py` and the two PL/pgSQL functions of the job queue. Every
function is the body of statements it issues, in order, on a caller-owned transaction: a statement
that raises leaves the earlier ones applied, and only the owner of the transaction rolls back.

The guards that carry the design are in the `UPDATE` predicates: a status set, a resource version,
and — through `claimEpoch` — the fencing epoch of a leased job.
-/

namespace ShiftMind

open Relational Transactional

/-- The body of a database transaction. -/
abbrev DbTx (α : Type) := Tx Db PyError α

/-- A foreign key: the referenced row must be there. -/
def references (constraint : String) (present : Db → Bool) : DbTx Unit := do
  let found ← Tx.read present
  if found then pure () else throw (.integrityError constraint)

/-- `str(value)` of an optional integer. -/
def renderOptionalInt : Option Int → String
  | none => "None"
  | some n => toString n

namespace ScheduleRunRepository

/-! ## Predicates -/

/-- `schedule_run.id = run_id AND schedule_run.site_id = site_id`. -/
def isRun (runId siteId : Uuid) (row : ScheduleRunRow) : Bool :=
  decide (row.id = runId) && decide (row.siteId = siteId)

/-- `job_queue.schedule_run_id = run_id AND job_queue.site_id = site_id`. -/
def isJobOf (runId siteId : Uuid) (job : JobLeaseV1) : Bool :=
  decide (job.scheduleRunId = runId) && decide (job.siteId = siteId)

/-- The predicate of `_claim_epoch` and `_has_current_epoch`: the job is leased, at this very
epoch, and the epoch is one a lease handed out. -/
def leasedAtEpoch (runId siteId : Uuid) (fencingEpoch : Int) (job : JobLeaseV1) : Bool :=
  isJobOf runId siteId job && decide (job.status = .leased) &&
    decide (job.fencingEpoch = fencingEpoch) && decide (0 < job.fencingEpoch)

/-- `_has_current_epoch`. -/
def hasCurrentEpoch (runId siteId : Uuid) (fencingEpoch : Int) (db : Db) : Bool :=
  db.jobQueue.rows.any (leasedAtEpoch runId siteId fencingEpoch)

/-- `_FINALIZE_EXPECTED_STATUSES`. -/
def finalizeExpectedStatuses : ScheduleRunStatus → List ScheduleRunStatus
  | .solverCompleted => [.solverRunning, .cancellationRequested]
  | .solverInfeasible => [.solverRunning, .cancellationRequested]
  | .solverTimedOut => [.solverQueued, .solverRunning, .cancellationRequested]
  | .solverCancelled => [.cancellationRequested]
  | .solverFailed => [.solverQueued, .solverRunning, .cancellationRequested]
  | .solverQueued | .solverRunning | .cancellationRequested => []

/-! ## Reads -/

def getRunState (runId siteId : Uuid) : DbTx (Option ScheduleRunStateV1) := do
  let row ← Db.scheduleRuns.selectOne (isRun runId siteId)
  pure (row.map fun row => ⟨row.status, row.resourceVersion⟩)

/-- The epoch of a run's job, as the failure paths report it. -/
def jobEpoch (runId siteId : Uuid) : DbTx (Option Int) := do
  let job ← Db.jobs.selectOne (isJobOf runId siteId)
  pure (job.map JobLeaseV1.fencingEpoch)

def getJobCancellationRequested (runId siteId : Uuid) : DbTx Bool := do
  let job ← Db.jobs.selectOne (isJobOf runId siteId)
  pure ((job.map JobLeaseV1.cancellationRequested).getD false)

/-- `get_candidate`. -/
def getCandidate (scheduleRunId siteId : Uuid) : DbTx (Option ScheduleVersionV1) := do
  let row ← Db.scheduleVersions.selectOne fun v =>
    decide (v.scheduleRunId = scheduleRunId) && decide (v.siteId = siteId)
  pure (row.map ScheduleVersionRow.payload)

/-- `load_snapshot`: the payload of the snapshot the run was created with. -/
def loadSnapshot (runId siteId : Uuid) : DbTx (Option RunSnapshotV1) := do
  let run ← Db.scheduleRuns.selectOne (isRun runId siteId)
  match run with
  | none => pure none
  | some run =>
    let snapshot ← Db.runSnapshots.selectOne fun s =>
      decide (s.id = run.runSnapshotId) && decide (s.siteId = run.siteId)
    pure (snapshot.map RunSnapshotRow.payload)

/-- The row a command's replay key names. -/
def isReceipt (siteId actorId : Uuid) (operation idempotencyKey : String)
    (row : CommandIdempotencyRow) : Bool :=
  decide (row.siteId = siteId) && decide (row.actorId = actorId) &&
    decide (row.operation = operation) && decide (row.idempotencyKey = idempotencyKey)

def getIdempotentResult (siteId actorId : Uuid) (operation idempotencyKey : String) :
    DbTx (Option CommandIdempotencyRow) :=
  Db.commandReceipts.selectOne (isReceipt siteId actorId operation idempotencyKey)

/-- `count_runs_with_statuses`. -/
def countRunsWithStatuses (siteId : Uuid) (statuses : List ScheduleRunStatus) : DbTx Nat :=
  Tx.read fun db => db.scheduleRun.rows.countP fun row =>
    decide (row.siteId = siteId) && statuses.contains row.status

/-! ## Events and receipts -/

/-- `coalesce(max(sequence), 0) + 1` over a stream. -/
def nextSequence (streamId : Uuid) (db : Db) : Int :=
  (((db.persistedEvent.rows.filter fun e => e.streamId = streamId).map
    PersistedEventRow.sequence).max?).getD 0 + 1

def writeProgressEvent (env : Ambient) (runId siteId actorId : Uuid) (status : ScheduleRunStatus)
    (reason : Option String) (resourceVersion : Int) (requestId : Uuid) : DbTx Unit := do
  let sequence ← Tx.read (nextSequence runId)
  Db.persistedEvents.insertInto (.integrityError "uq_persisted_event_stream_sequence")
    { siteId := siteId
      streamId := runId
      sequence := sequence
      eventType := status.runEventType
      occurredAt := env.clock
      resourceVersion := resourceVersion
      requestId := requestId
      conversationId := none
      agentRunId := none
      scheduleRunId := some runId
      actorId := actorId
      payload := .runProgress ⟨runId, status, reason, resourceVersion, env.clock⟩ }

/-- `_actor_for_run`: the actor of the run's job, else the one who opened its stream. -/
def actorForRun (runId siteId : Uuid) : DbTx Uuid := do
  let job ← Db.jobs.selectOne (isJobOf runId siteId)
  match job with
  | some job => pure job.actorId
  | none =>
    let events ← Tx.read fun db => (db.persistedEvent.rows.filter fun e =>
      decide (e.streamId = runId) && decide (e.scheduleRunId = some runId)).insertionSort
        fun a b => a.sequence ≤ b.sequence
    match events.head? with
    | some event => pure event.actorId
    | none => throw (.runtimeError "No row was found when one was required")

/-- `_store_idempotent_result`, whose conflict clause keeps an existing receipt. -/
def storeIdempotentResult (siteId actorId : Uuid) (operation idempotencyKey bodyHash : String)
    (responsePayload : ResponsePayload) : DbTx Unit := do
  let stored ← getIdempotentResult siteId actorId operation idempotencyKey
  match stored with
  | some _ => pure ()
  | none =>
    Db.commandReceipts.insertInto (.integrityError "uq_command_idempotency_request")
      ⟨siteId, actorId, operation, idempotencyKey, bodyHash, responsePayload⟩

/-! ## The fence -/

/-- `_claim_epoch`: touch the leased job's heartbeat at the claimed epoch, or report the epoch
that superseded it. -/
def claimEpoch (env : Ambient) (runId siteId : Uuid) (fencingEpoch : Int) : DbTx Unit := do
  let touched ← Db.jobs.updateWhere (.integrityError "job_queue")
    (leasedAtEpoch runId siteId fencingEpoch) fun job => { job with heartbeatAt := some env.now }
  if touched.length = 1 then pure ()
  else do
    let current ← jobEpoch runId siteId
    throw (.staleLease ("schedule run lease epoch " ++ toString fencingEpoch ++
      " is stale; current is " ++ renderOptionalInt current))

/-- The message of the one transition the state machine forbids outright. -/
def illegalCancelMessage : String :=
  "solver_running -> solver_cancelled is not an AD-7 ScheduleRun edge. " ++
  "Cancelling running work must pass through cancellation_requested " ++
  "(AD-6: cancellation is cooperative). A solver-reported 'cancelled' " ++
  "outcome on a run nobody cancelled has no legal terminal edge -- see " ++
  "finalize_schedule_run._terminal, which maps it without knowing the " ++
  "current status. Story 3.5 shipped persistence and replay, not this " ++
  "root cause; it stays owned by the first story that raises the " ++
  "wall-time limit (deferred-work)."

/-- `_raise_transition_failure`: classify a compare-and-set that matched no row. -/
def raiseTransitionFailure {α : Type} (runId siteId : Uuid) (fencingEpoch : Int)
    (expectedStatus : String) (targetStatus : ScheduleRunStatus) : DbTx α := do
  let currentEpoch ← jobEpoch runId siteId
  if currentEpoch ≠ some fencingEpoch then
    throw (.staleLease ("schedule run lease epoch " ++ toString fencingEpoch ++
      " is stale; current is " ++ renderOptionalInt currentEpoch))
  else do
    let currentStatus ← getRunState runId siteId
    if (currentStatus.map ScheduleRunStateV1.status) = some .solverRunning ∧
        targetStatus = .solverCancelled then
      throw (.illegalTransition illegalCancelMessage)
    else
      throw (.runTransitionConflict ("schedule run is " ++
        ((currentStatus.map fun state => state.status.value).getD "None") ++ ", expected " ++
        expectedStatus))

/-! ## Transitions of a run -/

def markRunning (env : Ambient) (runId siteId : Uuid) (fencingEpoch : Int)
    (requestId : Option Uuid) : DbTx Unit := do
  claimEpoch env runId siteId fencingEpoch
  let current ← Tx.read (hasCurrentEpoch runId siteId fencingEpoch)
  let rows ← Db.scheduleRuns.updateWhere (.integrityError "schedule_run")
    (fun row => isRun runId siteId row && decide (row.status = .solverQueued) && current)
    fun row => { row with status := .solverRunning, resourceVersion := row.resourceVersion + 1 }
  match rows with
  | [] => raiseTransitionFailure runId siteId fencingEpoch "solver_queued" .solverRunning
  | row :: _ =>
    let actorId ← actorForRun runId siteId
    writeProgressEvent env runId siteId actorId .solverRunning none row.resourceVersion
      (requestId.getD (env.uuid4 0))

/-- The row of an assignment. -/
def insertAssignment (siteId scheduleVersionId : Uuid) (a : AssignmentV1) : DbTx Unit := do
  Tx.lift (checkAssignment a)
  Db.scheduleAssignments.insertInto (.integrityError "uq_schedule_assignment_record")
    ⟨siteId, scheduleVersionId, a⟩

/-- The rows `finalize_run` inserts for its candidate, if it has one. -/
def insertCandidate (runId siteId : Uuid) : Option ScheduleVersionV1 → DbTx Unit
  | none => pure ()
  | some candidate => do
    -- the digest comes before the first insert
    Tx.lift (checkDigest candidate)
    references "fk_schedule_version_run_site" fun db => db.scheduleRun.rows.any (isRun runId siteId)
    Db.scheduleVersions.insertInto (.integrityError "uq_schedule_version_run")
      { id := candidate.scheduleVersionId
        siteId := siteId
        scheduleRunId := runId
        proposalId := candidate.proposalId
        proposalVersionId := candidate.proposalVersionId
        solverStatus := candidate.feasibleSolverStatus
        payload := candidate
        createdAt := candidate.createdAt }
    candidate.assignments.forM (insertAssignment siteId candidate.scheduleVersionId)

/-- `finalize_run`: claim the fence, write the candidate, then move the run to its terminal
status under the status and epoch guards. -/
def finalizeRun (env : Ambient) (runId siteId : Uuid) (fencingEpoch : Int)
    (status : ScheduleRunStatus) (reason : Option String) (candidate : Option ScheduleVersionV1)
    (finishedAt : Option Instant) (requestId : Option Uuid) : DbTx Unit := do
  if status.terminal = false then
    throw (.valueError (status.value ++ " is not a terminal schedule-run status"))
  else do
    claimEpoch env runId siteId fencingEpoch
    insertCandidate runId siteId candidate
    let current ← Tx.read (hasCurrentEpoch runId siteId fencingEpoch)
    -- the guards: the expected status and, once more, the epoch
    let rows ← Db.scheduleRuns.updateWhere (.integrityError "ck_schedule_run_candidate_completed")
      (fun row => isRun runId siteId row &&
        (finalizeExpectedStatuses status).contains row.status && current)
      fun row =>
        { row with
          status := status
          reason := reason
          candidateScheduleVersionId := candidate.map ScheduleVersionV1.scheduleVersionId
          resourceVersion := row.resourceVersion + 1
          finishedAt := some (match candidate with
            | some candidate => candidate.createdAt
            | none => finishedAt.getD env.clock) }
    match rows with
    -- nothing was moved: the run is read again to say why
    | [] =>
      raiseTransitionFailure runId siteId fencingEpoch
        (" or ".intercalate ((finalizeExpectedStatuses status).map ScheduleRunStatus.value)) status
    | row :: _ =>
      let actorId ← actorForRun runId siteId
      writeProgressEvent env runId siteId actorId status reason row.resourceVersion
        (requestId.getD (env.uuid4 0))

/-- `_cancel_transition`. -/
def cancelTransition (env : Ambient) (runId siteId actorId : Uuid) (expectedResourceVersion : Int)
    (expectedStatus status : ScheduleRunStatus) (reason : String) (terminal : Bool) :
    DbTx Unit := do
  let rows ← Db.scheduleRuns.updateWhere (.integrityError "schedule_run")
    (fun row => isRun runId siteId row && decide (row.status = expectedStatus) &&
      decide (row.resourceVersion = expectedResourceVersion))
    fun row =>
      { row with
        status := status
        reason := some reason
        resourceVersion := row.resourceVersion + 1
        finishedAt := if terminal then some env.now else row.finishedAt }
  match rows with
  | [] =>
    throw (.repositoryRunNotCancellable ("schedule run is no longer " ++
      expectedStatus.value ++ " at resource version " ++ toString expectedResourceVersion))
  | row :: _ =>
    writeProgressEvent env runId siteId actorId status (some reason) row.resourceVersion
      (env.uuid4 0)

def cancelQueuedRun (env : Ambient) (runId siteId actorId : Uuid)
    (expectedResourceVersion : Int) : DbTx Unit :=
  cancelTransition env runId siteId actorId expectedResourceVersion .solverQueued
    .solverCancelled "cancelled" true

def requestCancellation (env : Ambient) (runId siteId actorId : Uuid)
    (expectedResourceVersion : Int) : DbTx Unit :=
  cancelTransition env runId siteId actorId expectedResourceVersion .solverRunning
    .cancellationRequested "cancellation_requested" false

/-- `set_job_cancellation_requested`: no guard on the run. -/
def setJobCancellationRequested (runId siteId : Uuid) : DbTx Unit := do
  let _ ← Db.jobs.updateWhere (.integrityError "job_queue") (isJobOf runId siteId)
    fun job => { job with cancellationRequested := true }
  pure ()

/-! ## Creating a run and its job -/

def createQueuedRun (env : Ambient) (snapshot : RunSnapshotV1) (siteId actorId : Uuid) :
    DbTx Unit := do
  Db.runSnapshots.insertInto (.integrityError "run_snapshot_pkey")
    { id := snapshot.snapshotId
      siteId := siteId
      scenarioId := snapshot.scenarioId
      scenarioVersionId := snapshot.scenarioVersionId
      proposalId := snapshot.proposalId
      proposalVersionId := snapshot.proposalVersionId
      baselineScheduleVersion := snapshot.baselineScheduleVersion
      payload := snapshot
      acceptedAt := snapshot.acceptedAt }
  Db.scheduleRuns.insertInto (.integrityError "schedule_run_pkey")
    { id := snapshot.scheduleRunId, siteId := siteId, runSnapshotId := snapshot.snapshotId }
  writeProgressEvent env snapshot.scheduleRunId siteId actorId .solverQueued none 1 (env.uuid4 0)

def enqueueJob (job : JobLeaseV1) (siteId : Uuid) : DbTx Unit := do
  if job.siteId ≠ siteId then
    throw (.valueError "job site does not match the transaction site")
  else do
    references "fk_job_queue_schedule_run_site" fun db =>
      db.scheduleRun.rows.any (isRun job.scheduleRunId siteId)
    Db.jobs.insertInto (.integrityError "uq_job_queue_schedule_run") job

/-! ## Leases -/

/-- The rows `workflow.lease_next_job` may pick: queued, or leased past the expiry. -/
def leaseable (now : Instant) (job : JobLeaseV1) : Bool :=
  match job.status with
  | .queued => true
  | .leased => job.leaseExpiresAt.any (· < now)
  | .completed | .failed => false

/-- `workflow.lease_next_job`: the oldest leaseable job that no other transaction has locked gets
the next fencing epoch. -/
def leaseNextJob (env : Ambient) (locked : JobLeaseV1 → Bool) (leaseOwner : String)
    (leaseSeconds : Int) : DbTx (Option JobLeaseV1) := do
  if leaseOwner.toList.all (· = ' ') then throw (.invalidParameter "lease owner is required")
  else if leaseSeconds ≤ 0 then throw (.invalidParameter "lease duration must be positive")
  else do
    -- `FOR UPDATE SKIP LOCKED`, the oldest first
    let candidates ← Tx.read fun db => (db.jobQueue.rows.filter fun job =>
      leaseable env.now job && !locked job).insertionSort fun a b =>
        a.createdAt < b.createdAt ∨ (a.createdAt = b.createdAt ∧ a.jobId ≤ b.jobId)
    match candidates with
    | [] => pure none
    | next :: _ =>
      let leased ← Db.jobs.updateWhere (.integrityError "job_queue")
        (fun job => decide (job.jobId = next.jobId))
        fun job =>
          { job with
            status := .leased
            leaseOwner := some leaseOwner
            leaseExpiresAt := some (env.now + leaseSeconds * 1000000)
            heartbeatAt := some env.now
            fencingEpoch := next.fencingEpoch + 1
            attemptId := some (env.uuid4 0) }
      pure leased.head?

/-- `workflow.renew_job_lease`. -/
def renewJobLease (env : Ambient) (jobId siteId : Uuid) (fencingEpoch extensionSeconds : Int) :
    DbTx LeaseRenewalV1 := do
  if extensionSeconds ≤ 0 then throw (.invalidParameter "lease extension must be positive")
  else do
    let renewed ← Db.jobs.updateWhere (.integrityError "job_queue")
      (fun job => decide (job.jobId = jobId) && decide (job.siteId = siteId) &&
        decide (job.status = .leased) && decide (job.fencingEpoch = fencingEpoch))
      fun job =>
        { job with
          leaseExpiresAt := some (env.now + extensionSeconds * 1000000)
          heartbeatAt := some env.now }
    match renewed with
    | [] => pure ⟨false, false⟩
    | job :: _ => pure ⟨true, job.cancellationRequested⟩

/-- The shared body of `complete_job` and `fail_job`: close the job if it is still leased at the
caller's epoch. -/
def closeJob (env : Ambient) (closed : JobStatus) (jobId siteId : Uuid) (fencingEpoch : Int) :
    DbTx Unit := do
  let rows ← Db.jobs.updateWhere (.integrityError "job_queue")
    (fun job => decide (job.jobId = jobId) && decide (job.siteId = siteId) &&
      decide (job.status = .leased) && decide (job.fencingEpoch = fencingEpoch))
    fun job => { job with status := closed, heartbeatAt := some env.now }
  if rows.length = 1 then pure ()
  else do
    let job ← Db.jobs.selectOne fun job =>
      decide (job.jobId = jobId) && decide (job.siteId = siteId)
    let currentEpoch := job.map JobLeaseV1.fencingEpoch
    if currentEpoch ≠ some fencingEpoch then
      throw (.staleLease ("job lease epoch " ++ toString fencingEpoch ++ " is stale; current is " ++
        renderOptionalInt currentEpoch))
    else throw (.valueError "job is no longer leased")

def completeJob (env : Ambient) (jobId siteId : Uuid) (fencingEpoch : Int) : DbTx Unit :=
  closeJob env .completed jobId siteId fencingEpoch

def failJob (env : Ambient) (jobId siteId : Uuid) (fencingEpoch : Int) : DbTx Unit :=
  closeJob env .failed jobId siteId fencingEpoch

end ScheduleRunRepository

end ShiftMind
