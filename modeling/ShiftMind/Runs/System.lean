import ShiftMind.Runs.Effects
import ShiftMind.Library.Transition

/-!
# ShiftMind — planners and workers, interleaved

The schedule-run subsystem as a transition system. Every step is one committed transaction of one
party, or one of the unlocked reads a cancel command makes before it writes; parties stop at any
point, since nothing obliges a party to take its next step.

* **`WorkerCall`** — the transactions a worker issues under a lease. What a transaction read
  without a lock is an argument, so it may be older than the state the step runs on.
* **`Sys`** — the database, the leases ever handed out, the attempts whose Transaction A let the
  solve go ahead, the cancel commands in flight and a record of those that ended.
* **`Action`** — a step's label, `Enabled` and performed by `Sys.perform`.

The remaining parts of the application touch neither the run tables nor the job queue; `elsewhere`
stands for all of them.
-/

namespace ShiftMind

open Relational Transactional ScheduleRunRepository

/-! ## What one statement sees -/

/-- The state `get_run_state` reports. -/
def Db.runState (db : Db) (runId siteId : Uuid) : Option ScheduleRunStateV1 :=
  (db.scheduleRun.find? (isRun runId siteId)).map fun row => ⟨row.status, row.resourceVersion⟩

/-- The receipt stored for a cancel command. -/
def Db.cancelReceipt (db : Db) (cmd : CancelCommand) : Option CommandIdempotencyRow :=
  db.commandIdempotency.find?
    (isReceipt cmd.siteId cmd.actorId cmd.operation cmd.idempotencyKey)

@[simp] theorem run_getRunState (runId siteId : Uuid) (db : Db) :
    (getRunState runId siteId).run db = (.ok (db.runState runId siteId), db) := rfl

@[simp] theorem run_cancelReceipt (cmd : CancelCommand) (db : Db) :
    (getIdempotentResult cmd.siteId cmd.actorId cmd.operation cmd.idempotencyKey).run db =
      (.ok (db.cancelReceipt cmd), db) := rfl

/-! ## The worker's calls -/

/-- The transactions a worker issues under a lease: the two of an attempt, its permanent failure
and its heartbeat, and the repository's guarded statements one by one. -/
inductive WorkerCall where
  | transactionA (observed : Option ScheduleRunStateV1)
  | transactionB (snapshot : RunSnapshotV1) (leaseSeconds : Int) (solve : Solve)
      (observed : Option ScheduleRunStateV1)
  | recordFatalFailure (cause : PyError) (observed : Option ScheduleRunStateV1)
  | renewJobLease (extensionSeconds : Int)
  | markRunning (requestId : Option Uuid)
  | finalizeRun (f : FinalizedScheduleRunV1) (finishedAt : Option Instant)
      (requestId : Option Uuid)
  | completeJob
  | failJob

/-- The body of a worker's call, with the snapshot it hands to the solver if there is one. -/
def WorkerCall.body (env : Ambient) (lease : JobLeaseV1) :
    WorkerCall → DbTx (Option RunSnapshotV1)
  | .transactionA observed => do
    let next ← transactionAFrom env lease observed
    pure (match next with
      | .execute snapshot => some snapshot
      | .finished _ => none)
  | .transactionB snapshot leaseSeconds solve observed => do
    let _ ← transactionBFrom env lease snapshot leaseSeconds solve observed
    pure none
  | .recordFatalFailure cause observed => do
    let _ ← recordFatalFailureFrom env lease cause observed
    pure none
  | .renewJobLease extensionSeconds => do
    let _ ← ScheduleRunRepository.renewJobLease env lease.jobId lease.siteId lease.fencingEpoch
      extensionSeconds
    pure none
  | .markRunning requestId => do
    ScheduleRunRepository.markRunning env lease.scheduleRunId lease.siteId lease.fencingEpoch
      requestId
    pure none
  | .finalizeRun f finishedAt requestId => do
    ScheduleRunRepository.finalizeRun env lease.scheduleRunId lease.siteId lease.fencingEpoch
      f.status f.reason f.candidate finishedAt requestId
    pure none
  | .completeJob => do
    ScheduleRunRepository.completeJob env lease.jobId lease.siteId lease.fencingEpoch
    pure none
  | .failJob => do
    ScheduleRunRepository.failJob env lease.jobId lease.siteId lease.fencingEpoch
    pure none

/-! ## The state of the system -/

/-- A cancel command whose reads admitted it, with the state it observed. -/
structure CancelSession where
  env : Ambient
  cmd : CancelCommand
  state : ScheduleRunStateV1

/-- A cancel command that was answered: what it wrote on, if it got to its write phase, and the
committed state on both sides of its last step. -/
structure CancelRecord where
  session : Option CancelSession
  response : CancelResponse
  before : Db
  after : Db

structure Sys where
  db : Db
  /-- every lease `lease_next_job` has handed out -/
  leases : List JobLeaseV1 := []
  /-- leases whose Transaction A committed and let this snapshot be solved -/
  attempts : List (JobLeaseV1 × RunSnapshotV1) := []
  /-- cancel commands that have read the run's state -/
  observing : List (CancelCommand × Option ScheduleRunStateV1) := []
  /-- cancel commands that have been admitted -/
  writing : List CancelSession := []
  answered : List CancelRecord := []

/-- What a transaction handed to its caller, if it committed and there was something to hand. -/
def handed {α : Type} : Except PyError (Option α) → List α
  | .ok (some a) => [a]
  | _ => []

theorem mem_handed {α : Type} {r : Except PyError (Option α)} {a : α} :
    a ∈ handed r ↔ r = .ok (some a) := by
  unfold handed
  split
  · simp [eq_comm]
  · rename_i hne; simp only [List.not_mem_nil, false_iff]; exact fun h => hne a h

/-- End a cancel command with the response of its route, and commit what the session commits. -/
def Sys.answer (s : Sys) (session : Option CancelSession)
    (body : DbTx (Option ScheduleRunCancellationV1)) : Sys :=
  { s with
    db := (cancelRequest body s.db).2
    answered := ⟨session, (cancelRequest body s.db).1, s.db, (cancelRequest body s.db).2⟩ ::
      s.answered }

/-! ## The steps -/

inductive Action where
  | enqueueCompute (env : Ambient) (catalogue : ScenarioCatalogue) (cmd : EnqueueCommand)
  | leaseNextJob (env : Ambient) (locked : JobLeaseV1 → Bool) (leaseOwner : String)
      (leaseSeconds : Int)
  | worker (env : Ambient) (lease : JobLeaseV1) (call : WorkerCall)
  /-- a cancel command reads the state of its run -/
  | observeCancel (cmd : CancelCommand)
  /-- a cancel command reads its receipt, and is answered or admitted -/
  | admitCancel (env : Ambient) (cmd : CancelCommand) (observed : Option ScheduleRunStateV1)
  /-- the write phase of an admitted cancel command -/
  | writeCancel (session : CancelSession)
  | elsewhere (db' : Db)

/-- When a party may take a step. -/
def Action.Enabled (s : Sys) : Action → Prop
  | .enqueueCompute .. | .leaseNextJob .. | .observeCancel _ => True
  | .worker _ lease call => lease ∈ s.leases ∧
    match call with
    | .transactionB snapshot _ _ _ => (lease, snapshot) ∈ s.attempts
    | .finalizeRun f _ _ => f.WellFormed
    | _ => True
  | .admitCancel _ cmd observed => (cmd, observed) ∈ s.observing
  | .writeCancel session => session ∈ s.writing
  | .elsewhere db' => db'.runTables = s.db.runTables ∧ db'.jobQueue = s.db.jobQueue

/-- The state after a step. -/
def Sys.perform (s : Sys) : Action → Sys
  | .enqueueCompute env catalogue cmd =>
    { s with db := ((ShiftMind.enqueueCompute env catalogue cmd).commit s.db).2 }
  -- a lease that was handed out stays with its worker
  | .leaseNextJob env locked leaseOwner leaseSeconds =>
    let outcome :=
      (ScheduleRunRepository.leaseNextJob env locked leaseOwner leaseSeconds).commit s.db
    { s with db := outcome.2, leases := handed outcome.1 ++ s.leases }
  | .worker env lease call =>
    let outcome := (call.body env lease).commit s.db
    { s with
      db := outcome.2
      attempts := (handed outcome.1).map (fun snapshot => (lease, snapshot)) ++ s.attempts }
  -- a cancel command reads in one transaction and writes in another
  | .observeCancel cmd =>
    { s with observing := (cmd, s.db.runState cmd.runId cmd.siteId) :: s.observing }
  | .admitCancel env cmd observed =>
    match ShiftMind.admitCancel env cmd observed (s.db.cancelReceipt cmd) with
    | .ok (.write state) => { s with writing := ⟨env, cmd, state⟩ :: s.writing }
    | .ok (.finished result) => s.answer none (pure result)
    | .error e => s.answer none (throw e)
  | .writeCancel session =>
    s.answer (some session) (cancelWrite session.env session.cmd session.state)
  | .elsewhere db' => { s with db := db' }

/-- Nothing has been scheduled yet; the rest of the database is arbitrary. -/
structure Sys.Initial (s : Sys) : Prop where
  runs : s.db.scheduleRun = .empty
  versions : s.db.scheduleVersion = .empty
  jobs : s.db.jobQueue = .empty
  leases : s.leases = []
  attempts : s.attempts = []
  observing : s.observing = []
  writing : s.writing = []
  answered : s.answered = []

/-- The schedule-run subsystem. -/
def runMachine : Transition.Machine Sys Action where
  initial := Sys.Initial
  enabled := Action.Enabled
  perform := Sys.perform

/-- Its transition system. -/
abbrev runSystem : Transition.System Sys := runMachine.system

/-! ## The transactions of the source are steps -/

/-- Transaction A, whose reads are fresh, is `transactionAFrom` at the state it reads. -/
theorem transactionA_fresh (env : Ambient) (lease : JobLeaseV1) (db : Db) :
    (transactionA env lease).run db =
      (transactionAFrom env lease (db.runState lease.scheduleRunId lease.siteId)).run db := by
  unfold transactionA transactionAFrom
  rw [Tx.run_bind, Tx.run_bind]
  have hstill := (loadSnapshot_still lease.scheduleRunId lease.siteId).unchanged db
  cases hload : (loadSnapshot lease.scheduleRunId lease.siteId).run db with
  | mk r db' =>
    rw [Tx.StillAt, hload] at hstill
    subst hstill
    cases r with
    | error e => rfl
    | ok snapshot => cases snapshot <;> rfl

theorem transactionB_fresh (env : Ambient) (lease : JobLeaseV1) (snapshot : RunSnapshotV1)
    (leaseSeconds : Int) (solve : Solve) (db : Db) :
    (transactionB env lease snapshot leaseSeconds solve).run db =
      (transactionBFrom env lease snapshot leaseSeconds solve
        (db.runState lease.scheduleRunId lease.siteId)).run db := rfl

theorem recordFatalFailure_fresh (env : Ambient) (lease : JobLeaseV1) (cause : PyError) (db : Db) :
    (recordFatalFailure env lease cause).run db =
      (recordFatalFailureFrom env lease cause
        (db.runState lease.scheduleRunId lease.siteId)).run db := rfl

/-! ## A first run

A depot with one accepted proposal, on which the later modules run concrete schedules. -/

namespace Depot

def proposal : ProposalV1 where
  proposalId := some 10
  proposalVersionId := some 11
  scenarioId := some 20
  scenarioVersionId := some 21
  expectedBaselineScheduleVersion := none
  resolvedEntities := []
  constraints := []
  preservedLocks := []
  state := .active
  resourceVersion := 1

def site : Sys where
  db :=
    { proposal := ⟨[⟨10, 1, 2, 3, .active, some 11, 1, none, none⟩], by decide, by decide⟩
      proposalVersion := ⟨[⟨11, 1, 10, 1, proposal⟩], by decide, by decide⟩
      scenarioVersion := ⟨[⟨21, 1, 20, "sha256", "v1", "digest"⟩], by decide, by decide⟩ }

theorem site_initial : site.Initial := ⟨rfl, rfl, rfl, rfl, rfl, rfl, rfl, rfl⟩

def catalogue : ScenarioCatalogue := fun scenarioId =>
  if scenarioId = 20 then some ⟨20, 21, "sha256", "v1", "digest", 1, none⟩ else none

/-- The transaction that starts at second `n` draws its identifiers from `100 * n` on. -/
def env (n : Nat) : Ambient where
  now := n * 1000000
  clock := n * 1000000
  uuid4 k := 100 * n + k
  contractDigest members := toString (members.map Prod.fst)

/-- The planner schedules the proposal: run 102 with job 103. -/
def enqueue : Action := .enqueueCompute (env 1) catalogue ⟨10, 1, 3, 1, "first", "v1", 5⟩

/-- A worker leases the oldest job for a minute. -/
def lease (n : Nat) : Action := .leaseNextJob (env n) (fun _ => false) "worker" 60

/-- The lease of job 103 that the transaction of second `n` hands out at an epoch. -/
def leased (n : Nat) (epoch : Int) : JobLeaseV1 where
  jobId := 103
  status := .leased
  siteId := 1
  actorId := 3
  attemptId := some (100 * n)
  capabilityVersion := "v1"
  scheduleRunId := 102
  idempotencyKey := "first"
  leaseOwner := some "worker"
  leaseExpiresAt := some ((n + 60) * 1000000)
  heartbeatAt := some (n * 1000000)
  fencingEpoch := epoch
  createdAt := 1000000

/-- The snapshot run 102 was opened with. -/
def snapshot : RunSnapshotV1 where
  snapshotId := 101
  scheduleRunId := 102
  scenarioId := 20
  scenarioVersionId := 21
  checksumAlgorithm := "sha256"
  checksumSchemaVersion := "v1"
  checksumDigest := "digest"
  baselineScheduleVersion := none
  proposalId := 10
  proposalVersionId := 11
  proposalResourceVersion := 1
  preservedLocks := []
  constraints := []
  acceptedAt := 1000000
  inputEvidenceRefs := []

/-- An empty schedule, proven optimal for a scenario without demand. -/
def optimal : Solve := .ok
  { solverStatus := .optimal
    validationFacts := some
      { horizonMinutes := 1440
        workers := []
        selectedShifts := []
        maxHoursPerWeek := []
        maxShiftsPerDay := []
        minimumGapMinutes := 0 } }

def transactionA (n : Nat) (lease : JobLeaseV1) : Action :=
  .worker (env n) lease (.transactionA (some ⟨.solverQueued, 1⟩))

def transactionB (n : Nat) (lease : JobLeaseV1) : Action :=
  .worker (env n) lease (.transactionB snapshot 60 optimal (some ⟨.solverRunning, 2⟩))

end Depot

end ShiftMind
