import ShiftMind.Contracts.Turn
import ShiftMind.Library.Relation
import Mathlib.Tactic.Simps.Basic

/-!
# ShiftMind — the database schema

`adapters/postgres/schema.py`: one row type for each table the modelled transactions read or
write, with its `CHECK` constraints and unique indexes (partial ones included), and the database
`Db` that holds the tables. A row's surrogate key is left out where nothing refers to it.

The site of a row is a column like any other: row-level security restricts what a session sees to
its own site, and every statement of the source repeats that predicate.
-/

namespace ShiftMind

open Relational

/-! ## Schedule runs -/

structure RunSnapshotRow where
  id : Uuid
  siteId : Uuid
  scenarioId : Uuid
  scenarioVersionId : Uuid
  proposalId : Uuid
  proposalVersionId : Uuid
  baselineScheduleVersion : Option String
  payload : RunSnapshotV1
  acceptedAt : Instant
  deriving DecidableEq, Repr

instance : Constrained RunSnapshotRow where
  check _ := true
  clash a b := decide (a.id = b.id)
  clash_comm a b := by simp [eq_comm]

structure ScheduleRunRow where
  id : Uuid
  siteId : Uuid
  runSnapshotId : Uuid
  status : ScheduleRunStatus := .solverQueued
  reason : Option String := none
  candidateScheduleVersionId : Option Uuid := none
  resourceVersion : Int := 1
  finishedAt : Option Instant := none
  deriving DecidableEq, Repr

/-- `ck_schedule_run_candidate_completed`, and the primary key. -/
instance : Constrained ScheduleRunRow where
  check row := row.candidateScheduleVersionId.isNone || decide (row.status = .solverCompleted)
  clash a b := decide (a.id = b.id)
  clash_comm a b := by simp [eq_comm]

structure ScheduleVersionRow where
  id : Uuid
  siteId : Uuid
  scheduleRunId : Uuid
  proposalId : Uuid
  proposalVersionId : Uuid
  solverStatus : SolverStatus
  payload : ScheduleVersionV1
  createdAt : Instant
  deriving DecidableEq, Repr

/-- `ck_schedule_version_feasible_status`, the primary key and `uq_schedule_version_run`. -/
instance : Constrained ScheduleVersionRow where
  check row := decide (row.solverStatus = .optimal) || decide (row.solverStatus = .feasible)
  clash a b := decide (a.id = b.id) || decide (a.scheduleRunId = b.scheduleRunId)
  clash_comm a b := by simp [eq_comm]

structure ScheduleAssignmentRow where
  siteId : Uuid
  scheduleVersionId : Uuid
  assignment : AssignmentV1
  deriving DecidableEq, Repr

/-- `ck_schedule_assignment_interval` and `uq_schedule_assignment_record`. -/
instance : Constrained ScheduleAssignmentRow where
  check row := decide (0 ≤ row.assignment.startMinute) &&
    decide (row.assignment.startMinute < row.assignment.endMinute)
  clash a b := decide (a.scheduleVersionId = b.scheduleVersionId) &&
    decide (a.assignment.recordId = b.assignment.recordId)
  clash_comm a b := by simp [eq_comm]

/-- The primary key and `uq_job_queue_schedule_run`; `ck_job_queue_fencing_epoch`. -/
instance : Constrained JobLeaseV1 where
  check row := decide (0 ≤ row.fencingEpoch)
  clash a b := decide (a.jobId = b.jobId) || decide (a.scheduleRunId = b.scheduleRunId)
  clash_comm a b := by simp [eq_comm]

/-! ## Events and receipts -/

/-- The payload column of an event. -/
inductive EventPayload where
  | runProgress (activity : RunProgressActivityV1)
  | approvalRequest (activity : ApprovalRequestActivityV1)
  | plannerMessage (activity : PlannerMessageActivityV1)
  | turn (activity : TurnActivityV1)
  deriving DecidableEq, Repr

structure PersistedEventRow where
  siteId : Uuid
  streamId : Uuid
  sequence : Int
  eventType : String
  occurredAt : Instant
  resourceVersion : Int
  requestId : Uuid
  conversationId : Option Uuid
  agentRunId : Option Uuid
  scheduleRunId : Option Uuid
  actorId : Uuid
  payload : EventPayload
  deriving DecidableEq, Repr

/-- `ck_persisted_event_stream_owner` and `uq_persisted_event_stream_sequence`. -/
instance : Constrained PersistedEventRow where
  check row :=
    (decide (row.conversationId = some row.streamId) && row.scheduleRunId.isNone) ||
      (decide (row.scheduleRunId = some row.streamId) && row.conversationId.isNone)
  clash a b := decide (a.streamId = b.streamId) && decide (a.sequence = b.sequence)
  clash_comm a b := by simp [eq_comm]

/-- `ScheduleRunCancellationV1`. -/
structure ScheduleRunCancellationV1 where
  scheduleRunId : Uuid
  status : ScheduleRunStatus
  reason : String
  resourceVersion : Int
  cancellationRequested : Bool := false
  deriving DecidableEq, Repr

/-- `EnqueueComputeResultV1`. -/
structure EnqueueComputeResultV1 where
  scheduleRunId : Uuid
  jobId : Uuid
  deriving DecidableEq, Repr

/-- The response payloads the modelled commands store for replay. -/
inductive ResponsePayload where
  | cancellation (result : ScheduleRunCancellationV1)
  | enqueued (result : EnqueueComputeResultV1)
  /-- an `ApprovalOut`, with its `_decision_problem` where it carries one -/
  | approval (output : ApprovalOut) (decisionProblem : Option DecisionProblem)
  | proposalView (view : ProposalViewV1)
  deriving DecidableEq, Repr

structure CommandIdempotencyRow where
  siteId : Uuid
  actorId : Uuid
  operation : String
  idempotencyKey : String
  bodyHash : String
  responsePayload : ResponsePayload
  deriving DecidableEq, Repr

/-- `uq_command_idempotency_request`. -/
instance : Constrained CommandIdempotencyRow where
  check _ := true
  clash a b := decide (a.siteId = b.siteId) && decide (a.actorId = b.actorId) &&
    decide (a.operation = b.operation) && decide (a.idempotencyKey = b.idempotencyKey)
  clash_comm a b := by simp [eq_comm]

/-! ## Proposals -/

structure ProposalRow where
  id : Uuid
  siteId : Uuid
  conversationId : Uuid
  createdByActorId : Uuid
  state : ProposalState := .active
  currentVersionId : Option Uuid := none
  resourceVersion : Int := 1
  endedBy : Option ProposalEndedBy := none
  appliedVersionId : Option Uuid := none
  deriving DecidableEq, Repr

/-- `ck_proposal_lifecycle`, the primary key and `uq_proposal_one_active_per_conversation`. -/
instance : Constrained ProposalRow where
  check row :=
    match row.state with
    | .active => row.endedBy.isNone && row.appliedVersionId.isNone
    | .rejected => row.endedBy.isSome && row.appliedVersionId.isNone
    | .applied => decide (row.endedBy = some .system) && row.appliedVersionId.isSome
  clash a b := decide (a.id = b.id) ||
    (decide (a.state = .active) && decide (b.state = .active) &&
      decide (a.conversationId = b.conversationId))
  clash_comm a b := by
    rw [Bool.and_comm (decide (a.state = .active))]
    simp [eq_comm]

structure ProposalVersionRow where
  id : Uuid
  siteId : Uuid
  proposalId : Uuid
  versionOrdinal : Int
  payload : ProposalV1
  deriving DecidableEq, Repr

/-- The primary key and `uq_proposal_version_ordinal`. -/
instance : Constrained ProposalVersionRow where
  check _ := true
  clash a b := decide (a.id = b.id) ||
    (decide (a.proposalId = b.proposalId) && decide (a.versionOrdinal = b.versionOrdinal))
  clash_comm a b := by simp [eq_comm]

/-! ## Conversations -/

structure ConversationRow where
  id : Uuid
  siteId : Uuid
  scenarioId : Uuid
  scenarioVersionId : Uuid
  resourceVersion : Int := 1
  deriving DecidableEq, Repr

instance : Constrained ConversationRow where
  check _ := true
  clash a b := decide (a.id = b.id)
  clash_comm a b := by simp [eq_comm]

structure MessageRow where
  id : Uuid
  siteId : Uuid
  conversationId : Uuid
  actorId : Uuid
  text : String
  deriving DecidableEq, Repr

instance : Constrained MessageRow where
  check _ := true
  clash a b := decide (a.id = b.id)
  clash_comm a b := by simp [eq_comm]

structure AgentRunRow where
  id : Uuid
  siteId : Uuid
  conversationId : Uuid
  messageId : Uuid
  status : AgentRunStatus := .agentQueued
  statusReason : Option String := none
  deriving DecidableEq, Repr

instance : Constrained AgentRunRow where
  check _ := true
  clash a b := decide (a.id = b.id)
  clash_comm a b := by simp [eq_comm]

/-! ## Approvals -/

/-- A row of `approval_request`: the binding and its `pending_payload` column. -/
structure ApprovalRequestRow where
  binding : ApprovalBindingV1
  pendingPayload : Option PendingPayload := none
  deriving DecidableEq, Repr

/-- The primary key, `uq_approval_request_effect` and the two partial indexes on pending rows. -/
instance : Constrained ApprovalRequestRow where
  check _ := true
  clash a b :=
    decide (a.binding.approvalId = b.binding.approvalId) ||
    (decide (a.binding.siteId = b.binding.siteId) &&
      decide (a.binding.requestEffectKey = b.binding.requestEffectKey)) ||
    (decide (a.binding.state = .pending) && decide (b.binding.state = .pending) &&
      ((decide (a.binding.siteId = b.binding.siteId) &&
          decide (a.binding.scheduleRunId = b.binding.scheduleRunId)) ||
        (decide (a.binding.agentRunId = b.binding.agentRunId) && a.binding.agentRunId.isSome &&
          b.binding.agentRunId.isSome)))
  clash_comm a b := by
    rw [Bool.and_comm (decide (a.binding.state = .pending)), Bool.and_assoc (decide
      (a.binding.agentRunId = b.binding.agentRunId)), Bool.and_comm (a.binding.agentRunId.isSome),
      ← Bool.and_assoc]
    simp [eq_comm]

structure SiteBaselineRow where
  siteId : Uuid
  scheduleVersionId : Uuid
  resourceVersion : Int := 1
  updatedAt : Instant
  updatedByActorId : Uuid
  deriving DecidableEq, Repr

/-- `uq_site_baseline_site`. -/
instance : Constrained SiteBaselineRow where
  check _ := true
  clash a b := decide (a.siteId = b.siteId)
  clash_comm a b := by simp [eq_comm]

/-- The primary key, `uq_audit_event_success_effect` and `uq_audit_event_failure_attempt`. -/
instance : Constrained AuditEnvelopeV1 where
  check _ := true
  clash a b :=
    decide (a.auditId = b.auditId) ||
    (a.success && b.success && decide (a.siteId = b.siteId) &&
      decide (a.effectKey = b.effectKey) && decide (a.outcome = b.outcome)) ||
    (!a.success && !b.success && decide (a.siteId = b.siteId) &&
      decide (a.attemptId = b.attemptId))
  clash_comm a b := by
    rw [Bool.and_comm a.success, Bool.and_comm (!a.success)]
    simp [eq_comm]

structure MembershipRow where
  appUserId : Uuid
  siteId : Uuid
  revokedAt : Option Instant := none
  deriving DecidableEq, Repr

instance : Constrained MembershipRow where
  check _ := true
  clash _ _ := false
  clash_comm _ _ := rfl

/-! ## Governed scenarios -/

structure ScenarioVersionRow where
  id : Uuid
  siteId : Uuid
  scenarioId : Uuid
  checksumAlgorithm : String
  checksumSchemaVersion : String
  checksumDigest : String
  deriving DecidableEq, Repr

instance : Constrained ScenarioVersionRow where
  check _ := true
  clash a b := decide (a.id = b.id)
  clash_comm a b := by simp [eq_comm]

/-! ## The database -/

/-- The tables of one database. -/
structure Db where
  scenarioVersion : Table ScenarioVersionRow := .empty
  runSnapshot : Table RunSnapshotRow := .empty
  scheduleRun : Table ScheduleRunRow := .empty
  scheduleVersion : Table ScheduleVersionRow := .empty
  scheduleAssignment : Table ScheduleAssignmentRow := .empty
  jobQueue : Table JobLeaseV1 := .empty
  persistedEvent : Table PersistedEventRow := .empty
  commandIdempotency : Table CommandIdempotencyRow := .empty
  proposal : Table ProposalRow := .empty
  proposalVersion : Table ProposalVersionRow := .empty
  conversation : Table ConversationRow := .empty
  message : Table MessageRow := .empty
  agentRun : Table AgentRunRow := .empty
  approvalRequest : Table ApprovalRequestRow := .empty
  siteBaseline : Table SiteBaselineRow := .empty
  auditEvent : Table AuditEnvelopeV1 := .empty
  membership : Table MembershipRow := .empty

namespace Db

@[simps] def runSnapshots : Relvar Db RunSnapshotRow where
  get := runSnapshot
  put t db := { db with runSnapshot := t }

@[simps] def scheduleRuns : Relvar Db ScheduleRunRow where
  get := scheduleRun
  put t db := { db with scheduleRun := t }

@[simps] def scheduleVersions : Relvar Db ScheduleVersionRow where
  get := scheduleVersion
  put t db := { db with scheduleVersion := t }

@[simps] def scheduleAssignments : Relvar Db ScheduleAssignmentRow where
  get := scheduleAssignment
  put t db := { db with scheduleAssignment := t }

@[simps] def jobs : Relvar Db JobLeaseV1 where
  get := jobQueue
  put t db := { db with jobQueue := t }

@[simps] def persistedEvents : Relvar Db PersistedEventRow where
  get := persistedEvent
  put t db := { db with persistedEvent := t }

@[simps] def commandReceipts : Relvar Db CommandIdempotencyRow where
  get := commandIdempotency
  put t db := { db with commandIdempotency := t }

@[simps] def proposals : Relvar Db ProposalRow where
  get := proposal
  put t db := { db with proposal := t }

@[simps] def proposalVersions : Relvar Db ProposalVersionRow where
  get := proposalVersion
  put t db := { db with proposalVersion := t }

@[simps] def conversations : Relvar Db ConversationRow where
  get := conversation
  put t db := { db with conversation := t }

@[simps] def messages : Relvar Db MessageRow where
  get := message
  put t db := { db with message := t }

@[simps] def agentRuns : Relvar Db AgentRunRow where
  get := agentRun
  put t db := { db with agentRun := t }

@[simps] def approvalRequests : Relvar Db ApprovalRequestRow where
  get := approvalRequest
  put t db := { db with approvalRequest := t }

@[simps] def siteBaselines : Relvar Db SiteBaselineRow where
  get := siteBaseline
  put t db := { db with siteBaseline := t }

@[simps] def auditEvents : Relvar Db AuditEnvelopeV1 where
  get := auditEvent
  put t db := { db with auditEvent := t }

end Db

/-- What a transaction takes from outside its statements: the transaction's start time at the
database (`now()`), the clock of the application process, the random UUIDs it draws, in order, and
the digest of a canonical JSON object with these members. -/
structure Ambient where
  now : Instant
  clock : Instant
  uuid4 : Nat → Uuid
  contractDigest : List (String × JsonScalar) → String

end ShiftMind
