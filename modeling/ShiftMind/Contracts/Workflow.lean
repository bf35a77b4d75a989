import ShiftMind.Contracts.ScheduleVersion

/-!
# ShiftMind — snapshots, leases and errors

`application/contracts/run_snapshot.py`, `application/contracts/job_lease.py` and the exceptions
the schedule-run ports and use cases raise, each carrying the text the source builds.
-/

namespace ShiftMind

/-! ## Run snapshots -/

/-- `RunSnapshotV1`: the immutable manifest of one accepted computation. Its required fields are
plain here: `__post_init__` refuses a snapshot that lacks one. -/
structure RunSnapshotV1 where
  snapshotId : Uuid
  scheduleRunId : Uuid
  scenarioId : Uuid
  scenarioVersionId : Uuid
  checksumAlgorithm : String
  checksumSchemaVersion : String
  checksumDigest : String
  baselineScheduleVersion : Option String
  proposalId : Uuid
  proposalVersionId : Uuid
  proposalResourceVersion : Int
  preservedLocks : List LockV1
  constraints : List DraftConstraintV1
  acceptedAt : Instant
  inputEvidenceRefs : List EvidenceRefV1
  deriving DecidableEq, Repr

/-! ## Job leases -/

/-- `JobStatusV1`. -/
inductive JobStatus where
  | queued
  | leased
  | completed
  | failed
  deriving DecidableEq, Repr

/-- `MAX_IDEMPOTENCY_KEY_LENGTH`. -/
def maxIdempotencyKeyLength : Nat := 40

/-- `JobLeaseV1`, which is also the row of `workflow.job_queue`. -/
structure JobLeaseV1 where
  jobId : Uuid
  status : JobStatus := .queued
  siteId : Uuid
  actorId : Uuid
  attemptId : Option Uuid := none
  capabilityVersion : String
  scheduleRunId : Uuid
  idempotencyKey : String
  leaseOwner : Option String := none
  leaseExpiresAt : Option Instant := none
  heartbeatAt : Option Instant := none
  fencingEpoch : Int := 0
  cancellationRequested : Bool := false
  createdAt : Instant
  deriving DecidableEq, Repr

/-- `LeaseRenewalV1`. -/
structure LeaseRenewalV1 where
  renewed : Bool
  cancellationRequested : Bool := false
  deriving DecidableEq, Repr

/-- `ScheduleRunStateV1`. -/
structure ScheduleRunStateV1 where
  status : ScheduleRunStatus
  resourceVersion : Int
  deriving DecidableEq, Repr

/-- A member of a canonical JSON object: a scalar, or a list of items by their own canonical
JSON. -/
inductive JsonScalar where
  | null
  | bool (b : Bool)
  | int (n : Int)
  | str (s : String)
  /-- an instant, rendered by `isoformat` -/
  | instant (t : Instant)
  | list (items : List String)
  deriving DecidableEq, Repr

/-- A JSON object, its members in order. -/
abbrev JsonObject := List (String × JsonScalar)

/-! ## Errors of the approval workflow -/

/-- `ApprovalRequestError` and its subclasses. -/
inductive ApprovalRequestErrorClass where
  | approvalRequestError
  | candidateNotFound
  | candidateNotPromotable
  | staleResourceVersion
  | staleBaselineVersion
  | approvalNotGranted
  | approvalAlreadyPending
  deriving DecidableEq, Repr

/-- The `code` attribute of the class. -/
def ApprovalRequestErrorClass.code : ApprovalRequestErrorClass → String
  | approvalRequestError => "invalid_approval_command"
  | candidateNotFound => "candidate_not_found"
  | candidateNotPromotable => "candidate_not_promotable"
  | staleResourceVersion => "stale_resource_version"
  | staleBaselineVersion => "stale_baseline_version"
  | approvalNotGranted => "approval_not_granted"
  | approvalAlreadyPending => "approval_already_pending"

/-- `DecideApprovalError` and its subclasses, those of `promote_baseline.py` included. -/
inductive DecideApprovalErrorClass where
  | decideApprovalError
  | approvalNotFound
  | approvalNotPending
  | staleResourceVersion
  | approvalNotGranted
  /-- subclass of `ApprovalNotPendingError` -/
  | postWriteApprovalNotPending
  /-- subclass of `ApprovalNotPendingError` -/
  | concurrentDecision
  | baselineConcurrentlyMoved
  | approvalPayloadUnreadable
  deriving DecidableEq, Repr

namespace DecideApprovalErrorClass

/-- The `code` attribute of the class. -/
def code : DecideApprovalErrorClass → String
  | decideApprovalError => "invalid_approval_command"
  | approvalNotFound => "approval_not_found"
  | approvalNotPending | postWriteApprovalNotPending | concurrentDecision => "approval_not_pending"
  | staleResourceVersion => "stale_resource_version"
  | approvalNotGranted => "approval_not_granted"
  | baselineConcurrentlyMoved => "stale_baseline_version"
  | approvalPayloadUnreadable => "approval_payload_unreadable"

/-- `isinstance(exc, ApprovalNotPendingError)`. -/
def isNotPending : DecideApprovalErrorClass → Bool
  | approvalNotPending | postWriteApprovalNotPending | concurrentDecision => true
  | _ => false

end DecideApprovalErrorClass

/-- `ProposalCommandError` and its subclasses. -/
inductive ProposalCommandErrorClass where
  | proposalCommandError
  | idempotencyKeyConflict
  | staleResourceVersion (expected current : Int)
  | staleProposal
  | rejectedProposal
  | appliedProposal
  | projectionUnavailable
  deriving DecidableEq, Repr

/-! ## Errors

One constructor for each exception class the modelled code raises or catches; the classes the
code tells apart by type stay apart here. -/

inductive PyError where
  /-- a bare `ValueError` -/
  | valueError (message : String)
  | zeroDivisionError
  | overflowError
  | keyError (key : String)
  | runtimeError (message : String)
  /-- a constraint of the database refused a statement -/
  | integrityError (constraint : String)
  /-- SQLSTATE 22023 raised by a PL/pgSQL function -/
  | invalidParameter (message : String)
  | staleLease (message : String)
  | runTransitionConflict (message : String)
  | illegalTransition (message : String)
  /-- the repository's `RunNotCancellableError` -/
  | repositoryRunNotCancellable (message : String)
  | fatalJob (message : String)
  | hardConstraintViolation (message : String)
  /-- `CancelScheduleRunError` itself -/
  | cancelScheduleRun (message : String)
  /-- its subclass `IdempotencyKeyConflictError` -/
  | cancelIdempotencyKeyConflict (message : String)
  /-- its subclass `StaleResourceVersionError` -/
  | cancelStaleResourceVersion (expected current : Int)
  /-- its subclass `RunNotCancellableError` -/
  | cancelRunNotCancellable (message : String)
  /-- `EnqueueComputeError` itself -/
  | enqueueCompute (message : String)
  | enqueueProposalNotFound (message : String)
  | enqueueIdempotencyKeyConflict (message : String)
  | siteConcurrencyExhausted (message : String)
  | staleProposalResourceVersion (expected current : Int)
  | snapshotCreation (code message : String)
  | approvalRequest (cls : ApprovalRequestErrorClass) (message : String)
  | decideApproval (cls : DecideApprovalErrorClass) (message : String)
      (expected current : JsonObject)
  | agentRunNotQueued (message : String)
  /-- `ProposalCommandError` and its subclasses -/
  | proposalCommand (cls : ProposalCommandErrorClass) (message : String)
  /-- a typed refusal of a capability -/
  | capability (code message : String)
  /-- a statement the database failed to execute for reasons of its own -/
  | databaseError (message : String)
  /-- a value the database refuses for the type of its column -/
  | dataError (message : String)
  | assertionError (message : String)
  deriving DecidableEq, Repr

end ShiftMind
