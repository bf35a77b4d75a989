import ShiftMind.Contracts.Workflow

/-!
# ShiftMind — approvals, audit and agent runs

`application/contracts/approval_binding.py`, `application/contracts/audit_envelope.py` and the
statuses of an agent run: what the consequential workflow persists.
-/

namespace ShiftMind

/-- `ApprovalStateV1`. -/
inductive ApprovalState where
  | pending
  | consumed
  | rejected
  | expired
  | stale
  deriving DecidableEq, Repr

def ApprovalState.value : ApprovalState → String
  | pending => "pending"
  | consumed => "consumed"
  | rejected => "rejected"
  | expired => "expired"
  | stale => "stale"

/-- `ApprovalBindingV1`. Its action is the one literal `promote_baseline`. -/
structure ApprovalBindingV1 where
  approvalId : Uuid
  state : ApprovalState
  siteId : Uuid
  initiatedByActorId : Uuid
  decidedByActorId : Option Uuid := none
  conversationId : Uuid
  agentRunId : Option Uuid
  scheduleRunId : Uuid
  candidateScheduleVersionId : Uuid
  scenarioVersionId : Uuid
  baselineScheduleVersion : Option String
  baselineResourceVersion : Option Int
  parameterHash : String
  consequenceSummary : String
  consequenceHash : String
  policyVersion : String
  createdAt : Instant
  expiresAt : Instant
  decidedAt : Option Instant := none
  consumedAt : Option Instant := none
  requestEffectKey : String
  resourceVersion : Int := 1
  deriving DecidableEq, Repr

/-- `ApprovalOut`: the published view of a binding. -/
structure ApprovalOut where
  approvalId : Uuid
  state : ApprovalState
  scheduleRunId : Uuid
  candidateScheduleVersionId : Uuid
  baselineScheduleVersion : Option String
  scenarioVersionId : Uuid
  consequenceSummary : String
  policyVersion : String
  agentRunId : Option Uuid
  createdAt : Instant
  expiresAt : Instant
  resourceVersion : Int
  deriving DecidableEq, Repr

/-- `presented_approval_state`: an overdue pending binding is shown as expired. -/
def presentedApprovalState (binding : ApprovalBindingV1) (now : Instant) : ApprovalState :=
  if binding.state = .pending ∧ binding.expiresAt ≤ now then .expired else binding.state

/-- `_out`. -/
def ApprovalOut.ofBinding (binding : ApprovalBindingV1) (now : Instant) : ApprovalOut where
  approvalId := binding.approvalId
  state := presentedApprovalState binding now
  scheduleRunId := binding.scheduleRunId
  candidateScheduleVersionId := binding.candidateScheduleVersionId
  baselineScheduleVersion := binding.baselineScheduleVersion
  scenarioVersionId := binding.scenarioVersionId
  consequenceSummary := binding.consequenceSummary
  policyVersion := binding.policyVersion
  agentRunId := binding.agentRunId
  createdAt := binding.createdAt
  expiresAt := binding.expiresAt
  resourceVersion := binding.resourceVersion

/-- `_decision_problem`: what a replayed `expired` or `stale` decision is answered with. -/
structure DecisionProblem where
  outcome : ApprovalState
  expected : JsonObject
  current : JsonObject
  deriving DecidableEq, Repr

/-- `AuditOutcomeV1`. -/
inductive AuditOutcome where
  | approvalRequested
  | approvalConsumed
  | approvalRejected
  | approvalExpired
  | approvalStale
  | approvalDenied
  deriving DecidableEq, Repr

/-- `AuditEnvelopeV1`. -/
structure AuditEnvelopeV1 where
  auditId : Uuid
  attemptId : Uuid
  requestId : Uuid
  siteId : Uuid
  initiatedByActorId : Uuid
  decidedByActorId : Option Uuid
  conversationId : Option Uuid
  agentRunId : Option Uuid
  approvalId : Option Uuid
  scheduleRunId : Option Uuid
  outcome : AuditOutcome
  success : Bool
  effectKey : String
  beforeVersion : Option String
  afterVersion : Option String
  safeSummary : String
  parameterHash : String
  consequenceHash : String
  policyVersion : String
  evidenceRefs : List EvidenceRefV1
  occurredAt : Instant
  deriving DecidableEq, Repr

/-- The statuses `ck_agent_run_status` admits. -/
inductive AgentRunStatus where
  | agentQueued
  | agentRunning
  | approvalRequired
  | agentCompleted
  | agentTimedOut
  | agentCancelled
  | agentFailed
  deriving DecidableEq, Repr

/-- `AgentToolCallProposalV1`: a tool call as the model proposed it, its arguments unparsed. -/
structure AgentToolCallProposalV1 where
  toolCallId : String := ""
  toolName : String := ""
  toolArgsJson : String := "{}"
  deriving DecidableEq, Repr

/-- A stored `pending_payload`: either it validates as `AgentApprovalPendingV1`, and then it
carries its pending calls, or it does not. -/
inductive PendingPayload where
  | readable (pendingCalls : List AgentToolCallProposalV1)
  | unreadable
  deriving DecidableEq, Repr

/-- The approval activity a conversation stream shows. -/
structure ApprovalRequestActivityV1 where
  conversationId : Uuid
  conversationResourceVersion : Int
  scenarioId : Uuid
  scenarioVersionId : Uuid
  occurredAt : Instant
  approvalId : Uuid
  approvalState : ApprovalState
  agentRunId : Option Uuid
  scheduleRunId : Uuid
  candidateScheduleVersionId : Uuid
  baselineScheduleVersion : Option String
  consequenceSummary : String
  parameterHash : String
  consequenceHash : String
  policyVersion : String
  expiresAt : Instant
  deriving DecidableEq, Repr

/-- `RunProgressActivityV1`. -/
structure RunProgressActivityV1 where
  scheduleRunId : Uuid
  status : ScheduleRunStatus
  reason : Option String
  resourceVersion : Int
  occurredAt : Instant
  deriving DecidableEq, Repr

end ShiftMind
