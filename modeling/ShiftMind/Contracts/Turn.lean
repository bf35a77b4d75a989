import ShiftMind.Contracts.Approval
import ShiftMind.Contracts.Grounding

/-!
# ShiftMind — agent turns and working drafts

`application/contracts/{dialogue,agent_runtime,agent_status,activity}.py` and the draft writes of
`application/contracts/proposal.py`: what a turn observed, what it wants written, and what it shows
in its conversation.
-/

namespace ShiftMind

/-! ## Working drafts -/

/-- `ProposalEndedByV1`. -/
inductive ProposalEndedBy where
  | planner
  | assistant
  | system
  deriving DecidableEq, Repr

/-- `DraftOutcomeV1`. -/
inductive DraftOutcome where
  | created
  | updated
  deriving DecidableEq, Repr

/-- `WorkingDraftObservationV1`: the working draft as one turn first saw it. -/
structure WorkingDraftObservationV1 where
  proposalId : Uuid
  resourceVersion : Int
  versionOrdinal : Int
  deriving DecidableEq, Repr

/-- `AgentDraftWriteV1`: what a turn wants written, with the working draft it resolved against. -/
structure AgentDraftWriteV1 where
  proposal : ProposalV1
  outcome : DraftOutcome
  versionOrdinal : Int
  observedWorkingId : Option Uuid := none
  observedResourceVersion : Option Int := none
  deriving DecidableEq, Repr

/-- `AgentDraftDiscardV1`. -/
structure AgentDraftDiscardV1 where
  proposalId : Uuid
  observedResourceVersion : Int
  versionOrdinal : Int
  deriving DecidableEq, Repr

/-- `DraftReferenceV1`. -/
structure DraftReferenceV1 where
  proposalId : Uuid
  proposalVersionId : Uuid
  consequenceSummary : String
  deriving DecidableEq, Repr

/-- `ProposalViewV1`. -/
structure ProposalViewV1 where
  proposal : ProposalV1
  currentScenarioVersionId : Uuid
  stale : Bool
  versionOrdinal : Option Int := none
  endedBy : Option ProposalEndedBy := none
  appliedVersionOrdinal : Option Int := none
  deriving DecidableEq, Repr

/-! ## Dialogue -/

/-- `EntityCandidateV1`. -/
structure EntityCandidateV1 where
  group : EvidenceGroup
  recordId : String
  label : String
  scenarioVersionId : Option Uuid
  deriving DecidableEq, Repr

/-- `ClarificationV1`: the model's question, its candidates unresolved. -/
structure ClarificationV1 where
  question : String
  candidates : List (EvidenceGroup × String)
  deriving DecidableEq, Repr

/-- `ResolvedClarificationV1`. -/
structure ResolvedClarificationV1 where
  question : String
  candidates : List EntityCandidateV1
  scenarioVersionId : Option Uuid
  droppedCandidateCount : Nat
  deriving DecidableEq, Repr

/-- `RefusalReasonV1`. -/
inductive RefusalReason where
  | unsupportedRequest
  | capabilityUnavailable
  | outOfScope
  deriving DecidableEq, Repr

/-- `RefusalV1`. -/
structure RefusalV1 where
  reason : RefusalReason
  detail : String
  nextStep : Option String
  deriving DecidableEq, Repr

/-- `AgentRunStatusV1`: how the runtime ended a turn. -/
inductive AgentRunStatusV1 where
  | completed
  | suspended
  | timedOut
  | failed
  deriving DecidableEq, Repr

/-- `TerminalReasonV1`. -/
inductive TerminalReason where
  | providerError
  | invalidOutput
  | budgetExhausted
  | deadlineExceeded
  | capabilityError
  | refused
  | approvalUnsupported
  | approvalNotGrantable
  deriving DecidableEq, Repr

/-- `TerminalOutcomeV1`. -/
structure TerminalOutcomeV1 where
  status : AgentRunStatusV1
  reason : TerminalReason
  refusalReason : Option RefusalReason := none
  detail : String
  nextStep : Option String
  deriving DecidableEq, Repr

/-! ## Outcomes of a turn -/

/-- `AgentApprovalPendingV1`. -/
structure AgentApprovalPendingV1 where
  pendingCalls : List AgentToolCallProposalV1
  deriving DecidableEq, Repr

/-- The layer that produced a failure reason. -/
inductive FailureSource where
  | agent
  | capability
  deriving DecidableEq, Repr

/-- `AgentRunOutcomeV1`. -/
structure AgentRunOutcomeV1 where
  status : AgentRunStatusV1
  failureReason : Option String := none
  failureSource : Option FailureSource := none
  answer : Option String := none
  groundedResponse : Option GroundedResponseV1 := none
  clarification : Option ClarificationV1 := none
  resolvedClarification : Option ResolvedClarificationV1 := none
  refusal : Option RefusalV1 := none
  /-- the `draft_id` the model cites -/
  draft : Option String := none
  resolvedDraft : Option AgentDraftWriteV1 := none
  resolvedDiscard : Option AgentDraftDiscardV1 := none
  approval : Option AgentApprovalPendingV1 := none
  deriving DecidableEq, Repr

/-- What a turn shows that writes no draft. -/
inductive TurnAnswer where
  | response (response : GroundedResponseV1)
  | clarification (clarification : ResolvedClarificationV1)
  | terminal (outcome : TerminalOutcomeV1)
  deriving DecidableEq, Repr

/-- The payload a turn is finalised with. -/
inductive TurnPayload where
  | answer (answer : TurnAnswer)
  | draft (write : AgentDraftWriteV1)
  deriving DecidableEq, Repr

/-- The payload of a turn's activity. -/
inductive ActivityPayload where
  | answer (answer : TurnAnswer)
  | draft (reference : DraftReferenceV1)
  deriving DecidableEq, Repr

/-- The `activity_type` of a payload. -/
def ActivityPayload.activityType : ActivityPayload → String
  | answer (.response _) => "agent_response"
  | answer (.clarification _) => "clarification"
  | answer (.terminal _) => "terminal_outcome"
  | draft _ => "draft"

/-- The activity a finished turn shows in its conversation. -/
structure TurnActivityV1 where
  conversationId : Uuid
  conversationResourceVersion : Int
  scenarioId : Uuid
  scenarioVersionId : Uuid
  occurredAt : Instant
  payload : ActivityPayload
  deriving DecidableEq, Repr

/-- `PlannerMessageActivityV1`. -/
structure PlannerMessageActivityV1 where
  conversationId : Uuid
  conversationResourceVersion : Int
  scenarioId : Uuid
  scenarioVersionId : Uuid
  occurredAt : Instant
  messageId : Uuid
  text : String
  deriving DecidableEq, Repr

/-- `ClaimedAgentRunV1`. -/
structure ClaimedAgentRunV1 where
  agentRunId : Uuid
  conversationId : Uuid
  scenarioId : Uuid
  scenarioVersionId : Uuid
  siteId : Uuid
  actorId : Uuid
  prompt : String
  deriving DecidableEq, Repr

end ShiftMind
