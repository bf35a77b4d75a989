import ShiftMind.Store.Proposal
import ShiftMind.UseCases.RequestApproval

/-!
# ShiftMind — promoting a baseline

`application/use_cases/promote_baseline.py`: consume the binding, move the baseline, write the
audit row, show the decision and resume the agent run, apply the originating proposal — in the
caller's transaction. The module's own table says which failures must leave the endpoint so that
the whole bundle rolls back; whether they do is decided by the route.
-/

namespace ShiftMind

open Transactional

/-- The repository calls of a decision, each of which the database may fail to execute. -/
inductive DecisionStatement where
  | consume
  | promote
  | terminalize
  | cancelAgentRun
  | appendAudit
  | readPayload
  | resumeAgentRun
  | appendActivity
  | markApplied
  | storeReceipt
  deriving DecidableEq, Repr

/-- Which calls fail, and with what message. -/
abbrev Outage := DecisionStatement → Option String

/-- `ResumeRequestV1`, without the model's own history. -/
structure ResumeRequestV1 where
  agentRunId : Uuid
  toolCallId : String
  deriving DecidableEq, Repr

structure PromotionResultV1 where
  binding : ApprovalBindingV1
  baseline : SiteBaselineRow
  activity : ExecutedAgentRunV1
  resume : Option ResumeRequestV1
  deriving DecidableEq, Repr

/-- What every decision takes from its request and its session. -/
structure DecisionContext where
  env : Ambient
  outage : Outage
  siteId : Uuid
  actorId : Uuid
  requestId : Uuid

/-! ## The parts of the bundle -/

/-- Consume the binding; a compare-and-set that matched no row lost to another decision. -/
def consumeBinding (ctx : DecisionContext) (binding : ApprovalBindingV1) :
    DbTx ApprovalBindingV1 := do
  let consumed ← attempt (ctx.outage .consume)
    (ApprovalRepository.consume binding.approvalId binding.siteId ctx.actorId ctx.env.clock
      binding.resourceVersion)
  match consumed with
  | some consumed => pure consumed
  | none =>
    throw (.decideApproval .postWriteApprovalNotPending "approval is no longer pending"
      [("state", .str "pending"), ("resource_version", .int binding.resourceVersion)]
      [("state", .str "terminal_or_changed")])

/-- Move the baseline from the version the binding pinned to its candidate. -/
def moveToCandidate (ctx : DecisionContext) (binding : ApprovalBindingV1) :
    DbTx SiteBaselineRow := do
  let baseline ← attempt (ctx.outage .promote)
    (SiteBaseline.promote binding.siteId binding.candidateScheduleVersionId ctx.actorId
      ctx.env.clock binding.baselineResourceVersion)
  match baseline with
  | some baseline => pure baseline
  | none =>
    throw (.decideApproval .baselineConcurrentlyMoved "the site baseline moved concurrently"
      [("baseline_resource_version",
        (binding.baselineResourceVersion.map JsonScalar.int).getD .null)]
      [("baseline_resource_version", .str "changed")])

/-- The success audit row of a consumed binding. -/
def consumedAudit (ctx : DecisionContext) (binding : ApprovalBindingV1)
    (candidate : ScheduleVersionV1) : AuditEnvelopeV1 where
  auditId := ctx.env.uuid4 0
  attemptId := ctx.env.uuid4 1
  requestId := ctx.requestId
  siteId := binding.siteId
  initiatedByActorId := binding.initiatedByActorId
  decidedByActorId := some ctx.actorId
  conversationId := some binding.conversationId
  agentRunId := binding.agentRunId
  approvalId := some binding.approvalId
  scheduleRunId := some binding.scheduleRunId
  outcome := .approvalConsumed
  success := true
  effectKey := binding.requestEffectKey
  beforeVersion := binding.baselineScheduleVersion
  afterVersion := some (toString binding.candidateScheduleVersionId)
  safeSummary := binding.consequenceSummary
  parameterHash := binding.parameterHash
  consequenceHash := binding.consequenceHash
  policyVersion := binding.policyVersion
  evidenceRefs := candidate.evidenceRefs
  occurredAt := ctx.env.clock

/-- The error of a payload that cannot drive a resumed turn. -/
def payloadUnreadable (message member : String) (expected current : JsonScalar) : PyError :=
  .decideApproval .approvalPayloadUnreadable message [(member, expected)] [(member, current)]

/-- The one pending call a stored payload carries. -/
def readPendingCall : Option PendingPayload → Except PyError AgentToolCallProposalV1
  | none => .error (payloadUnreadable
      "agent-backed approval has no pending payload to resume from" "pending_payload"
      (.str "present") (.str "absent"))
  | some .unreadable => .error (payloadUnreadable
      "agent-backed approval payload does not match the owned contract" "pending_payload"
      (.str "AgentApprovalPendingV1") (.str "unreadable"))
  | some (.readable [call]) => .ok call
  | some (.readable calls) => .error (payloadUnreadable
      "approval pending payload must contain exactly one call" "pending_calls"
      (.int 1) (.int calls.length))

/-- Show the decision in the conversation; an agent-backed binding resumes its run, from the
payload stored with the binding. -/
def showPromotion (ctx : DecisionContext) (binding consumed : ApprovalBindingV1) :
    DbTx (ExecutedAgentRunV1 × Option ResumeRequestV1) :=
  match binding.agentRunId with
  | none => do
    let activity ← attempt (ctx.outage .appendActivity)
      (ConversationRepository.appendApprovalActivity consumed ctx.actorId ctx.requestId none
        ctx.env.clock none)
    pure (activity, none)
  | some agentRunId => do
    let payload ← attempt (ctx.outage .readPayload)
      (ApprovalRepository.getPendingPayload binding.approvalId binding.siteId)
    let call ← Tx.lift (readPendingCall payload)
    let activity ← attempt (ctx.outage .resumeAgentRun)
      (ConversationRepository.resumeAgentRunForApproval agentRunId consumed ctx.requestId
        ctx.env.clock)
    pure (activity, some ⟨agentRunId, call.toolCallId⟩)

/-! ## The bundle -/

/-- What the promotion does once the binding, the baseline and the audit row are written. -/
def completePromotion (ctx : DecisionContext) (binding consumed : ApprovalBindingV1)
    (baseline : SiteBaselineRow) : DbTx PromotionResultV1 := do
  let shown ← showPromotion ctx binding consumed
  -- the last write on both initiator paths; zero rows changed is no error
  let _ ← attempt (ctx.outage .markApplied)
    (ProposalRepository.markApplied binding.siteId binding.candidateScheduleVersionId)
  pure ⟨consumed, baseline, shown.1, shown.2⟩

/-- The writes of `promote_baseline`, in order. -/
def promotionWrites (ctx : DecisionContext) (binding : ApprovalBindingV1)
    (candidate : ScheduleVersionV1) : DbTx PromotionResultV1 := do
  let consumed ← consumeBinding ctx binding
  let baseline ← moveToCandidate ctx binding
  attempt (ctx.outage .appendAudit)
    (AuditWriter.append (consumedAudit ctx binding candidate))
  completePromotion ctx binding consumed baseline

/-- `promote_baseline`. -/
def promoteBaseline (ctx : DecisionContext) (binding : ApprovalBindingV1)
    (candidate : Option ScheduleVersionV1) : DbTx PromotionResultV1 :=
  if binding.state ≠ .pending then
    throw (.assertionError "promote_baseline requires a pending validated binding")
  else
    match candidate with
    | none =>
      throw (.assertionError "promote_baseline requires the candidate revalidation resolved")
    | some candidate => promotionWrites ctx binding candidate

end ShiftMind
