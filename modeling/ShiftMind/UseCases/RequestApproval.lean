import ShiftMind.Store.Approval
import ShiftMind.Store.Conversation

/-!
# ShiftMind — requesting an approval

`application/use_cases/request_approval.py` and its two callers: the route `POST /approvals` of
`api/routers/approvals.py` and the suspended turn of `api/routers/conversations.py`.

Every refusal is raised before the first write, so a caller that returns it as a response commits
nothing. A constraint that refuses a write aborts the transaction instead: the database turns the
`COMMIT` of an aborted transaction into a rollback, which is why the route's handler of
`IntegrityError` stands behind a savepoint here.
-/

namespace ShiftMind

open Transactional ScheduleRunRepository

/-- `derive_policy_version`. -/
def derivePolicyVersion (env : Ambient) (schedulingBaselineEnabled : Bool) : String :=
  "one-user-mvp-v1+" ++ String.ofList ((env.contractDigest
    [("scheduling_baseline_enabled", .bool schedulingBaselineEnabled)]).toList.take 12)

/-- `str(value)` of an optional UUID inside a JSON object. -/
def JsonScalar.ofOption : Option String → JsonScalar
  | none => .null
  | some s => .str s

/-- The digest that signs what a binding promotes. -/
def parameterHash (env : Ambient) (scheduleRunId candidateScheduleVersionId : Uuid)
    (baselineScheduleVersion : Option String) (expectedResourceVersion : Option Int) : String :=
  env.contractDigest
    [("action", .str "promote_baseline"),
      ("schedule_run_id", .str (toString scheduleRunId)),
      ("candidate_schedule_version_id", .str (toString candidateScheduleVersionId)),
      ("expected_baseline_schedule_version", .ofOption baselineScheduleVersion),
      ("expected_resource_version", (expectedResourceVersion.map JsonScalar.int).getD .null)]

/-- The digest of the sentence the planner was shown. -/
def consequenceHash (env : Ambient) (consequenceSummary : String) : String :=
  env.contractDigest [("consequence_summary", .str consequenceSummary)]

/-- The version a baseline row points to, as the contracts print it. -/
def baselineVersion (baseline : Option SiteBaselineRow) : Option String :=
  baseline.map fun row => toString row.scheduleVersionId

structure RequestApprovalCommandV1 where
  siteId : Uuid
  actorId : Uuid
  scheduleRunId : Uuid
  expectedResourceVersion : Int
  expectedBaselineScheduleVersion : Option String
  requestEffectKey : String
  requestId : Uuid
  conversationId : Uuid
  agentRunId : Option Uuid := none
  pendingPayload : Option PendingPayload := none
  deriving DecidableEq, Repr

structure RequestApprovalResultV1 where
  binding : ApprovalBindingV1
  activity : ExecutedAgentRunV1
  deriving DecidableEq, Repr

/-- The settings an approval depends on. -/
structure ApprovalSettings where
  schedulingBaselineEnabled : Bool
  approvalExpirySeconds : Int
  deriving DecidableEq, Repr

/-! ## The command -/

/-- A refusal of the command, raised before any write. -/
def refuseRequest {α : Type} (cls : ApprovalRequestErrorClass) (message : String) : DbTx α :=
  throw (.approvalRequest cls message)

/-- The candidate the command may promote: the run is completed, at the version the caller pinned,
and its candidate is feasible. -/
def promotableCandidate (cmd : RequestApprovalCommandV1) : DbTx ScheduleVersionV1 := do
  let run ← getRunState cmd.scheduleRunId cmd.siteId
  match run with
  | none => refuseRequest .candidateNotFound "the requested schedule run is not available"
  | some run =>
    if run.status ≠ .solverCompleted then
      refuseRequest .candidateNotPromotable "the requested schedule run is not promotable"
    else if run.resourceVersion ≠ cmd.expectedResourceVersion then
      refuseRequest .staleResourceVersion "the schedule run has changed"
    else do
      let candidate ← getCandidate cmd.scheduleRunId cmd.siteId
      match candidate with
      | none =>
        refuseRequest .candidateNotPromotable "the requested schedule run has no feasible candidate"
      | some candidate =>
        if candidate.feasibleSolverStatus ≠ .optimal ∧
            candidate.feasibleSolverStatus ≠ .feasible then
          refuseRequest .candidateNotPromotable
            "the requested schedule run has no feasible candidate"
        else pure candidate

/-- The sentence a binding is signed with. -/
def consequenceSummary (candidate : ScheduleVersionV1) (currentBaseline : Option String) : String :=
  "Candidate schedule version " ++ toString candidate.scheduleVersionId ++ "; baseline " ++
    currentBaseline.getD "no current baseline" ++ "; scenario version " ++
    toString candidate.scenarioVersionId ++ "; " ++ toString candidate.assignments.length ++
    " candidate assignments."

/-- The binding a request creates: it pins the candidate, the baseline and the baseline's resource
version. -/
def pendingBinding (env : Ambient) (settings : ApprovalSettings) (cmd : RequestApprovalCommandV1)
    (candidate : ScheduleVersionV1) (baseline : Option SiteBaselineRow) : ApprovalBindingV1 where
  approvalId := env.uuid4 0
  state := .pending
  siteId := cmd.siteId
  initiatedByActorId := cmd.actorId
  conversationId := cmd.conversationId
  agentRunId := cmd.agentRunId
  scheduleRunId := cmd.scheduleRunId
  candidateScheduleVersionId := candidate.scheduleVersionId
  scenarioVersionId := candidate.scenarioVersionId
  baselineScheduleVersion := baselineVersion baseline
  baselineResourceVersion := baseline.map SiteBaselineRow.resourceVersion
  parameterHash := ShiftMind.parameterHash env cmd.scheduleRunId candidate.scheduleVersionId
    (baselineVersion baseline) (some cmd.expectedResourceVersion)
  consequenceSummary := ShiftMind.consequenceSummary candidate (baselineVersion baseline)
  consequenceHash := ShiftMind.consequenceHash env
    (ShiftMind.consequenceSummary candidate (baselineVersion baseline))
  policyVersion := derivePolicyVersion env settings.schedulingBaselineEnabled
  createdAt := env.clock
  expiresAt := env.clock + settings.approvalExpirySeconds * 1000000
  requestEffectKey := cmd.requestEffectKey

/-- The audit row of a request: its effect key is the command's, not the fresh approval id. -/
def requestedAudit (env : Ambient) (cmd : RequestApprovalCommandV1) (candidate : ScheduleVersionV1)
    (binding : ApprovalBindingV1) : AuditEnvelopeV1 where
  auditId := env.uuid4 1
  attemptId := env.uuid4 2
  requestId := cmd.requestId
  siteId := cmd.siteId
  initiatedByActorId := cmd.actorId
  decidedByActorId := none
  conversationId := some cmd.conversationId
  agentRunId := cmd.agentRunId
  approvalId := some binding.approvalId
  scheduleRunId := some cmd.scheduleRunId
  outcome := .approvalRequested
  success := true
  effectKey := cmd.requestEffectKey
  beforeVersion := binding.baselineScheduleVersion
  afterVersion := none
  safeSummary := binding.consequenceSummary
  parameterHash := binding.parameterHash
  consequenceHash := binding.consequenceHash
  policyVersion := binding.policyVersion
  evidenceRefs := candidate.evidenceRefs
  occurredAt := env.clock

/-- The activity of a fresh binding: an agent's run is paused, a planner's request is recorded. -/
def showRequest (cmd : RequestApprovalCommandV1) (binding : ApprovalBindingV1) :
    DbTx ExecutedAgentRunV1 :=
  match cmd.agentRunId with
  | some agentRunId =>
    ConversationRepository.pauseAgentRunForApproval agentRunId binding cmd.requestId
  | none =>
    ConversationRepository.appendApprovalActivity binding cmd.actorId cmd.requestId none
      binding.createdAt none

/-- The three writes of the bundle. -/
def bindCandidate (env : Ambient) (settings : ApprovalSettings) (cmd : RequestApprovalCommandV1)
    (candidate : ScheduleVersionV1) (baseline : Option SiteBaselineRow) :
    DbTx RequestApprovalResultV1 := do
  let binding := pendingBinding env settings cmd candidate baseline
  ApprovalRepository.createPending binding cmd.pendingPayload
  AuditWriter.append (requestedAudit env cmd candidate binding)
  let activity ← showRequest cmd binding
  pure ⟨binding, activity⟩

/-- `request_approval`. -/
def requestApproval (env : Ambient) (settings : ApprovalSettings)
    (cmd : RequestApprovalCommandV1) : DbTx RequestApprovalResultV1 := do
  if settings.schedulingBaselineEnabled = false then
    refuseRequest .approvalNotGranted "baseline approval is not granted by policy"
  else do
    let candidate ← promotableCandidate cmd
    let existing ← ApprovalRepository.listForScheduleRun cmd.scheduleRunId cmd.siteId
    if existing.any fun item => decide (item.state = .pending) then
      refuseRequest .approvalAlreadyPending "a decision is already pending for this candidate"
    else do
      let baseline ← SiteBaseline.get cmd.siteId
      if baselineVersion baseline ≠ cmd.expectedBaselineScheduleVersion then
        refuseRequest .staleBaselineVersion "the current baseline has changed"
      else bindCandidate env settings cmd candidate baseline

/-! ## The route -/

/-- `problem_response`. -/
structure Problem where
  status : Nat
  code : String
  title : String
  detail : String
  context : Option (JsonObject × JsonObject) := none
  deriving DecidableEq, Repr

/-- What an approval endpoint answers. -/
inductive ApprovalResponse where
  | out (output : ApprovalOut)
  | problem (p : Problem)
  /-- an exception that left the endpoint, rendered after the rollback -/
  | escaped (error : PyError)
  deriving DecidableEq, Repr

/-- `_ERROR_STATUS`. -/
def errorStatus (code : String) : Nat :=
  match code with
  | "candidate_not_found" => 404
  | "approval_not_granted" => 403
  | "approval_already_pending" => 409
  | "candidate_not_promotable" => 409
  | "stale_resource_version" => 409
  | "stale_baseline_version" => 409
  | "approval_not_found" => 404
  | "approval_not_pending" => 409
  | _ => 422

/-- The feature-policy refusal of both routes. -/
def policyProblem : Problem :=
  ⟨403, "approval_not_granted", "Approval is not available",
    "Current policy does not grant baseline approval.", none⟩

def idempotencyConflictProblem : Problem :=
  ⟨409, "idempotency_key_conflict", "Idempotency key conflict",
    "The idempotency key was already used with a different request body.", none⟩

/-- `ApprovalRequestIn`, with the session and the idempotency key of the request. -/
structure CreateApprovalCommand where
  siteId : Uuid
  actorId : Uuid
  idempotencyKey : String
  scheduleRunId : Uuid
  expectedResourceVersion : Int
  expectedBaselineScheduleVersion : Option String
  deriving DecidableEq, Repr

namespace CreateApprovalCommand

def operation (cmd : CreateApprovalCommand) : String := s!"request_approval:{cmd.scheduleRunId}"

def bodyHash (env : Ambient) (cmd : CreateApprovalCommand) : String :=
  env.contractDigest
    [("schedule_run_id", .str (toString cmd.scheduleRunId)),
      ("expected_resource_version", .int cmd.expectedResourceVersion),
      ("expected_baseline_schedule_version", .ofOption cmd.expectedBaselineScheduleVersion)]

/-- The effect identity of the request. -/
def requestEffectKey (cmd : CreateApprovalCommand) : String :=
  "command:" ++ toString cmd.actorId ++ ":" ++ cmd.operation ++ ":" ++ cmd.idempotencyKey

/-- The use case's command. -/
def request (env : Ambient) (cmd : CreateApprovalCommand) (conversationId : Uuid) :
    RequestApprovalCommandV1 where
  siteId := cmd.siteId
  actorId := cmd.actorId
  scheduleRunId := cmd.scheduleRunId
  expectedResourceVersion := cmd.expectedResourceVersion
  expectedBaselineScheduleVersion := cmd.expectedBaselineScheduleVersion
  requestEffectKey := cmd.requestEffectKey
  requestId := env.uuid4 3
  conversationId := conversationId

end CreateApprovalCommand

/-- `get_conversation_for_run`. -/
def getConversationForRun (runId siteId : Uuid) : DbTx (Option Uuid) := do
  let snapshot ← loadSnapshot runId siteId
  match snapshot with
  | none => pure none
  | some snapshot =>
    let proposal ← Db.proposals.selectOne fun p =>
      decide (p.id = snapshot.proposalId) && decide (p.siteId = siteId)
    pure (proposal.map ProposalRow.conversationId)

/-- The answer to a repeated request: the binding as it stands now. -/
def replayRequest (env : Ambient) (cmd : CreateApprovalCommand) (stored : CommandIdempotencyRow) :
    DbTx ApprovalResponse :=
  if stored.bodyHash ≠ cmd.bodyHash env then pure (.problem idempotencyConflictProblem)
  else
    match stored.responsePayload with
    | .approval output _ => do
      let replayed ← ApprovalRepository.get output.approvalId cmd.siteId
      match replayed with
      | some binding => pure (.out (.ofBinding binding env.clock))
      | none => pure (.out output)
    | _ => throw (.keyError "approval_id")

/-- How the route answers the exceptions it catches. -/
def requestProblem : PyError → Option Problem
  | .approvalRequest cls _ => some ⟨errorStatus cls.code, cls.code,
      "Approval request could not be completed",
      "The candidate cannot be approved with the supplied binding.", none⟩
  | .integrityError _ => some ⟨409, "approval_already_pending", "A decision is already pending",
      "Another request already created a pending approval for this candidate.", none⟩
  | _ => none

/-- The request with its refusals caught; a refused constraint aborts the transaction. -/
def attemptRequest (env : Ambient) (settings : ApprovalSettings) (cmd : RequestApprovalCommandV1) :
    DbTx (RequestApprovalResultV1 ⊕ Problem) :=
  tryCatch (Sum.inl <$> requestApproval env settings cmd).savepoint fun e =>
    match requestProblem e with
    | some problem => pure (.inr problem)
    | none => throw e

/-- `create_approval`. -/
def createApprovalRoute (env : Ambient) (settings : ApprovalSettings)
    (cmd : CreateApprovalCommand) : DbTx ApprovalResponse := do
  if settings.schedulingBaselineEnabled = false then pure (.problem policyProblem)
  else do
    let conversationId ← getConversationForRun cmd.scheduleRunId cmd.siteId
    match conversationId with
    | none =>
      pure (.problem ⟨404, "candidate_not_found", "Candidate not found",
        "No candidate is visible in this site.", none⟩)
    | some conversationId =>
      let stored ← getIdempotentResult cmd.siteId cmd.actorId cmd.operation cmd.idempotencyKey
      match stored with
      | some stored => replayRequest env cmd stored
      | none =>
        let result ← attemptRequest env settings (cmd.request env conversationId)
        match result with
        | .inr problem => pure (.problem problem)
        | .inl result =>
          let output := ApprovalOut.ofBinding result.binding env.clock
          storeIdempotentResult cmd.siteId cmd.actorId cmd.operation cmd.idempotencyKey
            (cmd.bodyHash env) (.approval output none)
          pure (.out output)

/-- The endpoint around a route: commit when it returned, roll back when an exception left it. -/
def approvalEndpoint (route : DbTx ApprovalResponse) (db : Db) : ApprovalResponse × Db :=
  match route.commit db with
  | (.ok response, db') => (response, db')
  | (.error e, db') => (.escaped e, db')

/-! ## The suspended turn -/

/-- A tool call of a claimed agent run that waits for an approval, as `_finish` reads it. -/
structure SuspendedCall where
  siteId : Uuid
  actorId : Uuid
  conversationId : Uuid
  agentRunId : Uuid
  toolCallId : String
  scheduleRunId : Uuid
  expectedBaselineScheduleVersion : Option String
  requestId : Uuid
  pending : PendingPayload
  deriving DecidableEq, Repr

/-- The use case's command of a suspended call, at the run's own resource version. -/
def SuspendedCall.request (call : SuspendedCall) (run : ScheduleRunStateV1) :
    RequestApprovalCommandV1 where
  siteId := call.siteId
  actorId := call.actorId
  scheduleRunId := call.scheduleRunId
  expectedResourceVersion := run.resourceVersion
  expectedBaselineScheduleVersion := call.expectedBaselineScheduleVersion
  requestEffectKey := "tool:" ++ toString call.agentRunId ++ ":" ++ call.toolCallId
  requestId := call.requestId
  conversationId := call.conversationId
  agentRunId := some call.agentRunId
  pendingPayload := some call.pending

/-- The approval part of `_finish`. A refusal wrote nothing, and the run is then finalised as
cancelled, outside the approval tables. -/
def requestSuspended (env : Ambient) (settings : ApprovalSettings) (call : SuspendedCall) :
    DbTx RequestApprovalResultV1 := do
  let run ← getRunState call.scheduleRunId call.siteId
  match run with
  | none => refuseRequest .candidateNotFound "the requested schedule run is not available"
  | some run => requestApproval env settings (call.request run)

end ShiftMind
