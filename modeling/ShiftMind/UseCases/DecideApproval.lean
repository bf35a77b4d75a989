import ShiftMind.UseCases.PromoteBaseline

/-!
# ShiftMind — deciding an approval

`application/use_cases/decide_approval.py` and the route `POST /approvals/{approval_id}/decision`
of `api/routers/approvals.py`.

A decision first reads without a lock (`DecisionView`) and then writes on the state it finds, so
the view may be of older committed states; once it has written a row it holds that row's lock, and
what others commit to the remaining rows in between is as if they had committed it before. A
decision whose view is the state it writes on is `DecisionView.of`.
-/

namespace ShiftMind

open Transactional ScheduleRunRepository

inductive Decision where
  | approve
  | reject
  deriving DecidableEq, Repr

def Decision.value : Decision → String
  | approve => "approve"
  | reject => "reject"

/-- `ApprovalDecisionIn`, with the path and the idempotency key of the request. -/
structure DecideApprovalCommand where
  approvalId : Uuid
  idempotencyKey : String
  decision : Decision
  expectedResourceVersion : Int
  deriving DecidableEq, Repr

namespace DecideApprovalCommand

def operation (cmd : DecideApprovalCommand) : String := s!"decide_approval:{cmd.approvalId}"

def bodyHash (env : Ambient) (cmd : DecideApprovalCommand) : String :=
  env.contractDigest
    [("decision", .str cmd.decision.value),
      ("expected_resource_version", .int cmd.expectedResourceVersion)]

end DecideApprovalCommand

/-! ## What a decision reads -/

/-- The reads a decision makes before its first write. -/
structure DecisionView where
  stored : Option CommandIdempotencyRow
  binding : Option ApprovalBindingV1
  candidate : Option ScheduleVersionV1
  run : Option ScheduleRunStateV1
  baseline : Option SiteBaselineRow
  activeInitiator : Bool
  deriving DecidableEq

/-- Every read on one state of the database. -/
def DecisionView.read (ctx : DecisionContext) (cmd : DecideApprovalCommand) :
    DbTx DecisionView := do
  let stored ← getIdempotentResult ctx.siteId ctx.actorId cmd.operation cmd.idempotencyKey
  let binding ← ApprovalRepository.get cmd.approvalId ctx.siteId
  match binding with
  | none => pure ⟨stored, none, none, none, none, false⟩
  | some binding =>
    let candidate ← getCandidate binding.scheduleRunId binding.siteId
    let run ← getRunState binding.scheduleRunId binding.siteId
    let baseline ← SiteBaseline.get binding.siteId
    let activeInitiator ← hasActiveMembership binding.initiatedByActorId binding.siteId
    pure ⟨stored, some binding, candidate, run, baseline, activeInitiator⟩

/-! ## Revalidation

Everything the binding pinned is derived again from what the decision reads now. -/

/-- `RevalidationV1`, its outcome one of the two terminal states or none. -/
structure RevalidationV1 where
  outcome : Option ApprovalState
  expected : JsonObject := []
  current : JsonObject := []
  deriving DecidableEq, Repr

/-- `valid_candidate`. -/
def validCandidate (binding : ApprovalBindingV1) : Option ScheduleVersionV1 → Bool
  | none => false
  | some candidate =>
    decide (candidate.scheduleVersionId = binding.candidateScheduleVersionId) &&
      (decide (candidate.feasibleSolverStatus = .optimal) ||
        decide (candidate.feasibleSolverStatus = .feasible))

/-- The parameter digest of a binding over the run as it stands now. -/
def currentParameterHash (env : Ambient) (view : DecisionView) (binding : ApprovalBindingV1) :
    String :=
  parameterHash env binding.scheduleRunId binding.candidateScheduleVersionId
    binding.baselineScheduleVersion (view.run.map ScheduleRunStateV1.resourceVersion)

/-- The business conditions a pending binding must still meet. -/
def stillValid (env : Ambient) (enabled : Bool) (view : DecisionView)
    (binding : ApprovalBindingV1) : Bool :=
  view.activeInitiator && validCandidate binding view.candidate && view.run.isSome &&
    decide (baselineVersion view.baseline = binding.baselineScheduleVersion) &&
    decide (view.baseline.map SiteBaselineRow.resourceVersion = binding.baselineResourceVersion) &&
    decide (currentParameterHash env view binding = binding.parameterHash) &&
    decide (consequenceHash env binding.consequenceSummary = binding.consequenceHash) &&
    decide (derivePolicyVersion env enabled = binding.policyVersion)

/-- `revalidate_binding`: expiry first, then one arm for every business mismatch. -/
def revalidateBinding (env : Ambient) (enabled : Bool) (view : DecisionView)
    (binding : ApprovalBindingV1) : RevalidationV1 :=
  if binding.expiresAt ≤ env.clock then
    { outcome := some .expired
      expected := [("expires_at", .instant binding.expiresAt)]
      current := [("now", .instant env.clock)] }
  -- the parameters, the consequence, the policy, the membership, the candidate and the baseline
  else if stillValid env enabled view binding then { outcome := none }
  else
    { outcome := some .stale
      expected :=
        [("candidate_schedule_version_id", .str (toString binding.candidateScheduleVersionId)),
          ("baseline_schedule_version", .ofOption binding.baselineScheduleVersion),
          ("parameter_hash", .str binding.parameterHash),
          ("consequence_hash", .str binding.consequenceHash),
          ("policy_version", .str binding.policyVersion),
          ("initiating_actor_membership", .str "active")]
      current :=
        [("candidate_schedule_version_id",
            .ofOption (view.candidate.map fun c => toString c.scheduleVersionId)),
          ("baseline_schedule_version", .ofOption (baselineVersion view.baseline)),
          ("parameter_hash", .str (currentParameterHash env view binding)),
          ("consequence_hash", .str (consequenceHash env binding.consequenceSummary)),
          ("policy_version", .str (derivePolicyVersion env enabled)),
          ("initiating_actor_membership",
            .str (if view.activeInitiator then "active" else "revoked_or_absent"))] }

/-! ## The decision -/

/-- `DecisionResultV1`. -/
structure DecisionResultV1 where
  outcome : ApprovalState
  binding : ApprovalBindingV1
  activity : ExecutedAgentRunV1
  expected : JsonObject := []
  current : JsonObject := []
  baseline : Option SiteBaselineRow := none
  resume : Option ResumeRequestV1 := none
  deriving DecidableEq, Repr

/-- The audit outcome of a terminal state. -/
def ApprovalState.auditOutcome : ApprovalState → AuditOutcome
  | pending => .approvalRequested
  | consumed => .approvalConsumed
  | rejected => .approvalRejected
  | expired => .approvalExpired
  | stale => .approvalStale

/-- The success audit row of a rejected, expired or stale binding. -/
def terminalAudit (ctx : DecisionContext) (terminal : ApprovalBindingV1) (outcome : ApprovalState)
    (candidate : Option ScheduleVersionV1) : AuditEnvelopeV1 where
  auditId := ctx.env.uuid4 0
  attemptId := ctx.env.uuid4 1
  requestId := ctx.requestId
  siteId := ctx.siteId
  initiatedByActorId := terminal.initiatedByActorId
  decidedByActorId := some ctx.actorId
  conversationId := some terminal.conversationId
  agentRunId := terminal.agentRunId
  approvalId := some terminal.approvalId
  scheduleRunId := some terminal.scheduleRunId
  outcome := outcome.auditOutcome
  success := true
  effectKey := terminal.requestEffectKey
  beforeVersion := terminal.baselineScheduleVersion
  afterVersion := none
  safeSummary := terminal.consequenceSummary
  parameterHash := terminal.parameterHash
  consequenceHash := terminal.consequenceHash
  policyVersion := terminal.policyVersion
  evidenceRefs := (candidate.map ScheduleVersionV1.evidenceRefs).getD []
  occurredAt := ctx.env.clock

/-- Close the binding without a promotion; a compare-and-set that matched no row wrote nothing. -/
def closeBinding (ctx : DecisionContext) (binding : ApprovalBindingV1) (outcome : ApprovalState) :
    DbTx ApprovalBindingV1 := do
  let terminal ← attempt (ctx.outage .terminalize)
    (ApprovalRepository.terminalize binding.approvalId ctx.siteId outcome ctx.actorId
      ctx.env.clock binding.resourceVersion)
  match terminal with
  | some terminal => pure terminal
  | none =>
    throw (.decideApproval .concurrentDecision "approval is no longer pending"
      [("state", .str "pending"), ("resource_version", .int binding.resourceVersion)]
      [("state", .str "terminal_or_changed")])

/-- The agent run that waits for a closed binding is cancelled. -/
def cancelWaitingRun (ctx : DecisionContext) (terminal : ApprovalBindingV1)
    (outcome : ApprovalState) : DbTx Unit :=
  match terminal.agentRunId with
  | none => pure ()
  | some agentRunId =>
    attempt (ctx.outage .cancelAgentRun)
      (ConversationRepository.cancelAgentRunForApproval agentRunId terminal
        ("approval_" ++ outcome.value))

/-- TX3: a rejected, expired or stale binding. -/
def terminalWrites (ctx : DecisionContext) (binding : ApprovalBindingV1) (outcome : ApprovalState)
    (check : RevalidationV1) (candidate : Option ScheduleVersionV1) : DbTx DecisionResultV1 := do
  let terminal ← closeBinding ctx binding outcome
  cancelWaitingRun ctx terminal outcome
  attempt (ctx.outage .appendAudit)
    (AuditWriter.append (terminalAudit ctx terminal outcome candidate))
  let activity ← attempt (ctx.outage .appendActivity)
    (ConversationRepository.appendApprovalActivity terminal ctx.actorId ctx.requestId
      terminal.agentRunId ctx.env.clock (terminal.agentRunId.map fun _ => .agentCancelled))
  pure
    { outcome := outcome
      binding := terminal
      activity := activity
      expected := check.expected
      current := check.current }

/-- `except ApprovalNotPendingError` around the promotion. -/
def postWriteNotPending : PyError → PyError
  | .decideApproval cls message expected current =>
    if cls.isNotPending then
      .decideApproval .postWriteApprovalNotPending message expected current
    else .decideApproval cls message expected current
  | e => e

/-- TX2: an approved binding. -/
def approveWrites (ctx : DecisionContext) (binding : ApprovalBindingV1)
    (candidate : Option ScheduleVersionV1) : DbTx DecisionResultV1 := do
  let promoted ← tryCatch (promoteBaseline ctx binding candidate)
    fun e => throw (postWriteNotPending e)
  pure
    { outcome := .consumed
      binding := promoted.binding
      activity := promoted.activity
      baseline := some promoted.baseline
      resume := promoted.resume }

/-- What the reads of a decision lead to: a promotion, or a terminal state without one. -/
inductive DecisionAdmission where
  | promote (binding : ApprovalBindingV1)
  | close (binding : ApprovalBindingV1) (outcome : ApprovalState) (check : RevalidationV1)
  deriving DecidableEq, Repr

/-- Everything `decide_approval` does before its first write. -/
def admitDecision (env : Ambient) (enabled : Bool) (cmd : DecideApprovalCommand)
    (view : DecisionView) : Except PyError DecisionAdmission :=
  if enabled = false then
    .error (.decideApproval .approvalNotGranted "baseline approval is not granted by policy" [] [])
  else
    match view.binding with
    | none =>
      .error (.decideApproval .approvalNotFound "approval is not visible in this site" [] [])
    | some binding =>
      if binding.state ≠ .pending then
        .error (.decideApproval .approvalNotPending "approval is no longer pending"
          [("state", .str "pending")]
          [("state", .str binding.state.value),
            ("resource_version", .int binding.resourceVersion)])
      else if binding.resourceVersion ≠ cmd.expectedResourceVersion then
        .error (.decideApproval .staleResourceVersion "approval resource version changed"
          [("resource_version", .int cmd.expectedResourceVersion)]
          [("resource_version", .int binding.resourceVersion),
            ("state", .str binding.state.value)])
      else
        -- an expired or stale binding is closed as such, whatever was decided
        let check := revalidateBinding env enabled view binding
        match check.outcome with
        | some outcome => .ok (.close binding outcome check)
        | none =>
          match cmd.decision with
          | .approve => .ok (.promote binding)
          | .reject => .ok (.close binding .rejected check)

/-- The writes an admission leads to. -/
def decisionWrites (ctx : DecisionContext) (candidate : Option ScheduleVersionV1) :
    DecisionAdmission → DbTx DecisionResultV1
  | .promote binding => approveWrites ctx binding candidate
  | .close binding outcome check => terminalWrites ctx binding outcome check candidate

/-- `decide_approval`, on what it read. -/
def decideApproval (ctx : DecisionContext) (enabled : Bool) (cmd : DecideApprovalCommand)
    (view : DecisionView) : DbTx DecisionResultV1 := do
  let admission ← Tx.lift (admitDecision ctx.env enabled cmd view)
  decisionWrites ctx view.candidate admission

/-! ## The route -/

/-- `_DECISION_DETAIL`. -/
def decisionDetail (code : String) : String :=
  match code with
  | "approval_not_granted" => "Current policy does not grant baseline approval."
  | "approval_not_found" => "No approval is visible in this site."
  | "approval_not_pending" => "The approval already reached a terminal state."
  | "stale_resource_version" => "The approval changed since the version you pinned."
  | _ => "The approval is no longer valid for this decision."

/-- `_context`: no context rather than an empty one. -/
def decisionContext (expected current : JsonObject) : Option (JsonObject × JsonObject) :=
  if expected = [] ∧ current = [] then none else some (expected, current)

/-- The answer to a decision that closed a binding as expired or stale. -/
def closedProblem (outcome : ApprovalState) (context : Option (JsonObject × JsonObject)) :
    Problem :=
  ⟨409, "approval_" ++ outcome.value, "Approval is no longer current",
    "Refresh or rerun before making another decision.", context⟩

/-- The two classes the route re-raises. -/
def reraised (cls : DecideApprovalErrorClass) : Bool :=
  decide (cls = .postWriteApprovalNotPending) || decide (cls = .baselineConcurrentlyMoved)

/-- `exc.code in {"approval_not_pending", "stale_resource_version"}`. -/
def auditedDenial (cls : DecideApprovalErrorClass) : Bool :=
  decide (cls.code = "approval_not_pending") || decide (cls.code = "stale_resource_version")

/-- The audit row of a denied decision. -/
def deniedAudit (ctx : DecisionContext) (denied : ApprovalBindingV1)
    (candidate : Option ScheduleVersionV1) : AuditEnvelopeV1 where
  auditId := ctx.env.uuid4 0
  attemptId := ctx.env.uuid4 1
  requestId := ctx.requestId
  siteId := ctx.siteId
  initiatedByActorId := denied.initiatedByActorId
  decidedByActorId := some ctx.actorId
  conversationId := some denied.conversationId
  agentRunId := denied.agentRunId
  approvalId := some denied.approvalId
  scheduleRunId := some denied.scheduleRunId
  outcome := .approvalDenied
  success := false
  effectKey := denied.requestEffectKey
  beforeVersion := denied.baselineScheduleVersion
  afterVersion := none
  safeSummary := denied.consequenceSummary
  parameterHash := denied.parameterHash
  consequenceHash := denied.consequenceHash
  policyVersion := denied.policyVersion
  evidenceRefs := (candidate.map ScheduleVersionV1.evidenceRefs).getD []
  occurredAt := ctx.env.clock

/-- Write the denial's audit row, if the binding is there. -/
def auditDenial (ctx : DecisionContext) (cmd : DecideApprovalCommand) : DbTx Unit := do
  let denied ← ApprovalRepository.get cmd.approvalId ctx.siteId
  match denied with
  | none => pure ()
  | some denied =>
    let candidate ← getCandidate denied.scheduleRunId ctx.siteId
    attempt (ctx.outage .appendAudit)
      (AuditWriter.append (deniedAudit ctx denied candidate))

/-- `except DecideApprovalError` of the route: two classes go on, the others are **returned** as a
problem response. -/
def handleDecisionError (ctx : DecisionContext) (cmd : DecideApprovalCommand) :
    PyError → DbTx Problem
  | .decideApproval cls message expected current => do
    if reraised cls then throw (.decideApproval cls message expected current)
    else do
      (if auditedDenial cls then auditDenial ctx cmd else pure ())
      pure ⟨errorStatus cls.code, cls.code, "Approval decision could not be completed",
        decisionDetail cls.code, decisionContext expected current⟩
  | e => throw e

/-- The decision with its refusals caught. -/
def attemptDecision (ctx : DecisionContext) (enabled : Bool) (cmd : DecideApprovalCommand)
    (view : DecisionView) : DbTx (DecisionResultV1 ⊕ Problem) :=
  tryCatch (Sum.inl <$> decideApproval ctx enabled cmd view) fun e =>
    Sum.inr <$> handleDecisionError ctx cmd e

/-- What the client of a decision is told, and the receipt that is stored for it. -/
def answerDecision (ctx : DecisionContext) (cmd : DecideApprovalCommand)
    (result : DecisionResultV1) : DbTx ApprovalResponse := do
  let output := ApprovalOut.ofBinding result.binding ctx.env.clock
  if result.outcome = .expired ∨ result.outcome = .stale then do
    attempt (ctx.outage .storeReceipt)
      (storeIdempotentResult ctx.siteId ctx.actorId cmd.operation cmd.idempotencyKey
        (cmd.bodyHash ctx.env)
        (.approval output (some ⟨result.outcome, result.expected, result.current⟩)))
    pure (.problem (closedProblem result.outcome (decisionContext result.expected result.current)))
  else do
    attempt (ctx.outage .storeReceipt)
      (storeIdempotentResult ctx.siteId ctx.actorId cmd.operation cmd.idempotencyKey
        (cmd.bodyHash ctx.env) (.approval output none))
    pure (.out output)

/-- The answer to a repeated decision. -/
def replayDecision (ctx : DecisionContext) (cmd : DecideApprovalCommand)
    (stored : CommandIdempotencyRow) : DbTx ApprovalResponse :=
  if stored.bodyHash ≠ cmd.bodyHash ctx.env then pure (.problem idempotencyConflictProblem)
  else
    match stored.responsePayload with
    | .approval _ (some problem) =>
      pure (.problem (closedProblem problem.outcome
        (decisionContext problem.expected problem.current)))
    | .approval _ none => do
      let replayed ← ApprovalRepository.get cmd.approvalId ctx.siteId
      match replayed with
      | none =>
        pure (.problem ⟨404, "approval_not_found", "Approval not found",
          "No approval is visible in this site.", none⟩)
      | some replayed =>
        if replayed.state = .expired ∨ replayed.state = .stale then
          pure (.problem (closedProblem replayed.state none))
        else pure (.out (.ofBinding replayed ctx.env.clock))
    | _ => throw (.keyError "_decision_problem")

/-- `decide_approval_route`, on what it read. -/
def decideApprovalRoute (ctx : DecisionContext) (enabled : Bool) (cmd : DecideApprovalCommand)
    (view : DecisionView) : DbTx ApprovalResponse :=
  if enabled = false then pure (.problem policyProblem)
  else
    match view.stored with
    | some stored => replayDecision ctx cmd stored
    | none => do
      let result ← attemptDecision ctx enabled cmd view
      match result with
      | .inr problem => pure (.problem problem)
      | .inl result => answerDecision ctx cmd result

/-- The decision of one request: the committed state its transaction leaves behind. -/
def decideRequest (ctx : DecisionContext) (enabled : Bool) (cmd : DecideApprovalCommand)
    (view : DecisionView) (db : Db) : ApprovalResponse × Db :=
  approvalEndpoint (decideApprovalRoute ctx enabled cmd view) db

/-- A decision that reads the state it writes on. -/
def decideFreshly (ctx : DecisionContext) (enabled : Bool) (cmd : DecideApprovalCommand) :
    DbTx ApprovalResponse := do
  let view ← DecisionView.read ctx cmd
  decideApprovalRoute ctx enabled cmd view

end ShiftMind
