import ShiftMind.UseCases.ExecuteTurn
import ShiftMind.UseCases.FinalizeAgentRun
import ShiftMind.UseCases.RequestApproval

/-!
# ShiftMind — the finish step of a claimed turn

`_finish` of the execute route in `api/routers/conversations.py` and the last transaction of
`_drive_resumed_turn` in `api/routers/approvals.py`. What a request for approval reads it reads
without a lock, so the reads are a `RequestView` and may be older than the state the writes run on.

* **`requestApprovalFrom`** — `request_approval` on what it read; on fresh reads it is
  `requestApproval` (`requestApproval_fresh`).
* **`finishSuspended`** — a suspended turn asks for its approval, or ends cancelled.
* **`finishTurn`** — the finish step of every outcome.
-/

namespace ShiftMind

open Relational Transactional ScheduleRunRepository

/-! ## A request on what it read -/

/-- The reads of a request for approval. -/
structure RequestView where
  run : Option ScheduleRunStateV1
  candidate : Option ScheduleVersionV1
  existing : List ApprovalBindingV1
  baseline : Option SiteBaselineRow

/-- The reads, made now. -/
def RequestView.read (scheduleRunId siteId : Uuid) (db : Db) : RequestView where
  run := (db.scheduleRun.find? (isRun scheduleRunId siteId)).map fun row =>
    ⟨row.status, row.resourceVersion⟩
  candidate := (db.scheduleVersion.find? fun v =>
    decide (v.scheduleRunId = scheduleRunId) && decide (v.siteId = siteId)).map
      ScheduleVersionRow.payload
  existing := ((db.approvalRequest.rows.map ApprovalRequestRow.binding).filter fun b =>
    decide (b.scheduleRunId = scheduleRunId) && decide (b.siteId = siteId)).insertionSort
      fun a b => a.createdAt ≤ b.createdAt
  baseline := db.siteBaseline.find? (SiteBaseline.ofSite siteId)

/-- A refusal of a request for approval. -/
def refusal {α : Type} (cls : ApprovalRequestErrorClass) (message : String) : Except PyError α :=
  .error (.approvalRequest cls message)

/-- The candidate the command may promote. -/
def promotableFrom (cmd : RequestApprovalCommandV1) (view : RequestView) :
    Except PyError ScheduleVersionV1 :=
  match view.run with
  | none => refusal .candidateNotFound "the requested schedule run is not available"
  | some run =>
    if run.status ≠ .solverCompleted then
      refusal .candidateNotPromotable "the requested schedule run is not promotable"
    else if run.resourceVersion ≠ cmd.expectedResourceVersion then
      refusal .staleResourceVersion "the schedule run has changed"
    else
      match view.candidate with
      | none =>
        refusal .candidateNotPromotable "the requested schedule run has no feasible candidate"
      | some candidate =>
        if candidate.feasibleSolverStatus ≠ .optimal ∧
            candidate.feasibleSolverStatus ≠ .feasible then
          refusal .candidateNotPromotable "the requested schedule run has no feasible candidate"
        else .ok candidate

/-- Everything `request_approval` does before its first write. -/
def admitRequest (settings : ApprovalSettings) (cmd : RequestApprovalCommandV1)
    (view : RequestView) : Except PyError ScheduleVersionV1 :=
  if settings.schedulingBaselineEnabled = false then
    refusal .approvalNotGranted "baseline approval is not granted by policy"
  else
    match promotableFrom cmd view with
    | .error e => .error e
    | .ok candidate =>
      if view.existing.any fun item => decide (item.state = .pending) then
        refusal .approvalAlreadyPending "a decision is already pending for this candidate"
      else if baselineVersion view.baseline ≠ cmd.expectedBaselineScheduleVersion then
        refusal .staleBaselineVersion "the current baseline has changed"
      else .ok candidate

/-- `request_approval`, on what it read. -/
def requestApprovalFrom (env : Ambient) (settings : ApprovalSettings)
    (cmd : RequestApprovalCommandV1) (view : RequestView) : DbTx RequestApprovalResultV1 := do
  let candidate ← Tx.lift (admitRequest settings cmd view)
  bindCandidate env settings cmd candidate view.baseline

/-! ## The suspended turn -/

/-- `json.loads`, and the validation of a request through its type. -/
structure ToolArgumentCodec where
  loads : String → Except PyError JsonValue
  validate : JsonValue → Except PyError (Uuid × Option String)

/-- `SCHEDULING_BASELINE_CAPABILITY`. -/
def schedulingBaselineCapability : String := "scheduling_baseline"

/-- `scheduling_baseline_module().request_argument`. -/
def requestArgument : String := "request"

/-- The request of a tool call: the schedule run and the baseline it expects. -/
def readRequest (codec : ToolArgumentCodec) (call : AgentToolCallProposalV1) :
    Except PyError (Uuid × Option String) := do
  let envelope ← codec.loads call.toolArgsJson
  match envelope with
  | .object members =>
    match Dict.get? members requestArgument with
    | some argument => codec.validate argument
    | none => .error (.runtimeError "suspended turn carries no request argument")
  | _ => .error (.runtimeError "suspended turn carries no request argument")

/-- The call as the approval part of the finish step reads it. -/
def suspendedCall (claimed : ClaimedAgentRunV1) (pending : AgentApprovalPendingV1)
    (call : AgentToolCallProposalV1) (request : Uuid × Option String) (requestId : Uuid) :
    SuspendedCall where
  siteId := claimed.siteId
  actorId := claimed.actorId
  conversationId := claimed.conversationId
  agentRunId := claimed.agentRunId
  toolCallId := call.toolCallId
  scheduleRunId := request.1
  expectedBaselineScheduleVersion := request.2
  requestId := requestId
  pending := .readable pending.pendingCalls

/-- The approval part of the finish step, on what it read: the route reads the run itself. -/
def requestSuspendedFrom (env : Ambient) (settings : ApprovalSettings) (call : SuspendedCall)
    (view : RequestView) : DbTx RequestApprovalResultV1 :=
  match view.run with
  | none => Tx.lift (refusal .candidateNotFound "the requested schedule run is not available")
  | some run => requestApprovalFrom env settings (call.request run) view

/-- The one pending call of a suspended turn. -/
def exactCall (outcome : AgentRunOutcomeV1) :
    Except PyError (AgentApprovalPendingV1 × AgentToolCallProposalV1) :=
  match outcome.approval with
  | some ⟨[call]⟩ => .ok (⟨[call]⟩, call)
  | _ => .error (.runtimeError "suspended turn has no exact pending approval call")

/-- A suspended call that finds no approval path ends the run cancelled. -/
def endCancelled (env : Ambient) (claimed : ClaimedAgentRunV1) (outcome : AgentRunOutcomeV1)
    (requestId : Uuid) : DbTx ExecutedAgentRunV1 :=
  finalizeAgentRun env claimed .agentCancelled (activityPayload claimed.scenarioVersionId outcome)
    none requestId

/-- The branch of `_finish` for a suspended turn. -/
def finishSuspended (env : Ambient) (settings : ApprovalSettings) (codec : ToolArgumentCodec)
    (view : RequestView) (claimed : ClaimedAgentRunV1) (outcome : AgentRunOutcomeV1)
    (requestId : Uuid) : DbTx ExecutedAgentRunV1 := do
  let (pending, call) ← Tx.lift (exactCall outcome)
  if call.toolName ≠ schedulingBaselineCapability then
    endCancelled env claimed outcome requestId
  else do
    let request ← Tx.lift (readRequest codec call)
    -- only a refusal of the request is caught here
    tryCatch
      (RequestApprovalResultV1.activity <$> requestSuspendedFrom env settings
        (suspendedCall claimed pending call request requestId) view)
      fun
        | .approvalRequest _ _ => endCancelled env claimed outcome requestId
        | e => throw e

/-! ## The finish step -/

/-- The finish of a turn that is not suspended. -/
def finishEnded (env : Ambient) (claimed : ClaimedAgentRunV1) (outcome : AgentRunOutcomeV1)
    (requestId : Uuid) : DbTx ExecutedAgentRunV1 :=
  finalizeAgentRun env claimed (terminalStatus outcome)
    (activityPayload claimed.scenarioVersionId outcome)
    -- a discard rides only a turn that produced a usable answer
    (if terminalStatus outcome = .agentCompleted then outcome.resolvedDiscard else none) requestId

/-- `_finish` of the execute route. -/
def finishTurn (env : Ambient) (settings : ApprovalSettings) (codec : ToolArgumentCodec)
    (view : RequestView) (claimed : ClaimedAgentRunV1) (outcome : AgentRunOutcomeV1)
    (requestId : Uuid) : DbTx ExecutedAgentRunV1 :=
  if outcome.status = .suspended then
    finishSuspended env settings codec view claimed outcome requestId
  else finishEnded env claimed outcome requestId

/-- The outcome a resumed turn is finished with: a second suspension is a failure. -/
def resumedOutcome (outcome : AgentRunOutcomeV1) : AgentRunOutcomeV1 :=
  if outcome.status = .suspended then failedOutcomeForException (.other (.runtimeError
    "a resumed turn requested a second approval; chaining is not supported"))
  else outcome

/-- The last transaction of `_drive_resumed_turn`, which carries no discard. -/
def finishResumed (env : Ambient) (claimed : ClaimedAgentRunV1) (outcome : AgentRunOutcomeV1)
    (requestId : Uuid) : DbTx ExecutedAgentRunV1 :=
  finalizeAgentRun env claimed (terminalStatus (resumedOutcome outcome))
    (activityPayload claimed.scenarioVersionId (resumedOutcome outcome)) none requestId

/-! ## Fresh reads -/

/-- The candidate read now is the candidate of the reads made now. -/
theorem promotableCandidate_run (cmd : RequestApprovalCommandV1) (db : Db) :
    (promotableCandidate cmd).run db =
      (promotableFrom cmd (.read cmd.scheduleRunId cmd.siteId db), db) := by
  unfold promotableCandidate promotableFrom getRunState RequestView.read
  rw [Tx.bind_bind, Tx.run_bind, Relvar.run_selectOne]
  simp only [Db.scheduleRuns_get]
  cases db.scheduleRun.find? (isRun cmd.scheduleRunId cmd.siteId) with
  | none => rfl
  | some row =>
    simp only [Option.map_some, Tx.run_pure_bind, Tx.run_ite]
    split
    · rfl
    split
    · rfl
    unfold getCandidate
    rw [Tx.bind_bind, Tx.run_bind, Relvar.run_selectOne]
    simp only [Db.scheduleVersions_get]
    cases db.scheduleVersion.find? fun v =>
        decide (v.scheduleRunId = cmd.scheduleRunId) && decide (v.siteId = cmd.siteId) with
    | none => rfl
    | some version =>
      simp only [Option.map_some, Tx.run_pure_bind, Tx.run_ite]
      split <;> rfl

/-- A request that reads the state it writes on. -/
theorem requestApproval_fresh (env : Ambient) (settings : ApprovalSettings)
    (cmd : RequestApprovalCommandV1) (db : Db) :
    (requestApproval env settings cmd).run db =
      (requestApprovalFrom env settings cmd
        (.read cmd.scheduleRunId cmd.siteId db)).run db := by
  unfold requestApproval requestApprovalFrom admitRequest
  rw [Tx.run_ite]
  split
  · rfl
  rw [Tx.run_bind, promotableCandidate_run]
  cases hcandidate : promotableFrom cmd (.read cmd.scheduleRunId cmd.siteId db) with
  | error e => rfl
  | ok candidate =>
    have hexisting : ((RequestView.read cmd.scheduleRunId cmd.siteId db).existing) =
        ((db.approvalRequest.rows.map ApprovalRequestRow.binding).filter fun b =>
          decide (b.scheduleRunId = cmd.scheduleRunId) && decide (b.siteId = cmd.siteId)
          ).insertionSort fun a b => a.createdAt ≤ b.createdAt := rfl
    simp only [ApprovalRepository.listForScheduleRun, Tx.run_read_bind, Tx.run_ite, ← hexisting]
    split
    · rfl
    show (if baselineVersion (RequestView.read cmd.scheduleRunId cmd.siteId db).baseline ≠
      cmd.expectedBaselineScheduleVersion then _ else _ : DbTx _).run db = _
    rw [Tx.run_ite]
    split <;> rfl

end ShiftMind
