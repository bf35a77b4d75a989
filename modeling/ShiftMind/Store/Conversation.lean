import ShiftMind.Store.ScheduleRun

/-!
# ShiftMind — the conversation repository

`adapters/postgres/conversation.py`: the turns of a conversation and the approval an agent run may
wait for. The statements name a row by its identifier alone; row-level security confines them to
the site of the session, which is an argument here.

* **`acceptTurn`**, **`claimQueuedRun`**, **`finishAgentRun`** — a turn is accepted with its queued
  run, claimed by one request, and finished with an activity.
* **`pauseAgentRunForApproval`**, **`cancelAgentRunForApproval`**, **`resumeAgentRunForApproval`** —
  the run around an approval.
-/

namespace ShiftMind

open Relational Transactional

/-- `ExecutedAgentRunV1`. -/
structure ExecutedAgentRunV1 where
  event : PersistedEventRow
  resourceVersion : Int
  agentRunStatus : Option AgentRunStatus
  deriving DecidableEq, Repr

namespace ConversationRepository

def isConversation (conversationId siteId : Uuid) (row : ConversationRow) : Bool :=
  decide (row.id = conversationId) && decide (row.siteId = siteId)

def isAgentRun (agentRunId siteId : Uuid) (row : AgentRunRow) : Bool :=
  decide (row.id = agentRunId) && decide (row.siteId = siteId)

/-- `SELECT … FOR UPDATE` of the conversation, which every approval transition takes first. -/
def lockConversation (conversationId siteId : Uuid) : DbTx ConversationRow := do
  let row ← Db.conversations.selectOne (isConversation conversationId siteId)
  match row with
  | none => throw (.runtimeError "approval conversation is no longer visible")
  | some row => pure row

/-- The agent run, which must be in `expected`. -/
def requireAgentRun (agentRunId siteId : Uuid) (expected : AgentRunStatus) (message : String) :
    DbTx Unit := do
  let row ← Db.agentRuns.selectOne (isAgentRun agentRunId siteId)
  if row.map AgentRunRow.status = some expected then pure ()
  else throw (.agentRunNotQueued message)

def updateAgentRun (agentRunId siteId : Uuid) (set : AgentRunRow → AgentRunRow) : DbTx Unit := do
  let _ ← Db.agentRuns.updateWhere (.integrityError "ck_agent_run_status_reason")
    (isAgentRun agentRunId siteId) set
  pure ()

/-- The event an approval shows in its conversation. -/
def approvalEvent (binding : ApprovalBindingV1) (actorId requestId : Uuid)
    (agentRunId : Option Uuid) (occurredAt : Instant) (sequence : Int)
    (conversation : ConversationRow) : PersistedEventRow where
  siteId := binding.siteId
  streamId := binding.conversationId
  sequence := sequence
  eventType := "approval_request"
  occurredAt := occurredAt
  resourceVersion := conversation.resourceVersion + 1
  requestId := requestId
  conversationId := some binding.conversationId
  agentRunId := agentRunId
  scheduleRunId := none
  actorId := actorId
  payload := .approvalRequest
    { conversationId := binding.conversationId
      conversationResourceVersion := conversation.resourceVersion + 1
      scenarioId := conversation.scenarioId
      scenarioVersionId := conversation.scenarioVersionId
      occurredAt := occurredAt
      approvalId := binding.approvalId
      approvalState := binding.state
      agentRunId := agentRunId
      scheduleRunId := binding.scheduleRunId
      candidateScheduleVersionId := binding.candidateScheduleVersionId
      baselineScheduleVersion := binding.baselineScheduleVersion
      consequenceSummary := binding.consequenceSummary
      parameterHash := binding.parameterHash
      consequenceHash := binding.consequenceHash
      policyVersion := binding.policyVersion
      expiresAt := binding.expiresAt }

/-- `INSERT INTO persisted_event`, whose payload is a JSON column. -/
def insertEvent (event : PersistedEventRow) : DbTx Unit := do
  Tx.lift (requireStorable event.payload.storable)
  Db.persistedEvents.insertInto (.integrityError "uq_persisted_event_stream_sequence") event

/-- `_append_approval_activity`. -/
def appendApprovalActivity (binding : ApprovalBindingV1) (actorId requestId : Uuid)
    (agentRunId : Option Uuid) (occurredAt : Instant) (agentRunStatus : Option AgentRunStatus) :
    DbTx ExecutedAgentRunV1 := do
  let conversation ← lockConversation binding.conversationId binding.siteId
  let sequence ← Tx.read (ScheduleRunRepository.nextSequence binding.conversationId)
  let event := approvalEvent binding actorId requestId agentRunId occurredAt sequence conversation
  insertEvent event
  let _ ← Db.conversations.updateWhere (.integrityError "conversation")
    (isConversation binding.conversationId binding.siteId)
    fun row => { row with resourceVersion := conversation.resourceVersion + 1 }
  -- a caller that states no status but names a run is the one that paused it
  pure ⟨event, conversation.resourceVersion + 1,
    agentRunStatus.or (agentRunId.map fun _ => .approvalRequired)⟩

/-- `pause_agent_run_for_approval`. -/
def pauseAgentRunForApproval (claimedAgentRunId : Uuid) (binding : ApprovalBindingV1)
    (requestId : Uuid) : DbTx ExecutedAgentRunV1 := do
  let _ ← lockConversation binding.conversationId binding.siteId
  requireAgentRun claimedAgentRunId binding.siteId .agentRunning "agent run is no longer running"
  let result ← appendApprovalActivity binding binding.initiatedByActorId requestId
    (some claimedAgentRunId) binding.createdAt none
  updateAgentRun claimedAgentRunId binding.siteId fun row =>
    { row with status := .approvalRequired }
  pure { result with agentRunStatus := some .approvalRequired }

/-- `APPROVAL_CANCELLATION_REASONS`. -/
def approvalCancellationReasons : List String :=
  ["approval_expired", "approval_rejected", "approval_stale"]

/-- `cancel_agent_run_for_approval`. -/
def cancelAgentRunForApproval (agentRunId : Uuid) (binding : ApprovalBindingV1) (reason : String) :
    DbTx Unit := do
  if reason ∉ approvalCancellationReasons then
    throw (.valueError ("approval cancellation reason must be one of " ++
      "['approval_expired', 'approval_rejected', 'approval_stale']"))
  else do
    let _ ← lockConversation binding.conversationId binding.siteId
    requireAgentRun agentRunId binding.siteId .approvalRequired
      "agent run is no longer awaiting approval"
    updateAgentRun agentRunId binding.siteId fun row =>
      { row with status := .agentCancelled, statusReason := some reason }

/-- `resume_agent_run_for_approval`. -/
def resumeAgentRunForApproval (agentRunId : Uuid) (binding : ApprovalBindingV1)
    (requestId : Uuid) (occurredAt : Instant) : DbTx ExecutedAgentRunV1 := do
  let _ ← lockConversation binding.conversationId binding.siteId
  requireAgentRun agentRunId binding.siteId .approvalRequired
    "agent run is no longer awaiting approval"
  updateAgentRun agentRunId binding.siteId fun row =>
    { row with status := .agentRunning, statusReason := none }
  match binding.decidedByActorId with
  | none => throw (.integrityError "persisted_event.actor_id")
  | some actorId =>
    appendApprovalActivity binding actorId requestId (some agentRunId) occurredAt
      (some .agentRunning)

/-! ## Creating a conversation -/

/-- `create`: `pinned` is the caller's scenario version, if it belongs to the scenario. -/
def create (env : Ambient) (pinned : Option Uuid) (scenarioId siteId : Uuid) :
    DbTx (Option ConversationRow) := do
  match pinned with
  | none => pure none
  | some scenarioVersionId => do
    let row : ConversationRow :=
      { id := env.uuid4 0
        siteId := siteId
        scenarioId := scenarioId
        scenarioVersionId := scenarioVersionId }
    Db.conversations.insertInto (.integrityError "conversation_pkey") row
    pure (some row)

/-! ## Turns -/

/-- `AcceptedTurnV1`. -/
structure AcceptedTurnV1 where
  event : PersistedEventRow
  resourceVersion : Int
  agentRunStatus : AgentRunStatus
  deriving DecidableEq, Repr

/-- Append an event to the stream of a conversation and move the conversation's resource version
to the event's. -/
def appendEvent (conversationId siteId : Uuid) (event : PersistedEventRow) : DbTx Unit := do
  insertEvent event
  let _ ← Db.conversations.updateWhere (.integrityError "conversation")
    (isConversation conversationId siteId)
    fun row => { row with resourceVersion := event.resourceVersion }
  pure ()

/-- The event of a planner's message. -/
def messageEvent (env : Ambient) (conversation : ConversationRow) (actorId requestId : Uuid)
    (text : String) (sequence : Int) : PersistedEventRow where
  siteId := conversation.siteId
  streamId := conversation.id
  sequence := sequence
  eventType := "planner_message_accepted"
  occurredAt := env.now
  resourceVersion := conversation.resourceVersion + 1
  requestId := requestId
  conversationId := some conversation.id
  agentRunId := some (env.uuid4 1)
  scheduleRunId := none
  actorId := actorId
  payload := .plannerMessage
    { conversationId := conversation.id
      conversationResourceVersion := conversation.resourceVersion + 1
      scenarioId := conversation.scenarioId
      scenarioVersionId := conversation.scenarioVersionId
      occurredAt := env.now
      messageId := env.uuid4 0
      text := text }

/-- `accept_turn`: the message, its queued run and its event. -/
def acceptTurn (env : Ambient) (conversationId siteId actorId requestId : Uuid) (text : String) :
    DbTx (Option AcceptedTurnV1) := do
  let conversation ← Db.conversations.selectOne (isConversation conversationId siteId)
  match conversation with
  | none => pure none
  | some conversation => do
    Db.messages.insertInto (.integrityError "message")
      { id := env.uuid4 0
        siteId := siteId
        conversationId := conversationId
        actorId := actorId
        text := text }
    Db.agentRuns.insertInto (.integrityError "agent_run")
      { id := env.uuid4 1
        siteId := siteId
        conversationId := conversationId
        messageId := env.uuid4 0
        status := .agentQueued }
    -- the conversation is locked, so nobody else takes this sequence number
    let sequence ← Tx.read (ScheduleRunRepository.nextSequence conversationId)
    let event := messageEvent env conversation actorId requestId text sequence
    appendEvent conversationId siteId event
    pure (some ⟨event, conversation.resourceVersion + 1, .agentQueued⟩)

/-- The agent run, its conversation and its message, as `claim_queued_run` joins them: the
membership of the message's actor must not be revoked. -/
def claimable (conversationId agentRunId siteId : Uuid) (db : Db) :
    Option (AgentRunRow × ConversationRow × MessageRow) := do
  let run ← db.agentRun.find? fun row =>
    isAgentRun agentRunId siteId row && decide (row.conversationId = conversationId)
  let conversation ← db.conversation.find? (isConversation conversationId siteId)
  let message ← db.message.find? fun row =>
    decide (row.id = run.messageId) && decide (row.siteId = siteId)
  guard (db.membership.rows.any fun row => decide (row.appUserId = message.actorId) &&
    decide (row.siteId = conversation.siteId) && row.revokedAt.isNone)
  pure (run, conversation, message)

/-- `claim_queued_run`. -/
def claimQueuedRun (conversationId agentRunId siteId : Uuid) :
    DbTx (Option ClaimedAgentRunV1) := do
  let joined ← Tx.read (claimable conversationId agentRunId siteId)
  match joined with
  | none => pure none
  | some (run, conversation, message) =>
    -- a second claim of the same run is refused
    if run.status ≠ .agentQueued then throw (.agentRunNotQueued "agent run is not queued")
    else do
      updateAgentRun agentRunId siteId fun row => { row with status := .agentRunning }
      pure (some
        { agentRunId := run.id
          conversationId := conversation.id
          scenarioId := conversation.scenarioId
          scenarioVersionId := conversation.scenarioVersionId
          siteId := conversation.siteId
          actorId := message.actorId
          prompt := message.text })

/-- `SELECT … FOR UPDATE` of a claimed conversation: `lock_conversation`. -/
def lockClaimed (conversationId siteId : Uuid) : DbTx ConversationRow := do
  let row ← Db.conversations.selectOne (isConversation conversationId siteId)
  match row with
  | none => throw (.runtimeError "claimed conversation is no longer visible")
  | some row => pure row

/-- The event of a finished turn. -/
def turnEvent (env : Ambient) (claimed : ClaimedAgentRunV1) (payload : ActivityPayload)
    (requestId : Uuid) (sequence : Int) (conversation : ConversationRow) : PersistedEventRow where
  siteId := claimed.siteId
  streamId := claimed.conversationId
  sequence := sequence
  eventType := payload.activityType
  occurredAt := env.clock
  resourceVersion := conversation.resourceVersion + 1
  requestId := requestId
  conversationId := some claimed.conversationId
  agentRunId := some claimed.agentRunId
  scheduleRunId := none
  actorId := claimed.actorId
  payload := .turn
    { conversationId := claimed.conversationId
      conversationResourceVersion := conversation.resourceVersion + 1
      scenarioId := claimed.scenarioId
      scenarioVersionId := claimed.scenarioVersionId
      occurredAt := env.clock
      payload := payload }

/-- `finish_agent_run`. -/
def finishAgentRun (env : Ambient) (claimed : ClaimedAgentRunV1) (status : AgentRunStatus)
    (payload : ActivityPayload) (requestId : Uuid) : DbTx ExecutedAgentRunV1 := do
  let conversation ← lockClaimed claimed.conversationId claimed.siteId
  requireAgentRun claimed.agentRunId claimed.siteId .agentRunning "agent run is no longer running"
  let sequence ← Tx.read (ScheduleRunRepository.nextSequence claimed.conversationId)
  let event := turnEvent env claimed payload requestId sequence conversation
  updateAgentRun claimed.agentRunId claimed.siteId fun row => { row with status := status }
  appendEvent claimed.conversationId claimed.siteId event
  pure ⟨event, conversation.resourceVersion + 1, some status⟩

end ConversationRepository

end ShiftMind
