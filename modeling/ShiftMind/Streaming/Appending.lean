import ShiftMind.Library.Log
import ShiftMind.Turns.Workflow

/-!
# ShiftMind — what the workflow appends to conversations

A message, a shown approval and a finished turn each append one event to the stream of their
conversation and move the conversation one resource version on. Whatever else a transaction of the
workflow writes, and whichever way its parts end, that is all it does to event streams.

* **`Appends`** — one event appended to one conversation.
* **`Conversed`** — any number of them.
* **`TurnSys.perform_conversed`** — every transaction of the workflow.
-/

namespace ShiftMind

open Relational Transactional ConversationRepository ProposalRepository ScheduleRunRepository
  Relation

/-! ## Appending -/

/-- Runs, conversations and events are untouched. -/
structure StreamsKept (db db' : Db) : Prop where
  runs : db'.scheduleRun = db.scheduleRun
  conversations : db'.conversation = db.conversation
  events : db'.persistedEvent = db.persistedEvent

theorem StreamsKept.refl (db : Db) : StreamsKept db db := ⟨rfl, rfl, rfl⟩

/-- One event is appended to one conversation, next in its stream, and carries the resource version
the conversation moves to. -/
structure Appends (db db' : Db) : Prop where
  runs : db'.scheduleRun = db.scheduleRun
  appended : ∃ (c : ConversationRow) (e : PersistedEventRow),
    db.conversation.Replaced db'.conversation c
      { c with resourceVersion := c.resourceVersion + 1 } ∧
    db.persistedEvent.insert? e = some db'.persistedEvent ∧ e.streamId = c.id ∧
    e.sequence = nextSequence c.id db ∧ e.resourceVersion = c.resourceVersion + 1

/-- Any number of events is appended to conversations. -/
def Conversed (db db' : Db) : Prop :=
  ReflTransGen (fun db db' => StreamsKept db db' ∨ Appends db db') db db'

theorem Conversed.refl (db : Db) : Conversed db db := ReflTransGen.refl

theorem Conversed.trans (db db' db'' : Db) (h : Conversed db db') (h' : Conversed db' db'') :
    Conversed db db'' :=
  ReflTransGen.trans h h'

theorem Conversed.of_kept {db db' : Db} (h : StreamsKept db db') : Conversed db db' :=
  .single (.inl h)

theorem Conversed.of_appends {db db' : Db} (h : Appends db db') : Conversed db db' :=
  .single (.inr h)

/-! ## The writers of a conversation

Each writer appends its event to the conversation it has locked. -/

theorem clash_of_isConversation (conversationId siteId : Uuid) (a b : ConversationRow)
    (ha : isConversation conversationId siteId a = true)
    (hb : isConversation conversationId siteId b = true) : clash a b = true := by
  simp only [isConversation, Bool.and_eq_true, decide_eq_true_eq] at ha hb
  simp [clash, ha.1, hb.1]

/-- A change of resource versions makes no two conversations one. -/
theorem clash_of_renumbered {sel : ConversationRow → Bool} {version : Int} {a b : ConversationRow}
    (h : clash (if sel a then { a with resourceVersion := version } else a)
      (if sel b then { b with resourceVersion := version } else b) = true) : clash a b = true := by
  have hid : ∀ row : ConversationRow,
      (if sel row then { row with resourceVersion := version } else row).id = row.id := by
    intro row
    split <;> rfl
  simpa [clash, hid] using h

/-- A refused event leaves nothing behind. -/
theorem insertEvent_error {event : PersistedEventRow} {e : PyError} {db db' : Db}
    (h : (insertEvent event).run db = (.error e, db')) : db' = db := by
  unfold insertEvent at h
  cases hcheck : requireStorable event.payload.storable with
  | error refused =>
    rw [hcheck, Tx.run_bind_of_error (Tx.run_lift ..)] at h
    cases h
    rfl
  | ok u =>
    rw [hcheck, Tx.run_bind_of_ok (Tx.run_lift ..)] at h
    exact (Relvar.insertInto_error.mp h).2.2

/-- **An event of a conversation that was read under its lock** is appended as a whole, or refused
as a whole: the update of the conversation breaks no constraint. -/
theorem appendEvent_appends {conversationId siteId : Uuid} {conversation : ConversationRow}
    {event : PersistedEventRow} {db : Db} (hmem : conversation ∈ db.conversation)
    (hsel : isConversation conversationId siteId conversation = true)
    (hstream : event.streamId = conversationId)
    (hsequence : event.sequence = nextSequence conversationId db)
    (hversion : event.resourceVersion = conversation.resourceVersion + 1) :
    (appendEvent conversationId siteId event).FollowsAt Conversed db := by
  have hid : conversation.id = conversationId := by
    simp only [isConversation, Bool.and_eq_true, decide_eq_true_eq] at hsel
    exact hsel.1
  unfold Tx.FollowsAt
  cases hinsert : (insertEvent event).run db with
  | mk r db₁ =>
    cases r with
    -- the insert was refused: nothing has been written
    | error e =>
      have hrun : (appendEvent conversationId siteId event).run db = (.error e, db₁) :=
        Tx.run_bind_of_error hinsert
      rw [hrun, insertEvent_error hinsert]
      exact .refl db
    | ok u =>
      obtain ⟨-, t, ht, rfl⟩ := insertEvent_ok hinsert
      have hmem' : conversation ∈
          Db.conversations.get { db with persistedEvent := t } := hmem
      -- the update keeps the key, so it replaces the row that was read under the lock
      obtain ⟨conversations, hreplaced, hupdate⟩ := Relvar.updateWhere_key Db.conversations
        (PyError.integrityError "conversation")
        (fun row : ConversationRow => { row with resourceVersion := event.resourceVersion })
        (clash_of_isConversation conversationId siteId) hmem' hsel (fun _ _ _ => rfl)
        fun a _ b _ h => clash_of_renumbered h
      have hrun : (appendEvent conversationId siteId event).run db =
          (.ok (), Db.conversations.put conversations { db with persistedEvent := t }) := by
        unfold appendEvent
        rw [Tx.run_bind_of_ok hinsert, Tx.run_bind_of_ok hupdate]
        rfl
      rw [hrun]
      rw [hversion] at hreplaced
      refine .of_appends ⟨rfl, conversation, event, hreplaced, ht, ?_, ?_, hversion⟩
      · rw [hstream, hid]
      · rw [hsequence, hid]

/-- A lock hands out a row of the table. -/
theorem lockClaimed_ok {conversationId siteId : Uuid} {db db' : Db} {row : ConversationRow}
    (h : (lockClaimed conversationId siteId).run db = (.ok row, db')) :
    row ∈ db.conversation ∧ isConversation conversationId siteId row = true := by
  unfold lockClaimed at h
  rw [Tx.run_bind, Relvar.run_selectOne] at h
  dsimp only at h
  cases hfound : (Db.conversations.get db).find? (isConversation conversationId siteId) with
  | none => rw [hfound] at h; cases h
  | some found => rw [hfound] at h; cases h; exact Table.find?_eq_some hfound

theorem lockConversation_ok {conversationId siteId : Uuid} {db db' : Db} {row : ConversationRow}
    (h : (lockConversation conversationId siteId).run db = (.ok row, db')) :
    row ∈ db.conversation ∧ isConversation conversationId siteId row = true := by
  unfold lockConversation at h
  rw [Tx.run_bind, Relvar.run_selectOne] at h
  dsimp only at h
  cases hfound : (Db.conversations.get db).find? (isConversation conversationId siteId) with
  | none => rw [hfound] at h; cases h
  | some found => rw [hfound] at h; cases h; exact Table.find?_eq_some hfound

/-- `_append_approval_activity` appends through the same two statements. -/
theorem appendApprovalActivity_eq (binding : ApprovalBindingV1) (actorId requestId : Uuid)
    (agentRunId : Option Uuid) (occurredAt : Instant) (agentRunStatus : Option AgentRunStatus) :
    appendApprovalActivity binding actorId requestId agentRunId occurredAt agentRunStatus =
      (do
        let conversation ← lockConversation binding.conversationId binding.siteId
        let sequence ← Tx.read (nextSequence binding.conversationId)
        let event :=
          approvalEvent binding actorId requestId agentRunId occurredAt sequence conversation
        appendEvent binding.conversationId binding.siteId event
        pure ⟨event, conversation.resourceVersion + 1,
          agentRunStatus.or (agentRunId.map fun _ => .approvalRequired)⟩) := by
  simp only [appendApprovalActivity, appendEvent, bind_assoc, pure_bind]
  rfl

/-- **A shown approval.** -/
theorem appendApprovalActivity_conversed (binding : ApprovalBindingV1) (actorId requestId : Uuid)
    (agentRunId : Option Uuid) (occurredAt : Instant) (agentRunStatus : Option AgentRunStatus) :
    (appendApprovalActivity binding actorId requestId agentRunId occurredAt
      agentRunStatus).Follows Conversed := by
  rw [appendApprovalActivity_eq]
  refine .of_at fun db => ?_
  refine .afterStill .refl (lockConversation_still ..) fun conversation hlock => ?_
  obtain ⟨hmem, hsel⟩ := lockConversation_ok hlock
  refine .afterStill .refl (.read _) fun sequence hsequence => ?_
  cases hsequence
  refine .bind .trans (appendEvent_appends hmem hsel rfl rfl rfl) fun _ db' _ => ?_
  exact (Tx.Follows.of_still .refl (.pure _)).at db'

theorem updateAgentRun_keeps (agentRunId siteId : Uuid) (set : AgentRunRow → AgentRunRow) :
    (updateAgentRun agentRunId siteId set).Follows Conversed := by
  have hkept : ∀ t db, Conversed db (Db.agentRuns.put t db) := fun _ _ => .of_kept ⟨rfl, rfl, rfl⟩
  refine .bind .trans (Relvar.updateWhere_follows .refl hkept ..) fun _ => ?_
  exact .of_still .refl (.pure _)

/-- **A finished turn.** -/
theorem finishAgentRun_conversed (env : Ambient) (claimed : ClaimedAgentRunV1)
    (status : AgentRunStatus) (payload : ActivityPayload) (requestId : Uuid) :
    (finishAgentRun env claimed status payload requestId).Follows Conversed := by
  refine .of_at fun db => ?_
  unfold finishAgentRun
  refine .afterStill .refl (lockClaimed_still ..) fun conversation hlock => ?_
  obtain ⟨hmem, hsel⟩ := lockClaimed_ok hlock
  refine .afterStill .refl (requireAgentRun_still ..) fun _ _ => ?_
  refine .afterStill .refl (.read _) fun sequence hsequence => ?_
  cases hsequence
  -- the run moves between the read of the sequence and the event
  refine .bind .trans ((updateAgentRun_keeps ..).at db) fun _ db₁ hupdate => ?_
  obtain ⟨-, hframe⟩ := updateAgentRun_ok hupdate
  refine .bind .trans ?_ fun _ db₂ _ => (Tx.Follows.of_still .refl (.pure _)).at db₂
  refine appendEvent_appends ?_ hsel rfl ?_ rfl
  · rw [hframe]; exact hmem
  · rw [hframe]; rfl

/-- **An accepted turn.** -/
theorem acceptTurn_conversed (env : Ambient) (conversationId siteId actorId requestId : Uuid)
    (text : String) :
    (acceptTurn env conversationId siteId actorId requestId text).Follows Conversed := by
  have hreturn : ∀ {α : Type} (a : α), (pure a : DbTx α).Follows Conversed :=
    fun a => .of_still .refl (.pure a)
  refine .of_at fun db => ?_
  unfold acceptTurn
  refine .afterStill .refl (Relvar.still_selectOne ..) fun found hfound => ?_
  rw [Relvar.run_selectOne] at hfound
  cases found with
  | none => exact (hreturn _).at db
  | some conversation =>
    obtain ⟨hmem, hsel⟩ := Table.find?_eq_some (Except.ok.inj (Prod.mk.inj hfound).1)
    -- the message and the run come before the sequence is read
    have hmessages : ∀ t db, Conversed db (Db.messages.put t db) :=
      fun _ _ => .of_kept ⟨rfl, rfl, rfl⟩
    have hruns : ∀ t db, Conversed db (Db.agentRuns.put t db) :=
      fun _ _ => .of_kept ⟨rfl, rfl, rfl⟩
    refine .bind .trans ((Relvar.insertInto_follows .refl hmessages ..).at db)
      fun _ db₁ hmessage => ?_
    obtain ⟨messages, -, rfl⟩ := Relvar.insertInto_ok.mp hmessage
    refine .bind .trans ((Relvar.insertInto_follows .refl hruns ..).at _) fun _ db₂ hrun => ?_
    obtain ⟨runs, -, rfl⟩ := Relvar.insertInto_ok.mp hrun
    refine .afterStill .refl (.read _) fun sequence hsequence => ?_
    cases hsequence
    have hid : conversation.id = conversationId := by
      simp only [isConversation, Bool.and_eq_true, decide_eq_true_eq] at hsel
      exact hsel.1
    refine .bind .trans ?_ fun _ db₃ _ => (hreturn _).at db₃
    exact appendEvent_appends hmem hsel hid rfl rfl

/-! ## The workflow -/

theorem besideWorkflow_conversed : BesideWorkflow Conversed where
  refl := .refl
  trans := .trans
  receipts _ _ := .of_kept ⟨rfl, rfl, rfl⟩
  audits _ _ := .of_kept ⟨rfl, rfl, rfl⟩
  baselines _ _ := .of_kept ⟨rfl, rfl, rfl⟩
  activity := appendApprovalActivity_conversed
  runs _ _ := .of_kept ⟨rfl, rfl, rfl⟩
  bindings _ _ := .of_kept ⟨rfl, rfl, rfl⟩
  proposals _ _ := .of_kept ⟨rfl, rfl, rfl⟩
  versions _ _ := .of_kept ⟨rfl, rfl, rfl⟩
  accepts := acceptTurn_conversed
  finishes := finishAgentRun_conversed

/-- **A step of the workflow** appends to conversations, and does nothing else to event streams. -/
theorem TurnSys.perform_conversed {s : TurnSys} {action : TurnAction}
    (helsewhere : ∀ db', action ≠ .elsewhere db') : Conversed s.db (s.perform action).db :=
  besideWorkflow_conversed.perform helsewhere

end ShiftMind
