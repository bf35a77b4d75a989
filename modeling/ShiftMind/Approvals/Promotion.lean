import ShiftMind.Approvals.Effects

/-!
# ShiftMind — how a promotion ends

The writes of a promotion, from the consumed binding to the applied proposal, and the three ways
they end: everything is promoted, or half of it is when the payload turns out unreadable, or an
exception is raised that no handler of the route knows.

* **`AllPromoted`** / **`NotPromoted`** — every part of a promotion, or none, between two states;
  the second is a preorder that every other statement of a decision follows.
* **`caught`** — the exceptions the route turns into a response; **`Never`** — the bodies that
  raise no exception of a kind.
* **`PromotionGap`** — the states in which a promotion reaches an unreadable payload.
* **`promotionWrites_cases`** — the three endings.
-/

namespace ShiftMind

open Relational Transactional ApprovalRepository ConversationRepository

/-! ## The parts of a promotion -/

/-- Every part of the promotion of a binding happened between two committed states. -/
structure AllPromoted (binding : ApprovalBindingV1) (db db' : Db) : Prop where
  consumed : ∃ row ∈ db.approvalRequest, ∃ row' ∈ db'.approvalRequest,
    isApproval binding.approvalId binding.siteId row = true ∧ row.binding.state = .pending ∧
    isApproval binding.approvalId binding.siteId row' = true ∧ row'.binding.state = .consumed
  moved : ∃ baseline ∈ db'.siteBaseline, baseline ∉ db.siteBaseline ∧
    baseline.siteId = binding.siteId ∧
    baseline.scheduleVersionId = binding.candidateScheduleVersionId
  audited : ∃ audit ∈ db'.auditEvent, audit ∉ db.auditEvent ∧ audit.success = true ∧
    audit.outcome = .approvalConsumed ∧ audit.siteId = binding.siteId ∧
    audit.effectKey = binding.requestEffectKey
  shown : ∃ event ∈ db'.persistedEvent, event ∉ db.persistedEvent ∧
    Shows binding.approvalId .consumed event
  resumed : ∀ agentRunId, binding.agentRunId = some agentRunId →
    ∃ run ∈ db.agentRun, ∃ run' ∈ db'.agentRun,
      isAgentRun agentRunId binding.siteId run = true ∧ run.status = .approvalRequired ∧
      isAgentRun agentRunId binding.siteId run' = true ∧ run'.status = .agentRunning
  applied : ∀ version ∈ db.scheduleVersion, version.id = binding.candidateScheduleVersionId →
    ∀ p ∈ db.proposal, p.id = version.proposalId → p.siteId = binding.siteId →
      p.state = .active → ∃ p' ∈ db'.proposal, p'.id = p.id ∧ p'.state = .applied ∧
        p'.appliedVersionId = some version.proposalVersionId

/-- No part of any promotion happened between two committed states. -/
structure NotPromoted (db db' : Db) : Prop where
  consumed : ∀ row ∈ db'.approvalRequest, row.binding.state = .consumed → row ∈ db.approvalRequest
  moved : db'.siteBaseline = db.siteBaseline
  audited : ∀ audit ∈ db'.auditEvent, audit.success = true → audit.outcome = .approvalConsumed →
    audit ∈ db.auditEvent
  shown : ∀ event ∈ db'.persistedEvent, ∀ approvalId, Shows approvalId .consumed event →
    event ∈ db.persistedEvent
  resumed : ∀ run ∈ db'.agentRun, run.status = .agentRunning → run ∈ db.agentRun
  applied : db'.proposal = db.proposal

/-- The request promoted the binding it saw as a whole, or promoted nothing. -/
def AllOrNothing (view : DecisionView) (db db' : Db) : Prop :=
  (∃ binding, view.binding = some binding ∧ AllPromoted binding db db') ∨ NotPromoted db db'

theorem NotPromoted.refl (db : Db) : NotPromoted db db :=
  ⟨fun _ h _ => h, rfl, fun _ h _ _ => h, fun _ h _ _ => h, fun _ h _ => h, rfl⟩

theorem NotPromoted.trans (db db' db'' : Db) (h : NotPromoted db db')
    (h' : NotPromoted db' db'') : NotPromoted db db'' where
  consumed row hrow hstate := h.consumed row (h'.consumed row hrow hstate) hstate
  moved := h'.moved.trans h.moved
  audited audit haudit hsuccess houtcome :=
    h.audited audit (h'.audited audit haudit hsuccess houtcome) hsuccess houtcome
  shown event hevent approvalId hshows :=
    h.shown event (h'.shown event hevent approvalId hshows) approvalId hshows
  resumed run hrun hstatus := h.resumed run (h'.resumed run hrun hstatus) hstatus
  applied := h'.applied.trans h.applied

section Leads

variable {α β : Type}

theorem NotPromoted.ofStill {x : DbTx α} (hx : x.Still) : x.Leads NotPromoted :=
  .of_still NotPromoted.refl hx

theorem NotPromoted.andThen {x : DbTx α} {f : α → DbTx β} (hx : x.Leads NotPromoted)
    (hf : ∀ a, (f a).Leads NotPromoted) : (x >>= f).Leads NotPromoted :=
  hx.bind NotPromoted.trans hf

end Leads

/-! ## Statements that promote nothing -/

/-- A receipt is none of a promotion's parts. -/
theorem ReceiptOnly.notPromoted (db db' : Db) (h : ReceiptOnly db db') : NotPromoted db db' := by
  rw [show db' = _ from h]
  exact ⟨fun _ h _ => h, rfl, fun _ h _ _ => h, fun _ h _ _ => h, fun _ h _ => h, rfl⟩

/-- An audit row that is no success of a promotion. -/
theorem append_notPromoted {envelope : AuditEnvelopeV1}
    (henvelope : envelope.success = true → envelope.outcome ≠ .approvalConsumed) :
    (AuditWriter.append envelope).Leads NotPromoted := by
  refine ⟨fun {db u db'} h => ?_⟩
  obtain ⟨t, ht, rfl⟩ := Relvar.insertInto_ok.mp h
  refine ⟨fun _ h _ => h, rfl, fun audit haudit hsuccess houtcome => ?_, fun _ h _ _ => h,
    fun _ h _ => h, rfl⟩
  rcases (Table.mem_of_insert? ht).mp haudit with hold | rfl
  · exact hold
  · exact absurd houtcome (henvelope hsuccess)

/-- Leaving `pending` for another state than `consumed`. -/
theorem Left.notPromoted {state : ApprovalState} {row row' : ApprovalRequestRow} {db db' : Db}
    (h : Left state row row' db db') (hstate : state ≠ .consumed) : NotPromoted db db' := by
  obtain ⟨actorId, decidedAt, consumedAt, hwritten⟩ := h.written
  have hframe := h.frame
  refine ⟨fun r hr hconsumed => ?_, ?_, ?_, ?_, ?_, ?_⟩
  · rcases (h.replaced.mem_iff r).mp hr with rfl | ⟨hold, -⟩
    · rw [hwritten] at hconsumed
      exact absurd hconsumed hstate
    · exact hold
  all_goals rw [hframe]
  · exact fun _ h _ _ => h
  · exact fun _ h _ _ => h
  · exact fun _ h _ => h

/-- Showing a binding that is not consumed. -/
theorem appendApprovalActivity_notPromoted {binding : ApprovalBindingV1}
    (hstate : binding.state ≠ .consumed) (actorId requestId : Uuid) (agentRunId : Option Uuid)
    (occurredAt : Instant) (agentRunStatus : Option AgentRunStatus) :
    (appendApprovalActivity binding actorId requestId agentRunId occurredAt
      agentRunStatus).Leads NotPromoted := by
  refine ⟨fun {db activity db'} h => ?_⟩
  obtain ⟨event, hshows, hevents, hframe⟩ := appendApprovalActivity_ok h
  refine ⟨?_, ?_, ?_, fun e he approvalId hconsumed => ?_, ?_, ?_⟩
  · rw [hframe]; exact fun _ h _ => h
  · rw [hframe]
  · rw [hframe]; exact fun _ h _ _ => h
  · rcases (Table.mem_of_insert? hevents).mp he with hold | rfl
    · exact hold
    · -- the new event shows the state of the binding
      obtain ⟨activity, hpayload, -, hactivity⟩ := hshows
      obtain ⟨activity', hpayload', -, hactivity'⟩ := hconsumed
      rw [hpayload] at hpayload'
      cases hpayload'
      exact absurd (hactivity.symm.trans hactivity') hstate
  · rw [hframe]; exact fun _ h _ => h
  · rw [hframe]

/-- Cancelling the agent run that waits for a binding. -/
theorem cancelAgentRunForApproval_notPromoted (agentRunId : Uuid) (binding : ApprovalBindingV1)
    (reason : String) :
    (cancelAgentRunForApproval agentRunId binding reason).Leads NotPromoted := by
  unfold cancelAgentRunForApproval
  refine .ite (fun _ => .throw _) fun _ => ?_
  refine NotPromoted.andThen (NotPromoted.ofStill (lockConversation_still ..)) fun _ => ?_
  refine NotPromoted.andThen (NotPromoted.ofStill (requireAgentRun_still ..)) fun _ => ?_
  refine ⟨fun {db u db'} h => ?_⟩
  obtain ⟨hruns, hframe⟩ := updateAgentRun_ok h
  refine ⟨?_, ?_, ?_, ?_, fun run hrun hstatus => ?_, ?_⟩
  · rw [hframe]; exact fun _ h _ => h
  · rw [hframe]
  · rw [hframe]; exact fun _ h _ _ => h
  · rw [hframe]; exact fun _ h _ _ => h
  · obtain ⟨old, hold, rfl⟩ := (Table.mem_of_update? hruns).mp hrun
    split at hstatus
    · cases hstatus
    · rename_i hsel
      rw [if_neg hsel]; exact hold
  · rw [hframe]

/-! ## What the route catches

The route turns two exceptions into answers, so the statements that raise neither need no further
look. -/

/-- The exceptions that the route turns into a response. -/
def caught : PyError → Bool
  | .decideApproval cls _ _ _ => !reraised cls
  | _ => false

/-- A kind of exceptions that no statement of the repositories raises. -/
structure Foreign (P : PyError → Prop) : Prop where
  integrity : ∀ constraint, ¬ P (.integrityError constraint)
  runtime : ∀ message, ¬ P (.runtimeError message)
  notQueued : ∀ message, ¬ P (.agentRunNotQueued message)
  value : ∀ message, ¬ P (.valueError message)
  database : ∀ message, ¬ P (.databaseError message)
  data : ∀ message, ¬ P (.dataError message)

theorem foreign_caught : Foreign fun e => caught e = true := by
  refine ⟨?_, ?_, ?_, ?_, ?_, ?_⟩ <;> intro message <;> simp [caught]

/-- No exception of the body is of the kind. -/
abbrev Never {α : Type} (P : PyError → Prop) (x : DbTx α) : Prop := x.Fails P fun _ _ => False

section Never

variable {α β : Type} {P : PyError → Prop}

theorem never_bind {x : DbTx α} {f : α → DbTx β} (hx : Never P x) (hf : ∀ a, Never P (f a)) :
    Never P (x >>= f) :=
  hx.bind_never hf

theorem never_throw {e : PyError} (he : ¬ P e) : Never P (throw e : DbTx α) := .throw_of_not he

theorem never_pure (a : α) : Never P (pure a : DbTx α) := ⟨fun h => by cases h⟩

theorem never_read (f : Db → α) : Never P (Tx.read f : DbTx α) := ⟨fun h => by cases h⟩

variable (hP : Foreign P)
include hP

theorem never_attempt {failure : Option String} {x : DbTx α} (hx : Never P x) :
    Never P (attempt failure x) := by
  refine ⟨fun h he => ?_⟩
  rcases attempt_error.mp h with ⟨message, -, rfl, -⟩ | ⟨-, h⟩
  · exact hP.database message he
  · exact hx.failed h he

theorem never_lockConversation (conversationId siteId : Uuid) :
    Never P (lockConversation conversationId siteId) :=
  never_bind (never_read _) fun row => by
    cases row with
    | none => exact never_throw (hP.runtime _)
    | some row => exact never_pure row

theorem never_requireAgentRun (agentRunId siteId : Uuid) (expected : AgentRunStatus)
    (message : String) : Never P (requireAgentRun agentRunId siteId expected message) :=
  never_bind (never_read _) fun _ => .ite (fun _ => never_pure _) fun _ =>
    never_throw (hP.notQueued _)

theorem never_updateAgentRun (agentRunId siteId : Uuid) (set : AgentRunRow → AgentRunRow) :
    Never P (updateAgentRun agentRunId siteId set) :=
  never_bind (Relvar.updateWhere_fails (hP.integrity _)) fun _ => never_pure _

theorem never_requireStorable (storable : Bool) :
    Never P (Tx.lift (requireStorable storable) : DbTx Unit) := by
  refine ⟨fun h he => ?_⟩
  obtain ⟨-, rfl⟩ := requireStorable_error (Prod.mk.inj h).1
  exact hP.data _ he

theorem never_insertEvent (event : PersistedEventRow) : Never P (insertEvent event) :=
  never_bind (never_requireStorable hP _) fun _ => Relvar.insertInto_fails (hP.integrity _)

theorem never_appendApprovalActivity (binding : ApprovalBindingV1) (actorId requestId : Uuid)
    (agentRunId : Option Uuid) (occurredAt : Instant) (agentRunStatus : Option AgentRunStatus) :
    Never P (appendApprovalActivity binding actorId requestId agentRunId occurredAt
      agentRunStatus) := by
  unfold appendApprovalActivity
  refine never_bind (never_lockConversation hP ..) fun conversation => ?_
  refine never_bind (never_read _) fun sequence => ?_
  refine never_bind (never_insertEvent hP _) fun _ => ?_
  exact never_bind (Relvar.updateWhere_fails (hP.integrity _)) fun _ => never_pure _

theorem never_pauseAgentRunForApproval (agentRunId : Uuid) (binding : ApprovalBindingV1)
    (requestId : Uuid) : Never P (pauseAgentRunForApproval agentRunId binding requestId) := by
  unfold pauseAgentRunForApproval
  refine never_bind (never_lockConversation hP ..) fun _ => ?_
  refine never_bind (never_requireAgentRun hP ..) fun _ => ?_
  refine never_bind (never_appendApprovalActivity hP ..) fun _ => ?_
  exact never_bind (never_updateAgentRun hP ..) fun _ => never_pure _

theorem never_resumeAgentRunForApproval (agentRunId : Uuid) (binding : ApprovalBindingV1)
    (requestId : Uuid) (occurredAt : Instant) :
    Never P (resumeAgentRunForApproval agentRunId binding requestId occurredAt) := by
  unfold resumeAgentRunForApproval
  refine never_bind (never_lockConversation hP ..) fun _ => ?_
  refine never_bind (never_requireAgentRun hP ..) fun _ => ?_
  refine never_bind (never_updateAgentRun hP ..) fun _ => ?_
  cases binding.decidedByActorId with
  | none => exact never_throw (hP.integrity _)
  | some actorId => exact never_appendApprovalActivity hP ..

theorem never_cancelAgentRunForApproval (agentRunId : Uuid) (binding : ApprovalBindingV1)
    (reason : String) : Never P (cancelAgentRunForApproval agentRunId binding reason) := by
  unfold cancelAgentRunForApproval
  refine .ite (fun _ => never_throw (hP.value _)) fun _ => ?_
  refine never_bind (never_lockConversation hP ..) fun _ => ?_
  exact never_bind (never_requireAgentRun hP ..) fun _ => never_updateAgentRun hP ..

theorem never_append (envelope : AuditEnvelopeV1) : Never P (AuditWriter.append envelope) :=
  Relvar.insertInto_fails (hP.integrity _)

end Never

/-! ## How each part of a promotion ends

Each part goes through with a known effect or raises, and the lemma says which preconditions decide.
-/

/-- A binding is consumed where its row is still pending at the version the decision saw; otherwise
nothing is written, and the exception leaves the endpoint. -/
theorem consumeBinding_cases (ctx : DecisionContext) (binding : ApprovalBindingV1) (db : Db) :
    (∃ row row' db', ctx.outage .consume = none ∧
      pendingAt binding.approvalId binding.siteId binding.resourceVersion row = true ∧
      Left .consumed row row' db db' ∧
      (consumeBinding ctx binding).run db = (.ok row'.binding, db')) ∨
    (¬ (ctx.outage .consume = none ∧ ∃ row ∈ db.approvalRequest,
        pendingAt binding.approvalId binding.siteId binding.resourceVersion row = true) ∧
      ∃ e, caught e = false ∧ (consumeBinding ctx binding).run db = (.error e, db)) := by
  unfold consumeBinding
  cases houtage : ctx.outage .consume with
  | some message =>
    right
    exact ⟨by simp, _, rfl,
      Tx.run_bind_of_error (attempt_error.mpr (.inl ⟨message, rfl, rfl, rfl⟩))⟩
  | none =>
    rcases leavePending_run (by decide : ApprovalState.consumed ≠ .pending) binding.approvalId
      binding.siteId ctx.actorId ctx.env.clock (some ctx.env.clock) binding.resourceVersion db with
      ⟨row, row', db', hsel, hleft, hrun⟩ | ⟨hnone, hrun⟩
    · left
      exact ⟨row, row', db', rfl, hsel, hleft, Tx.run_bind_of_ok (attempt_ok.mpr ⟨rfl, hrun⟩)⟩
    · right
      refine ⟨?_, _, rfl, Tx.run_bind_of_ok (attempt_ok.mpr ⟨rfl, hrun⟩)⟩
      rintro ⟨-, row, hrow, hsel⟩
      rw [hnone row hrow] at hsel
      cases hsel

/-- The baseline moves from where the binding pinned it; otherwise the exception leaves the
endpoint. -/
theorem moveToCandidate_cases (ctx : DecisionContext) (binding : ApprovalBindingV1) (db : Db) :
    (∃ baseline db', ctx.outage .promote = none ∧
      db.BaselineStands binding.siteId binding.baselineResourceVersion ∧
      db.HasVersion binding.siteId binding.candidateScheduleVersionId ∧
      Promoted binding.siteId binding.candidateScheduleVersionId binding.baselineResourceVersion
        baseline db db' ∧
      (moveToCandidate ctx binding).run db = (.ok baseline, db')) ∨
    (¬ (ctx.outage .promote = none ∧
        db.BaselineStands binding.siteId binding.baselineResourceVersion ∧
        db.HasVersion binding.siteId binding.candidateScheduleVersionId) ∧
      ∃ e db', caught e = false ∧ (moveToCandidate ctx binding).run db = (.error e, db')) := by
  unfold moveToCandidate
  cases houtage : ctx.outage .promote with
  | some message =>
    right
    exact ⟨by simp, _, _, rfl,
      Tx.run_bind_of_error (attempt_error.mpr (.inl ⟨message, rfl, rfl, rfl⟩))⟩
  | none =>
    rcases SiteBaseline.promote_run binding.siteId binding.candidateScheduleVersionId ctx.actorId
      ctx.env.clock binding.baselineResourceVersion db with
      ⟨hstands, hversion, baseline, db', hrun, hpromoted⟩ | ⟨hnot, hrun | ⟨constraint, db', hrun⟩⟩
    · left
      exact ⟨baseline, db', rfl, hstands, hversion, hpromoted,
        Tx.run_bind_of_ok (attempt_ok.mpr ⟨rfl, hrun⟩)⟩
    · right
      exact ⟨fun h => hnot h.2, _, _, rfl, Tx.run_bind_of_ok (attempt_ok.mpr ⟨rfl, hrun⟩)⟩
    · right
      exact ⟨fun h => hnot h.2, _, _, rfl,
        Tx.run_bind_of_error (attempt_error.mpr (.inr ⟨rfl, hrun⟩))⟩

/-- The audit table takes the success row of a consumed binding. -/
def AuditFree (ctx : DecisionContext) (binding : ApprovalBindingV1) (db : Db) : Prop :=
  ∀ other ∈ db.auditEvent, other.auditId ≠ ctx.env.uuid4 0 ∧
    ¬ (other.success = true ∧ other.siteId = binding.siteId ∧
      other.effectKey = binding.requestEffectKey ∧ other.outcome = .approvalConsumed)

theorem auditFree_iff {ctx : DecisionContext} {binding : ApprovalBindingV1}
    (candidate : ScheduleVersionV1) {db : Db} :
    AuditFree ctx binding db ↔
      ∀ other ∈ db.auditEvent, clash other (consumedAudit ctx binding candidate) = false := by
  refine forall₂_congr fun other _ => ?_
  rw [← Bool.not_eq_true]
  simp [clash, consumedAudit, and_assoc]

theorem appendConsumed_cases (ctx : DecisionContext) (binding : ApprovalBindingV1)
    (candidate : ScheduleVersionV1) (db : Db) :
    (∃ t, ctx.outage .appendAudit = none ∧ AuditFree ctx binding db ∧
      db.auditEvent.insert? (consumedAudit ctx binding candidate) = some t ∧
      (attempt (ctx.outage .appendAudit)
        (AuditWriter.append (consumedAudit ctx binding candidate))).run db =
          (.ok (), { db with auditEvent := t })) ∨
    (¬ (ctx.outage .appendAudit = none ∧ AuditFree ctx binding db) ∧
      ∃ e db', caught e = false ∧ (attempt (ctx.outage .appendAudit)
        (AuditWriter.append (consumedAudit ctx binding candidate))).run db = (.error e, db')) := by
  cases houtage : ctx.outage .appendAudit with
  | some message =>
    exact .inr ⟨by simp, _, _, rfl, attempt_error.mpr (.inl ⟨message, rfl, rfl, rfl⟩)⟩
  | none =>
    cases hinsert : db.auditEvent.insert? (consumedAudit ctx binding candidate) with
    | some t =>
      left
      refine ⟨t, rfl, (auditFree_iff candidate).mpr (Table.insert?_eq_some hinsert).2.1, rfl, ?_⟩
      exact attempt_ok.mpr ⟨rfl, Relvar.insertInto_ok.mpr ⟨t, hinsert, rfl⟩⟩
    | none =>
      right
      refine ⟨fun h => ?_, _, _, rfl, attempt_error.mpr (.inr ⟨rfl,
        Relvar.insertInto_error.mpr ⟨hinsert, rfl, rfl⟩⟩)⟩
      have hfree : ∀ other ∈ db.auditEvent, clash other (consumedAudit ctx binding candidate) =
          false := (auditFree_iff candidate).mp h.2
      obtain ⟨t, ht⟩ := Table.insert?_of_free rfl hfree
      rw [hinsert] at ht
      cases ht

/-- The payload of the binding's row carries no single pending call. -/
def PayloadBad (binding : ApprovalBindingV1) (db : Db) : Prop :=
  ∃ row ∈ db.approvalRequest, isApproval binding.approvalId binding.siteId row = true ∧
    ∀ call, row.pendingPayload ≠ some (.readable [call])

theorem readPendingCall_ok {payload : Option PendingPayload} {call : AgentToolCallProposalV1} :
    readPendingCall payload = .ok call ↔ payload = some (.readable [call]) := by
  unfold readPendingCall
  split <;> simp_all

/-- A payload without a single call raises the one exception of a promotion the route returns. -/
theorem readPendingCall_bad {payload : Option PendingPayload}
    (h : ∀ call, payload ≠ some (.readable [call])) :
    ∃ message expected current, readPendingCall payload =
      .error (.decideApproval .approvalPayloadUnreadable message expected current) := by
  unfold readPendingCall
  split
  · exact ⟨_, _, _, rfl⟩
  · exact ⟨_, _, _, rfl⟩
  · rename_i call; exact absurd rfl (h call)
  · exact ⟨_, _, _, rfl⟩

theorem getPendingPayload_run {approvalId siteId : Uuid} {db : Db} {row : ApprovalRequestRow}
    (hmem : row ∈ db.approvalRequest) (hsel : isApproval approvalId siteId row = true) :
    (getPendingPayload approvalId siteId).run db = (.ok row.pendingPayload, db) := by
  have hfind := Table.find?_of_mem hmem hsel fun a b ha hb => clash_of_isApproval ha hb
  show (Except.ok ((db.approvalRequest.find? (isApproval approvalId siteId)).bind
    ApprovalRequestRow.pendingPayload), db) = _
  rw [hfind]
  rfl

/-- What follows the audit row of a promotion, when it returns. -/
theorem completePromotion_ok {ctx : DecisionContext} {binding consumed : ApprovalBindingV1}
    {baseline : SiteBaselineRow} {db db' : Db} {result : PromotionResultV1}
    (h : (completePromotion ctx binding consumed baseline).run db = (.ok result, db')) :
    (∃ event, Shows consumed.approvalId consumed.state event ∧
      db.persistedEvent.insert? event = some db'.persistedEvent) ∧
    (∀ agentRunId, binding.agentRunId = some agentRunId →
      (∃ run ∈ db.agentRun, isAgentRun agentRunId consumed.siteId run = true ∧
        run.status = .approvalRequired) ∧
      db.agentRun.update? (isAgentRun agentRunId consumed.siteId)
        (fun row => { row with status := .agentRunning, statusReason := none }) =
          some db'.agentRun) ∧
    (∀ version ∈ db.scheduleVersion, version.id = binding.candidateScheduleVersionId →
      ∀ p ∈ db.proposal, p.id = version.proposalId → p.siteId = binding.siteId →
        p.state = .active →
          ProposalRepository.appliedAt version.proposalVersionId p ∈ db'.proposal) ∧
    ApprovalsKept db db' := by
  unfold completePromotion at h
  obtain ⟨shown, db₁, hshow, h₁⟩ := Tx.bind_ok.mp h
  obtain ⟨u, db₂, hmark, h₂⟩ := Tx.bind_ok.mp h₁
  cases h₂
  obtain ⟨applied, proposals, hrun, happlied⟩ :=
    ProposalRepository.markApplied_run binding.siteId binding.candidateScheduleVersionId db₁
  have hproposals := (attempt_ok.mp hmark).2
  rw [hrun] at hproposals
  cases hproposals
  unfold showPromotion at hshow
  cases hagent : binding.agentRunId with
  | none =>
    rw [hagent] at hshow
    -- nobody waits: the activity alone is shown
    obtain ⟨activity, db₃, happend, hpure⟩ := Tx.bind_ok.mp hshow
    cases hpure
    obtain ⟨event, hshows, hevents, hframe⟩ := appendApprovalActivity_ok (attempt_ok.mp happend).2
    rw [hframe] at happlied ⊢
    exact ⟨⟨event, hshows, hevents⟩, by simp, happlied, rfl, rfl, rfl⟩
  | some agentRunId =>
    rw [hagent] at hshow
    -- a waiting run: its call is read back and the run goes on
    obtain ⟨payload, db₃, hread, hshow₁⟩ := Tx.bind_ok.mp hshow
    obtain ⟨call, db₄, hcall, hshow₂⟩ := Tx.bind_ok.mp hshow₁
    obtain ⟨activity, db₅, hresume, hpure⟩ := Tx.bind_ok.mp hshow₂
    cases hpure
    obtain rfl : db₃ = db := (attempt_still (.bind (Relvar.still_selectOne ..) fun _ =>
      .pure _)).eq_of_run hread
    obtain rfl : db₄ = db₃ := (Tx.Still.lift _).eq_of_run hcall
    obtain ⟨hrun', hruns, event, hshows, hevents, hframe⟩ :=
      resumeAgentRunForApproval_ok (attempt_ok.mp hresume).2
    refine ⟨⟨event, hshows, hevents⟩, fun id hid => ?_, ?_, ?_⟩
    · cases hid
      exact ⟨hrun', hruns⟩
    · rw [hframe] at happlied
      exact happlied
    · rw [hframe]
      exact ⟨rfl, rfl, rfl⟩

/-- With a bad payload, an agent-backed promotion ends there, in a state it did not change. -/
theorem completePromotion_gap {ctx : DecisionContext} {binding : ApprovalBindingV1}
    (consumed : ApprovalBindingV1) (baseline : SiteBaselineRow) {db : Db}
    (hagent : binding.agentRunId.isSome = true)
    (hread : ctx.outage .readPayload = none) (hbad : PayloadBad binding db) :
    ∃ message expected current, (completePromotion ctx binding consumed baseline).run db =
      (.error (.decideApproval .approvalPayloadUnreadable message expected current), db) := by
  obtain ⟨agentRunId, hagent⟩ := Option.isSome_iff_exists.mp hagent
  obtain ⟨row, hmem, hsel, hpayload⟩ := hbad
  obtain ⟨message, expected, current, hcall⟩ := readPendingCall_bad hpayload
  refine ⟨message, expected, current, Tx.run_bind_of_error ?_⟩
  unfold showPromotion
  rw [hagent]
  simp only
  rw [Tx.run_bind_of_ok (attempt_ok.mpr ⟨hread, getPendingPayload_run hmem hsel⟩)]
  exact Tx.run_bind_of_error (by rw [hcall]; rfl)

/-- What follows the audit row raises a caught exception only for a bad payload. -/
theorem completePromotion_caught {ctx : DecisionContext} {binding consumed : ApprovalBindingV1}
    {baseline : SiteBaselineRow} {db db' : Db} {row : ApprovalRequestRow}
    (hmem : row ∈ db.approvalRequest)
    (hsel : isApproval binding.approvalId binding.siteId row = true) {e : PyError}
    (hcaught : caught e = true)
    (h : (completePromotion ctx binding consumed baseline).run db = (.error e, db')) :
    binding.agentRunId.isSome = true ∧ ctx.outage .readPayload = none ∧ PayloadBad binding db := by
  unfold completePromotion at h
  -- the exception came while the activity was shown, or after it
  rcases Tx.bind_error.mp h with hshow | ⟨shown, db₁, -, h₁⟩
  · unfold showPromotion at hshow
    cases hagent : binding.agentRunId with
    | none =>
      rw [hagent] at hshow
      exact ((never_bind
        (never_attempt foreign_caught (never_appendApprovalActivity foreign_caught ..)) fun _ =>
        never_pure _).failed hshow hcaught).elim
    | some agentRunId =>
      rw [hagent] at hshow
      rcases Tx.bind_error.mp hshow with hread | ⟨payload, db₁, hread, hshow₁⟩
      · exact ((never_attempt foreign_caught (never_read _)).failed hread hcaught).elim
      · obtain ⟨hnone, hread⟩ := attempt_ok.mp hread
        -- the binding is there, so its payload was read
        rw [getPendingPayload_run hmem hsel] at hread
        cases hread
        rcases Tx.bind_error.mp hshow₁ with hcall | ⟨call, db₂, -, hshow₂⟩
        · refine ⟨rfl, hnone, row, hmem, hsel, fun call hpayload => ?_⟩
          -- a payload that reads as a call does not fail
          rw [readPendingCall_ok.mpr hpayload] at hcall
          cases hcall
        · exact ((never_bind (never_attempt foreign_caught
            (never_resumeAgentRunForApproval foreign_caught ..)) fun _ =>
            never_pure _).failed hshow₂ hcaught).elim
  · refine ((never_bind (never_attempt foreign_caught ⟨fun hmark _ => ?_⟩) fun _ =>
      never_pure _).failed h₁ hcaught).elim
    -- marking the proposals applied never raises
    obtain ⟨applied, proposals, hrun, -⟩ := ProposalRepository.markApplied_run binding.siteId
      binding.candidateScheduleVersionId _
    rw [hrun] at hmark
    cases hmark

/-! ## The bundle -/

/-- **The gap.** Nothing refuses the binding, the baseline and the audit row, and the binding is
backed by an agent run whose stored payload cannot drive a resumed turn. -/
structure PromotionGap (ctx : DecisionContext) (binding : ApprovalBindingV1) (db : Db) : Prop where
  pending : ∃ row ∈ db.approvalRequest,
    pendingAt binding.approvalId binding.siteId binding.resourceVersion row = true ∧
    ∀ call, row.pendingPayload ≠ some (.readable [call])
  baseline : db.BaselineStands binding.siteId binding.baselineResourceVersion
  version : db.HasVersion binding.siteId binding.candidateScheduleVersionId
  audit : AuditFree ctx binding db
  agent : binding.agentRunId.isSome = true
  consumes : ctx.outage .consume = none
  promotes : ctx.outage .promote = none
  audits : ctx.outage .appendAudit = none
  reads : ctx.outage .readPayload = none

/-- The binding is consumed and nobody was told: what the gap leaves behind. -/
structure HalfPromoted (db db' : Db) : Prop where
  consumed : ∃ row' ∈ db'.approvalRequest, row'.binding.state = .consumed ∧
    row' ∉ db.approvalRequest
  silent : db'.persistedEvent = db.persistedEvent

theorem HalfPromoted.not_allPromoted {binding : ApprovalBindingV1} {db db' : Db}
    (h : HalfPromoted db db') : ¬ AllPromoted binding db db' := by
  intro hall
  obtain ⟨event, hevent, hnew, -⟩ := hall.shown
  rw [h.silent] at hevent
  exact hnew hevent

theorem HalfPromoted.not_notPromoted {db db' : Db} (h : HalfPromoted db db') :
    ¬ NotPromoted db db' := by
  intro hnone
  obtain ⟨row', hrow', hstate, hnew⟩ := h.consumed
  exact hnew (hnone.consumed row' hrow' hstate)

/-- The three approval tables after the guarded writes of a promotion. -/
structure BundleWritten (ctx : DecisionContext) (binding : ApprovalBindingV1)
    (candidate : ScheduleVersionV1) (db db' : Db) : Prop where
  left : ∃ row row',
    pendingAt binding.approvalId binding.siteId binding.resourceVersion row = true ∧
    LeavesPending .consumed row row' db.approvalRequest db'.approvalRequest
  stood : db.BaselineStands binding.siteId binding.baselineResourceVersion
  moved : ∃ baseline, MovesTo binding.siteId binding.candidateScheduleVersionId
    binding.baselineResourceVersion baseline db.siteBaseline db'.siteBaseline
  audited : db.auditEvent.insert? (consumedAudit ctx binding candidate) = some db'.auditEvent

section Bundle

variable {ctx : DecisionContext} {binding : ApprovalBindingV1} {candidate : ScheduleVersionV1}
  {db db₁ db₂ db' : Db} {row row' : ApprovalRequestRow} {baseline : SiteBaselineRow}
  {audits : Table AuditEnvelopeV1}

theorem bundleWritten_of_parts
    (hsel : pendingAt binding.approvalId binding.siteId binding.resourceVersion row = true)
    (hleft : Left .consumed row row' db db₁)
    (hstands : db₁.BaselineStands binding.siteId binding.baselineResourceVersion)
    (hpromoted : Promoted binding.siteId binding.candidateScheduleVersionId
      binding.baselineResourceVersion baseline db₁ db₂)
    (hinsert : db₂.auditEvent.insert? (consumedAudit ctx binding candidate) = some audits)
    (hkept : ApprovalsKept { db₂ with auditEvent := audits } db') :
    BundleWritten ctx binding candidate db db' := by
  have hframe₁ := hleft.frame
  have hframe₂ := hpromoted.frame
  have hbindings : db'.approvalRequest = db₁.approvalRequest := by
    rw [hkept.bindings]
    show db₂.approvalRequest = _
    rw [hframe₂]
  have hbaselines : db₁.siteBaseline = db.siteBaseline := by rw [hframe₁]
  have hmoves := hpromoted.toMovesTo
  rw [hbaselines] at hmoves
  refine ⟨⟨row, row', hsel, ?_⟩, (Db.baselineStands_congr hbaselines).mp hstands,
    ⟨baseline, ?_⟩, ?_⟩
  · rw [hbindings]; exact hleft.toLeavesPending
  · rw [hkept.baselines]; exact hmoves
  · rw [hkept.audits, ← hinsert, hframe₂, hframe₁]

/-- The parts of a promotion that returned are a whole promotion. -/
theorem allPromoted_of_parts {result : PromotionResultV1}
    (hsel : pendingAt binding.approvalId binding.siteId binding.resourceVersion row = true)
    (hleft : Left .consumed row row' db db₁)
    (hstands : db₁.BaselineStands binding.siteId binding.baselineResourceVersion)
    (hpromoted : Promoted binding.siteId binding.candidateScheduleVersionId
      binding.baselineResourceVersion baseline db₁ db₂)
    (hinsert : db₂.auditEvent.insert? (consumedAudit ctx binding candidate) = some audits)
    (hcomplete : (completePromotion ctx binding row'.binding baseline).run
      { db₂ with auditEvent := audits } = (.ok result, db')) : AllPromoted binding db db' := by
  have hframe₁ := hleft.frame
  have hframe₂ := hpromoted.frame
  obtain ⟨⟨event, hshows, hevents⟩, hresumed, happlied, hkept⟩ := completePromotion_ok hcomplete
  have hsel' : isApproval binding.approvalId binding.siteId row' = true := by
    rw [hleft.isApproval]; exact (pendingAt_iff.mp hsel).1
  have hids := isApproval_iff.mp hsel'
  rw [hids.1, hleft.state] at hshows
  rw [hids.2] at hresumed
  -- what each part leaves alone, so that all is said of the first state
  have hbindings : db₂.approvalRequest = db₁.approvalRequest := by rw [hframe₂]
  have hbaselines : db₁.siteBaseline = db.siteBaseline := by rw [hframe₁]
  have haudits : db₂.auditEvent = db.auditEvent := by rw [hframe₂, hframe₁]
  have hevents₂ : db₂.persistedEvent = db.persistedEvent := by rw [hframe₂, hframe₁]
  have hagents : db₂.agentRun = db.agentRun := by rw [hframe₂, hframe₁]
  have hproposals : db₂.proposal = db.proposal := by rw [hframe₂, hframe₁]
  have hversions : db₂.scheduleVersion = db.scheduleVersion := by rw [hframe₂, hframe₁]
  refine ⟨?consumed, ?moved, ?audited, ?shown, ?resumed, ?applied⟩
  case consumed =>
    refine ⟨row, hleft.replaced.mem_old, row', ?_, (pendingAt_iff.mp hsel).1, hleft.pending,
      hsel', hleft.state⟩
    rw [hkept.bindings]
    show row' ∈ db₂.approvalRequest
    rw [hbindings]
    exact hleft.replaced.mem_new
  case moved =>
    refine ⟨baseline, ?_, ?_, hpromoted.site, hpromoted.version⟩
    · rw [hkept.baselines]; exact (hpromoted.rows baseline).mpr (.inl rfl)
    · rw [← hbaselines]; exact hpromoted.new hstands
  case audited =>
    refine ⟨consumedAudit ctx binding candidate, ?_, ?_, rfl, rfl, rfl, rfl⟩
    · rw [hkept.audits]; exact (Table.mem_of_insert? hinsert).mpr (.inr rfl)
    · rw [← haudits]; exact Table.not_mem_of_insert? (by simp [clash]) hinsert
  case shown =>
    refine ⟨event, (Table.mem_of_insert? hevents).mpr (.inr rfl), ?_, hshows⟩
    rw [← hevents₂]
    exact Table.not_mem_of_insert? (by simp [clash]) hevents
  case resumed =>
    intro agentRunId hagent
    obtain ⟨⟨run, hrun, hrunSel, hstatus⟩, hupdate⟩ := hresumed agentRunId hagent
    refine ⟨run, by rw [← hagents]; exact hrun, _,
      (Table.mem_of_update? hupdate).mpr ⟨run, hrun, rfl⟩, hrunSel, hstatus, ?_⟩
    rw [if_pos hrunSel]
    exact ⟨hrunSel, rfl⟩
  case applied =>
    intro version hversion hid p hp hpid hsite hactive
    rw [← hversions] at hversion
    rw [← hproposals] at hp
    exact ⟨_, happlied version hversion hid p hp hpid hsite hactive, rfl, rfl, rfl⟩

/-- A bad payload behind the parts of a promotion is a bad payload of the pending row. -/
theorem promotionGap_of_parts
    (hsel : pendingAt binding.approvalId binding.siteId binding.resourceVersion row = true)
    (hleft : Left .consumed row row' db db₁)
    (hstands : db₁.BaselineStands binding.siteId binding.baselineResourceVersion)
    (hversion : db₁.HasVersion binding.siteId binding.candidateScheduleVersionId)
    (hfree : AuditFree ctx binding db₂) (haudits : db₂.auditEvent = db.auditEvent)
    (hbindings : db₂.approvalRequest = db₁.approvalRequest)
    (hconsumes : ctx.outage .consume = none) (hpromotes : ctx.outage .promote = none)
    (hwrites : ctx.outage .appendAudit = none) (hreads : ctx.outage .readPayload = none)
    (hagent : binding.agentRunId.isSome = true) (hbad : PayloadBad binding db₂) :
    PromotionGap ctx binding db := by
  have hframe := hleft.frame
  obtain ⟨bad, hbadMem, hbadSel, hbadPayload⟩ := hbad
  rw [hbindings] at hbadMem
  have hsame : bad = row' := Table.eq_of_clash hbadMem hleft.replaced.mem_new
    (clash_of_isApproval hbadSel (by rw [hleft.isApproval]; exact (pendingAt_iff.mp hsel).1))
  refine ⟨⟨row, hleft.replaced.mem_old, hsel, ?_⟩, ?_, ?_, ?_, hagent, hconsumes, hpromotes,
    hwrites, hreads⟩
  · rw [← hleft.pendingPayload, ← hsame]; exact hbadPayload
  · exact (Db.baselineStands_congr (by rw [hframe])).mp hstands
  · rw [hframe] at hversion; exact hversion
  · unfold AuditFree at *
    rwa [haudits] at hfree

end Bundle

/-- **The writes of a promotion.** They promote everything, or they end at a bad payload with half
of it written, or an exception leaves the endpoint. -/
theorem promotionWrites_cases (ctx : DecisionContext) (binding : ApprovalBindingV1)
    (candidate : ScheduleVersionV1) (db : Db) :
    (¬ PromotionGap ctx binding db ∧ ∃ result db', AllPromoted binding db db' ∧
      BundleWritten ctx binding candidate db db' ∧
      (promotionWrites ctx binding candidate).run db = (.ok result, db')) ∨
    (PromotionGap ctx binding db ∧ ∃ message expected current db', HalfPromoted db db' ∧
      BundleWritten ctx binding candidate db db' ∧ (promotionWrites ctx binding candidate).run db =
        (.error (.decideApproval .approvalPayloadUnreadable message expected current), db')) ∨
    (¬ PromotionGap ctx binding db ∧ ∃ e db', caught e = false ∧
      (promotionWrites ctx binding candidate).run db = (.error e, db')) := by
  unfold promotionWrites
  -- each of the three guarded writes either goes through or raises what nobody catches
  rcases consumeBinding_cases ctx binding db with
    ⟨row, row', db₁, hconsumes, hsel, hleft, hconsume⟩ | ⟨hnot, e, he, hrun⟩
  case inr =>
    refine .inr (.inr ⟨fun hgap => hnot ⟨hgap.consumes, ?_⟩, e, db, he, Tx.run_bind_of_error hrun⟩)
    obtain ⟨row, hmem, hsel, -⟩ := hgap.pending
    exact ⟨row, hmem, hsel⟩
  rw [Tx.run_bind_of_ok hconsume]
  have hframe₁ := hleft.frame
  rcases moveToCandidate_cases ctx binding db₁ with
    ⟨baseline, db₂, hpromotes, hstands, hversion, hpromoted, hmove⟩ | ⟨hnot, e, db₂, he, hrun⟩
  case inr =>
    refine .inr (.inr ⟨fun hgap => hnot ⟨hgap.promotes, ?_, ?_⟩, e, db₂, he,
      Tx.run_bind_of_error hrun⟩)
    · exact (Db.baselineStands_congr (by rw [hframe₁])).mpr hgap.baseline
    · rw [hframe₁]; exact hgap.version
  rw [Tx.run_bind_of_ok hmove]
  have hframe₂ := hpromoted.frame
  have haudits₂ : db₂.auditEvent = db.auditEvent := by rw [hframe₂, hframe₁]
  have hbindings₂ : db₂.approvalRequest = db₁.approvalRequest := by rw [hframe₂]
  rcases appendConsumed_cases ctx binding candidate db₂ with
    ⟨audits, hwrites, hfree, hinsert, happend⟩ | ⟨hnot, e, db₃, he, hrun⟩
  case inr =>
    refine .inr (.inr ⟨fun hgap => hnot ⟨hgap.audits, ?_⟩, e, db₃, he, Tx.run_bind_of_error hrun⟩)
    unfold AuditFree
    rw [haudits₂]
    exact hgap.audit
  rw [Tx.run_bind_of_ok happend]
  -- the consumed row stands in the state the last part starts from
  have hsel' : isApproval binding.approvalId binding.siteId row' = true := by
    rw [hleft.isApproval]; exact (pendingAt_iff.mp hsel).1
  have hmem' : row' ∈ ({ db₂ with auditEvent := audits } : Db).approvalRequest := by
    show row' ∈ db₂.approvalRequest
    rw [hbindings₂]
    exact hleft.replaced.mem_new
  by_cases hgap : PromotionGap ctx binding db
  · -- a call that cannot be read stops the last part after the first three have written
    right; left
    obtain ⟨row₀, hmem₀, hsel₀, hbad⟩ := hgap.pending
    have hsame : row₀ = row := Table.eq_of_clash hmem₀ hleft.replaced.mem_old
      (clash_of_isApproval (pendingAt_iff.mp hsel₀).1 (pendingAt_iff.mp hsel).1)
    obtain ⟨message, expected, current, hrun⟩ := completePromotion_gap
      row'.binding baseline hgap.agent hgap.reads
      ⟨row', hmem', hsel', by rw [hleft.pendingPayload, ← hsame]; exact hbad⟩
    refine ⟨hgap, message, expected, current, _, ⟨⟨row', hmem', hleft.state, hleft.new⟩, ?_⟩,
      bundleWritten_of_parts hsel hleft hstands hpromoted hinsert ⟨rfl, rfl, rfl⟩, hrun⟩
    show db₂.persistedEvent = db.persistedEvent
    rw [hframe₂, hframe₁]
  cases hcomplete : (completePromotion ctx binding row'.binding baseline).run
    { db₂ with auditEvent := audits } with
  | mk r db' =>
    cases r with
    | ok result =>
      -- all four parts went through
      left
      have hkept := (completePromotion_ok hcomplete).2.2.2
      exact ⟨hgap, result, db', allPromoted_of_parts hsel hleft hstands hpromoted hinsert hcomplete,
        bundleWritten_of_parts hsel hleft hstands hpromoted hinsert hkept, rfl⟩
    | error e =>
      -- an exception that the endpoint catches would mean the gap
      right; right
      refine ⟨hgap, e, db', ?_, rfl⟩
      by_contra hcaught
      rw [Bool.not_eq_false] at hcaught
      obtain ⟨hagent, hreads, hbad⟩ := completePromotion_caught hmem' hsel' hcaught hcomplete
      exact hgap (promotionGap_of_parts hsel hleft hstands hversion hfree haudits₂
        hbindings₂ hconsumes hpromotes hwrites hreads hagent hbad)

end ShiftMind
