import ShiftMind.Approvals.Steps
import ShiftMind.UseCases.FinishTurn
import ShiftMind.UseCases.ManageProposal

/-!
# ShiftMind — what the statements of the workflow leave alone

A preorder on databases that lets the bookkeeping tables change — receipts, audit rows, baselines —
and is followed by a shown approval is followed by most statements of the workflow, whichever way
they end. What it says of the other tables is then kept by whole transactions.

* **`Beside`** — such a preorder; **`BesideStreams`** — one that lets the event streams change
  freely.
* The statements that also move agent runs, bindings or drafts ask that the preorder lets those
  tables change as well, or that the one statement which moves them follows it.
-/

namespace ShiftMind

open Relational Transactional ConversationRepository ScheduleRunRepository

/-- A preorder that lets the bookkeeping tables change and follows a shown approval. -/
structure Beside (R : Db → Db → Prop) : Prop where
  refl : ∀ db, R db db
  trans : ∀ db db' db'', R db db' → R db' db'' → R db db''
  receipts : ∀ t db, R db (Db.commandReceipts.put t db)
  audits : ∀ t db, R db (Db.auditEvents.put t db)
  baselines : ∀ t db, R db (Db.siteBaselines.put t db)
  activity : ∀ (binding : ApprovalBindingV1) (actorId requestId : Uuid) (agentRunId : Option Uuid)
    (occurredAt : Instant) (agentRunStatus : Option AgentRunStatus),
    (appendApprovalActivity binding actorId requestId agentRunId occurredAt
      agentRunStatus).Follows R

/-- A preorder that also lets events and conversations change. -/
structure BesideStreams (R : Db → Db → Prop) : Prop extends Beside R where
  events : ∀ t db, R db (Db.persistedEvents.put t db)
  conversations : ∀ t db, R db (Db.conversations.put t db)

theorem lockClaimed_still (conversationId siteId : Uuid) :
    (lockClaimed conversationId siteId).Still :=
  .bind (Relvar.still_selectOne ..) fun row => by
    cases row with
    | none => exact .throw _
    | some row => exact .pure _

theorem readOne_still (sel : ProposalRow → Bool) : (ProposalRepository.readOne sel).Still := by
  refine .bind (Relvar.still_selectOne ..) fun row => ?_
  cases row with
  | none => exact .pure _
  | some row =>
    refine .bind (.read _) fun version => ?_
    cases version with
    | none => exact .throw _
    | some version => exact .pure _

theorem currentForCommand_still (catalogue : ScenarioCatalogue) (proposalId siteId : Uuid) :
    (currentForCommand catalogue proposalId siteId).Still := by
  refine .bind (readOne_still _) fun record => ?_
  cases record with
  | none => exact .pure _
  | some record =>
    dsimp only
    split
    · exact .pure _
    split
    · exact .lift _
    · exact .pure _

section Beside

variable {α β : Type} {R : Db → Db → Prop} (hR : Beside R)
include hR

theorem Beside.still {x : DbTx α} (hx : x.Still) : x.Follows R := .of_still hR.refl hx

theorem Beside.bind {x : DbTx α} {f : α → DbTx β} (hx : x.Follows R)
    (hf : ∀ a, (f a).Follows R) : (x >>= f).Follows R :=
  hx.bind hR.trans hf

/-- After a read the rest decides. -/
theorem Beside.afterStill {x : DbTx α} {f : α → DbTx β} (hx : x.Still)
    (hf : ∀ a, (f a).Follows R) : (x >>= f).Follows R :=
  hR.bind (hR.still hx) hf

theorem Beside.pure (a : α) : (pure a : DbTx α).Follows R := hR.still (.pure a)

theorem Beside.throw (e : PyError) : (throw e : DbTx α).Follows R := hR.still (.throw e)

theorem Beside.attempt {failure : Option String} {x : DbTx α} (hx : x.Follows R) :
    (ShiftMind.attempt failure x).Follows R := by
  cases failure with
  | none => exact hx
  | some message => exact hR.throw _

/-! ## Bookkeeping

What a statement leaves alone is said once, for each table a result is about. -/

theorem storeIdempotentResult_follows (siteId actorId : Uuid)
    (operation idempotencyKey bodyHash : String) (response : ResponsePayload) :
    (storeIdempotentResult siteId actorId operation idempotencyKey bodyHash response).Follows
      R := by
  refine hR.afterStill (Relvar.still_selectOne ..) fun stored => ?_
  cases stored with
  | some _ => exact hR.pure _
  | none => exact Relvar.insertInto_follows hR.refl hR.receipts ..

theorem auditAppend_follows (envelope : AuditEnvelopeV1) :
    (AuditWriter.append envelope).Follows R :=
  Relvar.insertInto_follows hR.refl hR.audits ..

theorem promote_follows (siteId scheduleVersionId actorId : Uuid) (occurredAt : Instant)
    (expected : Option Int) :
    (SiteBaseline.promote siteId scheduleVersionId actorId occurredAt expected).Follows R := by
  have href : (SiteBaseline.referencesVersion siteId scheduleVersionId).Still :=
    references_still ..
  cases expected with
  | some expected =>
    show (SiteBaseline.moveBaseline siteId scheduleVersionId actorId occurredAt expected).Follows R
    unfold SiteBaseline.moveBaseline
    refine hR.bind (Relvar.updateWhere_follows hR.refl hR.baselines ..) fun rows => ?_
    cases rows with
    | nil => exact hR.pure _
    | cons row _ => exact hR.afterStill href fun _ => hR.pure _
  | none =>
    refine Tx.Follows.tryCatch hR.trans ?_ fun e => .ite (fun _ => hR.pure _) fun _ => hR.throw _
    refine Tx.Follows.savepoint hR.refl (Tx.Follows.map ?_ some)
    refine hR.bind (Relvar.insertInto_follows hR.refl hR.baselines ..) fun _ => ?_
    exact hR.afterStill href fun _ => hR.pure _

theorem moveToCandidate_follows (ctx : DecisionContext) (binding : ApprovalBindingV1) :
    (moveToCandidate ctx binding).Follows R := by
  refine hR.bind (hR.attempt (promote_follows hR ..)) fun baseline => ?_
  cases baseline with
  | none => exact hR.throw _
  | some baseline => exact hR.pure _

theorem handleDecisionError_follows (ctx : DecisionContext) (cmd : DecideApprovalCommand)
    (e : PyError) : (handleDecisionError ctx cmd e).Follows R := by
  unfold handleDecisionError
  split
  · refine .ite (fun _ => hR.throw _) fun _ => hR.bind (.ite (fun _ => ?_) fun _ => hR.pure _)
      fun _ => hR.pure _
    refine hR.afterStill (.bind (Relvar.still_selectOne ..) fun _ => .pure _) fun denied => ?_
    cases denied with
    | none => exact hR.pure _
    | some denied =>
      refine hR.afterStill (getCandidate_still ..) fun candidate => ?_
      exact hR.attempt (auditAppend_follows hR ..)
  · exact hR.throw _

/-! ## Agent runs and bindings -/

section Runs

variable (hruns : ∀ t db, R db (Db.agentRuns.put t db))
include hruns

theorem updateAgentRun_follows (agentRunId siteId : Uuid) (set : AgentRunRow → AgentRunRow) :
    (updateAgentRun agentRunId siteId set).Follows R :=
  hR.bind (Relvar.updateWhere_follows hR.refl hruns ..) fun _ => hR.pure _

theorem pauseAgentRunForApproval_follows (claimedAgentRunId : Uuid) (binding : ApprovalBindingV1)
    (requestId : Uuid) :
    (pauseAgentRunForApproval claimedAgentRunId binding requestId).Follows R := by
  unfold pauseAgentRunForApproval
  refine hR.afterStill (lockConversation_still ..) fun _ => ?_
  refine hR.afterStill (requireAgentRun_still ..) fun _ => ?_
  refine hR.bind (hR.activity ..) fun _ => ?_
  exact hR.bind (updateAgentRun_follows hR hruns ..) fun _ => hR.pure _

theorem cancelAgentRunForApproval_follows (agentRunId : Uuid) (binding : ApprovalBindingV1)
    (reason : String) : (cancelAgentRunForApproval agentRunId binding reason).Follows R := by
  unfold cancelAgentRunForApproval
  refine .ite (fun _ => hR.throw _) fun _ => ?_
  refine hR.afterStill (lockConversation_still ..) fun _ => ?_
  exact hR.afterStill (requireAgentRun_still ..) fun _ => updateAgentRun_follows hR hruns ..

theorem resumeAgentRunForApproval_follows (agentRunId : Uuid) (binding : ApprovalBindingV1)
    (requestId : Uuid) (occurredAt : Instant) :
    (resumeAgentRunForApproval agentRunId binding requestId occurredAt).Follows R := by
  unfold resumeAgentRunForApproval
  refine hR.afterStill (lockConversation_still ..) fun _ => ?_
  refine hR.afterStill (requireAgentRun_still ..) fun _ => ?_
  refine hR.bind (updateAgentRun_follows hR hruns ..) fun _ => ?_
  cases binding.decidedByActorId with
  | none => exact hR.throw _
  | some actorId => exact hR.activity ..

theorem claimQueuedRun_follows (conversationId agentRunId siteId : Uuid) :
    (claimQueuedRun conversationId agentRunId siteId).Follows R := by
  unfold claimQueuedRun
  refine hR.afterStill (.read _) fun joined => ?_
  split
  · exact hR.pure _
  · refine .ite (fun _ => hR.throw _) fun _ => ?_
    exact hR.bind (updateAgentRun_follows hR hruns ..) fun _ => hR.pure _

theorem showPromotion_follows (ctx : DecisionContext) (binding consumed : ApprovalBindingV1) :
    (showPromotion ctx binding consumed).Follows R := by
  unfold showPromotion
  cases binding.agentRunId with
  | none =>
    exact hR.bind (hR.attempt (hR.activity ..)) fun _ => hR.pure _
  | some agentRunId =>
    have hpayload : (ApprovalRepository.getPendingPayload binding.approvalId
        binding.siteId).Still := .bind (Relvar.still_selectOne ..) fun _ => .pure _
    refine hR.bind (hR.attempt (hR.still hpayload)) fun payload => ?_
    refine hR.afterStill (.lift _) fun call => ?_
    exact hR.bind (hR.attempt (resumeAgentRunForApproval_follows hR hruns ..)) fun _ => hR.pure _

variable (hbindings : ∀ t db, R db (Db.approvalRequests.put t db))
include hbindings

omit hruns in
theorem createPending_follows (binding : ApprovalBindingV1) (payload : Option PendingPayload) :
    (ApprovalRepository.createPending binding payload).Follows R := by
  unfold ApprovalRepository.createPending
  refine hR.afterStill (.lift _) fun _ => ?_
  refine hR.bind (Relvar.insertInto_follows hR.refl hbindings ..) fun _ => ?_
  exact hR.afterStill (references_still ..) fun _ => hR.still (references_still ..)

theorem bindCandidate_follows (env : Ambient) (settings : ApprovalSettings)
    (cmd : RequestApprovalCommandV1) (candidate : ScheduleVersionV1)
    (baseline : Option SiteBaselineRow) :
    (bindCandidate env settings cmd candidate baseline).Follows R := by
  unfold bindCandidate
  refine hR.bind (createPending_follows hR hbindings ..) fun _ => ?_
  refine hR.bind (auditAppend_follows hR ..) fun _ => ?_
  refine hR.bind ?_ fun _ => hR.pure _
  unfold showRequest
  cases cmd.agentRunId with
  | none => exact hR.activity ..
  | some agentRunId => exact pauseAgentRunForApproval_follows hR hruns ..

theorem requestSuspendedFrom_follows (env : Ambient) (settings : ApprovalSettings)
    (call : SuspendedCall) (view : RequestView) :
    (requestSuspendedFrom env settings call view).Follows R := by
  unfold requestSuspendedFrom
  split
  · exact hR.still (.lift _)
  · exact hR.afterStill (.lift _) fun _ => bindCandidate_follows hR hruns hbindings ..

theorem createApprovalRoute_follows (env : Ambient) (settings : ApprovalSettings)
    (cmd : CreateApprovalCommand) : (createApprovalRoute env settings cmd).Follows R := by
  -- of the request, only the binding writes
  have hrequest : ∀ request, (requestApproval env settings request).Follows R := by
    intro request
    refine .ite (fun _ => hR.throw _) fun _ => ?_
    refine hR.afterStill (promotableCandidate_still ..) fun _ => ?_
    refine hR.afterStill (.read _) fun _ => .ite (fun _ => hR.throw _) fun _ => ?_
    refine hR.afterStill (Relvar.still_selectOne ..) fun _ => .ite (fun _ => hR.throw _) fun _ => ?_
    exact bindCandidate_follows hR hruns hbindings ..
  -- the lookup of the conversation only reads
  have hconversation : (getConversationForRun cmd.scheduleRunId cmd.siteId).Still := by
    refine .bind (loadSnapshot_still ..) fun snapshot => ?_
    cases snapshot with
    | none => exact .pure _
    | some snapshot => exact .bind (Relvar.still_selectOne ..) fun _ => .pure _
  refine .ite (fun _ => hR.pure _) fun _ => ?_
  refine hR.afterStill hconversation fun conversationId => ?_
  cases conversationId with
  | none => exact hR.pure _
  | some conversationId =>
    refine hR.afterStill (Relvar.still_selectOne ..) fun stored => ?_
    cases stored with
    -- a stored answer is given again, and nothing is written
    | some stored => exact hR.still (replayRequest_still ..)
    | none =>
      refine hR.bind ?_ fun result => ?_
      · -- a request refused is rolled back to its savepoint
        refine Tx.Follows.tryCatch hR.trans
          (Tx.Follows.savepoint hR.refl ((hrequest _).map Sum.inl)) fun e => ?_
        cases requestProblem e with
        | none => exact hR.throw _
        | some problem => exact hR.pure _
      · cases result with
        | inr problem => exact hR.pure _
        | inl result =>
          exact hR.bind (storeIdempotentResult_follows hR ..) fun _ => hR.pure _

/-! ## Decisions -/

omit hruns in
theorem leavePending_follows (state : ApprovalState) (approvalId siteId actorId : Uuid)
    (decidedAt : Instant) (consumedAt : Option Instant) (expected : Int) :
    (ApprovalRepository.leavePending state approvalId siteId actorId decidedAt consumedAt
      expected).Follows R :=
  hR.bind (Relvar.updateWhere_follows hR.refl hbindings ..) fun _ => hR.pure _

theorem terminalWrites_follows (ctx : DecisionContext) (binding : ApprovalBindingV1)
    (outcome : ApprovalState) (check : RevalidationV1) (candidate : Option ScheduleVersionV1) :
    (terminalWrites ctx binding outcome check candidate).Follows R := by
  unfold terminalWrites
  refine hR.bind ?_ fun terminal => ?_
  · refine hR.bind (hR.attempt (leavePending_follows hR hbindings ..)) fun terminal => ?_
    cases terminal with
    | none => exact hR.throw _
    | some terminal => exact hR.pure _
  refine hR.bind ?_ fun _ => ?_
  · unfold cancelWaitingRun
    cases terminal.agentRunId with
    | none => exact hR.pure _
    | some agentRunId => exact hR.attempt (cancelAgentRunForApproval_follows hR hruns ..)
  refine hR.bind (hR.attempt (auditAppend_follows hR ..)) fun _ => ?_
  exact hR.bind (hR.attempt (hR.activity ..)) fun _ => hR.pure _

variable (happlied : ∀ siteId scheduleVersionId,
  (ProposalRepository.markApplied siteId scheduleVersionId).Follows R)
include happlied

theorem promoteBaseline_follows (ctx : DecisionContext) (binding : ApprovalBindingV1)
    (candidate : Option ScheduleVersionV1) : (promoteBaseline ctx binding candidate).Follows R := by
  refine .ite (fun _ => hR.throw _) fun _ => ?_
  cases candidate with
  | none => exact hR.throw _
  | some candidate =>
    show (promotionWrites ctx binding candidate).Follows R
    unfold promotionWrites
    refine hR.bind ?_ fun consumed => ?_
    · refine hR.bind (hR.attempt (leavePending_follows hR hbindings ..)) fun consumed => ?_
      cases consumed with
      | none => exact hR.throw _
      | some consumed => exact hR.pure _
    refine hR.bind (moveToCandidate_follows hR ctx binding) fun baseline => ?_
    refine hR.bind (hR.attempt (auditAppend_follows hR ..)) fun _ => ?_
    refine hR.bind (showPromotion_follows hR hruns ..) fun shown => ?_
    exact hR.bind (hR.attempt (happlied ..)) fun _ => hR.pure _

theorem decideApproval_follows (ctx : DecisionContext) (enabled : Bool)
    (cmd : DecideApprovalCommand) (view : DecisionView) :
    (decideApproval ctx enabled cmd view).Follows R := by
  refine hR.afterStill (.lift _) fun admission => ?_
  cases admission with
  | close binding outcome check => exact terminalWrites_follows hR hruns hbindings ..
  | promote binding =>
    refine hR.bind ?_ fun _ => hR.pure _
    exact Tx.Follows.tryCatch hR.trans
      (promoteBaseline_follows hR hruns hbindings happlied ..) fun _ => hR.throw _

/-- **The route of a decision.** -/
theorem decideApprovalRoute_follows (ctx : DecisionContext) (enabled : Bool)
    (cmd : DecideApprovalCommand) (view : DecisionView) :
    (decideApprovalRoute ctx enabled cmd view).Follows R := by
  refine .ite (fun _ => hR.pure _) fun _ => ?_
  cases view.stored with
  | some stored => exact hR.still (replayDecision_still ..)
  | none =>
    refine hR.bind ?_ fun result => ?_
    · refine Tx.Follows.tryCatch hR.trans
        ((decideApproval_follows hR hruns hbindings happlied ..).map Sum.inl) fun e => ?_
      exact (handleDecisionError_follows hR ..).map Sum.inr
    · cases result with
      | inr problem => exact hR.pure _
      | inl result =>
        unfold answerDecision
        refine .ite (fun _ => ?_) fun _ => ?_ <;>
        exact hR.bind (hR.attempt (storeIdempotentResult_follows hR ..)) fun _ => hR.pure _

end Runs

/-! ## Drafts -/

section Drafts

open ProposalRepository

variable (hproposals : ∀ t db, R db (Db.proposals.put t db))
include hproposals

theorem updateProposal_follows (proposalId siteId : Uuid) (set : ProposalRow → ProposalRow) :
    (updateProposal proposalId siteId set).Follows R :=
  hR.bind (Relvar.updateWhere_follows hR.refl hproposals ..) fun _ => hR.pure _

theorem applyDiscard_follows (claimed : ClaimedAgentRunV1) (discard : Option AgentDraftDiscardV1) :
    (applyDiscard claimed discard).Follows R := by
  cases discard with
  | none => exact hR.pure _
  | some discard => exact updateProposal_follows hR hproposals ..

theorem markApplied_follows (siteId scheduleVersionId : Uuid) :
    (markApplied siteId scheduleVersionId).Follows R := by
  refine hR.afterStill (Relvar.still_selectOne ..) fun pinned => ?_
  cases pinned with
  | none => exact hR.pure _
  | some pinned =>
    exact hR.bind (Relvar.updateWhere_follows hR.refl hproposals ..) fun _ => hR.pure _

theorem rejectProposal_follows (env : Ambient) (catalogue : ScenarioCatalogue)
    (cmd : RejectCommand) : (rejectProposal env catalogue cmd).Follows R := by
  unfold rejectProposal
  refine hR.afterStill (currentForCommand_still ..) fun current => ?_
  cases current with
  | none => exact hR.pure _
  | some current =>
    refine hR.afterStill (Relvar.still_selectOne ..) fun stored => ?_
    refine hR.afterStill (.lift _) fun replay => ?_
    cases replay with
    | some view => exact hR.pure _
    | none =>
      refine Tx.Follows.map ?_ some
      refine hR.afterStill (.lift _) fun _ => ?_
      refine hR.bind ?_ fun _ => hR.pure _
      unfold ProposalRepository.reject
      split
      · exact hR.bind (updateProposal_follows hR hproposals ..) fun _ =>
          storeIdempotentResult_follows hR ..
      · exact hR.throw _

variable (hversions : ∀ t db, R db (Db.proposalVersions.put t db))
include hversions

omit hproposals in
theorem insertVersion_follows (proposal : ProposalV1) (versionId proposalId siteId : Uuid)
    (ordinal : Int) : (insertVersion proposal versionId proposalId siteId ordinal).Follows R := by
  unfold insertVersion
  refine hR.afterStill (.lift _) fun _ => ?_
  exact hR.bind (Relvar.insertInto_follows hR.refl hversions ..) fun _ =>
    hR.still (references_still ..)

theorem appendVersion_follows (proposal : ProposalV1) (siteId : Uuid) (ordinal : Int) :
    (appendVersion proposal siteId ordinal).Follows R := by
  unfold appendVersion
  split
  · exact hR.bind (insertVersion_follows hR hversions ..) fun _ =>
      updateProposal_follows hR hproposals ..
  · exact hR.throw _

theorem createDraft_follows (proposal : ProposalV1) (siteId conversationId actorId : Uuid) :
    (createDraft proposal siteId conversationId actorId).Follows R := by
  unfold createDraft
  split
  · refine .ite (fun _ => hR.throw _) fun _ => ?_
    refine hR.bind (Relvar.insertInto_follows hR.refl hproposals ..) fun _ => ?_
    refine hR.afterStill (references_still ..) fun _ => ?_
    exact hR.bind (insertVersion_follows hR hversions ..) fun _ =>
      updateProposal_follows hR hproposals ..
  · exact hR.throw _

theorem applyDraft_follows (claimed : ClaimedAgentRunV1) (draft : AgentDraftWriteV1) :
    (applyDraft claimed draft).Follows R := by
  unfold applyDraft
  cases draft.outcome with
  | created => exact createDraft_follows hR hproposals hversions ..
  | updated => exact appendVersion_follows hR hproposals hversions ..

theorem reviseProposal_follows (env : Ambient) (catalogue : ScenarioCatalogue)
    (cmd : ReviseCommand) : (reviseProposal env catalogue cmd).Follows R := by
  unfold reviseProposal
  refine .ite (fun _ => hR.throw _) fun _ => ?_
  refine hR.afterStill (currentForCommand_still ..) fun current => ?_
  cases current with
  | none => exact hR.pure _
  | some current =>
    refine hR.afterStill (Relvar.still_selectOne ..) fun stored => ?_
    refine hR.afterStill (.lift _) fun replay => ?_
    cases replay with
    | some view => exact hR.pure _
    | none =>
      refine Tx.Follows.map ?_ some
      refine hR.afterStill (.lift _) fun resolved => ?_
      refine hR.bind ?_ fun _ => hR.pure _
      exact hR.bind (appendVersion_follows hR hproposals hversions ..) fun _ =>
        storeIdempotentResult_follows hR ..

end Drafts

end Beside

/-! ## Event streams -/

section BesideStreams

variable {R : Db → Db → Prop}

/-- A preorder that lets these tables change follows a shown approval. -/
theorem BesideStreams.of_tables (hrefl : ∀ db, R db db)
    (htrans : ∀ db db' db'', R db db' → R db' db'' → R db db'')
    (hevents : ∀ t db, R db (Db.persistedEvents.put t db))
    (hconversations : ∀ t db, R db (Db.conversations.put t db))
    (hreceipts : ∀ t db, R db (Db.commandReceipts.put t db))
    (haudits : ∀ t db, R db (Db.auditEvents.put t db))
    (hbaselines : ∀ t db, R db (Db.siteBaselines.put t db)) : BesideStreams R where
  refl := hrefl
  trans := htrans
  receipts := hreceipts
  audits := haudits
  baselines := hbaselines
  events := hevents
  conversations := hconversations
  activity binding actorId requestId agentRunId occurredAt agentRunStatus := by
    unfold appendApprovalActivity
    refine .bind htrans (.of_still hrefl (lockConversation_still ..)) fun conversation => ?_
    refine .bind htrans (.of_still hrefl (.read _)) fun sequence => ?_
    refine .bind htrans (.bind htrans (.of_still hrefl (.lift _)) fun _ =>
      Relvar.insertInto_follows hrefl hevents ..) fun _ => ?_
    refine .bind htrans (Relvar.updateWhere_follows hrefl hconversations ..) fun _ => ?_
    exact .of_still hrefl (.pure _)

variable (hR : BesideStreams R)
include hR

theorem appendEvent_follows (conversationId siteId : Uuid) (event : PersistedEventRow) :
    (appendEvent conversationId siteId event).Follows R := by
  unfold appendEvent insertEvent
  refine hR.bind (hR.afterStill (.lift _) fun _ =>
    Relvar.insertInto_follows hR.refl hR.events ..) fun _ => ?_
  exact hR.bind (Relvar.updateWhere_follows hR.refl hR.conversations ..) fun _ => hR.pure _

variable (hruns : ∀ t db, R db (Db.agentRuns.put t db))
include hruns

theorem finishAgentRun_follows (env : Ambient) (claimed : ClaimedAgentRunV1)
    (status : AgentRunStatus) (payload : ActivityPayload) (requestId : Uuid) :
    (finishAgentRun env claimed status payload requestId).Follows R := by
  unfold finishAgentRun
  refine hR.afterStill (lockClaimed_still ..) fun conversation => ?_
  refine hR.afterStill (requireAgentRun_still ..) fun _ => ?_
  refine hR.afterStill (.read _) fun sequence => ?_
  refine hR.bind (updateAgentRun_follows hR.toBeside hruns ..) fun _ => ?_
  exact hR.bind (appendEvent_follows hR ..) fun _ => hR.pure _

theorem acceptTurn_follows (hmessages : ∀ t db, R db (Db.messages.put t db)) (env : Ambient)
    (conversationId siteId actorId requestId : Uuid) (text : String) :
    (acceptTurn env conversationId siteId actorId requestId text).Follows R := by
  unfold acceptTurn
  refine hR.afterStill (Relvar.still_selectOne ..) fun conversation => ?_
  cases conversation with
  | none => exact hR.pure _
  | some conversation =>
    refine hR.bind (Relvar.insertInto_follows hR.refl hmessages ..) fun _ => ?_
    refine hR.bind (Relvar.insertInto_follows hR.refl hruns ..) fun _ => ?_
    refine hR.afterStill (.read _) fun sequence => ?_
    exact hR.bind (appendEvent_follows hR ..) fun _ => hR.pure _

end BesideStreams

end ShiftMind
