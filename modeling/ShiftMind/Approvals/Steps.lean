import ShiftMind.Approvals.Atomicity

/-!
# ShiftMind — what one request does to the approval tables

Every request of the approval workflow commits one step of the approval tables: a binding is
requested, or a binding leaves `pending` — and with it, for a consumed one, the baseline moves —
or the tables stay, but for the audit rows of denied decisions.

* **`ApprovalStep`** — the three kinds of step; each transition comes with its own audit row.
* **`createApproval_step`**, **`requestSuspended_step`**, **`decideApproval_step`** — the source's
  transactions, read off the statement lemmas.
-/

namespace ShiftMind

open Relational Transactional ApprovalRepository ConversationRepository ScheduleRunRepository

/-! ## Steps of the approval tables

What a committed transaction may do to bindings, baselines and audits, with all its guards, whoever
ran it. -/

/-- The success audit row of a binding's transition. -/
structure Audits (audit : AuditEnvelopeV1) (binding : ApprovalBindingV1) (outcome : AuditOutcome) :
    Prop where
  success : audit.success = true
  outcome : audit.outcome = outcome
  site : audit.siteId = binding.siteId
  effect : audit.effectKey = binding.requestEffectKey
  approval : audit.approvalId = some binding.approvalId

/-- The baseline a binding pinned is the current one of its site. -/
structure Pins (db : Db) (binding : ApprovalBindingV1) : Prop where
  version : baselineVersion (db.baselineOf binding.siteId) = binding.baselineScheduleVersion
  resourceVersion :
    (db.baselineOf binding.siteId).map SiteBaselineRow.resourceVersion =
      binding.baselineResourceVersion

/-- The baseline table after a binding reached a state. -/
def BaselineFollows (reached : ApprovalState) (db db' : Db) (binding : ApprovalBindingV1) : Prop :=
  if reached = .consumed then
    Pins db binding ∧ ∃ baseline, MovesTo binding.siteId binding.candidateScheduleVersionId
      binding.baselineResourceVersion baseline db.siteBaseline db'.siteBaseline
  else db'.siteBaseline = db.siteBaseline

/-- What a request commits to the approval tables. -/
inductive ApprovalStep (db db' : Db) : Prop where
  | quiet (bindings : db'.approvalRequest = db.approvalRequest)
      (baselines : db'.siteBaseline = db.siteBaseline)
      (audits : ∀ audit, audit.success = true →
        (audit ∈ db'.auditEvent ↔ audit ∈ db.auditEvent))
  | requested (row : ApprovalRequestRow) (audit : AuditEnvelopeV1)
      (inserted : db.approvalRequest.insert? row = some db'.approvalRequest)
      (pending : row.binding.state = .pending) (pins : Pins db row.binding)
      (baselines : db'.siteBaseline = db.siteBaseline)
      (audited : db.auditEvent.insert? audit = some db'.auditEvent)
      (audits : Audits audit row.binding .approvalRequested)
  | decided (reached : ApprovalState) (row row' : ApprovalRequestRow) (audit : AuditEnvelopeV1)
      (terminal : reached ≠ .pending)
      (leaves : LeavesPending reached row row' db.approvalRequest db'.approvalRequest)
      (baseline : BaselineFollows reached db db' row.binding)
      (audited : db.auditEvent.insert? audit = some db'.auditEvent)
      (audits : Audits audit row.binding reached.auditOutcome)

theorem ApprovalsKept.step {db db' : Db} (h : ApprovalsKept db db') : ApprovalStep db db' :=
  .quiet h.bindings h.baselines fun audit _ => by rw [h.audits]

theorem ApprovalStep.refl (db : Db) : ApprovalStep db db :=
  .quiet rfl rfl fun _ _ => Iff.rfl

/-- The approval tables a step ended with may be carried further, untouched. -/
theorem ApprovalStep.before_kept {db db' db'' : Db} (h : ApprovalStep db db')
    (h' : ApprovalsKept db' db'') : ApprovalStep db db'' := by
  cases h with
  | quiet bindings baselines audits =>
    exact .quiet (h'.bindings.trans bindings) (h'.baselines.trans baselines)
      fun audit hsuccess => by rw [h'.audits]; exact audits audit hsuccess
  | requested row audit inserted pending pins baselines audited audits =>
    exact .requested row audit (by rw [h'.bindings]; exact inserted) pending pins
      (h'.baselines.trans baselines) (by rw [h'.audits]; exact audited) audits
  | decided reached row row' audit terminal leaves baseline audited audits =>
    refine .decided reached row row' audit terminal (by rw [h'.bindings]; exact leaves) ?_
      (by rw [h'.audits]; exact audited) audits
    unfold BaselineFollows at *
    rw [h'.baselines]
    exact baseline

/-! ## Statements beside the approval tables -/

theorem ApprovalsKept.refl (db : Db) : ApprovalsKept db db := ⟨rfl, rfl, rfl⟩

theorem ApprovalsKept.trans (db db' db'' : Db) (h : ApprovalsKept db db')
    (h' : ApprovalsKept db' db'') : ApprovalsKept db db'' :=
  ⟨h'.bindings.trans h.bindings, h'.baselines.trans h.baselines, h'.audits.trans h.audits⟩

theorem ReceiptOnly.kept (db db' : Db) (h : ReceiptOnly db db') : ApprovalsKept db db' := by
  rw [show db' = _ from h]
  exact ⟨rfl, rfl, rfl⟩

section Leads

variable {α β : Type}

theorem ApprovalsKept.ofStill {x : DbTx α} (hx : x.Still) : x.Leads ApprovalsKept :=
  .of_still ApprovalsKept.refl hx

theorem ApprovalsKept.andThen {x : DbTx α} {f : α → DbTx β} (hx : x.Leads ApprovalsKept)
    (hf : ∀ a, (f a).Leads ApprovalsKept) : (x >>= f).Leads ApprovalsKept :=
  hx.bind ApprovalsKept.trans hf

end Leads

theorem appendApprovalActivity_kept (binding : ApprovalBindingV1) (actorId requestId : Uuid)
    (agentRunId : Option Uuid) (occurredAt : Instant) (agentRunStatus : Option AgentRunStatus) :
    (appendApprovalActivity binding actorId requestId agentRunId occurredAt
      agentRunStatus).Leads ApprovalsKept := by
  refine ⟨fun {db activity db'} h => ?_⟩
  obtain ⟨event, -, -, hframe⟩ := appendApprovalActivity_ok h
  rw [hframe]
  exact ⟨rfl, rfl, rfl⟩

theorem updateAgentRun_kept (agentRunId siteId : Uuid) (set : AgentRunRow → AgentRunRow) :
    (updateAgentRun agentRunId siteId set).Leads ApprovalsKept := by
  refine ⟨fun {db u db'} h => ?_⟩
  obtain ⟨-, hframe⟩ := updateAgentRun_ok h
  rw [hframe]
  exact ⟨rfl, rfl, rfl⟩

theorem pauseAgentRunForApproval_kept (claimedAgentRunId : Uuid) (binding : ApprovalBindingV1)
    (requestId : Uuid) :
    (pauseAgentRunForApproval claimedAgentRunId binding requestId).Leads ApprovalsKept := by
  unfold pauseAgentRunForApproval
  refine ApprovalsKept.andThen (ApprovalsKept.ofStill (lockConversation_still ..)) fun _ => ?_
  refine ApprovalsKept.andThen (ApprovalsKept.ofStill (requireAgentRun_still ..)) fun _ => ?_
  refine ApprovalsKept.andThen (appendApprovalActivity_kept ..) fun _ => ?_
  exact ApprovalsKept.andThen (updateAgentRun_kept ..) fun _ => ApprovalsKept.ofStill (.pure _)

theorem cancelWaitingRun_kept (ctx : DecisionContext) (terminal : ApprovalBindingV1)
    (outcome : ApprovalState) : (cancelWaitingRun ctx terminal outcome).Leads ApprovalsKept := by
  unfold cancelWaitingRun
  cases terminal.agentRunId with
  | none => exact ApprovalsKept.ofStill (.pure _)
  | some agentRunId =>
    refine attempt_leads ?_
    unfold cancelAgentRunForApproval
    refine .ite (fun _ => .throw _) fun _ => ?_
    refine ApprovalsKept.andThen (ApprovalsKept.ofStill (lockConversation_still ..)) fun _ => ?_
    refine ApprovalsKept.andThen (ApprovalsKept.ofStill (requireAgentRun_still ..)) fun _ => ?_
    exact updateAgentRun_kept ..

theorem showRequest_kept (cmd : RequestApprovalCommandV1) (binding : ApprovalBindingV1) :
    (showRequest cmd binding).Leads ApprovalsKept := by
  unfold showRequest
  cases cmd.agentRunId with
  | none => exact appendApprovalActivity_kept ..
  | some agentRunId => exact pauseAgentRunForApproval_kept ..

/-! ## Requests -/

theorem createPending_ok {binding : ApprovalBindingV1} {pendingPayload : Option PendingPayload}
    {db db' : Db} {u : Unit} (h : (createPending binding pendingPayload).run db = (.ok u, db')) :
    ∃ t, db.approvalRequest.insert? ⟨binding, pendingPayload⟩ = some t ∧
      db' = { db with approvalRequest := t } := by
  unfold createPending at h
  obtain ⟨u₀, db₀, hcheck, h₀⟩ := Tx.bind_ok.mp h
  obtain ⟨-, rfl⟩ := Tx.lift_ok.mp hcheck
  obtain ⟨u₁, db₁, hinsert, h₁⟩ := Tx.bind_ok.mp h₀
  obtain ⟨t, ht, rfl⟩ := Relvar.insertInto_ok.mp hinsert
  have hstill : (do
      references "fk_approval_request_run_site" fun db =>
        db.scheduleRun.rows.any (isRun binding.scheduleRunId binding.siteId)
      references "fk_approval_request_candidate_site" fun db => db.scheduleVersion.rows.any fun v =>
        decide (v.id = binding.candidateScheduleVersionId) && decide (v.siteId = binding.siteId) :
          DbTx Unit).Still :=
    .bind (references_still ..) fun _ => references_still ..
  exact ⟨t, ht, hstill.eq_of_run h₁⟩

/-- The bundle of a request, from the baseline it pins. -/
theorem bindCandidate_step {env : Ambient} {settings : ApprovalSettings}
    {cmd : RequestApprovalCommandV1} {candidate : ScheduleVersionV1} {db db' : Db}
    {result : RequestApprovalResultV1}
    (h : (bindCandidate env settings cmd candidate (db.baselineOf cmd.siteId)).run db =
      (.ok result, db')) : ApprovalStep db db' := by
  unfold bindCandidate at h
  obtain ⟨u, db₁, hcreate, h₁⟩ := Tx.bind_ok.mp h
  obtain ⟨t, hinsert, rfl⟩ := createPending_ok hcreate
  obtain ⟨u', db₂, happend, h₂⟩ := Tx.bind_ok.mp h₁
  obtain ⟨audits, haudits, rfl⟩ := Relvar.insertInto_ok.mp happend
  obtain ⟨activity, db₃, hshow, h₃⟩ := Tx.bind_ok.mp h₂
  cases h₃
  refine ApprovalStep.before_kept ?_ ((showRequest_kept ..).led hshow)
  exact .requested _ _ hinsert rfl ⟨rfl, rfl⟩ rfl haudits ⟨rfl, rfl, rfl, rfl, rfl⟩

theorem getCandidate_still (scheduleRunId siteId : Uuid) :
    (getCandidate scheduleRunId siteId).Still :=
  .bind (Relvar.still_selectOne ..) fun _ => .pure _

theorem promotableCandidate_still (cmd : RequestApprovalCommandV1) :
    (promotableCandidate cmd).Still := by
  unfold promotableCandidate
  refine .bind (getRunState_still ..) fun run => ?_
  cases run with
  | none => exact .throw _
  | some run =>
    refine .ite (.throw _) (.ite (.throw _) (.bind (getCandidate_still ..) fun candidate => ?_))
    cases candidate with
    | none => exact .throw _
    | some candidate => exact .ite (.throw _) (.pure _)

/-- `request_approval`: a request that returned created one binding. -/
theorem requestApproval_step {env : Ambient} {settings : ApprovalSettings}
    {cmd : RequestApprovalCommandV1} {db db' : Db} {result : RequestApprovalResultV1}
    (h : (requestApproval env settings cmd).run db = (.ok result, db')) : ApprovalStep db db' := by
  unfold requestApproval at h
  rw [Tx.run_ite] at h
  split at h
  · exact absurd h Tx.throw_ok
  obtain ⟨candidate, db₁, hcandidate, h₁⟩ := Tx.bind_ok.mp h
  obtain rfl := (promotableCandidate_still cmd).eq_of_run hcandidate
  obtain ⟨existing, db₂, hexisting, h₂⟩ := Tx.bind_ok.mp h₁
  cases hexisting
  rw [Tx.run_ite] at h₂
  split at h₂
  · exact absurd h₂ Tx.throw_ok
  obtain ⟨baseline, db₃, hbaseline, h₃⟩ := Tx.bind_ok.mp h₂
  cases hbaseline
  rw [Tx.run_ite] at h₃
  split at h₃
  · exact absurd h₃ Tx.throw_ok
  · exact bindCandidate_step h₃

/-- A committed body whose returning runs are steps is a step. -/
theorem step_of_commit {α : Type} {x : DbTx α} {db : Db}
    (h : ∀ {a db'}, x.run db = (.ok a, db') → ApprovalStep db db') :
    ApprovalStep db (x.commit db).2 := by
  rcases Tx.commit_cases x db with ⟨a, ha⟩ | hsame
  · exact h ha
  · rw [hsame]; exact .refl db

theorem approvalEndpoint_snd (route : DbTx ApprovalResponse) (db : Db) :
    (approvalEndpoint route db).2 = (route.commit db).2 := by
  unfold approvalEndpoint
  split <;> rename_i heq <;> rw [heq]

theorem requestSuspended_step (env : Ambient) (settings : ApprovalSettings) (call : SuspendedCall)
    (db : Db) : ApprovalStep db ((requestSuspended env settings call).commit db).2 := by
  refine step_of_commit fun {result db'} h => ?_
  unfold requestSuspended at h
  obtain ⟨run, db₁, hrun, h₁⟩ := Tx.bind_ok.mp h
  obtain rfl := (getRunState_still ..).eq_of_run hrun
  cases run with
  | none => exact absurd h₁ Tx.throw_ok
  | some run => exact requestApproval_step h₁

/-- The answer to a repeated request writes nothing. -/
theorem replayRequest_still (env : Ambient) (cmd : CreateApprovalCommand)
    (stored : CommandIdempotencyRow) : (replayRequest env cmd stored).Still := by
  unfold replayRequest
  refine .ite (.pure _) ?_
  split
  · refine .bind (.bind (Relvar.still_selectOne ..) fun _ => .pure _) fun replayed => ?_
    cases replayed <;> exact .pure _
  · exact .throw _

/-- A caught request took its writes back. -/
theorem attemptRequest_step {env : Ambient} {settings : ApprovalSettings}
    {cmd : RequestApprovalCommandV1} {db db' : Db} {result : RequestApprovalResultV1 ⊕ Problem}
    (h : (attemptRequest env settings cmd).run db = (.ok result, db')) : ApprovalStep db db' := by
  unfold attemptRequest at h
  cases hrun : (requestApproval env settings cmd).run db with
  | mk r db₁ =>
    cases r with
    | ok value =>
      rw [Tx.run_tryCatch_of_ok (Tx.run_savepoint_of_ok (Tx.run_map_of_ok Sum.inl hrun))] at h
      cases h
      exact requestApproval_step hrun
    | error e =>
      rw [Tx.run_tryCatch_of_error (Tx.run_savepoint_of_error (Tx.run_map_of_error Sum.inl hrun))]
        at h
      cases hproblem : requestProblem e <;> rw [hproblem] at h <;> cases h
      exact .refl db

theorem createApproval_step (env : Ambient) (settings : ApprovalSettings)
    (cmd : CreateApprovalCommand) (db : Db) :
    ApprovalStep db (approvalEndpoint (createApprovalRoute env settings cmd) db).2 := by
  rw [approvalEndpoint_snd]
  refine step_of_commit fun {response db'} h => ?_
  unfold createApprovalRoute at h
  rw [Tx.run_ite] at h
  split at h
  · cases h; exact .refl db
  -- the lookup of the conversation only reads
  have hconversation : (getConversationForRun cmd.scheduleRunId cmd.siteId).Still := by
    refine .bind (loadSnapshot_still ..) fun snapshot => ?_
    cases snapshot with
    | none => exact .pure _
    | some snapshot => exact .bind (Relvar.still_selectOne ..) fun _ => .pure _
  obtain ⟨conversationId, db₁, hget, h₁⟩ := Tx.bind_ok.mp h
  obtain rfl := hconversation.eq_of_run hget
  cases conversationId with
  | none => cases h₁; exact .refl _
  | some conversationId =>
    obtain ⟨stored, db₂, hstored, h₂⟩ := Tx.bind_ok.mp h₁
    obtain rfl := (Relvar.still_selectOne ..).eq_of_run hstored
    cases stored with
    -- a stored answer is given again
    | some stored =>
      obtain rfl := (replayRequest_still env cmd stored).eq_of_run h₂
      exact .refl _
    | none =>
      obtain ⟨result, db₃, hattempt, h₃⟩ := Tx.bind_ok.mp h₂
      -- the request is the step; its receipt is kept beside it
      have hstep := attemptRequest_step hattempt
      cases result with
      | inr problem => cases h₃; exact hstep
      | inl result =>
        obtain ⟨u, db₄, hreceipt, h₄⟩ := Tx.bind_ok.mp h₃
        cases h₄
        exact hstep.before_kept (((storeIdempotentResult_receiptOnly ..).led hreceipt).kept _ _)

/-! ## Decisions -/

/-- What a decision sees when it reads the state it writes on. -/
theorem read_ok {ctx : DecisionContext} {cmd : DecideApprovalCommand} {db db' : Db}
    {view : DecisionView} (h : (DecisionView.read ctx cmd).run db = (.ok view, db')) :
    db' = db ∧ ∀ binding, view.binding = some binding →
      (∃ row ∈ db.approvalRequest, row.binding = binding) ∧
      view.baseline = db.baselineOf binding.siteId := by
  unfold DecisionView.read at h
  obtain ⟨stored, db₁, hstored, h₁⟩ := Tx.bind_ok.mp h
  cases hstored
  obtain ⟨seen, db₂, hseen, h₂⟩ := Tx.bind_ok.mp h₁
  cases hseen
  cases hfind : db.approvalRequest.find? (isApproval cmd.approvalId ctx.siteId) with
  | none =>
    simp only [Db.approvalRequests_get, hfind, Option.map_none] at h₂
    cases h₂
    exact ⟨rfl, by simp⟩
  | some row =>
    simp only [Db.approvalRequests_get, hfind, Option.map_some] at h₂
    cases h₂
    refine ⟨rfl, fun binding hbinding => ?_⟩
    cases hbinding
    exact ⟨⟨row, (Table.find?_eq_some hfind).1, rfl⟩, rfl⟩

/-- Closing a binding is a step. -/
theorem terminalWrites_step {ctx : DecisionContext} {binding : ApprovalBindingV1}
    {outcome : ApprovalState} (hpending : outcome ≠ .pending) (hconsumed : outcome ≠ .consumed)
    {check : RevalidationV1} {candidate : Option ScheduleVersionV1} {db db' : Db}
    {result : DecisionResultV1}
    (h : (terminalWrites ctx binding outcome check candidate).run db = (.ok result, db')) :
    ApprovalStep db db' := by
  unfold terminalWrites at h
  obtain ⟨terminal, db₁, hclose, h₁⟩ := Tx.bind_ok.mp h
  obtain ⟨u, db₂, hcancel, h₂⟩ := Tx.bind_ok.mp h₁
  obtain ⟨u', db₃, happend, h₃⟩ := Tx.bind_ok.mp h₂
  obtain ⟨activity, db₄, hshow, h₄⟩ := Tx.bind_ok.mp h₃
  cases h₄
  -- cancelling the waiting run touches none of the three tables
  have hcancelled := (cancelWaitingRun_kept ctx terminal outcome).led hcancel
  obtain ⟨audits, haudits, rfl⟩ := Relvar.insertInto_ok.mp (attempt_ok.mp happend).2
  refine ApprovalStep.before_kept ?_ ((attempt_leads (appendApprovalActivity_kept ..)).led hshow)
  -- a refused closing raises, so the binding was closed
  rcases closeBinding_cases ctx binding hpending db with
    ⟨row, row', db₁', hsel, hleft, hrun⟩ | ⟨e, hrun⟩
  case inr => rw [hrun] at hclose; cases hclose
  rw [hrun] at hclose
  cases hclose
  have hframe := hleft.frame
  have hids := isApproval_iff.mp hsel
  obtain ⟨actorId, decidedAt, consumedAt, hwritten⟩ := hleft.written
  refine .decided outcome row row' (terminalAudit ctx row'.binding outcome candidate) hpending
    ?_ ?_ ?_ ?_
  · show LeavesPending outcome row row' _ db₂.approvalRequest
    rw [hcancelled.bindings]
    exact hleft.toLeavesPending
  · unfold BaselineFollows
    -- only a consumed binding moves the baseline
    rw [if_neg hconsumed]
    show db₂.siteBaseline = db.siteBaseline
    rw [hcancelled.baselines, hframe]
  · have hsame : db₂.auditEvent = db.auditEvent := by rw [hcancelled.audits, hframe]
    rw [← hsame]
    exact haudits
  · rw [hwritten]
    exact ⟨rfl, rfl, hids.2.symm, rfl, rfl⟩

/-- The guarded writes of a promotion are a step, on the state the decision saw. -/
theorem BundleWritten.step {ctx : DecisionContext} {cmd : DecideApprovalCommand} {enabled : Bool}
    {view : DecisionView} {binding : ApprovalBindingV1} {candidate : ScheduleVersionV1}
    {db db' : Db} (hread : (DecisionView.read ctx cmd).run db = (.ok view, db))
    (hadmitted : admitDecision ctx.env enabled cmd view = .ok (.promote binding))
    (h : BundleWritten ctx binding candidate db db') : ApprovalStep db db' := by
  obtain ⟨-, hseen, -, -, -, hvalid, -⟩ := admitDecision_promote.mp hadmitted
  obtain ⟨⟨seen, hseenMem, rfl⟩, hbaseline⟩ := (read_ok hread).2 binding hseen
  obtain ⟨row, row', hsel, hleaves⟩ := h.left
  -- the row that left `pending` is the one the decision saw
  obtain rfl : row = seen := by
    refine Table.eq_of_clash hleaves.replaced.mem_old hseenMem ?_
    simp [clash, (isApproval_iff.mp (pendingAt_iff.mp hsel).1).1]
  have hpins : Pins db row.binding := by
    simp only [stillValid, Bool.and_eq_true, decide_eq_true_eq] at hvalid
    rw [hbaseline] at hvalid
    exact ⟨hvalid.1.1.1.1.2, hvalid.1.1.1.2⟩
  refine .decided .consumed row row' (consumedAudit ctx row.binding candidate) (by decide) hleaves
    ?_ h.audited ⟨rfl, rfl, rfl, rfl, rfl⟩
  unfold BaselineFollows
  rw [if_pos rfl]
  exact ⟨hpins, h.moved⟩

section Decision

variable {ctx : DecisionContext} {cmd : DecideApprovalCommand} {enabled : Bool}
  {view : DecisionView} {db db' : Db}

/-- A decision that returns is a step. -/
theorem decideApproval_step (hread : (DecisionView.read ctx cmd).run db = (.ok view, db))
    {result : DecisionResultV1}
    (h : (ShiftMind.decideApproval ctx enabled cmd view).run db = (.ok result, db')) :
    ApprovalStep db db' := by
  unfold ShiftMind.decideApproval at h
  cases hadmitted : admitDecision ctx.env enabled cmd view with
  | error e => rw [hadmitted] at h; cases h
  | ok admission =>
    rw [hadmitted] at h
    cases admission with
    | close binding outcome check =>
      obtain ⟨hpending, hconsumed⟩ := admitDecision_close hadmitted
      exact terminalWrites_step hpending hconsumed h
    | promote binding =>
      obtain ⟨-, -, hpending, -, -, hvalid, -⟩ := admitDecision_promote.mp hadmitted
      obtain ⟨candidate, hcandidate⟩ := candidate_of_stillValid hvalid
      have hrun : (approveWrites ctx binding (some candidate)).run db = (.ok result, db') := by
        rw [← hcandidate]; exact h
      rw [approveWrites_run hpending] at hrun
      rcases promotionWrites_cases ctx binding candidate db with
        ⟨-, result', db₁, -, hbundle, hwrites⟩ |
          ⟨-, message, expected, current, db₁, -, -, hwrites⟩ |
        ⟨-, e, db₁, -, hwrites⟩
      all_goals rw [hwrites] at hrun; cases hrun
      exact hbundle.step hread hadmitted

/-- A decision that raises what the route catches wrote nothing, or raised at the bad payload of
its own binding. -/
theorem decideApproval_caught (hread : (DecisionView.read ctx cmd).run db = (.ok view, db))
    {e : PyError} (hcaught : caught e = true)
    (h : (ShiftMind.decideApproval ctx enabled cmd view).run db = (.error e, db')) :
    db' = db ∨ (ApprovalStep db db' ∧ ∃ message expected current,
      e = .decideApproval .approvalPayloadUnreadable message expected current) := by
  unfold ShiftMind.decideApproval at h
  cases hadmitted : admitDecision ctx.env enabled cmd view with
  | error e' => rw [hadmitted] at h; cases h; exact .inl rfl
  | ok admission =>
    rw [hadmitted] at h
    cases admission with
    | close binding outcome check =>
      exact .inl ((terminalWrites_fails ctx binding (admitDecision_close hadmitted).1 check
        view.candidate).failed h hcaught)
    | promote binding =>
      obtain ⟨-, -, hpending, -, -, hvalid, -⟩ := admitDecision_promote.mp hadmitted
      obtain ⟨candidate, hcandidate⟩ := candidate_of_stillValid hvalid
      have hrun : (approveWrites ctx binding (some candidate)).run db = (.error e, db') := by
        rw [← hcandidate]; exact h
      rw [approveWrites_run hpending] at hrun
      rcases promotionWrites_cases ctx binding candidate db with
        ⟨-, result', db₁, -, -, hwrites⟩ |
        ⟨-, message, expected, current, db₁, -, hbundle, hwrites⟩ | ⟨-, e', db₁, he, hwrites⟩
      all_goals rw [hwrites] at hrun; cases hrun
      · exact .inr ⟨hbundle.step hread hadmitted, message, expected, current, rfl⟩
      · rw [caught_postWriteNotPending he] at hcaught
        cases hcaught

end Decision

/-- Auditing a denial adds no success. -/
theorem auditDenial_step {ctx : DecisionContext} {cmd : DecideApprovalCommand} {db db' : Db}
    {u : Unit} (h : (auditDenial ctx cmd).run db = (.ok u, db')) : ApprovalStep db db' := by
  unfold auditDenial at h
  obtain ⟨denied, db₁, hget, h₁⟩ := Tx.bind_ok.mp h
  cases hget
  cases hdenied : (Db.approvalRequests.get db).find? (isApproval cmd.approvalId ctx.siteId) with
  | none =>
    simp only [hdenied, Option.map_none] at h₁
    cases h₁
    exact .refl db
  | some row =>
    simp only [hdenied, Option.map_some] at h₁
    obtain ⟨candidate, db₂, hcandidate, h₂⟩ := Tx.bind_ok.mp h₁
    obtain rfl := (getCandidate_still ..).eq_of_run hcandidate
    obtain ⟨t, ht, rfl⟩ := Relvar.insertInto_ok.mp (attempt_ok.mp h₂).2
    refine .quiet rfl rfl fun audit hsuccess => ?_
    show audit ∈ t ↔ _
    rw [Table.mem_of_insert? ht]
    refine ⟨fun hmem => ?_, .inl⟩
    rcases hmem with hmem | rfl
    · exact hmem
    · cases hsuccess

/-- A handled decision error is a step of its own. -/
theorem handleDecisionError_step {ctx : DecisionContext} {cmd : DecideApprovalCommand}
    {e : PyError} {db db' : Db} {problem : Problem}
    (h : (handleDecisionError ctx cmd e).run db = (.ok problem, db')) : ApprovalStep db db' := by
  unfold handleDecisionError at h
  split at h
  · rename_i cls message expected current
    rw [Tx.run_ite] at h
    split at h
    · exact absurd h Tx.throw_ok
    · obtain ⟨u, db₁, haudit, h₁⟩ := Tx.bind_ok.mp h
      cases h₁
      rw [Tx.run_ite] at haudit
      split at haudit
      · exact auditDenial_step haudit
      · cases haudit; exact .refl db
  · exact absurd h Tx.throw_ok

theorem attemptDecision_step {ctx : DecisionContext} {cmd : DecideApprovalCommand} {enabled : Bool}
    {view : DecisionView} {db db' : Db}
    (hread : (DecisionView.read ctx cmd).run db = (.ok view, db))
    {result : DecisionResultV1 ⊕ Problem}
    (h : (attemptDecision ctx enabled cmd view).run db = (.ok result, db')) :
    ApprovalStep db db' := by
  unfold attemptDecision at h
  cases hrun : (ShiftMind.decideApproval ctx enabled cmd view).run db with
  | mk r db₁ =>
    cases r with
    | ok value =>
      rw [Tx.run_tryCatch_of_ok (Tx.run_map_of_ok Sum.inl hrun)] at h
      cases h
      exact decideApproval_step hread hrun
    | error e =>
      rw [Tx.run_tryCatch_of_error (Tx.run_map_of_error Sum.inl hrun)] at h
      cases hcaught : caught e with
      | false =>
        rw [handleDecisionError_escaped ctx cmd hcaught] at h
        exact absurd h Tx.throw_ok
      | true =>
        obtain ⟨problem, db₂, hhandle, h₁⟩ := Tx.bind_ok.mp h
        cases h₁
        rcases decideApproval_caught hread hcaught hrun with rfl | ⟨hstep, message, expected,
          current, rfl⟩
        · exact handleDecisionError_step hhandle
        · -- an unreadable payload is answered without an audit row
          cases hhandle
          exact hstep

/-- **A decision is one step of the approval tables.** -/
theorem decideFreshly_step (ctx : DecisionContext) (enabled : Bool) (cmd : DecideApprovalCommand)
    (db : Db) : ApprovalStep db (approvalEndpoint (decideFreshly ctx enabled cmd) db).2 := by
  rw [approvalEndpoint_snd]
  refine step_of_commit fun {response db'} h => ?_
  unfold decideFreshly at h
  obtain ⟨view, db₁, hread, h₁⟩ := Tx.bind_ok.mp h
  obtain rfl := (read_ok hread).1
  unfold decideApprovalRoute at h₁
  rw [Tx.run_ite] at h₁
  split at h₁
  · cases h₁; exact .refl _
  cases hstored : view.stored with
  | some stored =>
    rw [hstored] at h₁
    obtain rfl := (replayDecision_still ctx cmd stored).eq_of_run h₁
    exact .refl _
  | none =>
    rw [hstored] at h₁
    obtain ⟨result, db₂, hattempt, h₂⟩ := Tx.bind_ok.mp h₁
    have hstep := attemptDecision_step hread hattempt
    cases result with
    | inr problem => cases h₂; exact hstep
    | inl result =>
      exact hstep.before_kept (((answerDecision_receiptOnly ctx cmd result).led h₂).kept _ _)

/-- **Every action of the workflow is a step of the approval tables.** -/
theorem perform_step {s : ApprovalSys} {action : ApprovalAction} (henabled : action.Enabled s) :
    ApprovalStep s.db (s.perform action).db := by
  cases action with
  | createApproval env settings cmd => exact createApproval_step env settings cmd s.db
  | requestSuspended env settings call => exact requestSuspended_step env settings call s.db
  | decideApproval ctx enabled cmd => exact decideFreshly_step ctx enabled cmd s.db
  | elsewhere db' => exact ApprovalsKept.step henabled

end ShiftMind
