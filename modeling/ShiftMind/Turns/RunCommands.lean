import ShiftMind.Turns.DraftCommands
import ShiftMind.Turns.Runs

/-!
# ShiftMind — what each command does to runs and bindings

Every transaction of the workflow is one step of the tables `agent_run` and `approval_request`:
the statements of the conversation and the approval repository are inverted once, and the commands
are read off them.

* **`finishAgentRun_step`**, **`pauseAgentRunForApproval_ok`**, **`cancelAgentRunForApproval_ok`** —
  the statements that move a run.
* **`createApproval_runStep`**, **`finish_runStep`** — the transactions.
-/

namespace ShiftMind

open Relational Transactional ConversationRepository ProposalRepository ScheduleRunRepository
  ApprovalRepository

/-! ## Beside runs and bindings -/

theorem beside_runTablesKept : BesideStreams RunTablesKept :=
  .of_tables (fun _ => ⟨rfl, rfl⟩)
    (fun _ _ _ h h' => ⟨h'.runs.trans h.runs, h'.bindings.trans h.bindings⟩)
    (fun _ _ => ⟨rfl, rfl⟩) (fun _ _ => ⟨rfl, rfl⟩) (fun _ _ => ⟨rfl, rfl⟩)
    (fun _ _ => ⟨rfl, rfl⟩) fun _ _ => ⟨rfl, rfl⟩

theorem RunStep.refl (db : Db) : RunStep db db := .kept (beside_runTablesKept.refl db)

/-- A step depends on its two tables alone. -/
theorem RunStep.between {db db₁ db₂ db' : Db} (hbefore : RunTablesKept db db₁)
    (h : RunStep db₁ db₂) (hafter : RunTablesKept db₂ db') : RunStep db db' := by
  have hruns := hbefore.runs
  have hbindings := hbefore.bindings
  have hruns' := hafter.runs
  have hbindings' := hafter.bindings
  -- each case names the two tables only, so it is rewritten to the outer ones
  cases h with
  | kept hkept =>
    exact .kept (beside_runTablesKept.trans _ _ _ hbefore
      (beside_runTablesKept.trans _ _ _ hkept hafter))
  | accepted run bindings runs queued =>
    rw [hruns, ← hruns'] at runs
    rw [hbindings, ← hbindings'] at bindings
    exact .accepted run bindings runs queued
  | moved run run' bindings runs same before after =>
    rw [hruns, ← hruns'] at runs
    rw [hbindings, ← hbindings'] at bindings
    exact .moved run run' bindings runs same before after
  | bound row runs bindings planner =>
    rw [hruns, ← hruns'] at runs
    rw [hbindings, ← hbindings'] at bindings
    exact .bound row runs bindings planner
  | paused row run bindings pending names running runs =>
    rw [hruns, ← hruns'] at runs
    rw [hbindings, ← hbindings'] at bindings
    exact .paused row run bindings pending names running runs
  | decided reached row row' runs terminal bindings planner =>
    rw [hruns, ← hruns'] at runs
    rw [hbindings, ← hbindings'] at bindings
    exact .decided reached row row' runs terminal bindings planner
  | resumed row row' run bindings names waiting runs =>
    rw [hruns, ← hruns'] at runs
    rw [hbindings, ← hbindings'] at bindings
    exact .resumed row row' run bindings names waiting runs
  | cancelled reached row row' run closed bindings names waiting runs =>
    rw [hruns, ← hruns'] at runs
    rw [hbindings, ← hbindings'] at bindings
    exact .cancelled reached row row' run closed bindings names waiting runs

theorem RunStep.before_kept {db db' db'' : Db} (h : RunStep db db')
    (hkept : RunTablesKept db' db'') : RunStep db db'' :=
  h.between (beside_runTablesKept.refl db) hkept

/-! ## Moving a run -/

theorem isAgentRun_iff {agentRunId siteId : Uuid} {run : AgentRunRow} :
    isAgentRun agentRunId siteId run = true ↔ run.id = agentRunId ∧ run.siteId = siteId := by
  simp [isAgentRun]

theorem clash_of_isAgentRun (agentRunId siteId : Uuid) (a b : AgentRunRow)
    (ha : isAgentRun agentRunId siteId a = true) (hb : isAgentRun agentRunId siteId b = true) :
    clash a b = true := by
  rw [isAgentRun_iff] at ha hb
  simp [clash, ha.1, hb.1]

/-- An update through an identifier of the table replaces that run. -/
theorem updateAgentRun_replaced {agentRunId siteId : Uuid} {set : AgentRunRow → AgentRunRow}
    {db db' : Db} {u : Unit} {run : AgentRunRow} (hmem : run ∈ db.agentRun)
    (hsel : isAgentRun agentRunId siteId run = true)
    (h : (updateAgentRun agentRunId siteId set).run db = (.ok u, db')) :
    db.agentRun.Replaced db'.agentRun run (set run) ∧ db'.approvalRequest = db.approvalRequest := by
  obtain ⟨hupdate, hframe⟩ := updateAgentRun_ok h
  exact ⟨.of_update? (clash_of_isAgentRun agentRunId siteId) hmem hsel hupdate, by rw [hframe]⟩

/-- **Finishing a run** moves it from `agent_running`. -/
theorem finishAgentRun_step {env : Ambient} {claimed : ClaimedAgentRunV1} {status : AgentRunStatus}
    {payload : ActivityPayload} {requestId : Uuid} {db db' : Db} {executed : ExecutedAgentRunV1}
    (hstatus : status ≠ .approvalRequired)
    (h : (finishAgentRun env claimed status payload requestId).run db = (.ok executed, db')) :
    RunStep db db' := by
  unfold finishAgentRun at h
  obtain ⟨conversation, db₁, hlock, h₁⟩ := Tx.bind_ok.mp h
  obtain rfl := (lockClaimed_still ..).eq_of_run hlock
  obtain ⟨u, db₂, hrequire, h₂⟩ := Tx.bind_ok.mp h₁
  obtain ⟨rfl, run, hmem, hsel, hrunning⟩ := requireAgentRun_ok hrequire
  obtain ⟨sequence, db₃, hsequence, h₃⟩ := Tx.bind_ok.mp h₂
  cases hsequence
  obtain ⟨u', db₄, hupdate, h₄⟩ := Tx.bind_ok.mp h₃
  obtain ⟨hreplaced, hbindings⟩ := updateAgentRun_replaced hmem hsel hupdate
  obtain ⟨u'', db₅, hevent, h₅⟩ := Tx.bind_ok.mp h₄
  cases h₅
  have hkept := (appendEvent_follows beside_runTablesKept ..).followed hevent
  refine RunStep.before_kept (.moved run _ hbindings hreplaced rfl ?_ hstatus) hkept
  rw [hrunning]
  decide

theorem claimQueuedRun_step {conversationId agentRunId siteId : Uuid} {db db' : Db}
    {claimed : Option ClaimedAgentRunV1}
    (h : (claimQueuedRun conversationId agentRunId siteId).run db = (.ok claimed, db')) :
    RunStep db db' := by
  unfold claimQueuedRun at h
  rw [Tx.run_read_bind] at h
  cases hjoined : claimable conversationId agentRunId siteId db with
  | none => rw [hjoined] at h; cases h; exact .refl db
  | some joined =>
    obtain ⟨run, conversation, message⟩ := joined
    rw [hjoined] at h
    dsimp only at h
    rw [Tx.run_ite] at h
    split at h
    · exact absurd h Tx.throw_ok
    rename_i hqueued
    obtain ⟨u, db₁, hupdate, h₁⟩ := Tx.bind_ok.mp h
    cases h₁
    -- the claimed run is a row of the table
    unfold claimable at hjoined
    obtain ⟨found, hfound, hjoined⟩ := Option.bind_eq_some_iff.mp hjoined
    obtain ⟨other, -, hjoined⟩ := Option.bind_eq_some_iff.mp hjoined
    obtain ⟨other', -, hjoined⟩ := Option.bind_eq_some_iff.mp hjoined
    obtain ⟨u', -, hjoined⟩ := Option.bind_eq_some_iff.mp hjoined
    cases hjoined
    obtain ⟨hmem, hsel⟩ := Table.find?_eq_some hfound
    obtain ⟨hreplaced, hbindings⟩ :=
      updateAgentRun_replaced hmem (Bool.and_eq_true_iff.mp hsel).1 hupdate
    refine .moved run _ hbindings hreplaced rfl ?_ (by simp)
    rw [not_not.mp hqueued]
    decide

theorem acceptTurn_step {env : Ambient} {conversationId siteId actorId requestId : Uuid}
    {text : String} {db db' : Db} {accepted : Option AcceptedTurnV1}
    (h : (acceptTurn env conversationId siteId actorId requestId text).run db =
      (.ok accepted, db')) : RunStep db db' := by
  unfold acceptTurn at h
  rw [Tx.run_bind, Relvar.run_selectOne] at h
  dsimp only at h
  cases hconversation : (Db.conversations.get db).find? (isConversation conversationId siteId) with
  | none => rw [hconversation] at h; cases h; exact .refl db
  | some conversation =>
    rw [hconversation] at h
    have h₁ := h
    obtain ⟨u, db₂, hmessage, h₂⟩ := Tx.bind_ok.mp h₁
    obtain ⟨messages, -, rfl⟩ := Relvar.insertInto_ok.mp hmessage
    obtain ⟨u', db₃, hrun, h₃⟩ := Tx.bind_ok.mp h₂
    obtain ⟨runs, hruns, rfl⟩ := Relvar.insertInto_ok.mp hrun
    obtain ⟨sequence, db₄, hsequence, h₄⟩ := Tx.bind_ok.mp h₃
    cases hsequence
    obtain ⟨u'', db₅, hevent, h₅⟩ := Tx.bind_ok.mp h₄
    cases h₅
    have hstep : RunStep db (Db.agentRuns.put runs (Db.messages.put messages db)) :=
      .accepted _ rfl hruns rfl
    exact hstep.before_kept ((appendEvent_follows beside_runTablesKept ..).followed hevent)

/-! ## Asking for an approval -/

/-- **Pausing a run** that was running. -/
theorem pauseAgentRunForApproval_ok {agentRunId : Uuid} {binding : ApprovalBindingV1}
    {requestId : Uuid} {db db' : Db} {executed : ExecutedAgentRunV1}
    (h : (pauseAgentRunForApproval agentRunId binding requestId).run db = (.ok executed, db')) :
    ∃ run, isAgentRun agentRunId binding.siteId run = true ∧ run.status = .agentRunning ∧
      db.agentRun.Replaced db'.agentRun run run.paused ∧
      db'.approvalRequest = db.approvalRequest := by
  unfold pauseAgentRunForApproval at h
  obtain ⟨conversation, db₁, hlock, h₁⟩ := Tx.bind_ok.mp h
  obtain rfl := (lockConversation_still ..).eq_of_run hlock
  obtain ⟨u, db₂, hrequire, h₂⟩ := Tx.bind_ok.mp h₁
  obtain ⟨rfl, run, hmem, hsel, hrunning⟩ := requireAgentRun_ok hrequire
  obtain ⟨activity, db₃, hshow, h₃⟩ := Tx.bind_ok.mp h₂
  have hkept := (beside_runTablesKept.activity ..).followed hshow
  obtain ⟨u', db₄, hupdate, h₄⟩ := Tx.bind_ok.mp h₃
  cases h₄
  obtain ⟨hreplaced, hbindings⟩ :=
    updateAgentRun_replaced (by rw [hkept.runs]; exact hmem) hsel hupdate
  rw [hkept.runs] at hreplaced
  exact ⟨run, hsel, hrunning, hreplaced, hbindings.trans hkept.bindings⟩

/-- The bundle of a request binds a planner's request, or pauses a run. -/
theorem bindCandidate_runStep {env : Ambient} {settings : ApprovalSettings}
    {cmd : RequestApprovalCommandV1} {candidate : ScheduleVersionV1}
    {baseline : Option SiteBaselineRow} {db db' : Db} {result : RequestApprovalResultV1}
    (h : (bindCandidate env settings cmd candidate baseline).run db = (.ok result, db')) :
    RunStep db db' := by
  unfold bindCandidate at h
  obtain ⟨u, db₁, hcreate, h₁⟩ := Tx.bind_ok.mp h
  obtain ⟨t, hinsert, rfl⟩ := createPending_ok hcreate
  obtain ⟨u', db₂, happend, h₂⟩ := Tx.bind_ok.mp h₁
  -- the audit row is beside the two tables
  have haudit := (auditAppend_follows beside_runTablesKept.toBeside ..).followed happend
  obtain ⟨activity, db₃, hshow, h₃⟩ := Tx.bind_ok.mp h₂
  cases h₃
  unfold showRequest at hshow
  cases hagent : cmd.agentRunId with
  | none =>
    rw [hagent] at hshow
    have hkept := beside_runTablesKept.trans _ _ _ haudit
      ((beside_runTablesKept.activity ..).followed hshow)
    have hstep : RunStep db { db with approvalRequest := t } := .bound _ rfl hinsert hagent
    exact hstep.before_kept hkept
  | some agentRunId =>
    rw [hagent] at hshow
    obtain ⟨run, hsel, hrunning, hreplaced, hbindings⟩ := pauseAgentRunForApproval_ok hshow
    obtain ⟨hid, hsite⟩ := isAgentRun_iff.mp hsel
    rw [haudit.runs] at hreplaced
    -- a request made inside a turn pauses the run it names
    have hnames : Names ⟨pendingBinding env settings cmd candidate baseline, cmd.pendingPayload⟩
        run := ⟨by rw [hid]; exact hagent, hsite.symm⟩
    refine .paused _ run ?_ rfl hnames hrunning hreplaced
    rw [hbindings, haudit.bindings]
    exact hinsert

theorem requestApproval_runStep {env : Ambient} {settings : ApprovalSettings}
    {cmd : RequestApprovalCommandV1} {db db' : Db} {result : RequestApprovalResultV1}
    (h : (requestApproval env settings cmd).run db = (.ok result, db')) : RunStep db db' := by
  rw [requestApproval_fresh] at h
  unfold requestApprovalFrom at h
  obtain ⟨candidate, db₁, hlifted, h₁⟩ := Tx.bind_ok.mp h
  obtain ⟨-, rfl⟩ := Tx.lift_ok.mp hlifted
  exact bindCandidate_runStep h₁

theorem requestSuspendedFrom_runStep {env : Ambient} {settings : ApprovalSettings}
    {call : SuspendedCall} {view : RequestView} {db db' : Db} {result : RequestApprovalResultV1}
    (h : (requestSuspendedFrom env settings call view).run db = (.ok result, db')) :
    RunStep db db' := by
  unfold requestSuspendedFrom at h
  split at h
  · cases h
  · unfold requestApprovalFrom at h
    obtain ⟨candidate, db₁, hlifted, h₁⟩ := Tx.bind_ok.mp h
    obtain ⟨-, rfl⟩ := Tx.lift_ok.mp hlifted
    exact bindCandidate_runStep h₁

/-- What a transaction commits is a step when its returning runs are. -/
theorem runStep_commit {α : Type} {x : DbTx α} {db : Db}
    (h : ∀ {a db'}, x.run db = (.ok a, db') → RunStep db db') : RunStep db (x.commit db).2 := by
  rcases Tx.commit_cases x db with ⟨a, ha⟩ | hsame
  · exact h ha
  · rw [hsame]; exact .refl db

/-- `POST /approvals`. -/
theorem createApproval_runStep (env : Ambient) (settings : ApprovalSettings)
    (cmd : CreateApprovalCommand) (db : Db) :
    RunStep db (approvalEndpoint (createApprovalRoute env settings cmd) db).2 := by
  rw [approvalEndpoint_snd]
  refine runStep_commit fun {response db'} h => ?_
  unfold createApprovalRoute at h
  rw [Tx.run_ite] at h
  split at h
  · cases h; exact .refl db
  have hconversation : (getConversationForRun cmd.scheduleRunId cmd.siteId).Still := by
    refine .bind (loadSnapshot_still ..) fun snapshot => ?_
    cases snapshot with
    | none => exact .pure _
    | some snapshot => exact .bind (Relvar.still_selectOne ..) fun _ => .pure _
  obtain ⟨conversationId, db₁, hget, h₁⟩ := Tx.bind_ok.mp h
  obtain rfl := hconversation.eq_of_run hget
  cases conversationId with
  | none => cases h₁; exact .refl _
  | some conversationId =>
    obtain ⟨stored, db₂, hstored, h₂⟩ := Tx.bind_ok.mp h₁
    obtain rfl := (Relvar.still_selectOne ..).eq_of_run hstored
    cases stored with
    | some stored =>
      obtain rfl := (replayRequest_still env cmd stored).eq_of_run h₂
      exact .refl _
    | none =>
      obtain ⟨result, db₃, hattempt, h₃⟩ := Tx.bind_ok.mp h₂
      have hstep : RunStep db₂ db₃ := by
        unfold attemptRequest at hattempt
        cases hrun : (requestApproval env settings (cmd.request env conversationId)).run db₂ with
        | mk r db₄ =>
          cases r with
          | ok value =>
            rw [Tx.run_tryCatch_of_ok (Tx.run_savepoint_of_ok (Tx.run_map_of_ok Sum.inl hrun))]
              at hattempt
            cases hattempt
            exact requestApproval_runStep hrun
          | error e =>
            -- the savepoint takes a refused request back
            rw [Tx.run_tryCatch_of_error (Tx.run_savepoint_of_error
              (Tx.run_map_of_error Sum.inl hrun))] at hattempt
            cases hproblem : requestProblem e <;> rw [hproblem] at hattempt <;> cases hattempt
            exact .refl _
      cases result with
      | inr problem => cases h₃; exact hstep
      | inl result =>
        obtain ⟨u, db₄, hreceipt, h₄⟩ := Tx.bind_ok.mp h₃
        cases h₄
        exact hstep.before_kept
          ((storeIdempotentResult_follows beside_runTablesKept.toBeside ..).followed hreceipt)

/-! ## Refused requests -/

/-- A refusal of a request for approval. -/
def IsRefusal (e : PyError) : Prop := ∃ cls message, e = .approvalRequest cls message

theorem foreign_refusal : Foreign IsRefusal := by
  refine ⟨?_, ?_, ?_, ?_, ?_, ?_⟩ <;> intro message <;> simp [IsRefusal]

section Never

variable {P : PyError → Prop} (hP : Foreign P)
include hP

theorem never_references (constraint : String) (holds : Db → Bool) :
    Never P (references constraint holds) :=
  never_bind (never_read _) fun _ => .ite (fun _ => never_pure _) fun _ =>
    never_throw (hP.integrity _)

theorem never_bindCandidate (env : Ambient) (settings : ApprovalSettings)
    (cmd : RequestApprovalCommandV1) (candidate : ScheduleVersionV1)
    (baseline : Option SiteBaselineRow) :
    Never P (bindCandidate env settings cmd candidate baseline) := by
  unfold bindCandidate createPending
  refine never_bind ?_ fun _ => never_bind (never_append hP _) fun _ => ?_
  · refine never_bind (never_requireStorable hP _) fun _ => ?_
    exact never_bind (Relvar.insertInto_fails (hP.integrity _)) fun _ =>
      never_bind (never_references hP ..) fun _ => never_references hP ..
  refine never_bind ?_ fun _ => never_pure _
  unfold showRequest
  cases cmd.agentRunId with
  | none => exact never_appendApprovalActivity hP ..
  | some agentRunId => exact never_pauseAgentRunForApproval hP ..

end Never

/-- A request that is refused has written nothing. -/
theorem requestSuspendedFrom_refused {env : Ambient} {settings : ApprovalSettings}
    {call : SuspendedCall} {view : RequestView} {e : PyError} {db db' : Db} (he : IsRefusal e)
    (h : (requestSuspendedFrom env settings call view).run db = (.error e, db')) : db' = db := by
  unfold requestSuspendedFrom at h
  split at h
  · exact (Tx.Still.lift _).eq_of_run h
  · unfold requestApprovalFrom at h
    have hfails : ∀ cmd : RequestApprovalCommandV1, (Tx.lift (admitRequest settings cmd view) >>=
        fun candidate => bindCandidate env settings cmd candidate view.baseline :
          DbTx RequestApprovalResultV1).Fails IsRefusal Eq := fun cmd =>
      (Tx.Fails.of_still (fun _ => rfl) (.lift _)).bind_never fun candidate =>
        never_bindCandidate foreign_refusal env settings cmd candidate view.baseline
    exact ((hfails _).failed h he).symm

/-! ## Finishing a turn -/

theorem runTablesKept_proposals (t : Table ProposalRow) (db : Db) :
    RunTablesKept db (Db.proposals.put t db) := ⟨rfl, rfl⟩

theorem runTablesKept_versions (t : Table ProposalVersionRow) (db : Db) :
    RunTablesKept db (Db.proposalVersions.put t db) := ⟨rfl, rfl⟩

theorem applyDraft_runsKept (claimed : ClaimedAgentRunV1) (draft : AgentDraftWriteV1) :
    (applyDraft claimed draft).Follows RunTablesKept :=
  applyDraft_follows beside_runTablesKept.toBeside runTablesKept_proposals runTablesKept_versions ..

theorem applyDiscard_runsKept (claimed : ClaimedAgentRunV1)
    (discard : Option AgentDraftDiscardV1) :
    (applyDiscard claimed discard).Follows RunTablesKept :=
  applyDiscard_follows beside_runTablesKept.toBeside runTablesKept_proposals ..

/-- **`finalize_agent_run` and the runs.** -/
theorem finalizeAgentRun_runStep {env : Ambient} {claimed : ClaimedAgentRunV1}
    {status : AgentRunStatus} {payload : TurnPayload} {discard : Option AgentDraftDiscardV1}
    {requestId : Uuid} {db db' : Db} {executed : ExecutedAgentRunV1}
    (hstatus : status ≠ .approvalRequired)
    (h : (finalizeAgentRun env claimed status payload discard requestId).run db =
      (.ok executed, db')) : RunStep db db' := by
  cases payload with
  | answer answer =>
    cases discard with
    | none => exact finishAgentRun_step hstatus h
    | some discard =>
      unfold finalizeAgentRun finalizeDiscard at h
      obtain ⟨conversation, db₁, hlock, h₁⟩ := Tx.bind_ok.mp h
      obtain rfl := (lockClaimed_still ..).eq_of_run hlock
      obtain ⟨working, db₂, hworking, h₂⟩ := Tx.bind_ok.mp h₁
      obtain rfl := (readOne_still _).eq_of_run hworking
      rw [Tx.run_ite] at h₂
      -- with or without the guard, one statement moves the run and the rest is beside it
      split at h₂
      · exact finishAgentRun_step (by decide) h₂
      obtain ⟨executed', db₃, hfinish, h₃⟩ := Tx.bind_ok.mp h₂
      obtain ⟨u, db₄, hdiscard, h₄⟩ := Tx.bind_ok.mp h₃
      cases h₄
      exact (finishAgentRun_step hstatus hfinish).before_kept
        ((applyDiscard_runsKept ..).followed hdiscard)
  | draft draft =>
    unfold finalizeAgentRun finalizeDraft at h
    obtain ⟨reference, db₀, hcheck, h₀⟩ := Tx.bind_ok.mp h
    obtain ⟨-, rfl⟩ := Tx.lift_ok.mp hcheck
    obtain ⟨conversation, db₁, hlock, h₁⟩ := Tx.bind_ok.mp h₀
    obtain rfl := (lockClaimed_still ..).eq_of_run hlock
    obtain ⟨working, db₂, hworking, h₂⟩ := Tx.bind_ok.mp h₁
    obtain rfl := (readOne_still _).eq_of_run hworking
    rw [Tx.run_ite] at h₂
    split at h₂
    · exact finishAgentRun_step (by decide) h₂
    obtain ⟨executed', db₃, hfinish, h₃⟩ := Tx.bind_ok.mp h₂
    obtain ⟨u, db₄, hdiscard, h₄⟩ := Tx.bind_ok.mp h₃
    obtain ⟨u', db₅, happly, h₅⟩ := Tx.bind_ok.mp h₄
    cases h₅
    exact ((finishAgentRun_step hstatus hfinish).before_kept
      ((applyDiscard_runsKept ..).followed hdiscard)).before_kept
        ((applyDraft_runsKept ..).followed happly)

theorem terminalStatus_ne {outcome : AgentRunOutcomeV1} (hended : outcome.status ≠ .suspended) :
    terminalStatus outcome ≠ .approvalRequired := by
  unfold terminalStatus
  cases hstatus : outcome.status with
  | suspended => exact absurd hstatus hended
  | completed => cases outcome.usable <;> simp
  | timedOut => simp
  | failed => simp

theorem resumedOutcome_ended (outcome : AgentRunOutcomeV1) :
    (resumedOutcome outcome).status ≠ .suspended := by
  unfold resumedOutcome
  split
  · decide
  · assumption

/-- A suspended turn pauses its run, or ends it cancelled. -/
theorem finishSuspended_runStep {env : Ambient} {settings : ApprovalSettings}
    {codec : ToolArgumentCodec} {view : RequestView} {claimed : ClaimedAgentRunV1}
    {outcome : AgentRunOutcomeV1} {requestId : Uuid} {db db' : Db} {executed : ExecutedAgentRunV1}
    (h : (finishSuspended env settings codec view claimed outcome requestId).run db =
      (.ok executed, db')) : RunStep db db' := by
  unfold finishSuspended at h
  obtain ⟨exact, db₁, hexact, h₁⟩ := Tx.bind_ok.mp h
  obtain ⟨-, rfl⟩ := Tx.lift_ok.mp hexact
  obtain ⟨pending, call⟩ := exact
  dsimp only at h₁
  rw [Tx.run_ite] at h₁
  split at h₁
  · exact finalizeAgentRun_runStep (by decide) h₁
  obtain ⟨request, db₂, hrequest, h₂⟩ := Tx.bind_ok.mp h₁
  obtain ⟨-, rfl⟩ := Tx.lift_ok.mp hrequest
  cases hrun : (requestSuspendedFrom env settings
      (suspendedCall claimed pending call request requestId) view).run db₂ with
  | mk r db₃ =>
    cases r with
    | ok result =>
      rw [Tx.run_tryCatch_of_ok (Tx.run_map_of_ok RequestApprovalResultV1.activity hrun)] at h₂
      cases h₂
      exact requestSuspendedFrom_runStep hrun
    | error e =>
      rw [Tx.run_tryCatch_of_error
        (Tx.run_map_of_error RequestApprovalResultV1.activity hrun)] at h₂
      cases e with
      | approvalRequest cls message =>
        -- a refused request has written nothing
        rw [requestSuspendedFrom_refused ⟨cls, message, rfl⟩ hrun] at h₂
        exact finalizeAgentRun_runStep (by decide) h₂
      | _ => exact absurd h₂ Tx.throw_ok

/-- **The finish step.** -/
theorem finish_runStep {turn : Turn} {env : Ambient} {settings : ApprovalSettings}
    {codec : ToolArgumentCodec} {view : RequestView} {outcome : AgentRunOutcomeV1}
    {requestId : Uuid} {db db' : Db} {executed : ExecutedAgentRunV1}
    (h : (turn.finish env settings codec view outcome requestId).run db = (.ok executed, db')) :
    RunStep db db' := by
  unfold Turn.finish at h
  rw [Tx.run_ite] at h
  split at h
  · exact finalizeAgentRun_runStep (terminalStatus_ne (resumedOutcome_ended outcome)) h
  unfold finishTurn at h
  rw [Tx.run_ite] at h
  split at h
  · exact finishSuspended_runStep h
  · rename_i hended
    exact finalizeAgentRun_runStep (terminalStatus_ne hended) h

/-! ## Card commands -/

theorem reviseProposal_runsKept (env : Ambient) (catalogue : ScenarioCatalogue)
    (cmd : ReviseCommand) : (reviseProposal env catalogue cmd).Follows RunTablesKept :=
  reviseProposal_follows beside_runTablesKept.toBeside runTablesKept_proposals
    runTablesKept_versions ..

theorem rejectProposal_runsKept (env : Ambient) (catalogue : ScenarioCatalogue)
    (cmd : RejectCommand) : (rejectProposal env catalogue cmd).Follows RunTablesKept :=
  rejectProposal_follows beside_runTablesKept.toBeside runTablesKept_proposals ..

/-! ## Decisions -/

/-- **Cancelling the run** of a closed binding. -/
theorem cancelAgentRunForApproval_ok {agentRunId : Uuid} {binding : ApprovalBindingV1}
    {reached : ApprovalState} {db db' : Db} {u : Unit}
    (h : (cancelAgentRunForApproval agentRunId binding ("approval_" ++ reached.value)).run db =
      (.ok u, db')) :
    ∃ run, isAgentRun agentRunId binding.siteId run = true ∧ run.status = .approvalRequired ∧
      db.agentRun.Replaced db'.agentRun run (run.cancelled reached) ∧
      db'.approvalRequest = db.approvalRequest := by
  unfold cancelAgentRunForApproval at h
  rw [Tx.run_ite] at h
  split at h
  · exact absurd h Tx.throw_ok
  obtain ⟨conversation, db₁, hlock, h₁⟩ := Tx.bind_ok.mp h
  obtain rfl := (lockConversation_still ..).eq_of_run hlock
  obtain ⟨u', db₂, hrequire, h₂⟩ := Tx.bind_ok.mp h₁
  obtain ⟨rfl, run, hmem, hsel, hwaiting⟩ := requireAgentRun_ok hrequire
  obtain ⟨hreplaced, hbindings⟩ := updateAgentRun_replaced hmem hsel h₂
  exact ⟨run, hsel, hwaiting, hreplaced, hbindings⟩

/-- A closed binding is one step: its run, if it has one, is cancelled. -/
theorem terminalWrites_runStep {ctx : DecisionContext} {binding : ApprovalBindingV1}
    {outcome : ApprovalState} (hclosed : outcome ≠ .pending ∧ outcome ≠ .consumed)
    {check : RevalidationV1} {candidate : Option ScheduleVersionV1} {db db' : Db}
    {result : DecisionResultV1}
    (h : (terminalWrites ctx binding outcome check candidate).run db = (.ok result, db')) :
    RunStep db db' := by
  unfold terminalWrites at h
  obtain ⟨terminal, db₁, hclose, h₁⟩ := Tx.bind_ok.mp h
  obtain ⟨u, db₂, hcancel, h₂⟩ := Tx.bind_ok.mp h₁
  -- audit and activity touch neither table
  have hrest : RunTablesKept db₂ db' := by
    refine (beside_runTablesKept.bind (beside_runTablesKept.attempt
      (auditAppend_follows beside_runTablesKept.toBeside ..)) fun _ => ?_).followed h₂
    exact beside_runTablesKept.bind (beside_runTablesKept.attempt
      (beside_runTablesKept.activity ..)) fun _ => beside_runTablesKept.pure _
  refine RunStep.before_kept ?_ hrest
  -- a refused closing raises, so the binding was closed
  rcases closeBinding_cases ctx binding hclosed.1 db with
    ⟨row, row', db₁', -, hleft, hrun⟩ | ⟨e, hrun⟩
  case inr => rw [hrun] at hclose; cases hclose
  rw [hrun] at hclose
  cases hclose
  have hframe : db₁.agentRun = db.agentRun := by rw [hleft.frame]
  unfold cancelWaitingRun at hcancel
  -- a binding without a run of its own has none to cancel
  cases hagent : row'.binding.agentRunId with
  | none =>
    rw [hagent] at hcancel
    cases hcancel
    exact .decided outcome row row' hframe hclosed.1 hleft.toLeavesPending
      (hleft.agentRunId.symm.trans hagent)
  | some agentRunId =>
    rw [hagent] at hcancel
    obtain ⟨run, hsel, hwaiting, hreplaced, hbindings⟩ :=
      cancelAgentRunForApproval_ok (attempt_ok.mp hcancel).2
    obtain ⟨hid, hsite⟩ := isAgentRun_iff.mp hsel
    rw [hframe] at hreplaced
    have hleaves : LeavesPending outcome row row' db.approvalRequest db₂.approvalRequest := by
      rw [hbindings]
      exact hleft.toLeavesPending
    have hnames : Names row run :=
      ⟨hleft.agentRunId.symm.trans (hid ▸ hagent), hleft.siteId.symm.trans hsite.symm⟩
    exact .cancelled outcome row row' run hclosed hleaves hnames hwaiting hreplaced

/-- A promoted binding is one step: the run it named when the decision read it, if any, runs
again. -/
theorem promotionWrites_runStep {ctx : DecisionContext} {binding : ApprovalBindingV1}
    {candidate : ScheduleVersionV1} {db db' : Db} {result : PromotionResultV1}
    (hsame : ∀ row ∈ db.approvalRequest, row.binding.approvalId = binding.approvalId →
      row.binding.agentRunId = binding.agentRunId)
    (h : (promotionWrites ctx binding candidate).run db = (.ok result, db')) : RunStep db db' := by
  unfold promotionWrites completePromotion at h
  obtain ⟨consumed, db₁, hconsume, h₁⟩ := Tx.bind_ok.mp h
  obtain ⟨baseline, db₂, hmove, h₂⟩ := Tx.bind_ok.mp h₁
  obtain ⟨u, db₃, haudit, h₃⟩ := Tx.bind_ok.mp h₂
  obtain ⟨shown, db₄, hshow, h₄⟩ := Tx.bind_ok.mp h₃
  obtain ⟨applied, db₅, hmark, h₅⟩ := Tx.bind_ok.mp h₄
  cases h₅
  have happlied : RunTablesKept db₄ db' := by
    obtain ⟨applied', proposals, hrun, -⟩ := ProposalRepository.markApplied_run binding.siteId
      binding.candidateScheduleVersionId db₄
    have hproposals := (attempt_ok.mp hmark).2
    rw [hrun] at hproposals
    cases hproposals
    exact ⟨rfl, rfl⟩
  refine RunStep.before_kept ?_ happlied
  -- between the decision and the resumed run no run or binding moves
  have hbetween : RunTablesKept db₁ db₃ :=
    (beside_runTablesKept.bind
      (moveToCandidate_follows beside_runTablesKept.toBeside ctx binding) fun _ =>
      beside_runTablesKept.attempt (auditAppend_follows beside_runTablesKept.toBeside _)).followed
        (Tx.bind_ok.mpr ⟨baseline, db₂, hmove, haudit⟩)
  rcases consumeBinding_cases ctx binding db with
    ⟨row, row', db₁', -, hsel, hleft, hrun⟩ | ⟨-, e, -, hrun⟩
  case inr => rw [hrun] at hconsume; cases hconsume
  rw [hrun] at hconsume
  cases hconsume
  have hids := isApproval_iff.mp (pendingAt_iff.mp hsel).1
  have hagent := hsame row hleft.replaced.mem_old hids.1
  have hframe : db₁.agentRun = db.agentRun := by rw [hleft.frame]
  unfold showPromotion at hshow
  cases hbinding : binding.agentRunId with
  | none =>
    rw [hbinding] at hshow
    have hstep : RunStep db db₁ := .decided .consumed row row' hframe (by decide)
      hleft.toLeavesPending (hagent.trans hbinding)
    refine hstep.before_kept (beside_runTablesKept.trans _ _ _ hbetween ?_)
    exact (beside_runTablesKept.bind (beside_runTablesKept.attempt
      (beside_runTablesKept.activity ..)) fun _ =>
        beside_runTablesKept.pure _).followed hshow
  | some agentRunId =>
    rw [hbinding] at hshow
    obtain ⟨payload, db₆, hread, hshow₁⟩ := Tx.bind_ok.mp hshow
    obtain rfl := (attempt_still (.bind (Relvar.still_selectOne ..) fun _ => .pure _)).eq_of_run
      hread
    obtain ⟨call, db₇, hcall, hshow₂⟩ := Tx.bind_ok.mp hshow₁
    obtain ⟨-, rfl⟩ := Tx.lift_ok.mp hcall
    obtain ⟨activity, db₈, hresume, hshow₃⟩ := Tx.bind_ok.mp hshow₂
    cases hshow₃
    obtain ⟨⟨run, hmem, hrunSel, hwaiting⟩, hupdate, event, -, -, hresumed⟩ :=
      resumeAgentRunForApproval_ok (attempt_ok.mp hresume).2
    obtain ⟨hid, hsite⟩ := isAgentRun_iff.mp hrunSel
    have hreplaced := Table.Replaced.of_update? (clash_of_isAgentRun agentRunId _) hmem hrunSel
      hupdate
    rw [hbetween.runs, hframe] at hreplaced
    have hleaves : LeavesPending .consumed row row' db.approvalRequest db₄.approvalRequest := by
      rw [hresumed]
      show LeavesPending .consumed row row' _ _
      rw [hbetween.bindings]
      exact hleft.toLeavesPending
    have hnames : Names row run :=
      ⟨by rw [hagent, hbinding, hid], hleft.siteId.symm.trans hsite.symm⟩
    exact .resumed row row' run hleaves hnames hwaiting hreplaced

end ShiftMind
