import ShiftMind.Approvals.System
import ShiftMind.Turns.NoLostEdit
import ShiftMind.Turns.RunCommands

/-!
# ShiftMind — agent runs and approval bindings agree

The runs and the bindings of the workflow, over every interleaving in which a request either
commits all its writes or rolls back. A decision may act on an older reading of its binding: the
identifiers of a binding never change, and its compare-and-set settles the rest.

* **`decideRequest_runStep`** — a decision is one step of runs and bindings, unless its route
  answers a refusal that has written something.
* **`wholeMachine`** — the workflow without such refusals.
* **`runs_and_bindings_agree`** — the joint invariant in every reachable state, and what every
  step does to a run for its binding.
-/

namespace ShiftMind

open Relational Transactional Transition ApprovalRepository ConversationRepository

/-! ## Decisions -/

/-- What a binding is for never changes. -/
structure SameBinding (row row' : ApprovalRequestRow) : Prop where
  approvalId : row'.binding.approvalId = row.binding.approvalId
  agentRunId : row'.binding.agentRunId = row.binding.agentRunId

theorem SameBinding.refl (row : ApprovalRequestRow) : SameBinding row row := ⟨rfl, rfl⟩

theorem SameBinding.trans (a b c : ApprovalRequestRow) (h : SameBinding a b)
    (h' : SameBinding b c) : SameBinding a c :=
  ⟨h'.approvalId.trans h.approvalId, h'.agentRunId.trans h.agentRunId⟩

/-- The binding a decision read is still there, for the same run. -/
def ViewKept (view : DecisionView) (db : Db) : Prop :=
  ∀ binding, view.binding = some binding → ∀ row ∈ db.approvalRequest,
    row.binding.approvalId = binding.approvalId → row.binding.agentRunId = binding.agentRunId

/-- A refusal of a decision that its route answers has written nothing. -/
def RefusedWhole (ctx : DecisionContext) (enabled : Bool) (cmd : DecideApprovalCommand)
    (view : DecisionView) (db : Db) : Prop :=
  ∀ e db', (decideApproval ctx enabled cmd view).run db = (.error e, db') → caught e = true →
    db' = db

theorem approveWrites_ok {ctx : DecisionContext} {binding : ApprovalBindingV1}
    {candidate : ScheduleVersionV1} (hpending : binding.state = .pending) {db db' : Db}
    {result : DecisionResultV1}
    (h : (approveWrites ctx binding (some candidate)).run db = (.ok result, db')) :
    ∃ promoted, (promotionWrites ctx binding candidate).run db = (.ok promoted, db') := by
  rw [approveWrites_run hpending] at h
  cases hrun : (promotionWrites ctx binding candidate).run db with
  | mk r db₁ =>
    rw [hrun] at h
    cases r with
    | ok promoted => cases h; exact ⟨promoted, rfl⟩
    | error e => cases h

theorem decideApproval_runStep {ctx : DecisionContext} {enabled : Bool}
    {cmd : DecideApprovalCommand} {view : DecisionView} {db db' : Db} {result : DecisionResultV1}
    (hkept : ViewKept view db)
    (h : (decideApproval ctx enabled cmd view).run db = (.ok result, db')) : RunStep db db' := by
  unfold decideApproval at h
  obtain ⟨admission, db₁, hlifted, h₁⟩ := Tx.bind_ok.mp h
  obtain ⟨hadmitted, rfl⟩ := Tx.lift_ok.mp hlifted
  cases admission with
  | close binding outcome check =>
    exact terminalWrites_runStep (admitDecision_close hadmitted) h₁
  | promote binding =>
    obtain ⟨-, hseen, hpending, -, -, hvalid, -⟩ := admitDecision_promote.mp hadmitted
    obtain ⟨candidate, hcandidate⟩ := candidate_of_stillValid hvalid
    rw [hcandidate] at h₁
    obtain ⟨promoted, hpromoted⟩ := approveWrites_ok hpending h₁
    exact promotionWrites_runStep (hkept binding hseen) hpromoted

/-- **A decision is one step**, once its refusals are whole. -/
theorem decideRequest_runStep {ctx : DecisionContext} {enabled : Bool}
    {cmd : DecideApprovalCommand} {view : DecisionView} {db : Db} (hkept : ViewKept view db)
    (hwhole : RefusedWhole ctx enabled cmd view db) :
    RunStep db (decideRequest ctx enabled cmd view db).2 := by
  rw [decideRequest, approvalEndpoint_snd]
  refine runStep_commit fun {response db'} h => ?_
  unfold decideApprovalRoute at h
  rw [Tx.run_ite] at h
  split at h
  · cases h; exact .refl db
  cases hstored : view.stored with
  | some stored =>
    rw [hstored] at h
    obtain rfl := (replayDecision_still ..).eq_of_run h
    exact .refl _
  | none =>
    rw [hstored] at h
    obtain ⟨result, db₁, hattempt, h₁⟩ := Tx.bind_ok.mp h
    unfold attemptDecision at hattempt
    cases hrun : (decideApproval ctx enabled cmd view).run db with
    | mk r db₂ =>
      cases r with
      | ok value =>
        rw [Tx.run_tryCatch_of_ok (Tx.run_map_of_ok Sum.inl hrun)] at hattempt
        cases hattempt
        have hreceipt := (answerDecision_receiptOnly ctx cmd value).led h₁
        refine (decideApproval_runStep hkept hrun).before_kept ?_
        rw [show db' = _ from hreceipt]
        exact ⟨rfl, rfl⟩
      | error e =>
        rw [Tx.run_tryCatch_of_error (Tx.run_map_of_error Sum.inl hrun)] at hattempt
        cases hcaught : caught e with
        | false =>
          rw [handleDecisionError_escaped ctx cmd hcaught] at hattempt
          exact absurd hattempt Tx.throw_ok
        | true =>
          obtain rfl := hwhole e db₂ hrun hcaught
          have hhandled :=
            ((handleDecisionError_follows beside_runTablesKept.toBeside ctx cmd e).map
            Sum.inr).followed hattempt
          cases result with
          | inr problem => cases h₁; exact .kept hhandled
          | inl value =>
            -- the handler returns a problem
            obtain ⟨problem, db₃, hproblem, hmap⟩ := Tx.bind_ok.mp
              (show (handleDecisionError ctx cmd e >>= fun problem => pure (Sum.inr problem) :
                DbTx (DecisionResultV1 ⊕ Problem)).run db₂ = _ from hattempt)
            cases hmap

/-! ## The workflow without half refusals -/

/-- The request commits all its writes or rolls back. Of the requests of the workflow only a
decision answers a failure of its writes, and so commits them. -/
def TurnAction.Whole (s : TurnSys) : TurnAction → Prop
  | .decideApproval ctx enabled cmd view => RefusedWhole ctx enabled cmd view s.db
  | _ => True

def wholeMachine : Machine TurnSys TurnAction where
  initial := TurnSys.Initial
  enabled s action := action.Enabled s ∧ action.Whole s
  perform := TurnSys.perform

abbrev wholeSystem : System TurnSys := wholeMachine.system

/-- The joint invariant, and that no binding an earlier state held was lost or renamed. -/
structure RunsSound (s : TurnSys) : Prop where
  agree : RunsAgree s.db
  seen : ∀ db, s.Saw db → db.approvalRequest.Persists SameBinding s.db.approvalRequest

/-- The bindings of a state persist through a step. -/
theorem RunStep.persists {db db' : Db} (h : RunStep db db') :
    db.approvalRequest.Persists SameBinding db'.approvalRequest := by
  have hdecided : ∀ {reached row row'},
      LeavesPending reached row row' db.approvalRequest db'.approvalRequest →
      db.approvalRequest.Persists SameBinding db'.approvalRequest := by
    intro reached row row' hleaves r hr
    by_cases heq : r = row
    · rw [heq]
      exact ⟨row', hleaves.replaced.mem_new, hleaves.approvalId, hleaves.agentRunId⟩
    · exact ⟨r, (hleaves.replaced.mem_iff r).mpr (.inr ⟨hr, heq⟩), .refl r⟩
  cases h with
  | kept hkept => rw [hkept.bindings]; exact .refl .refl _
  | accepted run bindings runs queued => rw [bindings]; exact .refl .refl _
  | moved run run' bindings runs same before after => rw [bindings]; exact .refl .refl _
  | bound row runs bindings planner => exact .of_insert? .refl bindings
  | paused row run bindings pending names running runs => exact .of_insert? .refl bindings
  | decided reached row row' runs terminal bindings planner => exact hdecided bindings
  | resumed row row' run bindings names waiting runs => exact hdecided bindings
  | cancelled reached row row' run closed bindings names waiting runs => exact hdecided bindings

theorem RunsSound.commit {s : TurnSys} (h : RunsSound s) {db' : Db} (hstep : RunStep s.db db') :
    RunsSound (s.commit db') := by
  refine ⟨h.agree.step hstep, fun db hsaw => ?_⟩
  cases hsaw with
  | inl heq => rw [heq]; exact .refl .refl _
  | inr hmem =>
    have hseen : s.Saw db := by
      cases List.mem_cons.mp hmem with
      | inl heq => exact .inl heq
      | inr hpast => exact .inr hpast
    exact (h.seen db hseen).trans SameBinding.trans hstep.persists

theorem RunsSound.viewKept {s : TurnSys} (h : RunsSound s) {view : DecisionView}
    (hseen : ∀ binding, view.binding = some binding →
      ∃ db, s.Saw db ∧ ∃ row ∈ db.approvalRequest, row.binding = binding) :
    ViewKept view s.db := by
  intro binding hbinding row hrow hid
  obtain ⟨db, hsaw, old, hold, rfl⟩ := hseen binding hbinding
  obtain ⟨now, hnow, hsame⟩ := h.seen db hsaw old hold
  have heq : row = now := eq_of_approvalId hrow hnow (hid.trans hsame.approvalId.symm)
  rw [heq]
  exact hsame.agentRunId

/-- **Every action is one step of runs and bindings.** -/
theorem RunsSound.runStep {s : TurnSys} (h : RunsSound s) {action : TurnAction}
    (henabled : action.Enabled s) (hwhole : action.Whole s) :
    RunStep s.db (s.perform action).db ∧ RunsSound (s.perform action) := by
  -- an action that is one transaction, committed or rolled back
  have hcommit : ∀ {db'}, RunStep s.db db' →
      RunStep s.db (s.commit db').db ∧ RunsSound (s.commit db') :=
    fun hstep => ⟨hstep, h.commit hstep⟩
  cases action with
  | acceptTurn env conversationId siteId actorId requestId text =>
    exact hcommit (runStep_commit acceptTurn_step)
  | claim conversationId agentRunId siteId =>
    have hstep : RunStep s.db ((claimQueuedRun conversationId agentRunId siteId).commit s.db).2 :=
      runStep_commit claimQueuedRun_step
    show RunStep s.db (s.claimed _).db ∧ RunsSound (s.claimed _)
    unfold TurnSys.claimed
    split
    · exact ⟨hstep, (h.commit hstep).agree, (h.commit hstep).seen⟩
    · exact hcommit hstep
  | finish turn env settings codec view outcome requestId =>
    exact hcommit (runStep_commit finish_runStep)
  | revise env catalogue cmd =>
    exact hcommit (runStep_commit fun hrun => .kept ((reviseProposal_runsKept ..).followed hrun))
  | reject env catalogue cmd =>
    exact hcommit (runStep_commit fun hrun => .kept ((rejectProposal_runsKept ..).followed hrun))
  | createApproval env settings cmd => exact hcommit (createApproval_runStep env settings cmd s.db)
  | decideApproval ctx enabled cmd view =>
    exact hcommit (decideRequest_runStep (h.viewKept henabled) hwhole)
  | elsewhere db' => exact hcommit (.kept ⟨henabled.runs, henabled.bindings⟩)
  | _ => exact ⟨.refl s.db, h.agree, h.seen⟩

theorem RunsSound.initial {s : TurnSys} (h : s.Initial) : RunsSound s where
  agree := by
    refine ⟨fun run hrun => ?_, fun row hrow => ?_⟩
    · rw [h.runs] at hrun; exact absurd hrun (Table.not_mem_empty run)
    · rw [h.bindings] at hrow; exact absurd hrow (Table.not_mem_empty row)
  seen db hsaw := by
    cases hsaw with
    | inl heq => rw [heq]; exact .refl .refl _
    | inr hmem => rw [h.past] at hmem; cases hmem

theorem runsSound_of_reachable {s : TurnSys} (hreach : Reachable wholeSystem s) : RunsSound s :=
  Machine.reachable_invariant RunsSound (fun _ => .initial)
    (fun _ _ h hstep => (h.runStep (And.left hstep) (And.right hstep)).2) hreach

theorem runStep_of_step {s s' : TurnSys} (hreach : Reachable wholeSystem s)
    (hstep : wholeSystem.step s s') : RunStep s.db s'.db := by
  obtain ⟨action, ⟨henabled, hwhole⟩, rfl⟩ := hstep
  exact ((runsSound_of_reachable hreach).runStep henabled hwhole).1

/-! ## Runs and bindings agree

A run waits exactly while one pending binding names it. -/

/-- A step pauses or releases a run for this binding: it creates the binding, or takes it out of
`pending`. By `RunsFollow` no run enters or leaves `approval_required` in another way. -/
inductive MovesFor (approvalId : Uuid) (db db' : Db) : Prop
  | created (row' : ApprovalRequestRow) (mem : row' ∈ db'.approvalRequest)
      (id : row'.binding.approvalId = approvalId)
      (fresh : ∀ old ∈ db.approvalRequest, old.binding.approvalId ≠ approvalId)
  | left (row row' : ApprovalRequestRow) (mem : row ∈ db.approvalRequest)
      (mem' : row' ∈ db'.approvalRequest) (id : row.binding.approvalId = approvalId)
      (id' : row'.binding.approvalId = approvalId) (before : row.binding.state = .pending)
      (after : row'.binding.state ≠ .pending)

/-- A decided binding is there unchanged after any run. -/
theorem terminal_of_run {s s' : TurnSys} (hreach : Reachable wholeSystem s)
    (hrun : Run wholeSystem s s') {row : ApprovalRequestRow} (hrow : row ∈ s.db.approvalRequest)
    (hdecided : row.binding.state ≠ .pending) : row ∈ s'.db.approvalRequest :=
  Run.preserves (P := fun s' => row ∈ s'.db.approvalRequest)
    (fun _ _ hreach' hmem hstep =>
      (runStep_of_step hreach' hstep).follow.terminal row hmem hdecided) hreach hrun hrow

/-- **Agent runs and approval bindings agree**, for every interleaving in which a request either
commits all its writes or rolls back: a run waits exactly while one pending binding names it; a
binding that leaves `pending` moves its run in the same step; and once a binding is decided, no
step moves a run for it again. -/
theorem runs_and_bindings_agree {s : TurnSys} (hreach : Reachable wholeSystem s) :
    (∀ run ∈ s.db.agentRun, run.status = .approvalRequired ↔
      ∃! row, row ∈ s.db.approvalRequest ∧ row.binding.state = .pending ∧
        row.binding.agentRunId = some run.id) ∧
    (∀ s', wholeSystem.step s s' → RunsFollow s.db s'.db) ∧
    ∀ row ∈ s.db.approvalRequest, row.binding.state ≠ .pending →
      ∀ s' s'', Run wholeSystem s s' → wholeSystem.step s' s'' →
        row ∈ s'.db.approvalRequest ∧ ¬ MovesFor row.binding.approvalId s'.db s''.db := by
  refine ⟨fun run hrun => ?_, fun s' hstep => ?_, fun row hrow hdecided s' s'' hrun _ => ?_⟩
  · exact (runsSound_of_reachable hreach).agree.iff_existsUnique hrun
  · exact (runStep_of_step hreach hstep).follow
  · have hmem := terminal_of_run hreach hrun hrow hdecided
    refine ⟨hmem, fun hmoves => ?_⟩
    cases hmoves with
    | created row' mem' id fresh => exact fresh row hmem rfl
    | left old row' mem mem' id id' before after =>
      rw [eq_of_approvalId mem hmem id] at before
      exact hdecided before

namespace Card

/-- Schedule run 102 has completed with candidate 104. -/
def computed (db : Db) : Db :=
  { db with
    scheduleRun := Desk.db.scheduleRun
    scheduleVersion := Desk.db.scheduleVersion }

/-- What a request for run 102 reads there. -/
def requestView : RequestView where
  run := some ⟨.solverCompleted, 3⟩
  candidate := some Desk.candidate
  existing := []
  baseline := none

/-- The outcome of a turn that asks to promote the candidate. -/
def suspended : AgentRunOutcomeV1 where
  status := .suspended
  approval := some ⟨[⟨"call", schedulingBaselineCapability, "{}"⟩]⟩

/-- Turn 1 is claimed while the candidate is computed. -/
def claimed : TurnSys := wholeMachine.performAll site [accept 1, claim 1]

/-- Turn 1 asks for the approval, and its run waits. -/
def waiting : TurnSys := wholeMachine.performAll claimed
  [.elsewhere (computed claimed.db),
    .finish (turn 1) (env 3) settings codec requestView suspended 60]

/-- The approval of the binding that turn 1 asked for. -/
def approve : TurnAction :=
  .decideApproval (Desk.ctx 6) true { Desk.approve with approvalId := 300 }
    ⟨none, waiting.db.approvalRequest.rows.head?.map ApprovalRequestRow.binding,
      some Desk.candidate, some ⟨.solverCompleted, 3⟩, none, true⟩

theorem claimed_reachable : Reachable wholeSystem claimed :=
  Machine.reachable_of_schedule site_initial ⟨⟨trivial, trivial⟩, ⟨trivial, trivial⟩, trivial⟩

theorem waiting_reachable : Reachable wholeSystem waiting := by
  refine claimed_reachable.run (Machine.run_of_schedule ⟨⟨?_, trivial⟩, ⟨?_, trivial⟩, trivial⟩)
  · exact ⟨rfl, rfl, rfl, rfl⟩
  · exact ⟨⟨{}, by decide +kernel⟩, .bound binding suspended suspended [] rfl rfl
      (fun _ hmem => by cases hmem) rfl⟩

/-- A decision may read the first binding there is. -/
theorem decide_first_enabled (s : TurnSys) (ctx : DecisionContext) (enabled : Bool)
    (cmd : DecideApprovalCommand) (view : DecisionView)
    (hfirst : view.binding = s.db.approvalRequest.rows.head?.map ApprovalRequestRow.binding) :
    (TurnAction.decideApproval ctx enabled cmd view).Enabled s := by
  intro binding hbinding
  rw [hfirst] at hbinding
  obtain ⟨row, hrow, hsome⟩ := Option.map_eq_some_iff.mp hbinding
  exact ⟨s.db, .inl rfl, row, List.mem_of_mem_head? hrow, hsome⟩

theorem approve_enabled : approve.Enabled waiting := by
  unfold approve
  apply decide_first_enabled
  dsimp only

/-- The approval is not refused. -/
theorem approve_whole : approve.Whole waiting := by
  intro e db' hrun
  have hok : ((decideApproval (Desk.ctx 6) true { Desk.approve with approvalId := 300 }
      ⟨none, waiting.db.approvalRequest.rows.head?.map ApprovalRequestRow.binding,
        some Desk.candidate, some ⟨.solverCompleted, 3⟩, none, true⟩).run waiting.db).1.isOk =
      true := by
    decide +kernel
  rw [hrun] at hok
  cases hok

end Card

/-- Run 101 waits for one binding; the approval of that binding is a step that moves the run with
it. -/
theorem runs_and_bindings_agree_card :
    (∃ run ∈ Card.waiting.db.agentRun, run.status = .approvalRequired ∧
      ∃! row, row ∈ Card.waiting.db.approvalRequest ∧ row.binding.state = .pending ∧
        row.binding.agentRunId = some run.id) ∧
    RunsFollow Card.waiting.db (Card.waiting.perform Card.approve).db := by
  have hagree := runs_and_bindings_agree Card.waiting_reachable
  have hwaits : ∃ run ∈ Card.waiting.db.agentRun.rows, run.status = .approvalRequired := by
    decide +kernel
  obtain ⟨run, hrun, hwaiting⟩ := hwaits
  refine ⟨⟨run, hrun, hwaiting, (hagree.1 run hrun).mp hwaiting⟩, ?_⟩
  exact hagree.2.1 _ ⟨Card.approve, ⟨Card.approve_enabled, Card.approve_whole⟩, rfl⟩

end ShiftMind
