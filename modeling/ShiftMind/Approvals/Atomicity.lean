import ShiftMind.Approvals.Promotion
import ShiftMind.Approvals.System

/-!
# ShiftMind — is a promotion all or nothing?

The source promises that any failure after the first write of a promotion leaves the endpoint, so
that the whole bundle rolls back. The route re-raises two of the classes such a failure can have
and returns the third: an unreadable payload is answered with a problem response, and the session
behind it commits what was written by then.

* **`decideRequest_notPromoted`** — every request that is not admitted to a promotion.
* **`admitDecision_promote`** — which requests are.
* **`promotion_all_or_nothing_iff`** — one request, from any database, on any view of it.
-/

namespace ShiftMind

open Relational Transactional ApprovalRepository ConversationRepository

/-! ## The other outcomes of a decision -/

/-- A binding is closed where its row is still pending; otherwise nothing is written. -/
theorem closeBinding_cases (ctx : DecisionContext) (binding : ApprovalBindingV1)
    {outcome : ApprovalState} (houtcome : outcome ≠ .pending) (db : Db) :
    (∃ row row' db', isApproval binding.approvalId ctx.siteId row = true ∧
      Left outcome row row' db db' ∧
      (closeBinding ctx binding outcome).run db = (.ok row'.binding, db')) ∨
    ∃ e, (closeBinding ctx binding outcome).run db = (.error e, db) := by
  unfold closeBinding
  cases houtage : ctx.outage .terminalize with
  | some message =>
    exact .inr ⟨_, Tx.run_bind_of_error (attempt_error.mpr (.inl ⟨message, rfl, rfl, rfl⟩))⟩
  | none =>
    rcases leavePending_run houtcome binding.approvalId ctx.siteId ctx.actorId ctx.env.clock none
      binding.resourceVersion db with ⟨row, row', db', hsel, hleft, hrun⟩ | ⟨-, hrun⟩
    · exact .inl ⟨row, row', db', (pendingAt_iff.mp hsel).1, hleft,
        Tx.run_bind_of_ok (attempt_ok.mpr ⟨rfl, hrun⟩)⟩
    · exact .inr ⟨_, Tx.run_bind_of_ok (attempt_ok.mpr ⟨rfl, hrun⟩)⟩

theorem cancelWaitingRun_notPromoted (ctx : DecisionContext) (terminal : ApprovalBindingV1)
    (outcome : ApprovalState) : (cancelWaitingRun ctx terminal outcome).Leads NotPromoted := by
  unfold cancelWaitingRun
  cases terminal.agentRunId with
  | none => exact NotPromoted.ofStill (.pure _)
  | some agentRunId => exact attempt_leads (cancelAgentRunForApproval_notPromoted ..)

/-- Closing a binding promotes nothing. -/
theorem terminalWrites_notPromoted (ctx : DecisionContext) (binding : ApprovalBindingV1)
    {outcome : ApprovalState} (hpending : outcome ≠ .pending) (hconsumed : outcome ≠ .consumed)
    (check : RevalidationV1) (candidate : Option ScheduleVersionV1) :
    (terminalWrites ctx binding outcome check candidate).Leads NotPromoted := by
  refine ⟨fun {db result db'} h => ?_⟩
  unfold terminalWrites at h
  obtain ⟨terminal, db₁, hclose, h₁⟩ := Tx.bind_ok.mp h
  rcases closeBinding_cases ctx binding hpending db with
    ⟨row, row', db₁', -, hleft, hrun⟩ | ⟨e, hrun⟩
  · rw [hrun] at hclose
    cases hclose
    have hrest : NotPromoted db₁ db' := by
      refine (NotPromoted.andThen (cancelWaitingRun_notPromoted ..) fun _ => ?_).led h₁
      refine NotPromoted.andThen (attempt_leads (append_notPromoted fun _ => ?_)) fun _ => ?_
      · cases outcome <;> simp_all [terminalAudit, ApprovalState.auditOutcome]
      · exact NotPromoted.andThen (attempt_leads (appendApprovalActivity_notPromoted
          (by rw [hleft.state]; exact hconsumed) ..)) fun _ => NotPromoted.ofStill (.pure _)
    exact (hleft.notPromoted hconsumed).trans _ _ _ hrest
  · rw [hrun] at hclose
    cases hclose

/-- What the route catches of it wrote nothing. -/
theorem terminalWrites_fails (ctx : DecisionContext) (binding : ApprovalBindingV1)
    {outcome : ApprovalState} (hpending : outcome ≠ .pending) (check : RevalidationV1)
    (candidate : Option ScheduleVersionV1) :
    (terminalWrites ctx binding outcome check candidate).Fails (fun e => caught e = true)
      fun db db' => db' = db := by
  unfold terminalWrites
  refine Tx.Fails.bind_never ⟨fun {db e db'} h _ => ?_⟩ fun terminal => ?_
  · rcases closeBinding_cases ctx binding hpending db with
      ⟨row, row', db₁, -, -, hrun⟩ | ⟨e', hrun⟩
    · rw [hrun] at h; cases h
    · rw [hrun] at h; cases h; rfl
  · refine never_bind ?_ fun _ =>
      never_bind (never_attempt foreign_caught (never_append foreign_caught _)) fun _ =>
      never_bind (never_attempt foreign_caught (never_appendApprovalActivity foreign_caught ..))
        fun _ => never_pure _
    unfold cancelWaitingRun
    cases terminal.agentRunId with
    | none => exact never_pure _
    | some agentRunId =>
      exact never_attempt foreign_caught (never_cancelAgentRunForApproval foreign_caught ..)

/-! ## The route -/

/-- Auditing a denial promotes nothing. -/
theorem auditDenial_notPromoted (ctx : DecisionContext) (cmd : DecideApprovalCommand) :
    (auditDenial ctx cmd).Leads NotPromoted := by
  unfold auditDenial
  refine NotPromoted.andThen (NotPromoted.ofStill (.bind (Relvar.still_selectOne ..) fun _ =>
    .pure _)) fun denied => ?_
  cases denied with
  | none => exact NotPromoted.ofStill (.pure _)
  | some denied =>
    refine NotPromoted.andThen (NotPromoted.ofStill (.bind (Relvar.still_selectOne ..) fun _ =>
      .pure _)) fun candidate => ?_
    exact attempt_leads (append_notPromoted fun hsuccess => by cases hsuccess)

theorem handleDecisionError_notPromoted (ctx : DecisionContext) (cmd : DecideApprovalCommand)
    (e : PyError) : (handleDecisionError ctx cmd e).Leads NotPromoted := by
  unfold handleDecisionError
  split
  · refine .ite (fun _ => .throw _) fun _ => ?_
    refine NotPromoted.andThen (.ite (fun _ => auditDenial_notPromoted ctx cmd) fun _ =>
      NotPromoted.ofStill (.pure _)) fun _ => NotPromoted.ofStill (.pure _)
  · exact .throw _

/-- An exception the route does not know goes on unchanged. -/
theorem handleDecisionError_escaped (ctx : DecisionContext) (cmd : DecideApprovalCommand)
    {e : PyError} (he : caught e = false) :
    (Sum.inr <$> handleDecisionError ctx cmd e : DbTx (DecisionResultV1 ⊕ Problem)) = throw e := by
  unfold handleDecisionError
  split
  · rename_i cls message expected current
    have hreraised : reraised cls = true := by simpa [caught] using he
    rw [hreraised]
    rfl
  · rfl

theorem answerDecision_receiptOnly (ctx : DecisionContext) (cmd : DecideApprovalCommand)
    (result : DecisionResultV1) : (answerDecision ctx cmd result).Leads ReceiptOnly := by
  unfold answerDecision
  refine .ite (fun _ => ?_) fun _ => ?_
  all_goals
    refine .bind ReceiptOnly.trans
      (attempt_leads (storeIdempotentResult_receiptOnly ..)) fun _ => ?_
    exact .of_still ReceiptOnly.refl (.pure _)

/-- A receipt beside a promotion leaves it a promotion. -/
theorem AllPromoted.beside_receipt {binding : ApprovalBindingV1} {db db' db'' : Db}
    (h : AllPromoted binding db db') (hreceipt : ReceiptOnly db' db'') :
    AllPromoted binding db db'' := by
  rw [show db'' = _ from hreceipt]
  exact ⟨h.consumed, h.moved, h.audited, h.shown, h.resumed, h.applied⟩

/-- The answer to a repeated decision writes nothing. -/
theorem replayDecision_still (ctx : DecisionContext) (cmd : DecideApprovalCommand)
    (stored : CommandIdempotencyRow) : (replayDecision ctx cmd stored).Still := by
  unfold replayDecision
  refine .ite (.pure _) ?_
  split
  · exact .pure _
  · refine .bind (.bind (Relvar.still_selectOne ..) fun _ => .pure _) fun replayed => ?_
    cases replayed with
    | none => exact .pure _
    | some replayed => exact .ite (.pure _) (.pure _)
  · exact .throw _

/-- A request whose decision promotes nothing, and fails without a promotion, promotes nothing. -/
theorem decideRequest_notPromoted {ctx : DecisionContext} {enabled : Bool}
    {cmd : DecideApprovalCommand} {view : DecisionView}
    (hleads : (decideApproval ctx enabled cmd view).Leads NotPromoted)
    (hfails : (decideApproval ctx enabled cmd view).Fails (fun e => caught e = true) NotPromoted)
    (db : Db) : NotPromoted db (decideRequest ctx enabled cmd view db).2 := by
  have hroute : (decideApprovalRoute ctx enabled cmd view).Leads NotPromoted := by
    unfold decideApprovalRoute
    refine .ite (fun _ => NotPromoted.ofStill (.pure _)) fun _ => ?_
    cases view.stored with
    | some stored => exact NotPromoted.ofStill (replayDecision_still ..)
    | none =>
      refine NotPromoted.andThen ?_ fun result => ?_
      · refine .tryCatch NotPromoted.trans (NotPromoted.andThen hleads fun _ =>
          NotPromoted.ofStill (.pure _)) (hfails.bind_never fun _ => never_pure _)
          (fun e _ => NotPromoted.andThen (handleDecisionError_notPromoted ctx cmd e) fun _ =>
            NotPromoted.ofStill (.pure _))
          fun e he => handleDecisionError_escaped ctx cmd (by simpa using he)
      · cases result with
        | inl result =>
          exact (answerDecision_receiptOnly ctx cmd result).mono ReceiptOnly.notPromoted
        | inr problem => exact NotPromoted.ofStill (.pure _)
  have hcommit := hroute.commit NotPromoted.refl db
  unfold decideRequest approvalEndpoint
  split <;> rename_i heq <;> rw [heq] at hcommit <;> exact hcommit

/-! ## What a decision is admitted to

An admitted decision either promotes the binding it read or closes it; everything else is answered
before the first write. -/

/-- A decision is admitted to a promotion exactly when policy grants it, the binding it saw is
pending at the version the client pinned, unexpired and still valid, and the client approves. -/
theorem admitDecision_promote {env : Ambient} {enabled : Bool} {cmd : DecideApprovalCommand}
    {view : DecisionView} {binding : ApprovalBindingV1} :
    admitDecision env enabled cmd view = .ok (.promote binding) ↔
      enabled = true ∧ view.binding = some binding ∧ binding.state = .pending ∧
      binding.resourceVersion = cmd.expectedResourceVersion ∧ env.clock < binding.expiresAt ∧
      stillValid env enabled view binding = true ∧ cmd.decision = .approve := by
  unfold admitDecision
  cases enabled with
  | false => simp
  | true =>
    cases hbinding : view.binding with
    | none => simp
    | some seen =>
      simp only [if_false, Option.some.injEq, Bool.true_eq_false]
      -- each guard in the order of the source, and each one's failure
      by_cases hpending : seen.state = .pending
      case neg => simp [hpending]; rintro rfl; simp [hpending]
      by_cases hversion : seen.resourceVersion = cmd.expectedResourceVersion
      case neg => simp [hpending, hversion]; rintro rfl; simp [hversion]
      simp only [hpending, hversion, ne_eq, not_true_eq_false, if_false]
      unfold revalidateBinding
      by_cases hexpired : seen.expiresAt ≤ env.clock
      · simp only [if_pos hexpired]
        constructor
        · intro h; cases h
        · rintro ⟨-, rfl, -, -, hclock, -⟩
          exact absurd hexpired (not_le.mpr hclock)
      by_cases hvalid : stillValid env true view seen = true
      · cases hdecision : cmd.decision with
        | approve =>
          simp only [if_neg hexpired, hvalid, if_true, Except.ok.injEq,
            DecisionAdmission.promote.injEq]
          constructor
          · rintro rfl
            exact ⟨trivial, rfl, hpending, hversion, not_le.mp hexpired, hvalid, trivial⟩
          · rintro ⟨-, rfl, -⟩; rfl
        | reject =>
          simp only [if_neg hexpired, hvalid, if_true]
          constructor
          · intro h; cases h
          · rintro ⟨-, -, -, -, -, -, h⟩; cases h
      · simp only [if_neg hexpired, if_neg hvalid]
        constructor
        · intro h; cases h
        · rintro ⟨-, rfl, -, -, -, h, -⟩; exact absurd h hvalid

/-- A decision that closes a binding leaves it rejected, expired or stale. -/
theorem admitDecision_close {env : Ambient} {enabled : Bool} {cmd : DecideApprovalCommand}
    {view : DecisionView} {binding : ApprovalBindingV1} {outcome : ApprovalState}
    {check : RevalidationV1} (h : admitDecision env enabled cmd view =
      .ok (.close binding outcome check)) : outcome ≠ .pending ∧ outcome ≠ .consumed := by
  unfold admitDecision at h
  split at h
  · cases h
  split at h
  · cases h
  rename_i seen hseen
  split at h
  · cases h
  split at h
  · cases h
  unfold revalidateBinding at h
  by_cases hexpired : seen.expiresAt ≤ env.clock
  · simp only [if_pos hexpired] at h
    cases h; decide
  · by_cases hvalid : stillValid env enabled view seen = true
    · simp only [if_neg hexpired, if_pos hvalid] at h
      cases hdecision : cmd.decision <;> rw [hdecision] at h <;> cases h
      decide
    · simp only [if_neg hexpired, if_neg hvalid] at h
      cases h; decide

/-- A decision that is not admitted to a promotion promotes nothing. -/
theorem decideApproval_notPromoted {ctx : DecisionContext} {enabled : Bool}
    {cmd : DecideApprovalCommand} {view : DecisionView}
    (hnot : ∀ binding, admitDecision ctx.env enabled cmd view ≠ .ok (.promote binding)) :
    (decideApproval ctx enabled cmd view).Leads NotPromoted ∧
      (decideApproval ctx enabled cmd view).Fails (fun e => caught e = true) NotPromoted := by
  unfold decideApproval
  cases hadmitted : admitDecision ctx.env enabled cmd view with
  | error e => exact ⟨⟨fun h => by cases h⟩, ⟨fun {db e' db'} h _ => by cases h; exact .refl db⟩⟩
  | ok admission =>
    cases admission with
    | promote binding => exact absurd hadmitted (hnot binding)
    | close binding outcome check =>
      obtain ⟨hpending, hconsumed⟩ := admitDecision_close hadmitted
      exact ⟨⟨fun h => (terminalWrites_notPromoted ctx binding hpending hconsumed check
          view.candidate).led h⟩,
        ⟨fun h hcaught => by
          rw [(terminalWrites_fails ctx binding hpending check view.candidate).failed h hcaught]
          exact .refl _⟩⟩

/-! ## One request

A request is one transaction: what it answers with is committed, and what it raises takes everything
back. -/

/-- **The failing requests.** A first approval of a binding that is pending, unexpired and still
valid in what the request saw, in a state with the gap. -/
structure PayloadGap (ctx : DecisionContext) (enabled : Bool) (cmd : DecideApprovalCommand)
    (view : DecisionView) (binding : ApprovalBindingV1) (db : Db) : Prop where
  granted : enabled = true
  first : view.stored = none
  seen : view.binding = some binding
  seenPending : binding.state = .pending
  seenVersion : binding.resourceVersion = cmd.expectedResourceVersion
  unexpired : ctx.env.clock < binding.expiresAt
  valid : stillValid ctx.env enabled view binding = true
  approves : cmd.decision = .approve
  gap : PromotionGap ctx binding db

/-- A valid binding has the candidate its revalidation resolved. -/
theorem candidate_of_stillValid {env : Ambient} {enabled : Bool} {view : DecisionView}
    {binding : ApprovalBindingV1} (hvalid : stillValid env enabled view binding = true) :
    ∃ candidate, view.candidate = some candidate := by
  cases hview : view.candidate with
  | some candidate => exact ⟨candidate, rfl⟩
  | none => simp [stillValid, validCandidate, hview] at hvalid

theorem approveWrites_run {ctx : DecisionContext} {binding : ApprovalBindingV1}
    {candidate : ScheduleVersionV1} (hpending : binding.state = .pending) (db : Db) :
    (approveWrites ctx binding (some candidate)).run db =
      match (promotionWrites ctx binding candidate).run db with
      | (.ok promoted, db') =>
        (.ok
          { outcome := .consumed
            binding := promoted.binding
            activity := promoted.activity
            baseline := some promoted.baseline
            resume := promoted.resume }, db')
      | (.error e, db') => (.error (postWriteNotPending e), db') := by
  unfold approveWrites promoteBaseline
  rw [if_neg (by simp [hpending]), Tx.run_bind, Tx.run_tryCatch]
  cases (promotionWrites ctx binding candidate).run db with
  | mk r db' => cases r <;> rfl

/-- Renaming a lost race keeps what leaves the endpoint outside the route's reach. -/
theorem caught_postWriteNotPending {e : PyError} (he : caught e = false) :
    caught (postWriteNotPending e) = false := by
  unfold postWriteNotPending
  split
  · split
    · rfl
    · exact he
  · exact he

/-- The end of a decision's route. -/
def concludeDecision (ctx : DecisionContext) (cmd : DecideApprovalCommand) :
    DecisionResultV1 ⊕ Problem → DbTx ApprovalResponse
  | .inr problem => pure (.problem problem)
  | .inl result => answerDecision ctx cmd result

/-- The request of an admitted promotion. -/
theorem decideRequest_promote {ctx : DecisionContext} {enabled : Bool}
    {cmd : DecideApprovalCommand} {view : DecisionView} {binding : ApprovalBindingV1}
    (hfirst : view.stored = none)
    (hadmitted : admitDecision ctx.env enabled cmd view = .ok (.promote binding)) (db : Db) :
    (¬ PromotionGap ctx binding db ∧
      (AllPromoted binding db (decideRequest ctx enabled cmd view db).2 ∨
        (decideRequest ctx enabled cmd view db).2 = db)) ∨
    (PromotionGap ctx binding db ∧ HalfPromoted db (decideRequest ctx enabled cmd view db).2) := by
  obtain ⟨henabled, hseen, hpending, -, -, hvalid, -⟩ := admitDecision_promote.mp hadmitted
  obtain ⟨candidate, hcandidate⟩ := candidate_of_stillValid hvalid
  have hdecide : (decideApproval ctx enabled cmd view).run db =
      (approveWrites ctx binding (some candidate)).run db := by
    rw [← hcandidate]
    unfold decideApproval
    rw [hadmitted]
    rfl
  rw [approveWrites_run hpending] at hdecide
  -- an enabled decision without a receipt attempts the decision and answers with what came of it
  have hroute : (decideApprovalRoute ctx enabled cmd view).run db =
      ((attemptDecision ctx enabled cmd view) >>= concludeDecision ctx cmd).run db := by
    unfold decideApprovalRoute
    rw [henabled, hfirst]
    rfl
  unfold decideRequest approvalEndpoint
  rcases promotionWrites_cases ctx binding candidate db with
    ⟨hgap, result, db₁, hall, -, hrun⟩ |
    ⟨hgap, message, expected, current, db₁, hhalf, -, hrun⟩ |
    ⟨hgap, e, db₁, he, hrun⟩
  · left
    refine ⟨hgap, ?_⟩
    rw [hrun] at hdecide
    have hattempt : (attemptDecision ctx enabled cmd view).run db = (.ok (.inl _), db₁) :=
      Tx.run_tryCatch_of_ok (Tx.run_map_of_ok Sum.inl hdecide)
    rw [Tx.run_bind_of_ok hattempt] at hroute
    -- the receipt is written beside the promotion, or takes it back
    cases hanswer : (concludeDecision ctx cmd (.inl _)).run db₁ with
    | mk r db₂ =>
      cases r with
      | error e =>
        right
        rw [Tx.commit_of_error (hroute.trans hanswer)]
      | ok response =>
        left
        rw [Tx.commit_of_ok (hroute.trans hanswer)]
        have hwritten : ∀ decided, (concludeDecision ctx cmd (.inl decided)).Leads ReceiptOnly :=
          answerDecision_receiptOnly ctx cmd
        exact hall.beside_receipt ((hwritten _).led hanswer)
  · -- the bad payload is answered 422, and an answer is committed with what was written
    right
    refine ⟨hgap, ?_⟩
    rw [hrun] at hdecide
    have hattempt : (attemptDecision ctx enabled cmd view).run db =
        (.ok (.inr ⟨422, "approval_payload_unreadable", "Approval decision could not be completed",
          "The approval is no longer valid for this decision.",
          decisionContext expected current⟩), db₁) :=
      Tx.run_tryCatch_of_error (Tx.run_map_of_error Sum.inl hdecide)
    rw [Tx.run_bind_of_ok hattempt] at hroute
    rw [Tx.commit_of_ok hroute]
    exact hhalf
  · -- what nobody catches rolls everything back
    left
    refine ⟨hgap, .inr ?_⟩
    rw [hrun] at hdecide
    have hattempt : (attemptDecision ctx enabled cmd view).run db =
        (.error (postWriteNotPending e), db₁) := by
      refine (Tx.run_tryCatch_of_error (Tx.run_map_of_error Sum.inl hdecide)).trans ?_
      rw [handleDecisionError_escaped ctx cmd (caught_postWriteNotPending he)]
      rfl
    rw [Tx.commit_of_error (hroute.trans (Tx.run_bind_of_error hattempt))]

/-- **A promotion is all or nothing, up to the gap.** Whatever the request saw and whatever fails,
its transaction commits every part of the promotion or no part of any, exactly when it is not the
first approval of a valid binding whose payload cannot drive a resumed turn. -/
theorem promotion_all_or_nothing_iff (ctx : DecisionContext) (enabled : Bool)
    (cmd : DecideApprovalCommand) (view : DecisionView) (db : Db) :
    AllOrNothing view db (decideRequest ctx enabled cmd view db).2 ↔
      ¬ ∃ binding, PayloadGap ctx enabled cmd view binding db := by
  by_cases hpromote : view.stored = none ∧
      ∃ binding, admitDecision ctx.env enabled cmd view = .ok (.promote binding)
  · -- a promotion: whole or half, by the gap
    obtain ⟨hfirst, binding, hadmitted⟩ := hpromote
    obtain ⟨henabled, hseen, hpending, hversion, hclock, hvalid, hdecision⟩ :=
      admitDecision_promote.mp hadmitted
    rcases decideRequest_promote hfirst hadmitted db with ⟨hgap, hcommit⟩ | ⟨hgap, hhalf⟩
    · -- any other request promotes nothing
      refine iff_of_true ?_ ?_
      · rcases hcommit with hall | hsame
        · exact .inl ⟨binding, hseen, hall⟩
        · rw [hsame]; exact .inr (.refl db)
      · rintro ⟨seen, hseenGap⟩
        have hsame : seen = binding := Option.some.inj (hseenGap.seen.symm.trans hseen)
        exact hgap (hsame ▸ hseenGap.gap)
    · refine iff_of_false ?_ ?_
      · rintro (⟨seen, -, hall⟩ | hnone)
        · exact hhalf.not_allPromoted hall
        · exact hhalf.not_notPromoted hnone
      · exact fun h => h ⟨binding, henabled, hfirst, hseen, hpending, hversion, hclock, hvalid,
          hdecision, hgap⟩
  · refine iff_of_true ?_ ?_
    · right
      cases hstored : view.stored with
      | none =>
        have hnot : ∀ binding, admitDecision ctx.env enabled cmd view ≠ .ok (.promote binding) :=
          fun binding h => hpromote ⟨hstored, binding, h⟩
        exact decideRequest_notPromoted (decideApproval_notPromoted hnot).1
          (decideApproval_notPromoted hnot).2 db
      | some stored =>
        have hsame : (decideRequest ctx enabled cmd view db).2 = db := by
          have hstill : (decideApprovalRoute ctx enabled cmd view).Still := by
            unfold decideApprovalRoute
            rw [hstored]
            exact .ite (.pure _) (replayDecision_still ..)
          have hcommit := (hstill.unchanged db).commit
          unfold decideRequest approvalEndpoint
          split <;> rename_i heq <;> rw [heq] at hcommit <;> exact hcommit
        rw [hsame]; exact .refl db
    · rintro ⟨binding, hgap⟩
      exact hpromote ⟨hgap.first, binding, admitDecision_promote.mpr ⟨hgap.granted, hgap.seen,
        hgap.seenPending, hgap.seenVersion, hgap.unexpired, hgap.valid, hgap.approves⟩⟩

/-! ## A half promotion at the desk -/

namespace Desk

/-- The desk, once the agent's request was bound with a payload nobody can read. -/
def unreadable : Db := (bound .unreadable).db

/-- What the approval of second 6 reads there. -/
def view : DecisionView :=
  match ((DecisionView.read (ctx 6) approve).run unreadable).1 with
  | .ok view => view
  | .error _ => ⟨none, none, none, none, none, false⟩

/-- The state the approval commits. -/
def approved : Db := (decideRequest (ctx 6) true approve view unreadable).2

theorem approved_half : HalfPromoted unreadable approved := by
  refine ⟨?_, Table.ext_rows (by decide +kernel)⟩
  show ∃ row' ∈ approved.approvalRequest.rows, row'.binding.state = .consumed ∧
    row' ∉ unreadable.approvalRequest.rows
  decide +kernel

end Desk

/-- The approval is answered with an error, and its binding is consumed and its baseline moved all
the same. -/
theorem promotion_leaves_half :
    ¬ AllOrNothing Desk.view Desk.unreadable
      (decideRequest (Desk.ctx 6) true Desk.approve Desk.view Desk.unreadable).2 := by
  rintro (⟨binding, -, hall⟩ | hnone)
  · exact Desk.approved_half.not_allPromoted hall
  · exact Desk.approved_half.not_notPromoted hnone

end ShiftMind
