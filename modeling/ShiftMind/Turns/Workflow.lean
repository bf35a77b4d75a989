import ShiftMind.Turns.Beside
import ShiftMind.Turns.System

/-!
# ShiftMind — what every transaction of the workflow follows

A preorder that the statements of the workflow follow is followed by its transactions, and by every
step of the system that commits one.

* **`BesideWorkflow`** — such a preorder: all its tables may change but those of the event streams,
  which the writers of a conversation move.
* **`BesideWorkflow.perform`** — one step of the system.
-/

namespace ShiftMind

open Relational Transactional ConversationRepository ProposalRepository ScheduleRunRepository

/-- A preorder that every statement of the workflow follows. -/
structure BesideWorkflow (R : Db → Db → Prop) : Prop extends Beside R where
  runs : ∀ t db, R db (Db.agentRuns.put t db)
  bindings : ∀ t db, R db (Db.approvalRequests.put t db)
  proposals : ∀ t db, R db (Db.proposals.put t db)
  versions : ∀ t db, R db (Db.proposalVersions.put t db)
  accepts : ∀ (env : Ambient) (conversationId siteId actorId requestId : Uuid) (text : String),
    (acceptTurn env conversationId siteId actorId requestId text).Follows R
  finishes : ∀ (env : Ambient) (claimed : ClaimedAgentRunV1) (status : AgentRunStatus)
    (payload : ActivityPayload) (requestId : Uuid),
    (finishAgentRun env claimed status payload requestId).Follows R

section Workflow

variable {R : Db → Db → Prop} (hR : BesideWorkflow R)
include hR

theorem BesideWorkflow.finalizeAgentRun (env : Ambient) (claimed : ClaimedAgentRunV1)
    (status : AgentRunStatus) (payload : TurnPayload) (discard : Option AgentDraftDiscardV1)
    (requestId : Uuid) :
    (ShiftMind.finalizeAgentRun env claimed status payload discard requestId).Follows R := by
  have hdiscard := applyDiscard_follows hR.toBeside hR.proposals claimed
  cases payload with
  | answer answer =>
    cases discard with
    | none => exact hR.finishes ..
    | some discard =>
      refine hR.afterStill (lockClaimed_still ..) fun _ => ?_
      refine hR.afterStill (readOne_still _) fun _ => .ite (fun _ => hR.finishes ..) fun _ => ?_
      refine hR.bind (hR.finishes ..) fun _ => ?_
      exact hR.bind (hdiscard _) fun _ => hR.pure _
  | draft draft =>
    refine hR.afterStill (.lift _) fun reference => ?_
    refine hR.afterStill (lockClaimed_still ..) fun _ => ?_
    refine hR.afterStill (readOne_still _) fun _ => .ite (fun _ => hR.finishes ..) fun _ => ?_
    refine hR.bind (hR.finishes ..) fun _ => hR.bind (hdiscard _) fun _ => ?_
    exact hR.bind (applyDraft_follows hR.toBeside hR.proposals hR.versions ..) fun _ => hR.pure _

/-- The finish of a turn, resumed or not. -/
theorem BesideWorkflow.finish (turn : Turn) (env : Ambient) (settings : ApprovalSettings)
    (codec : ToolArgumentCodec) (view : RequestView) (outcome : AgentRunOutcomeV1)
    (requestId : Uuid) : (turn.finish env settings codec view outcome requestId).Follows R := by
  refine .ite (fun _ => hR.finalizeAgentRun ..) fun _ => ?_
  refine .ite (fun _ => ?_) fun _ => hR.finalizeAgentRun ..
  refine hR.afterStill (.lift _) fun call => ?_
  refine .ite (fun _ => hR.finalizeAgentRun ..) fun _ => ?_
  refine hR.afterStill (.lift _) fun request => ?_
  refine Tx.Follows.tryCatch hR.trans ?_ fun e => ?_
  · exact (requestSuspendedFrom_follows hR.toBeside hR.runs hR.bindings ..).map _
  · split
    · exact hR.finalizeAgentRun ..
    · exact hR.throw _

/-- **Every step of the workflow**, the rest of the application apart. -/
theorem BesideWorkflow.perform {s : TurnSys} {action : TurnAction}
    (helsewhere : ∀ db', action ≠ .elsewhere db') : R s.db (s.perform action).db := by
  -- a rolled-back step leaves the tables as they were
  have hcommit : ∀ {α : Type} {x : DbTx α}, x.Follows R → R s.db (x.commit s.db).2 :=
    fun hx => hx.leads.commit hR.refl s.db
  cases action with
  | acceptTurn env conversationId siteId actorId requestId text => exact hcommit (hR.accepts ..)
  | claim conversationId agentRunId siteId =>
    have hclaim := hcommit (claimQueuedRun_follows hR.toBeside hR.runs conversationId agentRunId
      siteId)
    show R s.db (s.claimed _).db
    unfold TurnSys.claimed
    split
    · exact hclaim
    · exact hclaim
  | finish turn env settings codec view outcome requestId => exact hcommit (hR.finish ..)
  | revise env catalogue cmd =>
    exact hcommit (reviseProposal_follows hR.toBeside hR.proposals hR.versions ..)
  | reject env catalogue cmd => exact hcommit (rejectProposal_follows hR.toBeside hR.proposals ..)
  | createApproval env settings cmd =>
    show R s.db (approvalEndpoint (createApprovalRoute env settings cmd) s.db).2
    rw [approvalEndpoint_snd]
    exact hcommit (createApprovalRoute_follows hR.toBeside hR.runs hR.bindings ..)
  | decideApproval ctx enabled cmd view =>
    show R s.db (decideRequest ctx enabled cmd view s.db).2
    rw [decideRequest, approvalEndpoint_snd]
    exact hcommit (decideApprovalRoute_follows hR.toBeside hR.runs hR.bindings
      (markApplied_follows hR.toBeside hR.proposals) ..)
  | elsewhere db' => exact absurd rfl (helsewhere db')
  | _ => exact hR.refl s.db

end Workflow

end ShiftMind
