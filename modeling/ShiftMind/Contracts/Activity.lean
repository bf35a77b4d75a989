import ShiftMind.Contracts.Turn
import ShiftMind.Library.DateTime
import ShiftMind.Streaming.StreamCursor

/-!
# ShiftMind — activities

`application/contracts/activity.py`: what the timeline of a conversation and of a schedule run
shows. Every activity of a conversation carries the same head; the progress of a schedule run has
none, for it belongs to no conversation. Where the workflows only name an activity, this is all of
it, its identifiers and times as wide as they are written.
-/

namespace ShiftMind.Activity

/-! ## Identifiers -/

/-- A `UUID`: 128 bits. -/
abbrev Uuid128 := {u : Uuid // u < 2 ^ 128}

namespace Uuid128

/-- `UUID(int=n)`, of the low 128 bits of `n`. -/
instance (n : Nat) : OfNat Uuid128 n := ⟨⟨n % 2 ^ 128, Nat.mod_lt n (Nat.two_pow_pos 128)⟩⟩

/-- `str(u)`. -/
def str (u : Uuid128) : String := String.ofList (StreamCursor.uuidText u.1)

/-- `UUID(text)`. -/
def ofStr (text : String) : Option Uuid128 :=
  (StreamCursor.uuidOf text.toList).bind fun u => if h : u < 2 ^ 128 then some ⟨u, h⟩ else none

theorem ofStr_str (u : Uuid128) : ofStr u.str = some u := by
  unfold ofStr str
  rw [String.toList_ofList, StreamCursor.uuidOf_uuidText u.2, Option.bind_some]
  exact dif_pos u.2

end Uuid128

/-! ## Activities -/

/-- `ActivityTypeV1`. -/
inductive ActivityTypeV1 where
  | plannerMessage
  | agentResponse
  | clarification
  | draft
  | runProgress
  | comparison
  | approvalRequest
  | terminalOutcome
  deriving DecidableEq, Repr

def ActivityTypeV1.value : ActivityTypeV1 → String
  | plannerMessage => "planner_message"
  | agentResponse => "agent_response"
  | clarification => "clarification"
  | draft => "draft"
  | runProgress => "run_progress"
  | comparison => "comparison"
  | approvalRequest => "approval_request"
  | terminalOutcome => "terminal_outcome"

/-- The fields that every activity of a conversation has, but for its type, which is its class. -/
structure ConversationActivity where
  activityId : Uuid128
  conversationId : Uuid128
  conversationResourceVersion : Int
  scenarioId : Uuid128
  scenarioVersionId : Uuid128
  occurredAt : DateTime
  schemaVersion : String := "1"
  deriving DecidableEq

structure PlannerMessageActivityV1 extends ConversationActivity where
  messageId : Uuid128
  text : String
  deriving DecidableEq

structure AgentResponseActivityV1 extends ConversationActivity where
  response : GroundedResponseV1
  deriving DecidableEq

structure ClarificationActivityV1 extends ConversationActivity where
  clarification : ResolvedClarificationV1
  deriving DecidableEq

structure DraftActivityV1 extends ConversationActivity where
  proposalId : Uuid128
  proposalVersionId : Uuid128
  consequenceSummary : String
  deriving DecidableEq

structure RunProgressActivityV1 where
  activityId : Uuid128
  scheduleRunId : Uuid128
  status : ScheduleRunStatus
  reason : Option String
  resourceVersion : Int
  occurredAt : DateTime
  schemaVersion : String := "1"
  deriving DecidableEq

structure ApprovalRequestActivityV1 extends ConversationActivity where
  approvalId : Uuid128
  approvalState : ApprovalState
  agentRunId : Option Uuid128
  scheduleRunId : Uuid128
  candidateScheduleVersionId : Uuid128
  baselineScheduleVersion : Option String
  consequenceSummary : String
  parameterHash : String
  consequenceHash : String
  policyVersion : String
  expiresAt : DateTime
  deriving DecidableEq

structure TerminalOutcomeActivityV1 extends ConversationActivity where
  outcome : TerminalOutcomeV1
  deriving DecidableEq

/-- `ActivityItemV1`. -/
inductive ActivityItemV1 where
  | plannerMessage (a : PlannerMessageActivityV1)
  | agentResponse (a : AgentResponseActivityV1)
  | clarification (a : ClarificationActivityV1)
  | draft (a : DraftActivityV1)
  | runProgress (a : RunProgressActivityV1)
  | approvalRequest (a : ApprovalRequestActivityV1)
  | terminalOutcome (a : TerminalOutcomeActivityV1)
  deriving DecidableEq

/-- The times of an activity are in UTC. -/
def ActivityItemV1.Utc : ActivityItemV1 → Prop
  | plannerMessage a => a.occurredAt.offset = 0
  | agentResponse a => a.occurredAt.offset = 0
  | clarification a => a.occurredAt.offset = 0
  | draft a => a.occurredAt.offset = 0
  | runProgress a => a.occurredAt.offset = 0
  | approvalRequest a => a.occurredAt.offset = 0 ∧ a.expiresAt.offset = 0
  | terminalOutcome a => a.occurredAt.offset = 0

end ShiftMind.Activity
