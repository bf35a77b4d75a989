import ShiftMind.Library.Dict
import ShiftMind.Streaming.EventStream
import ShiftMind.Turns.System

/-!
# ShiftMind — the live view of a conversation

`hooks/useConversationStream.ts`: the client listens for named frames, remembers the sequence of
the last frame it handled, and appends its activity to a bounded list. An `EventSource` dispatches
a named frame to the listeners of that name and to no others.

* **`frame`** — what `_frame` renders of an event; **`activityItem`** — the activity it carries.
* **`deliver`** — a frame at the client: `onFrame` behind the list of listened names.
* **`live_iff_no_draft`** — which conversations the client follows to the end.
-/

namespace ShiftMind

open Relational Log ConversationRepository

/-! ## What a conversation persists -/

/-- The events of a conversation, as the three writers of its stream build them. -/
inductive ConversationEvent : PersistedEventRow → Prop
  | message (env : Ambient) (conversation : ConversationRow) (actorId requestId : Uuid)
      (text : String) (sequence : Int) :
      ConversationEvent (messageEvent env conversation actorId requestId text sequence)
  | approval (binding : ApprovalBindingV1) (actorId requestId : Uuid) (agentRunId : Option Uuid)
      (occurredAt : Instant) (sequence : Int) (conversation : ConversationRow) :
      ConversationEvent
        (approvalEvent binding actorId requestId agentRunId occurredAt sequence conversation)
  | turn (env : Ambient) (claimed : ClaimedAgentRunV1) (payload : ActivityPayload)
      (requestId : Uuid) (sequence : Int) (conversation : ConversationRow) :
      ConversationEvent (turnEvent env claimed payload requestId sequence conversation)

/-- The event of a turn that was finished with a draft. -/
def isDraftEvent (e : PersistedEventRow) : Bool :=
  match e.payload with
  | .turn activity =>
    match activity.payload with
    | .draft _ => true
    | .answer _ => false
  | _ => false

/-! ## Frames -/

/-- The `activity_type` of a payload. -/
def EventPayload.activityType : EventPayload → String
  | .runProgress _ => "run_progress"
  | .approvalRequest _ => "approval_request"
  | .plannerMessage _ => "planner_message"
  | .turn activity => activity.payload.activityType

/-- An activity as the timeline and the frames carry it; its sequence is a decimal text on the
wire. -/
structure ActivityItem where
  activityId : Uuid
  activityType : String
  sequence : Int
  payload : EventPayload
  deriving DecidableEq, Repr

/-- `_activity`; `idOf` reads the primary key of the row. -/
def activityItem (idOf : PersistedEventRow → Uuid) (e : PersistedEventRow) : ActivityItem where
  activityId := idOf e
  activityType := e.payload.activityType
  sequence := e.sequence
  payload := e.payload

/-- A frame, with its data parsed. -/
structure SseFrame where
  id : String
  event : String
  data : ActivityItem
  deriving DecidableEq, Repr

/-- `_frame`. -/
def frame (idOf : PersistedEventRow → Uuid) (e : PersistedEventRow) : SseFrame where
  id := formatEventId e.streamId e.sequence
  event := e.eventType
  data := activityItem idOf e

/-- The window of the timeline endpoint: the newest `limit` activities. -/
def timelineItems (idOf : PersistedEventRow → Uuid) (limit : Nat)
    (events : List PersistedEventRow) : List ActivityItem :=
  (newest limit events).map (activityItem idOf)

/-! ## The client -/

/-- `STREAMED_ACTIVITY_EVENTS`. -/
def streamedActivityEvents : List String :=
  ["planner_message_accepted", "agent_response", "clarification", "terminal_outcome",
    "approval_request"]

/-- `WINDOW_CAP`. -/
def windowCap : Nat := 200

/-- The resume cursor and the live items of the hook. -/
structure LiveView where
  cursor : Option Int := none
  live : List ActivityItem := []
  deriving DecidableEq, Repr

/-- `onFrame`. -/
def LiveView.onFrame (view : LiveView) (item : ActivityItem) : LiveView where
  cursor := some item.sequence
  live := newest windowCap (view.live ++ [item])

/-- A frame that arrives: the listeners of its name handle it. -/
def LiveView.deliver (view : LiveView) (f : SseFrame) : LiveView :=
  if streamedActivityEvents.contains f.event then view.onFrame f.data else view

/-- The client after these events, one frame each. -/
def LiveView.follow (idOf : PersistedEventRow → Uuid) (view : LiveView)
    (events : List PersistedEventRow) : LiveView :=
  events.foldl (fun view e => view.deliver (frame idOf e)) view

/-! ## Following a conversation -/

/-- A client that was connected from the start shows at every moment what the timeline would
return, and would resume behind the last event. -/
def FollowsLive (idOf : PersistedEventRow → Uuid) (events : List PersistedEventRow) : Prop :=
  ∀ seen, seen <+: events →
    (LiveView.follow idOf {} seen).live = timelineItems idOf windowCap seen ∧
    (LiveView.follow idOf {} seen).cursor = seen.getLast?.map PersistedEventRow.sequence

/-- What a conversation persists: events of its writers, under increasing sequences. -/
structure ConversationHistory (events : List PersistedEventRow) : Prop where
  written : ∀ e ∈ events, ConversationEvent e
  increasing : Increasing PersistedEventRow.sequence events

/-- Every name the backend persists has a listener, but that of a draft. -/
theorem streamed_iff_not_draft {e : PersistedEventRow} (h : ConversationEvent e) :
    streamedActivityEvents.contains e.eventType = true ↔ isDraftEvent e = false := by
  cases h with
  | message env conversation actorId requestId text sequence => exact iff_of_true rfl rfl
  | approval binding actorId requestId agentRunId occurredAt sequence conversation =>
    exact iff_of_true rfl rfl
  | turn env claimed payload requestId sequence conversation =>
    cases payload with
    | draft reference =>
      have hunheard : streamedActivityEvents.contains "draft" = false := by decide
      exact iff_of_false (Bool.eq_false_iff.mp hunheard) (by simp [isDraftEvent, turnEvent])
    | answer answer =>
      cases answer with
      | response response => exact iff_of_true rfl rfl
      | clarification clarification => exact iff_of_true rfl rfl
      | terminal outcome => exact iff_of_true rfl rfl

section Follow

variable {idOf : PersistedEventRow → Uuid}

theorem follow_concat (view : LiveView) (events : List PersistedEventRow) (e : PersistedEventRow) :
    LiveView.follow idOf view (events ++ [e]) =
      (LiveView.follow idOf view events).deliver (frame idOf e) := by
  simp [LiveView.follow]

/-- A handled frame moves the window and the cursor on. -/
theorem deliver_of_streamed {view : LiveView} {e : PersistedEventRow}
    (h : streamedActivityEvents.contains e.eventType = true) :
    view.deliver (frame idOf e) =
      ⟨some e.sequence, newest windowCap (view.live ++ [activityItem idOf e])⟩ := by
  unfold LiveView.deliver
  rw [show (frame idOf e).event = e.eventType from rfl, if_pos h]
  rfl

theorem deliver_of_not_streamed {view : LiveView} {e : PersistedEventRow}
    (h : streamedActivityEvents.contains e.eventType = false) :
    view.deliver (frame idOf e) = view := by
  unfold LiveView.deliver
  rw [show (frame idOf e).event = e.eventType from rfl, h]
  rfl

/-- While every name has a listener, the client keeps up. -/
theorem follow_of_streamed {events : List PersistedEventRow}
    (h : ∀ e ∈ events, streamedActivityEvents.contains e.eventType = true) :
    LiveView.follow idOf {} events =
      ⟨events.getLast?.map PersistedEventRow.sequence, timelineItems idOf windowCap events⟩ := by
  induction events using List.reverseRecOn with
  | nil => rfl
  | append_singleton events e ih =>
    have hbefore := ih fun e' he' => h e' (List.mem_append_left _ he')
    rw [follow_concat, hbefore, deliver_of_streamed (h e (by simp))]
    have hwindow : newest windowCap (timelineItems idOf windowCap events ++ [activityItem idOf e]) =
        timelineItems idOf windowCap (events ++ [e]) := by
      unfold timelineItems
      rw [← newest_map, ← newest_map, newest_newest_append, List.map_append, List.map_singleton]
    rw [hwindow, List.getLast?_concat]
    rfl

/-- A frame without a listener leaves the cursor behind. -/
theorem not_followsLive_of_draft {events : List PersistedEventRow} {e : PersistedEventRow}
    (hhistory : ConversationHistory events) (he : e ∈ events) (hdraft : isDraftEvent e = true) :
    ¬ FollowsLive idOf events := by
  intro hlive
  obtain ⟨before, rest, hsplit⟩ := List.append_of_mem he
  have hunheard : streamedActivityEvents.contains e.eventType = false := by
    rw [← Bool.not_eq_true, streamed_iff_not_draft (hhistory.written e he), hdraft]
    decide
  have hthrough : before ++ [e] <+: events := ⟨rest, by rw [hsplit]; simp⟩
  have hbefore := (hlive before ((List.prefix_append ..).trans hthrough)).2
  have hafter := (hlive (before ++ [e]) hthrough).2
  rw [follow_concat, deliver_of_not_streamed hunheard, hbefore, List.getLast?_concat] at hafter
  -- no event before it has its sequence
  obtain ⟨last, hlast, hsame⟩ := Option.map_eq_some_iff.mp hafter
  have hincreasing := hhistory.increasing
  rw [hsplit] at hincreasing
  have hlt := hincreasing.lt_of_append (List.mem_of_getLast? hlast) List.mem_cons_self
  exact absurd hsame hlt.ne

/-- **Which conversations a client follows live.** Of all the events a conversation can persist,
exactly those of a turn that was finished with a draft are missed. -/
theorem live_iff_no_draft {events : List PersistedEventRow}
    (hhistory : ConversationHistory events) :
    FollowsLive idOf events ↔ ∀ e ∈ events, isDraftEvent e = false := by
  constructor
  · intro hlive e he
    by_contra hdraft
    exact not_followsLive_of_draft hhistory he (Bool.not_eq_false _ ▸ hdraft) hlive
  · intro hnone seen hseen
    have hstreamed : ∀ e ∈ seen, streamedActivityEvents.contains e.eventType = true :=
      fun e he => (streamed_iff_not_draft (hhistory.written e (hseen.subset he))).mpr
        (hnone e (hseen.subset he))
    rw [follow_of_streamed hstreamed]
    constructor
    · dsimp only
    · dsimp only

end Follow

namespace Card

def conversation : ConversationRow := ⟨2, 1, 20, 21, 1⟩

/-- The planner's message, and what its turn was finished with. -/
def message : PersistedEventRow := messageEvent (env 1) conversation 3 50 "plan" 1

def finished (payload : ActivityPayload) : PersistedEventRow :=
  turnEvent (env 3) (turn 1).claimed payload 60 2 conversation

def draftShown : ActivityPayload := .draft ⟨200, 201, "summary"⟩

def answerShown : ActivityPayload := .answer (.response ⟨none, []⟩)

theorem history (payload : ActivityPayload) : ConversationHistory [message, finished payload] := by
  constructor
  · intro e he
    simp only [List.mem_cons, List.not_mem_nil, or_false] at he
    cases he with
    | inl heq => rw [heq]; exact .message ..
    | inr heq => rw [heq]; exact .turn ..
  · simp [Increasing, message, finished, messageEvent, turnEvent]

end Card

/-- The client of a conversation with a draft misses its card, and stays behind it. -/
theorem draft_missed :
    ConversationHistory [Card.message, Card.finished Card.draftShown] ∧
      ¬ FollowsLive (fun _ => 0) [Card.message, Card.finished Card.draftShown] := by
  refine ⟨Card.history _, fun hlive => ?_⟩
  have hcursor := (hlive _ List.prefix_rfl).2
  revert hcursor
  decide

/-- An answer reaches it. -/
theorem live_iff_no_draft_card :
    FollowsLive (fun _ => 0) [Card.message, Card.finished Card.answerShown] :=
  (live_iff_no_draft (Card.history Card.answerShown)).mpr (by
    intro e he
    simp only [List.mem_cons, List.not_mem_nil, or_false] at he
    cases he with
    | inl heq => rw [heq]; rfl
    | inr heq => rw [heq]; rfl)

end ShiftMind
