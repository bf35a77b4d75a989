import ShiftMind.Library.Log
import ShiftMind.Library.Transition
import ShiftMind.Store.Conversation
import ShiftMind.Streaming.StreamCursor

/-!
# ShiftMind — streaming an event log

`_event_frames` of `api/routers/conversations.py`, which both event routes run: it polls the events
behind its cursor in bounded batches and yields one frame for each. Writers commit between any two
of its steps, frames may be in flight when a connection breaks, and the client resumes from the id
of the last frame it received.

* **`StreamReader`** — one stream as its repository reads it; **`eventsAfter`**, **`openStream`**.
* **`streamMachine`** — writers, the poll loop and the client, interleaved.
* **`stream_delivers_once`** — the frames behind a cursor are the events behind it, in order.
-/

namespace ShiftMind

open Relational Transition Log StreamCursor

/-! ## One stream -/

/-- A stream as its repository reads it: the rows of the stream, whether the site sees its owner,
and the events after which nothing is emitted. -/
structure StreamReader where
  streamId : Uuid
  owns : PersistedEventRow → Bool
  visible : Db → Bool
  isFinal : PersistedEventRow → Bool
  ofStream : ∀ e, owns e = true → e.streamId = streamId

/-- `_TERMINAL_RUN_EVENT_TYPES`. -/
def terminalRunEventTypes : List String :=
  [ScheduleRunStatus.runEventType .solverCompleted,
    ScheduleRunStatus.runEventType .solverInfeasible,
    ScheduleRunStatus.runEventType .solverTimedOut, ScheduleRunStatus.runEventType .solverCancelled,
    ScheduleRunStatus.runEventType .solverFailed]

/-- `_is_terminal_run_event`. -/
def isTerminalRunEvent (event : PersistedEventRow) : Bool :=
  terminalRunEventTypes.contains event.eventType

/-- The stream of a schedule run. -/
def scheduleRunReader (runId siteId : Uuid) : StreamReader where
  streamId := runId
  owns e := decide (e.streamId = runId) && decide (e.scheduleRunId = some runId) &&
    decide (e.siteId = siteId)
  visible db := db.scheduleRun.rows.any (ScheduleRunRepository.isRun runId siteId)
  isFinal := isTerminalRunEvent
  ofStream e h := by
    rw [Bool.and_eq_true, Bool.and_eq_true] at h
    simpa using h.1.1

namespace StreamReader

variable (reader : StreamReader)

/-- The persisted events of the stream, in sequence order. -/
def log (db : Db) : List PersistedEventRow :=
  Log.sort PersistedEventRow.sequence (db.persistedEvent.rows.filter reader.owns)

/-- `events_after`; `none` where the site does not see the owner of the stream. -/
def eventsAfter (after : Int) (limit : Nat) (db : Db) : Option (List PersistedEventRow) :=
  if reader.visible db then
    some ((Log.sort PersistedEventRow.sequence (db.persistedEvent.rows.filter fun e =>
      reader.owns e && decide (after < e.sequence))).take limit)
  else none

/-- The greatest sequence of the stream, as the head query of the route reads it. -/
def head (db : Db) : Option Int :=
  if reader.visible db then
    some ((((db.persistedEvent.rows.filter reader.owns).map
      PersistedEventRow.sequence).max?).getD 0)
  else none

end StreamReader

/-! ## Opening a stream -/

/-- What the event route answers. -/
inductive StreamOpening where
  | cursorInvalid
  | notFound
  | opened (cursor : Int)
  deriving DecidableEq, Repr

/-- The cursor a token names on this stream; without a token it is 0. -/
def tokenCursor (streamId : Uuid) : Option String → Option Int
  | none => some 0
  | some raw =>
    match parseStreamCursor raw with
    | none => none
    | some parsed => if parsed.streamId ≠ streamId then none else some parsed.sequence

/-- The event route, up to the response it streams. -/
def openStream (reader : StreamReader) (token : Option String) (db : Db) : StreamOpening :=
  match tokenCursor reader.streamId token with
  | none => .cursorInvalid
  | some cursor =>
    match reader.head db with
    | none => .notFound
    | some head => if cursor > head then .cursorInvalid else .opened cursor

/-- A cursor ahead of the stream is refused. -/
theorem openStream_le {reader : StreamReader} {token : Option String} {db : Db} {cursor head : Int}
    (h : openStream reader token db = .opened cursor) (hhead : reader.head db = some head) :
    cursor ≤ head := by
  unfold openStream at h
  rw [hhead] at h
  cases htoken : tokenCursor reader.streamId token with
  | none => rw [htoken] at h; cases h
  | some named =>
    rw [htoken] at h
    by_cases hahead : named > head
    · simp [hahead] at h
    · simp only [hahead, if_false] at h
      cases h
      exact not_lt.mp hahead

/-! ## The poll loop and its client -/

/-- `_REPLAY_BATCH`. -/
def replayBatch : Nat := 200

/-- A connection: the loop's cursor, what is left of its batch, whether it has returned behind a
final event, and the frames it yielded that the client has not received. -/
structure Connection where
  cursor : Int
  batch : List PersistedEventRow := []
  ended : Bool := false
  inFlight : List PersistedEventRow := []

structure StreamSys where
  db : Db
  /-- the cursor the client started from -/
  start : Int
  /-- what the client resumes from -/
  token : Option String
  /-- the events whose frames the client has received, over all connections -/
  received : List PersistedEventRow := []
  connection : Option Connection := none

inductive StreamAction where
  /-- a writer commits -/
  | commit (db' : Db)
  | connect
  | poll
  | yield
  | receive
  | disconnect

/-- The events the loop has emitted: received, or in flight. -/
def StreamSys.emitted (s : StreamSys) : List PersistedEventRow :=
  s.received ++ (s.connection.map Connection.inFlight).getD []

/-- Each sequence fits the column, and is one a writer allocates. -/
def Storable (db : Db) : Prop :=
  ∀ e ∈ db.persistedEvent, 0 < e.sequence ∧ e.sequence < 10 ^ maxSequenceDigits

section Machine

variable (reader : StreamReader)

/-- When a party may take a step. -/
def StreamAction.Enabled (s : StreamSys) : StreamAction → Prop
  -- the row lock of the owner puts each new event behind the ones that were committed
  | .commit db' => Storable db' ∧ ∃ more, reader.log db' = reader.log s.db ++ more
  | .connect => s.connection = none
  | .poll => ∃ conn, s.connection = some conn ∧ conn.batch = [] ∧ conn.ended = false
  | .yield => ∃ conn, s.connection = some conn ∧ conn.batch ≠ []
  | .receive => ∃ conn, s.connection = some conn ∧ conn.inFlight ≠ []
  | .disconnect => True

/-- The state after a step. -/
def StreamSys.perform (s : StreamSys) : StreamAction → StreamSys
  | .commit db' => { s with db := db' }
  | .connect =>
    match openStream reader s.token s.db with
    | .opened cursor => { s with connection := some { cursor := cursor } }
    | _ => s
  | .poll =>
    match s.connection with
    | none => s
    | some conn =>
      match reader.eventsAfter conn.cursor replayBatch s.db with
      | none => { s with connection := none }
      | some batch => { s with connection := some { conn with batch := batch } }
  | .yield =>
    match s.connection with
    | some ⟨_, event :: rest, _, inFlight⟩ =>
      -- nothing can follow the final event
      { s with connection := some ⟨event.sequence, if reader.isFinal event then [] else rest,
          reader.isFinal event, inFlight ++ [event]⟩ }
    | _ => s
  | .receive =>
    match s.connection with
    | some ⟨cursor, batch, ended, event :: rest⟩ =>
      { s with
        token := some (formatEventId reader.streamId event.sequence)
        received := s.received ++ [event]
        connection := some ⟨cursor, batch, ended, rest⟩ }
    | _ => s
  | .disconnect => { s with connection := none }

/-- A client that has received nothing yet, with a cursor it may resume from. -/
structure StreamSys.Initial (s : StreamSys) : Prop where
  storable : Storable s.db
  stream : reader.streamId < 2 ^ 128
  token : tokenCursor reader.streamId s.token = some s.start
  received : s.received = []
  connection : s.connection = none

/-- Writers, the poll loop and its client. -/
def streamMachine : Machine StreamSys StreamAction where
  initial := StreamSys.Initial reader
  enabled s a := a.Enabled reader s
  perform s a := s.perform reader a

end Machine

/-! ## What a poll reads -/

namespace StreamReader

variable (reader : StreamReader)

/-- The unique index tells the events of a stream apart by their sequences. -/
theorem distinct_sequences (db : Db) :
    (db.persistedEvent.rows.filter reader.owns).Pairwise fun a b => a.sequence ≠ b.sequence := by
  have hfree := db.persistedEvent.unique.sublist
    (List.filter_sublist (l := db.persistedEvent.rows) (p := reader.owns))
  refine hfree.imp_of_mem fun {a b} ha hb hclash heq => ?_
  have hstream : a.streamId = b.streamId :=
    (reader.ofStream a (List.mem_filter.mp ha).2).trans
      (reader.ofStream b (List.mem_filter.mp hb).2).symm
  have hsame : clash a b = true := by simp [clash, hstream, heq]
  rw [hsame] at hclash
  cases hclash

theorem increasing_log (db : Db) : Increasing PersistedEventRow.sequence (reader.log db) :=
  increasing_sort (reader.distinct_sequences db)

/-- **A poll reads the front of what is outstanding.** -/
theorem eventsAfter_eq (cursor : Int) (limit : Nat) (db : Db) :
    reader.eventsAfter cursor limit db =
      if reader.visible db then
        some ((after PersistedEventRow.sequence cursor (reader.log db)).take limit)
      else none := by
  have hpart : (db.persistedEvent.rows.filter fun e =>
      reader.owns e && decide (cursor < e.sequence)) =
      (db.persistedEvent.rows.filter reader.owns).filter fun e => decide (cursor < e.sequence) := by
    rw [List.filter_filter]
    exact List.filter_congr fun e _ => Bool.and_comm ..
  unfold eventsAfter
  rw [hpart, filter_sort (reader.distinct_sequences db)]
  rfl

theorem mem_log {db : Db} {e : PersistedEventRow} :
    e ∈ reader.log db ↔ e ∈ db.persistedEvent ∧ reader.owns e = true := by
  unfold log
  rw [mem_sort, List.mem_filter]
  rfl

/-- An event of the stream does not lie beyond its head. -/
theorem sequence_le_head {db : Db} {e : PersistedEventRow} {head : Int} (he : e ∈ reader.log db)
    (hhead : reader.head db = some head) : e.sequence ≤ head := by
  obtain ⟨hmem, howns⟩ := reader.mem_log.mp he
  have hrow : e.sequence ∈ (db.persistedEvent.rows.filter reader.owns).map
      PersistedEventRow.sequence :=
    List.mem_map.mpr ⟨e, List.mem_filter.mpr ⟨hmem, howns⟩, rfl⟩
  unfold StreamReader.head at hhead
  split at hhead
  case isFalse => cases hhead
  cases hmax : ((db.persistedEvent.rows.filter reader.owns).map
      PersistedEventRow.sequence).max? with
  | none =>
    rw [List.max?_eq_none_iff.mp hmax] at hrow
    cases hrow
  | some top =>
    rw [hmax] at hhead
    cases hhead
    exact (List.max?_eq_some_iff.mp hmax).2 e.sequence hrow

end StreamReader

/-! ## The invariant of the loop and its client

What was emitted is a prefix of the log behind the start, and the client's token is the last of what
it has received. -/

section Delivery

variable {reader : StreamReader} {s : StreamSys}

/-- What the client received, what is in flight and what is left of the batch is the front of what
was outstanding at the start; both cursors stand behind the last event they name. -/
structure StreamSys.Inv (reader : StreamReader) (s : StreamSys) : Prop where
  storable : Storable s.db
  stream : reader.streamId < 2 ^ 128
  token : tokenCursor reader.streamId s.token =
    some (cursorAt PersistedEventRow.sequence s.start s.received)
  read : s.emitted ++ (s.connection.map Connection.batch).getD [] <+:
    after PersistedEventRow.sequence s.start (reader.log s.db)
  cursor : ∀ conn, s.connection = some conn →
    conn.cursor = cursorAt PersistedEventRow.sequence s.start s.emitted
  ended : ∀ conn, s.connection = some conn → conn.ended = true →
    conn.batch = [] ∧ ∃ e, s.emitted.getLast? = some e ∧ reader.isFinal e = true

theorem StreamSys.Inv.initial (h : s.Initial reader) : s.Inv reader := by
  constructor
  · exact h.storable
  · exact h.stream
  · rw [h.token, h.received]
    rfl
  · simp [StreamSys.emitted, h.received, h.connection]
  · intro conn hconn
    rw [h.connection] at hconn
    cases hconn
  · intro conn hconn
    rw [h.connection] at hconn
    cases hconn

/-- Behind the loop's cursor stands what it has not emitted. -/
theorem StreamSys.Inv.outstanding (h : s.Inv reader) :
    after PersistedEventRow.sequence (cursorAt PersistedEventRow.sequence s.start s.emitted)
      (reader.log s.db) =
      (after PersistedEventRow.sequence s.start (reader.log s.db)).drop s.emitted.length := by
  have hbefore : s.emitted <+: after PersistedEventRow.sequence s.start (reader.log s.db) :=
    (List.prefix_append ..).trans h.read
  obtain ⟨rest, hrest⟩ := hbefore
  rw [after_cursorAt (reader.increasing_log s.db) hrest.symm, ← hrest, List.drop_left]

/-- The state once its connection is gone: what was in flight is lost, what was received stays. -/
theorem StreamSys.Inv.closed (h : s.Inv reader) : { s with connection := none }.Inv reader where
  storable := h.storable
  stream := h.stream
  token := h.token
  read := by
    have hbefore : s.received <+: s.emitted ++ (s.connection.map Connection.batch).getD [] := by
      unfold StreamSys.emitted
      rw [List.append_assoc]
      exact List.prefix_append ..
    simpa [StreamSys.emitted] using hbefore.trans h.read
  cursor := by intro conn hconn; cases hconn
  ended := by intro conn hconn; cases hconn

/-- A new connection continues where the client stopped. -/
theorem StreamSys.Inv.connect (h : s.Inv reader) :
    (s.perform reader .connect).Inv reader := by
  have hclosed := h.closed
  show StreamSys.Inv reader (match openStream reader s.token s.db with
    | .opened cursor => { s with connection := some { cursor := cursor } }
    | _ => s)
  split
  case h_2 => exact h
  rename_i cursor hopened
  -- the token is where the client stopped, and the cursor is read from it
  have hcursor : cursor = cursorAt PersistedEventRow.sequence s.start s.received := by
    unfold openStream at hopened
    rw [h.token] at hopened
    dsimp only at hopened
    split at hopened
    · cases hopened
    · split at hopened
      · cases hopened
      · cases hopened
        rfl
  constructor
  · exact h.storable
  · exact h.stream
  · exact h.token
  · exact hclosed.read
  · intro conn hconn
    cases hconn
    simpa [StreamSys.emitted] using hcursor
  · intro conn hconn hended
    cases hconn
    cases hended

/-- A batch continues behind what was emitted. -/
theorem StreamSys.Inv.poll (h : s.Inv reader)
    (henabled : StreamAction.poll.Enabled reader s) : (s.perform reader .poll).Inv reader := by
  obtain ⟨conn, hconn, hbatch, hended⟩ := henabled
  have hperform : s.perform reader .poll =
      match reader.eventsAfter conn.cursor replayBatch s.db with
      | none => { s with connection := none }
      | some batch => { s with connection := some { conn with batch := batch } } := by
    show (match s.connection with
      | none => s
      | some conn => _) = _
    rw [hconn]
  rw [hperform, reader.eventsAfter_eq, h.cursor conn hconn, h.outstanding]
  -- a stream that is gone closes the connection
  by_cases hvisible : reader.visible s.db = true
  case neg =>
    rw [if_neg hvisible]
    exact h.closed
  rw [if_pos hvisible]
  have hemitted : s.emitted = s.received ++ conn.inFlight := by
    unfold StreamSys.emitted
    rw [hconn]
    rfl
  have hbefore : s.emitted <+: after PersistedEventRow.sequence s.start (reader.log s.db) :=
    (List.prefix_append ..).trans h.read
  constructor
  · exact h.storable
  · exact h.stream
  · exact h.token
  · -- the cursor is at the last emitted event, so the batch is what comes next
    obtain ⟨rest, hrest⟩ := hbefore
    show (s.received ++ conn.inFlight) ++ _ <+: _
    rw [← hemitted, ← hrest, List.drop_left]
    exact List.prefix_append_right_inj _ |>.mpr (List.take_prefix ..)
  · intro conn' hconn'
    cases hconn'
    show cursorAt PersistedEventRow.sequence s.start s.emitted =
      cursorAt PersistedEventRow.sequence s.start (s.received ++ conn.inFlight)
    rw [hemitted]
  · intro conn' hconn' hended'
    cases hconn'
    rw [hended] at hended'
    cases hended'

/-- The next event of the batch is the next one outstanding. -/
theorem StreamSys.Inv.yield (h : s.Inv reader)
    (henabled : StreamAction.yield.Enabled reader s) : (s.perform reader .yield).Inv reader := by
  obtain ⟨⟨cursor, batch, ended, inFlight⟩, hconn, hbatch⟩ := henabled
  cases batch with
  | nil => exact absurd rfl hbatch
  | cons event rest =>
    have hperform : s.perform reader .yield =
        { s with connection := some ⟨event.sequence, if reader.isFinal event then [] else rest,
            reader.isFinal event, inFlight ++ [event]⟩ } := by
      unfold StreamSys.perform
      rw [hconn]
    have hread := h.read
    have hemitted : s.emitted = s.received ++ inFlight := by
      unfold StreamSys.emitted
      rw [hconn]
      rfl
    rw [hperform]
    constructor
    · exact h.storable
    · exact h.stream
    · exact h.token
    · show (s.received ++ (inFlight ++ [event])) ++
        (if reader.isFinal event then [] else rest) <+: _
      rw [hconn, hemitted] at hread
      -- what is dropped behind a final event was not emitted
      have hfront : (s.received ++ (inFlight ++ [event])) ++
          (if reader.isFinal event then [] else rest) <+:
          (s.received ++ inFlight) ++ event :: rest := by
        split
        · simp
        · simp
      exact hfront.trans hread
    · intro conn hconn'
      cases hconn'
      show event.sequence = cursorAt PersistedEventRow.sequence s.start
        (s.received ++ (inFlight ++ [event]))
      rw [← List.append_assoc, cursorAt_concat]
    · intro conn hconn' hended
      cases hconn'
      have hended : reader.isFinal event = true := hended
      refine ⟨if_pos hended, event, ?_, hended⟩
      show (s.received ++ (inFlight ++ [event])).getLast? = some event
      rw [← List.append_assoc, List.getLast?_concat]

/-- The client receives the frames in the order they were yielded, and can resume from the last
one: its id is read back. -/
theorem StreamSys.Inv.receive (h : s.Inv reader)
    (henabled : StreamAction.receive.Enabled reader s) :
    (s.perform reader .receive).Inv reader := by
  obtain ⟨⟨cursor, batch, ended, inFlight⟩, hconn, hflight⟩ := henabled
  cases inFlight with
  | nil => exact absurd rfl hflight
  | cons event rest =>
    have hperform : s.perform reader .receive =
        { s with
          token := some (formatEventId reader.streamId event.sequence)
          received := s.received ++ [event]
          connection := some ⟨cursor, batch, ended, rest⟩ } := by
      unfold StreamSys.perform
      rw [hconn]
    -- a frame in flight was emitted already, so what is emitted stays the same
    have hbefore : s.emitted = s.received ++ event :: rest := by
      unfold StreamSys.emitted
      rw [hconn]
      rfl
    have hemitted : (s.perform reader .receive).emitted = s.emitted := by
      rw [hperform, hbefore]
      show (s.received ++ [event]) ++ rest = _
      rw [List.append_assoc, List.singleton_append]
    -- its sequence is positive and has digits that the token reader takes
    have hmem : event ∈ reader.log s.db := by
      have hin : event ∈ s.emitted := by
        rw [hbefore]
        simp
      exact List.mem_of_mem_filter (h.read.subset (List.mem_append_left _ hin))
    obtain ⟨hpos, hdigits⟩ := h.storable event (reader.mem_log.mp hmem).1
    constructor
    · rw [hperform]
      exact h.storable
    · exact h.stream
    · rw [hperform]
      show tokenCursor reader.streamId (some (formatEventId reader.streamId event.sequence)) =
        some (cursorAt PersistedEventRow.sequence s.start (s.received ++ [event]))
      simp only [tokenCursor, parseStreamCursor_formatEventId h.stream (le_of_lt hpos) hdigits,
        cursorAt_concat, ne_eq, not_true_eq_false, if_false]
    · rw [hemitted, hperform]
      have hread := h.read
      rw [hconn] at hread
      exact hread
    · intro conn hconn'
      rw [hemitted]
      rw [hperform] at hconn' ⊢
      cases hconn'
      exact h.cursor ⟨cursor, batch, ended, event :: rest⟩ hconn
    · intro conn hconn' hended
      rw [hemitted]
      rw [hperform] at hconn'
      cases hconn'
      exact h.ended ⟨cursor, batch, ended, event :: rest⟩ hconn hended

/-- **Each step keeps the invariant.** -/
theorem StreamSys.Inv.perform (h : s.Inv reader) {a : StreamAction}
    (henabled : a.Enabled reader s) : (s.perform reader a).Inv reader := by
  cases a with
  | connect => exact h.connect
  | poll => exact h.poll henabled
  | yield => exact h.yield henabled
  | receive => exact h.receive henabled
  | disconnect => exact h.closed
  | commit db' =>
    obtain ⟨hstorable, more, hmore⟩ := henabled
    constructor
    · exact hstorable
    · exact h.stream
    · exact h.token
    · show _ <+: after PersistedEventRow.sequence s.start (reader.log db')
      rw [hmore]
      exact prefix_after_append more h.read
    · exact h.cursor
    · exact h.ended

theorem StreamSys.Inv.of_reachable (hreach : Reachable (streamMachine reader).system s) :
    s.Inv reader :=
  Machine.reachable_invariant (StreamSys.Inv reader) (fun _ => StreamSys.Inv.initial)
    (fun _ _ h henabled => h.perform henabled) hreach

/-- A token that names what was received opens the stream again. -/
theorem StreamSys.Inv.reopens (h : s.Inv reader) (hvisible : reader.visible s.db = true)
    (hreceived : s.received ≠ []) : openStream reader s.token s.db =
      .opened (cursorAt PersistedEventRow.sequence s.start s.received) := by
  obtain ⟨init, e, hlast⟩ := List.eq_nil_or_concat s.received |>.resolve_left hreceived
  have hmem : e ∈ reader.log s.db := by
    have hin : e ∈ s.received := by rw [hlast]; simp
    exact List.mem_of_mem_filter (h.closed.read.subset
      (List.mem_append_left _ (List.mem_append_left _ hin)))
  obtain ⟨head, hhead⟩ : ∃ head, reader.head s.db = some head := by
    unfold StreamReader.head
    rw [if_pos hvisible]
    exact ⟨_, rfl⟩
  have hle : cursorAt PersistedEventRow.sequence s.start s.received ≤ head := by
    rw [hlast, List.concat_eq_append, cursorAt_concat]
    exact reader.sequence_le_head hmem hhead
  unfold openStream
  rw [h.token, hhead]
  exact if_neg (not_lt.mpr hle)

end Delivery

/-- **The stream delivers each event once**, for every interleaving of writers, polls and
connections. The emitted frames are the front of the events behind the first cursor, in order and
each once; the next poll reads on right behind them; a stream that ended has emitted its final
event last; and the id of the last frame a client received opens the stream behind that frame. -/
theorem stream_delivers_once {reader : StreamReader} {s : StreamSys}
    (hreach : Reachable (streamMachine reader).system s) :
    s.emitted <+: after PersistedEventRow.sequence s.start (reader.log s.db) ∧ s.emitted.Nodup ∧
    (∀ conn, s.connection = some conn → reader.visible s.db = true →
      reader.eventsAfter conn.cursor replayBatch s.db =
        some (((after PersistedEventRow.sequence s.start (reader.log s.db)).drop
          s.emitted.length).take replayBatch)) ∧
    (∀ conn, s.connection = some conn → conn.ended = true →
      ∃ e, s.emitted.getLast? = some e ∧ reader.isFinal e = true) ∧
    (reader.visible s.db = true → s.received ≠ [] → openStream reader s.token s.db =
      .opened (cursorAt PersistedEventRow.sequence s.start s.received)) := by
  have hinv := StreamSys.Inv.of_reachable hreach
  have hbefore : s.emitted <+: after PersistedEventRow.sequence s.start (reader.log s.db) :=
    (List.prefix_append ..).trans hinv.read
  refine ⟨hbefore, ?_, ?_, fun conn hconn hended => (hinv.ended conn hconn hended).2,
    hinv.reopens⟩
  · exact ((reader.increasing_log s.db).sublist
      (hbefore.sublist.trans List.filter_sublist)).nodup
  · intro conn hconn hvisible
    rw [reader.eventsAfter_eq, if_pos hvisible, hinv.cursor conn hconn, hinv.outstanding]

namespace Depot

/-- The event of a transition of run 102. -/
def runEvent (sequence : Int) (status : ScheduleRunStatus) : PersistedEventRow where
  siteId := 1
  streamId := 102
  sequence := sequence
  eventType := status.runEventType
  occurredAt := 0
  resourceVersion := sequence
  requestId := 50
  conversationId := none
  agentRunId := none
  scheduleRunId := some 102
  actorId := 3
  payload := .runProgress ⟨102, status, none, sequence, 0⟩

/-- Run 102 was queued, and cancelled. -/
def cancelledStream : StreamSys where
  db :=
    { scheduleRun := ⟨[{ id := 102, siteId := 1, runSnapshotId := 101 }], by decide, by decide⟩
      persistedEvent := ⟨[runEvent 1 .solverQueued, runEvent 2 .solverCancelled], by decide,
        by decide⟩ }
  start := 0
  token := none

/-- A client breaks off behind the first frame, and resumes. -/
def resumed : StreamSys := (streamMachine (scheduleRunReader 102 1)).performAll cancelledStream
  [.connect, .poll, .yield, .receive, .disconnect, .connect, .poll, .yield]

theorem cancelledStream_initial :
    cancelledStream.Initial (scheduleRunReader 102 1) := by
  refine ⟨fun e he => ?_, by decide, rfl, rfl, rfl⟩
  have hall : ∀ e ∈ cancelledStream.db.persistedEvent.rows,
      0 < e.sequence ∧ e.sequence < 10 ^ maxSequenceDigits := by
    decide
  exact hall e he

theorem resumed_reachable : Reachable (streamMachine (scheduleRunReader 102 1)).system resumed :=
  Machine.reachable_of_schedule cancelledStream_initial
    ⟨rfl, ⟨_, rfl, rfl, rfl⟩, ⟨_, rfl, by decide +kernel⟩, ⟨_, rfl, by decide +kernel⟩,
      trivial, rfl,
      ⟨_, rfl, rfl, rfl⟩, ⟨_, rfl, by decide +kernel⟩, trivial⟩

end Depot

/-- The resumed stream of run 102 ends with its terminal event, and emits each event once. -/
theorem stream_delivers_once_depot :
    Depot.resumed.emitted <+: after PersistedEventRow.sequence Depot.resumed.start
      ((scheduleRunReader 102 1).log Depot.resumed.db) ∧
    ∃ e, Depot.resumed.emitted.getLast? = some e ∧ isTerminalRunEvent e = true := by
  have hdelivers := stream_delivers_once Depot.resumed_reachable
  obtain ⟨conn, hconn, hended⟩ : ∃ conn, Depot.resumed.connection = some conn ∧
      conn.ended = true := ⟨_, rfl, by decide +kernel⟩
  exact ⟨hdelivers.1, hdelivers.2.2.2.1 conn hconn hended⟩

end ShiftMind
