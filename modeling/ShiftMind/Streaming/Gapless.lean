import ShiftMind.Runs.Opening
import ShiftMind.Streaming.Appending
import ShiftMind.Streaming.EventStream

/-!
# ShiftMind — event streams without gaps

Every writer of events computes the next sequence of its stream from the greatest one, and moves
what the stream is about one resource version on. The streams of runs and of conversations are
numbered without gaps because each of these writers does both, and no other statement does either.

* **`RunStream`**, **`ConversationStream`** — a stream and what it is about, in step.
* **`EventsSound`** — every stream of the database.
* **`EventSys`** — workers, planners and turns on one database, with the statuses each run had.
* **`event_streams_gapless`** — in every reachable state.
-/

namespace ShiftMind

open Relational Transactional Transition Log ConversationRepository ScheduleRunRepository Relation

/-! ## A stream -/

/-- The persisted events of a stream, in the order they were appended. -/
def Db.stream (streamId : Uuid) (db : Db) : List PersistedEventRow :=
  db.persistedEvent.rows.filter fun e => decide (e.streamId = streamId)

/-- The status a progress event carries. -/
def PersistedEventRow.runStatus (e : PersistedEventRow) : Option ScheduleRunStatus :=
  match e.payload with
  | .runProgress progress => some progress.status
  | _ => none

theorem Db.mem_stream {streamId : Uuid} {db : Db} {e : PersistedEventRow} :
    e ∈ db.stream streamId ↔ e ∈ db.persistedEvent ∧ e.streamId = streamId := by
  unfold Db.stream
  rw [List.mem_filter, decide_eq_true_eq, Table.mem_rows]

theorem Db.stream_congr {db db' : Db} (h : db'.persistedEvent = db.persistedEvent)
    (streamId : Uuid) : db'.stream streamId = db.stream streamId := by
  unfold Db.stream
  rw [h]

/-- An appended event ends its stream. -/
theorem Db.stream_append {db db' : Db} {e : PersistedEventRow}
    (h : db.persistedEvent.insert? e = some db'.persistedEvent) :
    db'.stream e.streamId = db.stream e.streamId ++ [e] := by
  unfold Db.stream
  rw [(Table.insert?_eq_some h).2.2, List.filter_append]
  simp

/-- It is in no other stream. -/
theorem Db.stream_elsewhere {db db' : Db} {e : PersistedEventRow} {streamId : Uuid}
    (h : db.persistedEvent.insert? e = some db'.persistedEvent) (hne : e.streamId ≠ streamId) :
    db'.stream streamId = db.stream streamId := by
  unfold Db.stream
  rw [(Table.insert?_eq_some h).2.2, List.filter_append]
  simp [hne]

/-- In a numbered stream, the next sequence counts the events. -/
theorem nextSequence_of_numbered {streamId : Uuid} {db : Db}
    (h : Numbered PersistedEventRow.sequence 0 (db.stream streamId)) :
    nextSequence streamId db = (db.stream streamId).length + 1 := by
  have hmax := h.max
  unfold nextSequence
  unfold Db.stream at hmax ⊢
  rw [hmax]

/-! ## The stream of a run -/

/-- The stream of a run tells its statuses, one event each. -/
structure RunStream (db : Db) (history : List ScheduleRunStatus) (run : ScheduleRunRow) : Prop where
  sequences : Numbered PersistedEventRow.sequence 0 (db.stream run.id)
  versions : Numbered PersistedEventRow.resourceVersion 0 (db.stream run.id)
  statuses : (db.stream run.id).map PersistedEventRow.runStatus = history.map some
  eventTypes : (db.stream run.id).map PersistedEventRow.eventType =
    history.map ScheduleRunStatus.runEventType
  owner : ∀ e ∈ db.stream run.id, e.scheduleRunId = some run.id ∧ e.siteId = run.siteId
  head : run.resourceVersion = (db.stream run.id).length
  current : history.getLast? = some run.status
  unended : ∀ status ∈ history.dropLast, status.terminal = false

theorem RunStream.congr {db db' : Db} {history : List ScheduleRunStatus} {run : ScheduleRunRow}
    (h : RunStream db history run) (hstream : db'.stream run.id = db.stream run.id) :
    RunStream db' history run where
  sequences := hstream ▸ h.sequences
  versions := hstream ▸ h.versions
  statuses := hstream ▸ h.statuses
  eventTypes := hstream ▸ h.eventTypes
  owner := hstream ▸ h.owner
  head := hstream ▸ h.head
  current := h.current
  unended := h.unended

/-- What a new event adds to the stream of a run whose next event it is. -/
theorem RunStream.extend {db db' : Db} {history : List ScheduleRunStatus} {run : ScheduleRunRow}
    {e : PersistedEventRow} (he : RunEvent db run e)
    (hinsert : db.persistedEvent.insert? e = some db'.persistedEvent)
    (hsequences : Numbered PersistedEventRow.sequence 0 (db.stream run.id))
    (hversions : Numbered PersistedEventRow.resourceVersion 0 (db.stream run.id))
    (hstatuses : (db.stream run.id).map PersistedEventRow.runStatus = history.map some)
    (heventTypes : (db.stream run.id).map PersistedEventRow.eventType =
      history.map ScheduleRunStatus.runEventType)
    (howner : ∀ e ∈ db.stream run.id, e.scheduleRunId = some run.id ∧ e.siteId = run.siteId)
    (hhead : run.resourceVersion = (db.stream run.id).length + 1)
    (hunended : ∀ status ∈ history, status.terminal = false) :
    RunStream db' (history ++ [run.status]) run := by
  -- the event joins the end of its run's stream
  have hstream : db'.stream run.id = db.stream run.id ++ [e] := by
    rw [← he.stream]
    exact Db.stream_append hinsert
  obtain ⟨reason, occurredAt, hpayload⟩ := he.payload
  exact
    { sequences := by
        rw [hstream]
        exact hsequences.concat (by rw [he.sequence, nextSequence_of_numbered hsequences]; omega)
      versions := by
        rw [hstream]
        exact hversions.concat (by rw [he.resourceVersion, hhead]; omega)
      statuses := by
        rw [hstream, List.map_append, hstatuses, List.map_append]
        simp [PersistedEventRow.runStatus, hpayload]
      eventTypes := by
        rw [hstream, List.map_append, heventTypes, List.map_append]
        simp [he.eventType]
      owner := by
        intro e' he'
        rw [hstream, List.mem_append, List.mem_singleton] at he'
        rcases he' with hold | rfl
        · exact howner e' hold
        · exact ⟨he.owner, he.site⟩
      head := by rw [hstream, hhead]; simp
      current := List.getLast?_concat
      unended := by rw [List.dropLast_concat]; exact hunended }

/-- All statuses of a run that has not ended are not terminal. -/
theorem RunStream.not_terminal {db : Db} {history : List ScheduleRunStatus} {run : ScheduleRunRow}
    (h : RunStream db history run) (hstatus : run.status.terminal = false) :
    ∀ status ∈ history, status.terminal = false := by
  intro status hmem
  rw [← List.dropLast_append_getLast? run.status h.current, List.mem_append,
    List.mem_singleton] at hmem
  rcases hmem with hmem | rfl
  · exact h.unended status hmem
  · exact hstatus

/-- **A move of a run** goes on with its stream. -/
theorem RunStream.moved {db db' : Db} {history : List ScheduleRunStatus}
    {run run' : ScheduleRunRow} (h : RunStream db history run) (hmoved : Moved run run')
    {e : PersistedEventRow} (he : RunEvent db run' e)
    (hinsert : db.persistedEvent.insert? e = some db'.persistedEvent) :
    RunStream db' (history ++ [run'.status]) run' := by
  refine .extend he hinsert ?_ ?_ ?_ ?_ ?_ ?_ (h.not_terminal hmoved.edge.source_not_terminal)
  · rw [hmoved.id]; exact h.sequences
  · rw [hmoved.id]; exact h.versions
  · rw [hmoved.id]; exact h.statuses
  · rw [hmoved.id]; exact h.eventTypes
  · rw [hmoved.id, hmoved.site]; exact h.owner
  · rw [hmoved.id, hmoved.version, h.head]

/-- A run opens its stream, which is empty. -/
theorem RunStream.opened {db db' : Db} {run : ScheduleRunRow} {e : PersistedEventRow}
    (he : RunEvent db run e) (hinsert : db.persistedEvent.insert? e = some db'.persistedEvent)
    (hnone : db.stream run.id = []) (hversion : run.resourceVersion = 1) :
    RunStream db' [run.status] run := by
  have hopened : RunStream db' ([] ++ [run.status]) run := by
    refine .extend he hinsert ?_ ?_ ?_ ?_ ?_ ?_ fun _ h => absurd h List.not_mem_nil
    · rw [hnone]; exact .nil 0
    · rw [hnone]; exact .nil 0
    · rw [hnone]; rfl
    · rw [hnone]; rfl
    · rw [hnone]; exact fun _ h => absurd h List.not_mem_nil
    · rw [hnone, hversion]; rfl
  exact hopened

/-! ## The stream of a conversation -/

/-- The stream of a conversation: a conversation starts at resource version 1, and each event moves
it one on. -/
structure ConversationStream (db : Db) (c : ConversationRow) : Prop where
  sequences : Numbered PersistedEventRow.sequence 0 (db.stream c.id)
  versions : Numbered PersistedEventRow.resourceVersion 1 (db.stream c.id)
  head : c.resourceVersion = (db.stream c.id).length + 1

theorem ConversationStream.congr {db db' : Db} {c : ConversationRow} (h : ConversationStream db c)
    (hstream : db'.stream c.id = db.stream c.id) : ConversationStream db' c where
  sequences := hstream ▸ h.sequences
  versions := hstream ▸ h.versions
  head := hstream ▸ h.head

/-- **An event of a conversation** goes on with its stream. -/
theorem ConversationStream.appended {db db' : Db} {c : ConversationRow} {e : PersistedEventRow}
    (h : ConversationStream db c) (hinsert : db.persistedEvent.insert? e = some db'.persistedEvent)
    (hstream : e.streamId = c.id) (hsequence : e.sequence = nextSequence c.id db)
    (hversion : e.resourceVersion = c.resourceVersion + 1) :
    ConversationStream db' { c with resourceVersion := c.resourceVersion + 1 } := by
  have hstream' : db'.stream c.id = db.stream c.id ++ [e] := by
    rw [← hstream]
    exact Db.stream_append hinsert
  have hhead := h.head
  constructor
  · show Numbered _ 0 (db'.stream c.id)
    rw [hstream']
    exact h.sequences.concat (by rw [hsequence, nextSequence_of_numbered h.sequences]; omega)
  · show Numbered _ 1 (db'.stream c.id)
    rw [hstream']
    exact h.versions.concat (by rw [hversion]; omega)
  · show c.resourceVersion + 1 = ((db'.stream c.id).length : Int) + 1
    rw [hstream', List.length_append, List.length_singleton]
    omega

/-! ## What the statuses were -/

/-- The status a run has. -/
def Db.runStatus (runId : Uuid) (db : Db) : Option ScheduleRunStatus :=
  (db.scheduleRun.find? fun run => decide (run.id = runId)).map ScheduleRunRow.status

theorem Db.runStatus_eq_some {runId : Uuid} {db : Db} {status : ScheduleRunStatus} :
    db.runStatus runId = some status ↔
      ∃ run ∈ db.scheduleRun, run.id = runId ∧ run.status = status := by
  unfold Db.runStatus
  rw [Option.map_eq_some_iff]
  constructor
  · rintro ⟨run, hfound, hstatus⟩
    obtain ⟨hmem, hid⟩ := Table.find?_eq_some hfound
    exact ⟨run, hmem, by simpa using hid, hstatus⟩
  · rintro ⟨run, hmem, hid, hstatus⟩
    refine ⟨run, Table.find?_of_mem hmem (by simpa using hid) ?_, hstatus⟩
    -- runs of one id are one run
    intro a b ha hb
    simp only [decide_eq_true_eq] at ha hb
    simp [clash, ha, hb]

theorem Db.runStatus_of_mem {db : Db} {run : ScheduleRunRow} (h : run ∈ db.scheduleRun) :
    db.runStatus run.id = some run.status :=
  Db.runStatus_eq_some.mpr ⟨run, h, rfl, rfl⟩

theorem Db.runStatus_eq_none {runId : Uuid} {db : Db} (h : ∀ run ∈ db.scheduleRun, run.id ≠ runId) :
    db.runStatus runId = none := by
  rw [Option.eq_none_iff_forall_ne_some]
  intro status hstatus
  obtain ⟨run, hmem, hid, -⟩ := Db.runStatus_eq_some.mp hstatus
  exact h run hmem hid

/-- The status of a run whose row did not change. -/
theorem Db.runStatus_elsewhere {runId : Uuid} {db db' : Db}
    (h : ∀ run : ScheduleRunRow, run.id = runId →
      (run ∈ db'.scheduleRun ↔ run ∈ db.scheduleRun)) :
    db'.runStatus runId = db.runStatus runId := by
  refine Option.ext fun status => ?_
  rw [Db.runStatus_eq_some, Db.runStatus_eq_some]
  constructor
  · rintro ⟨run, hmem, hid, hstatus⟩
    exact ⟨run, (h run hid).mp hmem, hid, hstatus⟩
  · rintro ⟨run, hmem, hid, hstatus⟩
    exact ⟨run, (h run hid).mpr hmem, hid, hstatus⟩

/-- The statuses of the runs, where each change between two committed states is noted. -/
def recordStatus (db db' : Db) (history : Uuid → List ScheduleRunStatus) :
    Uuid → List ScheduleRunStatus := fun runId =>
  if db'.runStatus runId = db.runStatus runId then history runId
  else history runId ++ (db'.runStatus runId).toList

section RecordStatus

variable {db db' : Db} {history : Uuid → List ScheduleRunStatus}

theorem recordStatus_same {runId : Uuid} (h : db'.runStatus runId = db.runStatus runId) :
    recordStatus db db' history runId = history runId :=
  if_pos h

theorem recordStatus_changed {runId : Uuid} {status : ScheduleRunStatus}
    (h : db'.runStatus runId = some status) (hne : db.runStatus runId ≠ some status) :
    recordStatus db db' history runId = history runId ++ [status] := by
  unfold recordStatus
  rw [h, if_neg hne.symm, Option.toList_some]

theorem recordStatus_kept (h : db'.scheduleRun = db.scheduleRun) :
    recordStatus db db' history = history := by
  funext runId
  exact recordStatus_same (Db.runStatus_elsewhere fun run _ => by rw [h])

end RecordStatus

/-! ## Every stream of the database

A stream belongs to one run or to one conversation, so an append is to one of them. -/

/-- Every event is of a run or of a conversation, and their streams are in step. -/
structure EventsSound (db : Db) (history : Uuid → List ScheduleRunStatus) : Prop where
  owned : ∀ e ∈ db.persistedEvent, (∃ run ∈ db.scheduleRun, e.streamId = run.id) ∨
    ∃ c ∈ db.conversation, e.streamId = c.id
  apart : ∀ run ∈ db.scheduleRun, ∀ c ∈ db.conversation, run.id ≠ c.id
  runs : ∀ run ∈ db.scheduleRun, RunStream db (history run.id) run
  conversations : ∀ c ∈ db.conversation, ConversationStream db c
  unopened : ∀ runId, (∀ run ∈ db.scheduleRun, run.id ≠ runId) → history runId = []

section EventsSound

variable {db db' : Db} {history : Uuid → List ScheduleRunStatus}

theorem EventsSound.kept (h : EventsSound db history) (hkept : StreamsKept db db') :
    EventsSound db' history where
  owned := by rw [hkept.events, hkept.runs, hkept.conversations]; exact h.owned
  apart := by rw [hkept.runs, hkept.conversations]; exact h.apart
  runs := by
    rw [hkept.runs]
    exact fun run hrun => (h.runs run hrun).congr (Db.stream_congr hkept.events _)
  conversations := by
    rw [hkept.conversations]
    exact fun c hc => (h.conversations c hc).congr (Db.stream_congr hkept.events _)
  unopened := by rw [hkept.runs]; exact h.unopened

/-- **An event appended to a conversation.** -/
theorem EventsSound.appends (h : EventsSound db history) (happends : Appends db db') :
    EventsSound db' history := by
  obtain ⟨c, e, hreplaced, hinsert, hstream, hsequence, hversion⟩ := happends.appended
  have hruns := happends.runs
  -- identifiers of conversations do not change
  have hids : ∀ c' ∈ db'.conversation, ∃ c₀ ∈ db.conversation, c₀.id = c'.id := by
    intro c' hc'
    rcases (hreplaced.mem_iff c').mp hc' with rfl | ⟨hold, -⟩
    · exact ⟨c, hreplaced.mem_old, rfl⟩
    · exact ⟨c', hold, rfl⟩
  have hkeeps : ∀ c₀ ∈ db.conversation, ∃ c' ∈ db'.conversation, c'.id = c₀.id := by
    intro c₀ hc₀
    by_cases heq : c₀ = c
    · exact ⟨_, hreplaced.mem_new, by rw [heq]⟩
    · exact ⟨c₀, (hreplaced.mem_iff c₀).mpr (.inr ⟨hc₀, heq⟩), rfl⟩
  exact
    { owned := by
        intro e' he'
        rw [hruns]
        have hconversation : ∀ c₀ ∈ db.conversation, e'.streamId = c₀.id →
            ∃ c' ∈ db'.conversation, e'.streamId = c'.id := by
          intro c₀ hc₀ hid
          obtain ⟨c', hc', hsame⟩ := hkeeps c₀ hc₀
          exact ⟨c', hc', hid.trans hsame.symm⟩
        rcases (Table.mem_of_insert? hinsert).mp he' with hold | rfl
        · rcases h.owned e' hold with hrun | ⟨c₀, hc₀, hid⟩
          · exact .inl hrun
          · exact .inr (hconversation c₀ hc₀ hid)
        · exact .inr (hconversation c hreplaced.mem_old hstream)
      apart := by
        intro run hrun c' hc'
        rw [hruns] at hrun
        obtain ⟨c₀, hc₀, hsame⟩ := hids c' hc'
        rw [← hsame]
        exact h.apart run hrun c₀ hc₀
      runs := by
        intro run hrun
        rw [hruns] at hrun
        refine (h.runs run hrun).congr (Db.stream_elsewhere hinsert ?_)
        rw [hstream]
        exact (h.apart run hrun c hreplaced.mem_old).symm
      conversations := by
        intro c' hc'
        rcases (hreplaced.mem_iff c').mp hc' with rfl | ⟨hold, hne⟩
        · exact (h.conversations c hreplaced.mem_old).appended hinsert hstream hsequence hversion
        · refine (h.conversations c' hold).congr (Db.stream_elsewhere hinsert ?_)
          rw [hstream]
          exact fun hid => hne (Table.eq_of_clash hold hreplaced.mem_old (by simp [clash, hid]))
      unopened := by rw [hruns]; exact h.unopened }

theorem Conversed.runs (h : Conversed db db') : db'.scheduleRun = db.scheduleRun := by
  induction h with
  | refl => rfl
  | tail _ hstep ih =>
    rcases hstep with hkept | happends
    · exact hkept.runs.trans ih
    · exact happends.runs.trans ih

/-- **A transaction of the workflow.** -/
theorem EventsSound.conversed (h : EventsSound db history) (hconversed : Conversed db db') :
    EventsSound db' history := by
  induction hconversed with
  | refl => exact h
  | tail _ hstep ih =>
    rcases hstep with hkept | happends
    · exact ih.kept hkept
    · exact ih.appends happends

/-- A new conversation has no events. -/
theorem EventsSound.created (h : EventsSound db history) {c : ConversationRow}
    (hinsert : db.conversation.insert? c = some db'.conversation) (hversion : c.resourceVersion = 1)
    (hruns : db'.scheduleRun = db.scheduleRun) (hevents : db'.persistedEvent = db.persistedEvent)
    (hfresh : ∀ run ∈ db.scheduleRun, run.id ≠ c.id) : EventsSound db' history := by
  -- two conversations of one id would clash
  have hnew : ∀ c₀ ∈ db.conversation, c₀.id ≠ c.id := by
    intro c₀ hc₀ hid
    have hfree := (Table.insert?_eq_some hinsert).2.1 c₀ hc₀
    simp [clash, hid] at hfree
  -- an event of the new stream would be owned by an older run or conversation
  have hnone : db'.stream c.id = [] := by
    rw [Db.stream_congr hevents, List.eq_nil_iff_forall_not_mem]
    intro e he
    obtain ⟨hmem, hid⟩ := Db.mem_stream.mp he
    rcases h.owned e hmem with ⟨run, hrun, hstream⟩ | ⟨c₀, hc₀, hstream⟩
    · exact hfresh run hrun (hstream.symm.trans hid)
    · exact hnew c₀ hc₀ (hstream.symm.trans hid)
  exact
    { owned := by
        intro e he
        rw [hevents] at he
        rw [hruns]
        refine (h.owned e he).imp_right ?_
        rintro ⟨c₀, hc₀, hid⟩
        exact ⟨c₀, (Table.mem_of_insert? hinsert).mpr (.inl hc₀), hid⟩
      apart := by
        intro run hrun c' hc'
        rw [hruns] at hrun
        rcases (Table.mem_of_insert? hinsert).mp hc' with hold | rfl
        · exact h.apart run hrun c' hold
        · exact hfresh run hrun
      runs := by
        rw [hruns]
        exact fun run hrun => (h.runs run hrun).congr (Db.stream_congr hevents _)
      conversations := by
        intro c' hc'
        rcases (Table.mem_of_insert? hinsert).mp hc' with hold | rfl
        · exact (h.conversations c' hold).congr (Db.stream_congr hevents _)
        · exact ⟨hnone ▸ .nil 0, hnone ▸ .nil 1, by rw [hnone, hversion]; rfl⟩
      unopened := by rw [hruns]; exact h.unopened }

/-- **A transaction of a worker or of a cancel command.** -/
theorem EventsSound.progress (h : EventsSound db history) (hprogress : Progress db db') :
    EventsSound db' (recordStatus db db' history) := by
  cases hprogress with
  | silent hsilent =>
    rw [recordStatus_kept hsilent.runs]
    exact h.kept ⟨hsilent.runs, hsilent.conversations, hsilent.events⟩
  | moved run run' hreplaced hmoved hcandidate hsnapshots hjobs happended =>
    -- a move appends one event, to the stream of the run that moved
    obtain ⟨e, he, hinsert⟩ := happended.event
    have hconversations := happended.conversations
    have hrun := hreplaced.mem_old
    -- the one run that moved keeps its id
    have hother : ∀ r : ScheduleRunRow, r.id ≠ run.id →
        (r ∈ db'.scheduleRun ↔ r ∈ db.scheduleRun) := by
      intro r hne
      rw [hreplaced.mem_iff]
      constructor
      · rintro (rfl | ⟨hmem, -⟩)
        · exact absurd hmoved.id hne
        · exact hmem
      · exact fun hmem => .inr ⟨hmem, fun heq => hne (by rw [heq])⟩
    have hids : ∀ r ∈ db'.scheduleRun, ∃ r₀ ∈ db.scheduleRun, r₀.id = r.id := by
      intro r hr
      by_cases hid : r.id = run.id
      · exact ⟨run, hrun, hid.symm⟩
      · exact ⟨r, (hother r hid).mp hr, rfl⟩
    have hkeeps : ∀ r₀ ∈ db.scheduleRun, ∃ r ∈ db'.scheduleRun, r.id = r₀.id := by
      intro r₀ hr₀
      by_cases hid : r₀.id = run.id
      · exact ⟨run', hreplaced.mem_new, hmoved.id.trans hid.symm⟩
      · exact ⟨r₀, (hother r₀ hid).mpr hr₀, rfl⟩
    -- only its history is longer, by the new status
    have hsame : ∀ runId, runId ≠ run.id → recordStatus db db' history runId = history runId :=
      fun runId hne => recordStatus_same (Db.runStatus_elsewhere fun r hid =>
        hother r (by rw [hid]; exact hne))
    have hnoted : recordStatus db db' history run.id = history run.id ++ [run'.status] := by
      refine recordStatus_changed ?_ ?_
      · rw [← hmoved.id]; exact Db.runStatus_of_mem hreplaced.mem_new
      · rw [Db.runStatus_of_mem hrun, ne_eq, Option.some.injEq]; exact hmoved.edge.ne
    have hstream : e.streamId = run.id := he.stream.trans hmoved.id
    exact
      { owned := by
          intro e' he'
          have howner : ∀ r₀ ∈ db.scheduleRun, e'.streamId = r₀.id →
              ∃ r ∈ db'.scheduleRun, e'.streamId = r.id := by
            intro r₀ hr₀ hid
            obtain ⟨r, hr, heq⟩ := hkeeps r₀ hr₀
            exact ⟨r, hr, hid.trans heq.symm⟩
          rw [hconversations]
          rcases (Table.mem_of_insert? hinsert).mp he' with hold | rfl
          · rcases h.owned e' hold with ⟨r₀, hr₀, hid⟩ | hc
            · exact .inl (howner r₀ hr₀ hid)
            · exact .inr hc
          · exact .inl (howner run hrun hstream)
        apart := by
          intro r hr c hc
          rw [hconversations] at hc
          obtain ⟨r₀, hr₀, hid⟩ := hids r hr
          rw [← hid]
          exact h.apart r₀ hr₀ c hc
        runs := by
          intro r hr
          rcases (hreplaced.mem_iff r).mp hr with rfl | ⟨hold, hne⟩
          · rw [hmoved.id, hnoted]
            exact (h.runs run hrun).moved hmoved he hinsert
          · have hid : r.id ≠ run.id := fun hid =>
              hne (Table.eq_of_clash hold hrun (by simp [clash, hid]))
            rw [hsame r.id hid]
            refine (h.runs r hold).congr (Db.stream_elsewhere hinsert ?_)
            rw [hstream]
            exact hid.symm
        conversations := by
          intro c hc
          rw [hconversations] at hc
          refine (h.conversations c hc).congr (Db.stream_elsewhere hinsert ?_)
          rw [hstream]
          exact h.apart run hrun c hc
        unopened := by
          intro runId hnone
          have hne : runId ≠ run.id := fun heq =>
            hnone run' hreplaced.mem_new (by rw [heq]; exact hmoved.id)
          rw [hsame runId hne]
          refine h.unopened runId fun r₀ hr₀ hid => ?_
          obtain ⟨r, hr, heq⟩ := hkeeps r₀ hr₀
          exact hnone r hr (heq.trans hid) }

/-- **A transaction that may open a run**, under an identifier that is no conversation's. -/
theorem EventsSound.recorded (h : EventsSound db history) (hrecorded : Recorded db db')
    (hfresh : ∀ run ∈ db'.scheduleRun, ∀ c ∈ db.conversation, run.id ≠ c.id) :
    EventsSound db' (recordStatus db db' history) := by
  cases hrecorded with
  | progress hprogress => exact h.progress hprogress
  | opened snapshot run hsnapshot hinsertRun hversions hstatus hversion hsnapshotId hsite hpayload
      hjobs happended =>
    obtain ⟨e, he, hinsert⟩ := happended.event
    have hconversations := happended.conversations
    have hmem : ∀ r, r ∈ db'.scheduleRun ↔ r ∈ db.scheduleRun ∨ r = run :=
      fun r => Table.mem_of_insert? hinsertRun
    have hnew : ∀ r₀ ∈ db.scheduleRun, r₀.id ≠ run.id := by
      intro r₀ hr₀ hid
      have hfree := (Table.insert?_eq_some hinsertRun).2.1 r₀ hr₀
      simp [clash, hid] at hfree
    have hopen : run ∈ db'.scheduleRun := (hmem run).mpr (.inr rfl)
    -- the identifier is free in both kinds of streams, so its stream is empty
    have hnone : db.stream run.id = [] := by
      rw [List.eq_nil_iff_forall_not_mem]
      intro e' he'
      obtain ⟨hmem', hid⟩ := Db.mem_stream.mp he'
      rcases h.owned e' hmem' with ⟨r₀, hr₀, hstream⟩ | ⟨c, hc, hstream⟩
      · exact hnew r₀ hr₀ (hstream.symm.trans hid)
      · exact hfresh run hopen c hc (hid.symm.trans hstream)
    have hsame : ∀ runId, runId ≠ run.id → recordStatus db db' history runId = history runId := by
      intro runId hne
      refine recordStatus_same (Db.runStatus_elsewhere fun r hid => ?_)
      rw [hmem]
      exact or_iff_left fun heq => hne (by rw [← hid, heq])
    -- the history of the new run begins with its first status
    have hnoted : recordStatus db db' history run.id = [run.status] := by
      rw [recordStatus_changed (Db.runStatus_of_mem hopen), h.unopened run.id hnew, List.nil_append]
      rw [Db.runStatus_eq_none hnew]
      exact Option.some_ne_none run.status |>.symm
    exact
      { owned := by
          intro e' he'
          rw [hconversations]
          rcases (Table.mem_of_insert? hinsert).mp he' with hold | rfl
          · rcases h.owned e' hold with ⟨r₀, hr₀, hid⟩ | hc
            · exact .inl ⟨r₀, (hmem r₀).mpr (.inl hr₀), hid⟩
            · exact .inr hc
          · exact .inl ⟨run, hopen, he.stream⟩
        apart := by rw [hconversations]; exact hfresh
        runs := by
          intro r hr
          rcases (hmem r).mp hr with hold | rfl
          · rw [hsame r.id (hnew r hold)]
            refine (h.runs r hold).congr (Db.stream_elsewhere hinsert ?_)
            rw [he.stream]
            exact (hnew r hold).symm
          · rw [hnoted]
            exact .opened he hinsert hnone hversion
        conversations := by
          intro c hc
          rw [hconversations] at hc
          refine (h.conversations c hc).congr (Db.stream_elsewhere hinsert ?_)
          rw [he.stream]
          exact hfresh run hopen c hc
        unopened := by
          intro runId hunopened
          rw [hsame runId fun heq => hunopened run hopen heq.symm]
          exact h.unopened runId fun r₀ hr₀ => hunopened r₀ ((hmem r₀).mpr (.inl hr₀)) }

end EventsSound

/-! ## The system -/

/-- Workers, planners and turns on one database: the database is that of the turns. -/
structure EventSys where
  runs : Sys
  turns : TurnSys
  /-- the statuses each run has had -/
  history : Uuid → List ScheduleRunStatus := fun _ => []

namespace EventSys

def db (s : EventSys) : Db := s.turns.db

/-- The run side of the system, at the committed state. -/
def runsNow (s : EventSys) : Sys := { s.runs with db := s.db }

/-- A step ended in these states; changes of status are noted. -/
def moveTo (s : EventSys) (runs : Sys) (turns : TurnSys) : EventSys :=
  ⟨runs, turns, recordStatus s.db turns.db s.history⟩

end EventSys

inductive EventAction where
  /-- an enqueue command, a worker, or a cancel command -/
  | run (a : Action)
  /-- a turn, a card command, or a decision -/
  | turn (a : TurnAction)
  | createConversation (env : Ambient) (pinned : Option Uuid) (scenarioId siteId : Uuid)
  /-- whatever the rest of the application commits -/
  | elsewhere (db' : Db)

/-- When a step may be taken. An identifier drawn for a run or a conversation is not one the other
has already. -/
def EventAction.Enabled (s : EventSys) : EventAction → Prop
  | .run a => a.Enabled s.runsNow ∧
    match a with
    | .enqueueCompute env _ _ => ∀ c ∈ s.db.conversation, env.uuid4 2 ≠ c.id
    | .elsewhere _ => False
    | _ => True
  | .turn a => a.Enabled s.turns ∧ ∀ db', a ≠ .elsewhere db'
  | .createConversation env _ _ _ => ∀ run ∈ s.db.scheduleRun, run.id ≠ env.uuid4 0
  | .elsewhere db' => StreamsKept s.db db'

/-- The state after a step. -/
def EventSys.perform (s : EventSys) : EventAction → EventSys
  | .run a => s.moveTo (s.runsNow.perform a) (s.turns.commit (s.runsNow.perform a).db)
  | .turn a => s.moveTo s.runs (s.turns.perform a)
  | .createConversation env pinned scenarioId siteId =>
    s.moveTo s.runs (s.turns.commit
      ((ConversationRepository.create env pinned scenarioId siteId).commit s.db).2)
  | .elsewhere db' => s.moveTo s.runs (s.turns.commit db')

/-- No run was scheduled and no conversation was opened yet. -/
structure EventSys.Initial (s : EventSys) : Prop where
  runs : s.db.scheduleRun = .empty
  conversations : s.db.conversation = .empty
  events : s.db.persistedEvent = .empty
  history : ∀ runId, s.history runId = []

/-- The event streams under all their writers. -/
def eventMachine : Machine EventSys EventAction where
  initial := EventSys.Initial
  enabled := EventAction.Enabled
  perform := EventSys.perform

/-! ## Over whole runs -/

/-- `create` opens a conversation at resource version 1, or nothing. -/
theorem create_ok {env : Ambient} {pinned : Option Uuid} {scenarioId siteId : Uuid} {db db' : Db}
    {created : Option ConversationRow}
    (h : (ConversationRepository.create env pinned scenarioId siteId).run db =
      (.ok created, db')) :
    db' = db ∨ ∃ c : ConversationRow, c.id = env.uuid4 0 ∧ c.resourceVersion = 1 ∧
      db.conversation.insert? c = some db'.conversation ∧ db'.scheduleRun = db.scheduleRun ∧
      db'.persistedEvent = db.persistedEvent := by
  cases pinned with
  | none => cases h; exact .inl rfl
  | some scenarioVersionId =>
    obtain ⟨u, db₁, hinsert, hreturn⟩ := Tx.bind_ok.mp h
    obtain ⟨t, ht, rfl⟩ := Relvar.insertInto_ok.mp hinsert
    cases hreturn
    exact .inr ⟨_, rfl, rfl, ht, rfl, rfl⟩

theorem EventsSound.initial {s : EventSys} (h : s.Initial) : EventsSound s.db s.history where
  owned e he := by rw [h.events] at he; exact absurd he (Table.not_mem_empty e)
  apart run hrun := by rw [h.runs] at hrun; exact absurd hrun (Table.not_mem_empty run)
  runs run hrun := by rw [h.runs] at hrun; exact absurd hrun (Table.not_mem_empty run)
  conversations c hc := by rw [h.conversations] at hc; exact absurd hc (Table.not_mem_empty c)
  unopened runId _ := h.history runId

/-- The runs an enqueue command leaves are the ones it found and one under the identifier it
drew. -/
theorem enqueueCompute_ids {env : Ambient} {catalogue : ScenarioCatalogue} {cmd : EnqueueCommand}
    {db : Db} {run : ScheduleRunRow}
    (h : run ∈ ((enqueueCompute env catalogue cmd).commit db).2.scheduleRun) :
    run ∈ db.scheduleRun ∨ run.id = env.uuid4 2 := by
  rcases Tx.commit_cases (enqueueCompute env catalogue cmd) db with ⟨result, hok⟩ | hback
  · rcases enqueueCompute_opens hok with hsame | ⟨opened, hid, -, hinsert⟩
    · rw [hsame] at h
      exact .inl h
    · refine ((Table.mem_of_insert? hinsert).mp h).imp_right ?_
      rintro rfl
      exact hid
  · rw [hback] at h
    exact .inl h

/-- **Every step keeps every stream in step.** -/
theorem EventsSound.perform {s : EventSys} (h : EventsSound s.db s.history) {a : EventAction}
    (ha : a.Enabled s) : EventsSound (s.perform a).db (s.perform a).history := by
  have hkept : ∀ {db'}, StreamsKept s.db db' →
      EventsSound db' (recordStatus s.db db' s.history) := by
    intro db' hsame
    rw [recordStatus_kept hsame.runs]
    exact h.kept hsame
  cases a with
  | run a =>
    obtain ⟨henabled, hfresh⟩ := ha
    cases hopens : a.opensNothing with
    | true =>
      rcases Sys.perform_progress henabled hopens with hprogress | ⟨db', rfl⟩
      · exact h.progress hprogress
      · exact hfresh.elim
    | false =>
      cases a with
      | enqueueCompute env catalogue cmd =>
        -- only this action opens a run
        refine h.recorded (enqueueCompute_recorded env catalogue cmd s.db) fun run hrun c hc => ?_
        rcases enqueueCompute_ids hrun with hold | hid
        · exact h.apart run hold c hc
        · rw [hid]
          exact hfresh c hc
      | _ => cases hopens
  | turn a =>
    have hconversed : Conversed s.db (s.turns.perform a).db := TurnSys.perform_conversed ha.2
    show EventsSound (s.turns.perform a).db (recordStatus s.db (s.turns.perform a).db s.history)
    rw [recordStatus_kept hconversed.runs]
    exact h.conversed hconversed
  | createConversation env pinned scenarioId siteId =>
    have hfresh : ∀ run ∈ s.db.scheduleRun, run.id ≠ env.uuid4 0 := ha
    generalize hdb : ((ConversationRepository.create env pinned scenarioId siteId).commit
      s.db).2 = db'
    have hgoal : EventsSound db' (recordStatus s.db db' s.history) := by
      rcases Tx.commit_cases (ConversationRepository.create env pinned scenarioId siteId) s.db with
        ⟨created, hok⟩ | hback
      · rw [hdb] at hok
        rcases create_ok hok with rfl | ⟨c, hid, hversion, hinsert, hruns, hevents⟩
        · exact hkept (.refl s.db)
        · rw [recordStatus_kept hruns]
          exact h.created hinsert hversion hruns hevents (by rw [hid]; exact hfresh)
      · rw [← hdb, hback]
        exact hkept (.refl s.db)
    rw [← hdb] at hgoal
    exact hgoal
  | elsewhere db' => exact hkept ha

theorem eventsSound_of_reachable {s : EventSys} (hreach : Reachable eventMachine.system s) :
    EventsSound s.db s.history :=
  Machine.reachable_invariant (fun s => EventsSound s.db s.history) (fun _ => .initial)
    (fun _ _ h ha => h.perform ha) hreach

/-! ## As the streams are read -/

/-- A stream of a run, as its readers see it: numbered without gaps, one event for each status the
run had, up to date, and ended by its terminal event. -/
structure GaplessRunStream (db : Db) (history : List ScheduleRunStatus) (run : ScheduleRunRow) :
    Prop where
  sequences : ∀ i (h : i < (db.stream run.id).length), (db.stream run.id)[i].sequence = i + 1
  versions : ∀ i (h : i < (db.stream run.id).length), (db.stream run.id)[i].resourceVersion = i + 1
  statuses : (db.stream run.id).map PersistedEventRow.runStatus = history.map some
  current : history.getLast? = some run.status
  head : (scheduleRunReader run.id run.siteId).head db = some run.resourceVersion
  terminal : (∃ e ∈ db.stream run.id, isTerminalRunEvent e = true) ↔ run.status.terminal = true
  last : ∀ i (h : i < (db.stream run.id).length),
    isTerminalRunEvent (db.stream run.id)[i] = true → i + 1 = (db.stream run.id).length

theorem contains_terminal (status : ScheduleRunStatus) :
    terminalRunEventTypes.contains status.runEventType = status.terminal := by
  cases status <;> decide

theorem RunStream.isTerminal {db : Db} {history : List ScheduleRunStatus} {run : ScheduleRunRow}
    (h : RunStream db history run) :
    (db.stream run.id).map isTerminalRunEvent = history.map ScheduleRunStatus.terminal := by
  have hmap : (db.stream run.id).map isTerminalRunEvent =
      ((db.stream run.id).map PersistedEventRow.eventType).map terminalRunEventTypes.contains := by
    rw [List.map_map]
    rfl
  rw [hmap, h.eventTypes, List.map_map]
  exact List.map_congr_left fun status _ => contains_terminal status

theorem scheduleRunReader_visible {db : Db} {run : ScheduleRunRow} (hrun : run ∈ db.scheduleRun) :
    (scheduleRunReader run.id run.siteId).visible db = true :=
  List.any_eq_true.mpr ⟨run, hrun, by simp [isRun]⟩

/-- The rows its reader selects are the stream. -/
theorem RunStream.owned {db : Db} {history : List ScheduleRunStatus} {run : ScheduleRunRow}
    (h : RunStream db history run) :
    db.persistedEvent.rows.filter (scheduleRunReader run.id run.siteId).owns =
      db.stream run.id := by
  refine List.filter_congr fun e he => ?_
  by_cases hstream : e.streamId = run.id
  · obtain ⟨howner, hsite⟩ := h.owner e (Db.mem_stream.mpr ⟨he, hstream⟩)
    simp [scheduleRunReader, hstream, howner, hsite]
  · simp [scheduleRunReader, hstream]

/-- They are in the order they were appended. -/
theorem RunStream.log {db : Db} {history : List ScheduleRunStatus} {run : ScheduleRunRow}
    (h : RunStream db history run) :
    (scheduleRunReader run.id run.siteId).log db = db.stream run.id := by
  unfold StreamReader.log
  rw [h.owned]
  exact sort_of_increasing h.sequences.increasing

/-- What a stream in step looks like to its readers. -/
theorem RunStream.gapless {db : Db} {history : List ScheduleRunStatus} {run : ScheduleRunRow}
    (h : RunStream db history run) (hrun : run ∈ db.scheduleRun) :
    GaplessRunStream db history run := by
  -- an event ends the stream exactly where its status ends the run
  have hterminal := h.isTerminal
  have hlength : (db.stream run.id).length = history.length := by
    simpa using congrArg List.length h.statuses
  exact
    { sequences := fun i hi => by rw [h.sequences i hi]; omega
      versions := fun i hi => by rw [h.versions i hi]; omega
      statuses := h.statuses
      current := h.current
      head := by
        unfold StreamReader.head
        rw [if_pos (scheduleRunReader_visible hrun), h.owned, h.sequences.max, h.head]
      terminal := by
        have hexists : (∃ e ∈ db.stream run.id, isTerminalRunEvent e = true) ↔
            ∃ status ∈ history, status.terminal = true := by
          rw [← List.mem_map, ← List.mem_map, hterminal]
        rw [hexists]
        constructor
        · rintro ⟨status, hmem, hend⟩
          by_contra hstatus
          have hnot := h.not_terminal (Bool.eq_false_iff.mpr hstatus) status hmem
          rw [hnot] at hend
          cases hend
        · exact fun hend => ⟨run.status, List.mem_of_getLast? h.current, hend⟩
      last := by
        -- before the last status no status was terminal
        intro i hi hend
        by_contra hne
        have hdrop : i < history.dropLast.length := by
          rw [List.length_dropLast]
          omega
        have hstatus : history[i].terminal = true := by
          have hget := List.getElem_of_eq hterminal (by rw [List.length_map]; exact hi)
          rw [List.getElem_map, List.getElem_map] at hget
          rw [← hget]
          exact hend
        have hnot := h.unended _ (List.getElem_mem hdrop)
        rw [List.getElem_dropLast, hstatus] at hnot
        cases hnot }

/-- **The event streams.** In every reachable state, the stream of every run is numbered without
gaps, its events carry the resource versions and the statuses of the run in order, and it ends with
the one terminal event when the run has ended; the stream of every conversation is numbered without
gaps, and each of its events moved the conversation one resource version on. -/
theorem event_streams_gapless {s : EventSys} (hreach : Reachable eventMachine.system s) :
    (∀ run ∈ s.db.scheduleRun, GaplessRunStream s.db (s.history run.id) run) ∧
      ∀ c ∈ s.db.conversation, ConversationStream s.db c := by
  have hsound := eventsSound_of_reachable hreach
  exact ⟨fun run hrun => (hsound.runs run hrun).gapless hrun, hsound.conversations⟩

namespace Depot

/-- The depot, with a conversation in which a message was sent and a run that a worker started. -/
def streamed : EventSys := eventMachine.performAll ⟨site, { db := site.db }, fun _ => []⟩
  [.createConversation (env 9) (some 21) 20 1, .turn (.acceptTurn (env 10) 900 1 3 50 "plan"),
    .run enqueue, .run (lease 2), .run (transactionA 3 (leased 2 1))]

theorem streamed_reachable : Reachable eventMachine.system streamed := by
  have hinit : EventSys.Initial ⟨site, { db := site.db }, fun _ => []⟩ :=
    ⟨rfl, rfl, rfl, fun _ => rfl⟩
  refine Machine.reachable_of_schedule hinit ⟨?_, ⟨trivial, fun _ h => by cases h⟩,
    ⟨trivial, ?_⟩, ⟨trivial, trivial⟩, ⟨⟨by decide +kernel, trivial⟩, trivial⟩, trivial⟩
  · exact fun run h => absurd h (Table.not_mem_empty run)
  · intro c hc
    have hall : ∀ c ∈ (eventMachine.performAll ⟨site, { db := site.db }, fun _ => []⟩
        [.createConversation (env 9) (some 21) 20 1,
          .turn (.acceptTurn (env 10) 900 1 3 50 "plan")]).db.conversation.rows,
        (env 1).uuid4 2 ≠ c.id := by
      decide +kernel
    exact hall c hc

end Depot

theorem event_streams_gapless_depot :
    (∀ run ∈ Depot.streamed.db.scheduleRun,
      GaplessRunStream Depot.streamed.db (Depot.streamed.history run.id) run) ∧
      ∀ c ∈ Depot.streamed.db.conversation, ConversationStream Depot.streamed.db c :=
  event_streams_gapless Depot.streamed_reachable

/-- The run was queued and is running, and the conversation has its first message. -/
example : (Depot.streamed.db.stream 102).map PersistedEventRow.sequence = [1, 2] ∧
    Depot.streamed.history 102 = [.solverQueued, .solverRunning] ∧
    (Depot.streamed.db.stream 900).map PersistedEventRow.resourceVersion = [2] := by
  decide +kernel

end ShiftMind
