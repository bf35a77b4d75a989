import ShiftMind.Streaming.Gapless

/-!
# ShiftMind — the streams of finished runs

`_event_frames` of `api/routers/conversations.py` as it runs on one connection: poll, yield every
event of the batch, and return behind a final event. A run that has ended emits nothing further, so
a stream that was opened on it reads the same events at every poll.

* **`eventFrames`** — the frames of a number of polls, and whether the generator has returned.
* **`eventFrames_ends`**, **`eventFrames_idle`** — a loop with a final event ahead, and one with
  nothing ahead.
* **`RunKept`** — a run that has ended keeps its row and its stream, under every writer.
* **`finished_stream_ends_iff`** — for which cursors the generator returns.
-/

namespace ShiftMind

open Relational Transactional Transition Log StreamCursor Relation

/-! ## The generator -/

section Frames

variable (reader : StreamReader)

/-- The loop over a batch: the events whose frames are yielded, and whether it returned behind a
final one. -/
def yieldBatch : List PersistedEventRow → List PersistedEventRow × Bool
  | [] => ([], false)
  | event :: rest =>
    if reader.isFinal event then ([event], true)
    else
      let (yielded, returned) := yieldBatch rest
      (event :: yielded, returned)

/-- `_event_frames`, over the database as each of its polls finds it. The heartbeats and the pauses
between polls carry no event. -/
def eventFrames : List Db → Int → List PersistedEventRow × Bool
  | [], _ => ([], false)
  | db :: polled, cursor =>
    match reader.eventsAfter cursor replayBatch db with
    | none => ([], true)
    | some batch =>
      let (yielded, returned) := yieldBatch reader batch
      if returned then (yielded, true)
      else
        let (more, returned) :=
          eventFrames polled (cursorAt PersistedEventRow.sequence cursor yielded)
        (yielded ++ more, returned)

variable {reader}

/-- A batch without a final event is yielded whole. -/
theorem yieldBatch_open {batch : List PersistedEventRow}
    (h : ∀ e ∈ batch, reader.isFinal e = false) : yieldBatch reader batch = (batch, false) := by
  induction batch with
  | nil => rfl
  | cons e batch ih =>
    have hrest := ih fun e' he' => h e' (List.mem_cons_of_mem _ he')
    rw [yieldBatch, h e List.mem_cons_self, hrest]
    rfl

/-- A batch is yielded up to its final event. -/
theorem yieldBatch_final {batch : List PersistedEventRow} {e : PersistedEventRow}
    (h : ∀ e ∈ batch, reader.isFinal e = false) (hfinal : reader.isFinal e = true) :
    yieldBatch reader (batch ++ [e]) = (batch ++ [e], true) := by
  induction batch with
  | nil => simp [yieldBatch, hfinal]
  | cons e' batch ih =>
    have hrest := ih fun x hx => h x (List.mem_cons_of_mem _ hx)
    rw [List.cons_append, yieldBatch, h e' List.mem_cons_self, hrest]
    rfl

/-- **With a final event ahead the generator returns.** Each poll yields at least one of the events
behind the cursor, so no more polls than events are needed, and every one of them is yielded. -/
theorem eventFrames_ends {log before : List PersistedEventRow} {e : PersistedEventRow}
    {polled : List Db} {cursor : Int} (hlog : Increasing PersistedEventRow.sequence log)
    (hpolled : ∀ db ∈ polled, reader.visible db = true ∧ reader.log db = log)
    (hahead : after PersistedEventRow.sequence cursor log = before ++ [e])
    (hopen : ∀ e' ∈ before, reader.isFinal e' = false) (hfinal : reader.isFinal e = true)
    (henough : before.length < polled.length) :
    eventFrames reader polled cursor = (before ++ [e], true) := by
  induction polled generalizing cursor before with
  | nil => simp at henough
  | cons db polled ih =>
    have hdb := hpolled db List.mem_cons_self
    rw [eventFrames, reader.eventsAfter_eq, if_pos hdb.1, hdb.2, hahead]
    by_cases hshort : before.length < replayBatch
    · -- the final event is in this batch
      have hbatch : (before ++ [e]).take replayBatch = before ++ [e] := by
        apply List.take_of_length_le
        rw [List.length_append, List.length_singleton]
        omega
      simp only [hbatch, yieldBatch_final hopen hfinal, if_true]
    · -- a full batch, and the rest at the next polls
      have hbatch : (before ++ [e]).take replayBatch = before.take replayBatch :=
        List.take_append_of_le_length (by omega)
      have hyield :
          yieldBatch reader (before.take replayBatch) = (before.take replayBatch, false) :=
        yieldBatch_open fun e' he' => hopen e' (List.mem_of_mem_take he')
      have hsplit : after PersistedEventRow.sequence cursor log =
          before.take replayBatch ++ (before.drop replayBatch ++ [e]) := by
        rw [hahead, ← List.append_assoc, List.take_append_drop]
      have hpos : 0 < replayBatch := by decide
      have hrest := ih (fun db' hdb' => hpolled db' (List.mem_cons_of_mem _ hdb'))
        (after_cursorAt hlog hsplit) (fun e' he' => hopen e' (List.mem_of_mem_drop he'))
        (by rw [List.length_drop]; rw [List.length_cons] at henough; omega)
      simp only [hbatch, hyield, Bool.false_eq_true, if_false, hrest]
      rw [← List.append_assoc, List.take_append_drop]

/-- **With nothing ahead the generator polls on**, however often. -/
theorem eventFrames_idle {polled : List Db} {cursor : Int}
    (hpolled : ∀ db ∈ polled, reader.visible db = true ∧
      after PersistedEventRow.sequence cursor (reader.log db) = []) :
    eventFrames reader polled cursor = ([], false) := by
  induction polled with
  | nil => rfl
  | cons db polled ih =>
    have hdb := hpolled db List.mem_cons_self
    have hrest := ih fun db' hdb' => hpolled db' (List.mem_cons_of_mem _ hdb')
    rw [eventFrames, reader.eventsAfter_eq, if_pos hdb.1, hdb.2, List.take_nil]
    simp only [yieldBatch, Bool.false_eq_true, if_false, cursorAt_nil, hrest, List.nil_append]

end Frames

/-! ## A run that has ended

The log of a run that has ended does not grow. -/

/-- The row of a run and its stream stay as they are. -/
structure RunKept (run : ScheduleRunRow) (db db' : Db) : Prop where
  row : run ∈ db'.scheduleRun
  stream : db'.stream run.id = db.stream run.id

section Kept

variable {db db' : Db} {history : Uuid → List ScheduleRunStatus} {run : ScheduleRunRow}

theorem RunKept.of_kept (hrun : run ∈ db.scheduleRun) (h : StreamsKept db db') :
    RunKept run db db' where
  row := by rw [h.runs]; exact hrun
  stream := Db.stream_congr h.events run.id

/-- An event appended to a conversation is in no run's stream. -/
theorem RunKept.of_appends (hsound : EventsSound db history) (hrun : run ∈ db.scheduleRun)
    (h : Appends db db') : RunKept run db db' := by
  obtain ⟨c, e, hreplaced, hinsert, hstream, -, -⟩ := h.appended
  have hne : e.streamId ≠ run.id := by
    rw [hstream]
    exact (hsound.apart run hrun c hreplaced.mem_old).symm
  constructor
  · rw [h.runs]
    exact hrun
  · exact Db.stream_elsewhere hinsert hne

theorem RunKept.of_conversed (hsound : EventsSound db history) (hrun : run ∈ db.scheduleRun)
    (h : Conversed db db') : RunKept run db db' := by
  induction h with
  | refl => exact ⟨hrun, rfl⟩
  | @tail db₁ db₂ hbefore hstep ih =>
    have hnext : RunKept run db₁ db₂ := by
      rcases hstep with hkept | happends
      · exact .of_kept ih.row hkept
      · exact .of_appends (hsound.conversed hbefore) ih.row happends
    exact ⟨hnext.row, hnext.stream.trans ih.stream⟩

/-- A worker or a cancel command moves no run that has ended: it moves along an edge of the state
machine, and none leaves a terminal status. -/
theorem RunKept.of_progress (hrun : run ∈ db.scheduleRun) (hended : run.status.terminal = true)
    (h : Progress db db') : RunKept run db db' := by
  cases h with
  | silent hsilent => exact .of_kept hrun ⟨hsilent.runs, hsilent.conversations, hsilent.events⟩
  | moved old new hreplaced hmoved hcandidate hsnapshots hjobs happended =>
    obtain ⟨e, he, hinsert⟩ := happended.event
    have hne : run ≠ old := by
      intro heq
      have hopen := hmoved.edge.source_not_terminal
      rw [← heq, hended] at hopen
      cases hopen
    have hid : old.id ≠ run.id := fun hid =>
      hne (Table.eq_of_clash hrun hreplaced.mem_old (by simp [clash, hid]))
    constructor
    · exact (hreplaced.mem_iff run).mpr (.inr ⟨hrun, hne⟩)
    · apply Db.stream_elsewhere hinsert
      rw [he.stream, hmoved.id]
      exact hid

/-- A new run is another one. -/
theorem RunKept.of_recorded (hrun : run ∈ db.scheduleRun) (hended : run.status.terminal = true)
    (h : Recorded db db') : RunKept run db db' := by
  cases h with
  | progress hprogress => exact .of_progress hrun hended hprogress
  | opened snapshot new hsnapshot hinsertRun hversions hstatus hversion hsnapshotId hsite hpayload
      hjobs happended =>
    obtain ⟨e, he, hinsert⟩ := happended.event
    have hid : new.id ≠ run.id := by
      intro hid
      have hfree := (Table.insert?_eq_some hinsertRun).2.1 run hrun
      simp [clash, hid] at hfree
    constructor
    · exact (Table.mem_of_insert? hinsertRun).mpr (.inl hrun)
    · apply Db.stream_elsewhere hinsert
      rw [he.stream]
      exact hid

end Kept

/-- **No step touches a run that has ended.** -/
theorem RunKept.of_step {s : EventSys} {run : ScheduleRunRow}
    (hsound : EventsSound s.db s.history) (hrun : run ∈ s.db.scheduleRun)
    (hended : run.status.terminal = true) {a : EventAction} (ha : a.Enabled s) :
    RunKept run s.db (s.perform a).db := by
  cases a with
  | run a =>
    obtain ⟨henabled, hfresh⟩ := ha
    -- only enqueueing opens a run; every other action works on the ones there are
    cases hopens : a.opensNothing with
    | true =>
      rcases Sys.perform_progress henabled hopens with hprogress | ⟨db', rfl⟩
      · exact .of_progress hrun hended hprogress
      · exact hfresh.elim
    | false =>
      cases a with
      | enqueueCompute env catalogue cmd =>
        exact .of_recorded hrun hended (enqueueCompute_recorded env catalogue cmd s.db)
      | _ => cases hopens
  | turn a => exact .of_conversed hsound hrun (TurnSys.perform_conversed ha.2)
  | createConversation env pinned scenarioId siteId =>
    -- a new conversation has an id of its own, so no event joins the run's stream
    generalize hdb : ((ConversationRepository.create env pinned scenarioId siteId).commit
      s.db).2 = db'
    have hgoal : RunKept run s.db db' := by
      rcases Tx.commit_cases (ConversationRepository.create env pinned scenarioId siteId) s.db with
        ⟨created, hok⟩ | hback
      · rw [hdb] at hok
        rcases create_ok hok with rfl | ⟨c, hid, hversion, hinsert, hruns, hevents⟩
        · exact ⟨hrun, rfl⟩
        · exact ⟨by rw [hruns]; exact hrun, Db.stream_congr hevents run.id⟩
      · rw [← hdb, hback]
        exact ⟨hrun, rfl⟩
    rw [← hdb] at hgoal
    exact hgoal
  | elsewhere db' => exact .of_kept hrun ha

/-- Nor does a whole run of the system. -/
theorem RunKept.of_run {s s' : EventSys} {run : ScheduleRunRow}
    (hreach : Reachable eventMachine.system s) (hrun : run ∈ s.db.scheduleRun)
    (hended : run.status.terminal = true) (hlater : Run eventMachine.system s s') :
    RunKept run s.db s'.db := by
  apply hlater.preserves (P := fun s' => RunKept run s.db s'.db) ?_ hreach ⟨hrun, rfl⟩
  intro s₁ s₂ hreach₁ hkept hstep
  obtain ⟨a, ha, rfl⟩ := hstep
  have hnext := RunKept.of_step (eventsSound_of_reachable hreach₁) hkept.row hended ha
  exact ⟨hnext.row, hnext.stream.trans hkept.stream⟩

/-! ## Polling a run that has ended -/

section Polling

variable {s : EventSys} {run : ScheduleRunRow}

/-- The stream of a run that has ended, as each later poll reads it. -/
theorem finished_polled (hreach : Reachable eventMachine.system s) (hrun : run ∈ s.db.scheduleRun)
    (hended : run.status.terminal = true) {s' : EventSys} (hlater : Run eventMachine.system s s') :
    (scheduleRunReader run.id run.siteId).visible s'.db = true ∧
      (scheduleRunReader run.id run.siteId).log s'.db = s.db.stream run.id := by
  have hkept := RunKept.of_run hreach hrun hended hlater
  have hstream := (eventsSound_of_reachable (hreach.run hlater)).runs run hkept.row
  constructor
  · exact scheduleRunReader_visible hkept.row
  · rw [hstream.log, hkept.stream]

/-- Its last event is the one that closes the stream, under the run's resource version. -/
theorem finished_stream (hreach : Reachable eventMachine.system s) (hrun : run ∈ s.db.scheduleRun)
    (hended : run.status.terminal = true) :
    ∃ before e, s.db.stream run.id = before ++ [e] ∧ isTerminalRunEvent e = true ∧
      (∀ e' ∈ before, isTerminalRunEvent e' = false) ∧ e.sequence = run.resourceVersion := by
  have hrunStream := (eventsSound_of_reachable hreach).runs run hrun
  have hgapless := hrunStream.gapless hrun
  obtain ⟨e₀, he₀, -⟩ := hgapless.terminal.mpr hended
  obtain ⟨before, e, hstream⟩ := List.eq_nil_or_concat (s.db.stream run.id)
    |>.resolve_left (List.ne_nil_of_mem he₀)
  rw [List.concat_eq_append] at hstream
  have hlength : (s.db.stream run.id).length = before.length + 1 := by simp [hstream]
  -- a final event is the last one
  have hopen : ∀ e' ∈ before, isTerminalRunEvent e' = false := by
    intro e' he'
    obtain ⟨i, hi, rfl⟩ := List.getElem_of_mem he'
    rw [Bool.eq_false_iff]
    intro hfinal
    have hi' : i < (s.db.stream run.id).length := by omega
    have hget : (s.db.stream run.id)[i] = before[i] := by
      simp only [hstream]
      exact List.getElem_append_left hi
    have hlast := hgapless.last i hi' (by rw [hget]; exact hfinal)
    omega
  refine ⟨before, e, hstream, ?_, hopen, ?_⟩
  · obtain ⟨e', he', hfinal⟩ := hgapless.terminal.mpr hended
    rw [hstream, List.mem_append, List.mem_singleton] at he'
    rcases he' with hbefore | rfl
    · rw [hopen e' hbefore] at hfinal
      cases hfinal
    · exact hfinal
  · have hend : before.length < (s.db.stream run.id).length := by omega
    have hget : (s.db.stream run.id)[before.length] = e := by simp [hstream]
    rw [← hget, hgapless.sequences before.length hend, hrunStream.head, hlength]
    rfl

/-- Behind an earlier event the generator returns, with the last event. -/
theorem finished_stream_returns (hreach : Reachable eventMachine.system s)
    (hrun : run ∈ s.db.scheduleRun) (hended : run.status.terminal = true) {cursor : Int}
    (hcursor : cursor < run.resourceVersion) {polled : Nat → EventSys}
    (hpolled : ∀ i, Run eventMachine.system s (polled i)) :
    ∃ n, eventFrames (scheduleRunReader run.id run.siteId)
      ((List.range n).map fun i => (polled i).db) cursor =
        (after PersistedEventRow.sequence cursor (s.db.stream run.id), true) := by
  obtain ⟨before, e, hstream, hfinal, hopen, hsequence⟩ := finished_stream hreach hrun hended
  have hahead : after PersistedEventRow.sequence cursor (s.db.stream run.id) =
      after PersistedEventRow.sequence cursor before ++ [e] := by
    rw [hstream, after_append]
    simp [after, hsequence, hcursor]
  have hlog := (finished_polled hreach hrun hended (hpolled 0)).2
  refine ⟨(after PersistedEventRow.sequence cursor before).length + 1, ?_⟩
  rw [hahead]
  have hincreasing : Increasing PersistedEventRow.sequence (s.db.stream run.id) :=
    hlog ▸ StreamReader.increasing_log _ _
  apply eventFrames_ends hincreasing
  · intro db hdb
    obtain ⟨i, -, rfl⟩ := List.mem_map.mp hdb
    exact finished_polled hreach hrun hended (hpolled i)
  · exact hahead
  · exact fun e' he' => hopen e' (List.mem_of_mem_filter he')
  · exact hfinal
  · rw [List.length_map, List.length_range]
    omega

/-- Behind the last event there is nothing to yield, at any poll. -/
theorem finished_stream_idle (hreach : Reachable eventMachine.system s)
    (hrun : run ∈ s.db.scheduleRun) (hended : run.status.terminal = true) {cursor : Int}
    (hcursor : run.resourceVersion ≤ cursor) {polled : Nat → EventSys}
    (hpolled : ∀ i, Run eventMachine.system s (polled i)) (n : Nat) :
    eventFrames (scheduleRunReader run.id run.siteId)
      ((List.range n).map fun i => (polled i).db) cursor = ([], false) := by
  apply eventFrames_idle
  intro db hdb
  obtain ⟨i, -, rfl⟩ := List.mem_map.mp hdb
  obtain ⟨hvisible, hlog⟩ := finished_polled hreach hrun hended (hpolled i)
  refine ⟨hvisible, ?_⟩
  rw [hlog]
  apply List.filter_eq_nil_iff.mpr
  intro e he
  obtain ⟨k, hk, rfl⟩ := List.getElem_of_mem he
  have hrunStream := (eventsSound_of_reachable hreach).runs run hrun
  have hsequence := hrunStream.sequences k hk
  have hhead := hrunStream.head
  rw [decide_eq_true_eq]
  omega

/-- **Which streams of finished runs end.** For a run that has ended when its stream is opened, and
any cursor the route accepts, the generator returns after finitely many polls, behind exactly the
events after the cursor, unless the cursor is that of the run's last event; whatever the rest of the
system commits between the polls. -/
theorem finished_stream_ends_iff (hreach : Reachable eventMachine.system s)
    (hrun : run ∈ s.db.scheduleRun) (hended : run.status.terminal = true)
    {token : Option String} {cursor : Int}
    (hopened : openStream (scheduleRunReader run.id run.siteId) token s.db = .opened cursor)
    {polled : Nat → EventSys} (hpolled : ∀ i, Run eventMachine.system s (polled i)) :
    (∃ n, eventFrames (scheduleRunReader run.id run.siteId)
      ((List.range n).map fun i => (polled i).db) cursor =
        (after PersistedEventRow.sequence cursor
          ((scheduleRunReader run.id run.siteId).log s.db), true)) ↔
      cursor ≠ run.resourceVersion := by
  have hrunStream := (eventsSound_of_reachable hreach).runs run hrun
  have hle : cursor ≤ run.resourceVersion :=
    openStream_le hopened (hrunStream.gapless hrun).head
  rw [hrunStream.log]
  constructor
  · rintro ⟨n, hreturned⟩ heq
    rw [finished_stream_idle hreach hrun hended heq.ge hpolled n] at hreturned
    cases congrArg Prod.snd hreturned
  · intro hne
    exact finished_stream_returns hreach hrun hended (lt_of_le_of_ne hle hne) hpolled

end Polling

namespace Depot

/-- The depot once the worker has solved run 102. -/
def settled : EventSys :=
  eventMachine.perform streamed (.run (transactionB 4 (leased 2 1)))

theorem settled_reachable : Reachable eventMachine.system settled :=
  streamed_reachable.step ⟨.run (transactionB 4 (leased 2 1)),
    ⟨⟨by decide +kernel, by decide +kernel⟩, trivial⟩, rfl⟩

/-- Run 102 as it ended. -/
def solved : ScheduleRunRow :=
  settled.db.scheduleRun.rows.head?.getD { id := 0, siteId := 0, runSnapshotId := 0 }

theorem solved_mem : solved ∈ settled.db.scheduleRun := by
  have hrows : solved ∈ settled.db.scheduleRun.rows := by decide +kernel
  exact hrows

/-- A client that received the first event resumes behind it. -/
theorem resumes_at_first : openStream (scheduleRunReader solved.id solved.siteId)
    (some (formatEventId 102 1)) settled.db = .opened 1 := by
  decide +kernel

/-- A client that received every event may resume as well. -/
theorem resumes_at_last : openStream (scheduleRunReader solved.id solved.siteId)
    (some (formatEventId 102 3)) settled.db = .opened 3 := by
  decide +kernel

end Depot

theorem finished_stream_ends_iff_depot :
    (∃ n, eventFrames (scheduleRunReader Depot.solved.id Depot.solved.siteId)
      ((List.range n).map fun _ => Depot.settled.db) 1 =
        (after PersistedEventRow.sequence 1
          ((scheduleRunReader Depot.solved.id Depot.solved.siteId).log Depot.settled.db), true)) ↔
      (1 : Int) ≠ Depot.solved.resourceVersion :=
  finished_stream_ends_iff Depot.settled_reachable Depot.solved_mem (by decide +kernel)
    Depot.resumes_at_first fun _ => .refl

/-- **A finished run whose stream polls for ever.** The client received all three events of run 102
and reconnects with the id of the last one, which the route accepts: no poll yields anything, and
the generator never returns. -/
theorem finished_stream_polls_on : Depot.solved.status.terminal = true ∧
    openStream (scheduleRunReader Depot.solved.id Depot.solved.siteId)
      (some (formatEventId 102 3)) Depot.settled.db = .opened 3 ∧
    ∀ n, eventFrames (scheduleRunReader Depot.solved.id Depot.solved.siteId)
      ((List.range n).map fun _ => Depot.settled.db) 3 = ([], false) :=
  ⟨by decide +kernel, Depot.resumes_at_last, fun n =>
    finished_stream_idle Depot.settled_reachable Depot.solved_mem (by decide +kernel)
      (by decide +kernel) (fun _ => .refl) n⟩

end ShiftMind
