import ShiftMind.Runs.Regime

/-!
# ShiftMind — what the transactions do

Each transaction body of the source is led through an effect of the lifecycle: whatever it
observed and whatever it was given, a run of it that returns performs at most one effect on the
run tables, with the event that records it, and keeps every job, its fencing epoch never falling.

* **`Silent`** — no run moves and no event is written, and the jobs are kept: the statements on jobs
  and receipts. `Touching` says it of those that keep every job where it stands.
* **`RunMoved`** — one guarded update of a run, with its event: `markRunning`, `finalizeRun` and
  `cancelTransition`, each read off its own statements.
* **`Recorded`** — at most one run was opened or moved, and its event appended.
* **`Effect`** — one lifecycle effect, the jobs kept.

The use cases are compositions of one such statement with silent ones: `progressRegime` says so
once, for all of them.
-/

namespace ShiftMind

open Relational Transactional ScheduleRunRepository

/-! ## Jobs are kept -/

/-- No job disappears, and no fencing epoch falls. -/
def JobsKept (db db' : Db) : Prop := db.jobQueue.Persists SameJob db'.jobQueue

theorem JobsKept.of_eq {db db' : Db} (h : db'.jobQueue = db.jobQueue) : JobsKept db db' := by
  rw [JobsKept, h]
  exact .refl SameJob.refl _

theorem JobsKept.trans {db db' db'' : Db} (h : JobsKept db db') (h' : JobsKept db' db'') :
    JobsKept db db'' :=
  Table.Persists.trans SameJob.trans h h'

/-- The same jobs, each where it stood. -/
structure JobsTouched (db db' : Db) : Prop where
  kept : db.jobQueue.Persists Touched db'.jobQueue
  only : ∀ job' ∈ db'.jobQueue, ∃ job ∈ db.jobQueue, Touched job job'

theorem JobsTouched.of_eq {db db' : Db} (h : db'.jobQueue = db.jobQueue) : JobsTouched db db' := by
  refine ⟨?_, fun job hjob => ⟨job, h ▸ hjob, .refl job⟩⟩
  rw [h]
  exact .refl Touched.refl _

theorem JobsTouched.trans {db db' db'' : Db} (h : JobsTouched db db') (h' : JobsTouched db' db'') :
    JobsTouched db db'' := by
  refine ⟨Table.Persists.trans Touched.trans h.kept h'.kept, fun job'' hjob'' => ?_⟩
  obtain ⟨job', hjob', htouched'⟩ := h'.only job'' hjob''
  obtain ⟨job, hjob, htouched⟩ := h.only job' hjob'
  exact ⟨job, hjob, htouched.trans _ _ _ htouched'⟩

theorem JobsTouched.jobsKept {db db' : Db} (h : JobsTouched db db') : JobsKept db db' := by
  intro job hjob
  obtain ⟨job', hjob', htouched⟩ := h.kept job hjob
  exact ⟨job', hjob', htouched.sameJob⟩

/-! ## Silent statements and recorded effects -/

structure Quiet (db db' : Db) : Prop where
  tables : db'.runTables = db.runTables
  jobs : JobsKept db db'

/-- One lifecycle effect, the jobs kept. -/
structure Effect (db db' : Db) : Prop where
  tables : db.runTables.Effect db'.runTables
  jobs : JobsKept db db'

theorem Effect.refl (db : Db) : Effect db db := ⟨.quiet rfl, .of_eq rfl⟩

/-- Quiet, and no event written. -/
structure Silent (db db' : Db) : Prop extends Quiet db db' where
  events : db'.persistedEvent = db.persistedEvent
  conversations : db'.conversation = db.conversation

theorem Silent.refl (db : Db) : Silent db db := ⟨⟨rfl, .of_eq rfl⟩, rfl, rfl⟩

theorem Silent.trans (db db' db'' : Db) (h : Silent db db') (h' : Silent db' db'') :
    Silent db db'' :=
  ⟨⟨h'.tables.trans h.tables, h.jobs.trans h'.jobs⟩, h'.events.trans h.events,
    h'.conversations.trans h.conversations⟩

theorem Silent.runs {db db' : Db} (h : Silent db db') : db'.scheduleRun = db.scheduleRun :=
  congrArg RunTables.runs h.tables

/-- Silent, and every job where it stood. -/
structure Touching (db db' : Db) : Prop where
  tables : db'.runTables = db.runTables
  jobs : JobsTouched db db'
  events : db'.persistedEvent = db.persistedEvent
  conversations : db'.conversation = db.conversation

theorem Touching.refl (db : Db) : Touching db db := ⟨rfl, .of_eq rfl, rfl, rfl⟩

theorem Touching.trans (db db' db'' : Db) (h : Touching db db') (h' : Touching db' db'') :
    Touching db db'' :=
  ⟨h'.tables.trans h.tables, h.jobs.trans h'.jobs, h'.events.trans h.events,
    h'.conversations.trans h.conversations⟩

theorem Touching.silent {db db' : Db} (h : Touching db db') : Silent db db' :=
  ⟨⟨h.tables, h.jobs.jobsKept⟩, h.events, h.conversations⟩

/-- The event of a run that has just changed, next in its stream. -/
structure RunEvent (db : Db) (run : ScheduleRunRow) (e : PersistedEventRow) : Prop where
  stream : e.streamId = run.id
  owner : e.scheduleRunId = some run.id
  site : e.siteId = run.siteId
  sequence : e.sequence = nextSequence run.id db
  eventType : e.eventType = run.status.runEventType
  resourceVersion : e.resourceVersion = run.resourceVersion
  payload : ∃ reason occurredAt,
    e.payload = .runProgress ⟨run.id, run.status, reason, run.resourceVersion, occurredAt⟩

/-- The event is appended. -/
structure Appended (db db' : Db) (run : ScheduleRunRow) : Prop where
  event : ∃ e, RunEvent db run e ∧ db.persistedEvent.insert? e = some db'.persistedEvent
  conversations : db'.conversation = db.conversation

/-- One run of a site moved to a status, and the event of its move was appended. -/
structure RunMoved (runId siteId : Uuid) (status : ScheduleRunStatus) (db db' : Db) : Prop where
  moved : ∃ run run', isRun runId siteId run = true ∧ run'.status = status ∧
    db.scheduleRun.Replaced db'.scheduleRun run run' ∧ Moved run run' ∧
    CandidateWrite run run' db.scheduleVersion db'.scheduleVersion ∧ Appended db db' run'
  snapshots : db'.runSnapshot = db.runSnapshot
  jobs : JobsTouched db db'

/-- At most one run moved, and the event of its move was appended. -/
inductive Progress (db db' : Db) : Prop where
  | silent (h : Silent db db')
  | moved (run run' : ScheduleRunRow)
      (hreplaced : db.scheduleRun.Replaced db'.scheduleRun run run') (hmoved : Moved run run')
      (hcandidate : CandidateWrite run run' db.scheduleVersion db'.scheduleVersion)
      (hsnapshots : db'.runSnapshot = db.runSnapshot) (hjobs : JobsKept db db')
      (happended : Appended db db' run')

/-- At most one run was opened or moved, and its event appended. -/
inductive Recorded (db db' : Db) : Prop where
  | progress (h : Progress db db')
  | opened (snapshot : RunSnapshotRow) (run : ScheduleRunRow)
      (hsnapshot : db.runSnapshot.insert? snapshot = some db'.runSnapshot)
      (hrun : db.scheduleRun.insert? run = some db'.scheduleRun)
      (hversions : db'.scheduleVersion = db.scheduleVersion)
      (hstatus : run.status = .solverQueued) (hversion : run.resourceVersion = 1)
      (hsnapshotId : run.runSnapshotId = snapshot.id) (hsite : run.siteId = snapshot.siteId)
      (hpayload : snapshot.payload.scheduleRunId = run.id) (hjobs : JobsKept db db')
      (happended : Appended db db' run)

theorem RunMoved.progress {runId siteId : Uuid} {status : ScheduleRunStatus} {db db' : Db}
    (h : RunMoved runId siteId status db db') : Progress db db' := by
  obtain ⟨run, run', -, -, hreplaced, hmoved, hcandidate, happended⟩ := h.moved
  exact .moved run run' hreplaced hmoved hcandidate h.snapshots h.jobs.jobsKept happended

theorem Progress.effect {db db' : Db} (h : Progress db db') : Effect db db' := by
  cases h with
  | silent h => exact ⟨.quiet h.tables, h.jobs⟩
  | moved run run' hreplaced hmoved hcandidate hsnapshots hjobs =>
    exact ⟨.moved run run' hreplaced hmoved hcandidate hsnapshots, hjobs⟩

theorem Recorded.effect {db db' : Db} (h : Recorded db db') : Effect db db' := by
  cases h with
  | progress h => exact h.effect
  | opened snapshot run hsnapshot hrun hversions hstatus _ hsnapshotId hsite hpayload hjobs =>
    exact ⟨.opened snapshot run hsnapshot hrun hversions hstatus hsnapshotId hsite hpayload, hjobs⟩

/-! ## Composition -/

theorem nextSequence_congr {db db' : Db} (h : db'.persistedEvent = db.persistedEvent)
    (streamId : Uuid) : nextSequence streamId db' = nextSequence streamId db := by
  unfold nextSequence
  rw [h]

theorem Appended.after_silent {db db' db'' : Db} {run : ScheduleRunRow} (h : Silent db db')
    (h' : Appended db' db'' run) : Appended db db'' run := by
  obtain ⟨e, hevent, hinsert⟩ := h'.event
  rw [h.events] at hinsert
  have hsequence := hevent.sequence.trans (nextSequence_congr h.events run.id)
  exact ⟨⟨e, { hevent with sequence := hsequence }, hinsert⟩,
    h'.conversations.trans h.conversations⟩

theorem Appended.before_silent {db db' db'' : Db} {run : ScheduleRunRow} (h : Appended db db' run)
    (h' : Silent db' db'') : Appended db db'' run := by
  obtain ⟨e, hevent, hinsert⟩ := h.event
  exact ⟨⟨e, hevent, by rw [h'.events]; exact hinsert⟩, h'.conversations.trans h.conversations⟩

theorem RunMoved.after_touching {runId siteId : Uuid} {status : ScheduleRunStatus}
    (db db' db'' : Db) (h : Touching db db') (h' : RunMoved runId siteId status db' db'') :
    RunMoved runId siteId status db db'' := by
  obtain ⟨run, run', hrun, hstatus, hreplaced, hmoved, hcandidate, happended⟩ := h'.moved
  have htables := h.tables
  simp only [Db.runTables, RunTables.mk.injEq] at htables
  rw [htables.1] at hreplaced
  rw [htables.2.1] at hcandidate
  exact
    { moved := ⟨run, run', hrun, hstatus, hreplaced, hmoved, hcandidate,
        happended.after_silent h.silent⟩
      snapshots := h'.snapshots.trans htables.2.2
      jobs := h.jobs.trans h'.jobs }

theorem Progress.after_silent (db db' db'' : Db) (h : Silent db db') (h' : Progress db' db'') :
    Progress db db'' := by
  cases h' with
  | silent h' => exact .silent (h.trans _ _ _ h')
  | moved run run' hreplaced hmoved hcandidate hsnapshots hjobs happended =>
    have htables := h.tables
    simp only [Db.runTables, RunTables.mk.injEq] at htables
    rw [htables.1] at hreplaced
    rw [htables.2.1] at hcandidate
    exact .moved run run' hreplaced hmoved hcandidate (hsnapshots.trans htables.2.2)
      (h.jobs.trans hjobs) (happended.after_silent h)

theorem Progress.before_silent (db db' db'' : Db) (h : Progress db db') (h' : Silent db' db'') :
    Progress db db'' := by
  cases h with
  | silent h => exact .silent (h.trans _ _ _ h')
  | moved run run' hreplaced hmoved hcandidate hsnapshots hjobs happended =>
    have htables := h'.tables
    simp only [Db.runTables, RunTables.mk.injEq] at htables
    rw [← htables.1] at hreplaced
    rw [← htables.2.1] at hcandidate
    exact .moved run run' hreplaced hmoved hcandidate (htables.2.2.trans hsnapshots)
      (hjobs.trans h'.jobs) (happended.before_silent h')

theorem Recorded.after_silent (db db' db'' : Db) (h : Silent db db') (h' : Recorded db' db'') :
    Recorded db db'' := by
  cases h' with
  | progress h' => exact .progress (h'.after_silent _ _ _ h)
  | opened snapshot run hsnapshot hrun hversions hstatus hversion hsnapshotId hsite hpayload hjobs
      happended =>
    have htables := h.tables
    simp only [Db.runTables, RunTables.mk.injEq] at htables
    rw [htables.2.2] at hsnapshot
    rw [htables.1] at hrun
    exact .opened snapshot run hsnapshot hrun (hversions.trans htables.2.1) hstatus hversion
      hsnapshotId hsite hpayload (h.jobs.trans hjobs) (happended.after_silent h)

theorem Recorded.before_silent (db db' db'' : Db) (h : Recorded db db') (h' : Silent db' db'') :
    Recorded db db'' := by
  cases h with
  | progress h => exact .progress (h.before_silent _ _ _ h')
  | opened snapshot run hsnapshot hrun hversions hstatus hversion hsnapshotId hsite hpayload hjobs
      happended =>
    have htables := h'.tables
    simp only [Db.runTables, RunTables.mk.injEq] at htables
    rw [← htables.2.2] at hsnapshot
    rw [← htables.1] at hrun
    exact .opened snapshot run hsnapshot hrun (htables.2.1.trans hversions) hstatus hversion
      hsnapshotId hsite hpayload (hjobs.trans h'.jobs) (happended.before_silent h')

/-! ## Quiet statements -/

theorem touching_insertReceipt (violation : PyError) (receipt : CommandIdempotencyRow) :
    (Db.commandReceipts.insertInto violation receipt).Leads Touching := by
  refine ⟨fun {db u db'} h => ?_⟩
  obtain ⟨t, -, rfl⟩ := Relvar.insertInto_ok.mp h
  exact ⟨rfl, .of_eq rfl, rfl, rfl⟩

theorem touching_insertAssignment (siteId scheduleVersionId : Uuid) (a : AssignmentV1) :
    (insertAssignment siteId scheduleVersionId a).Leads Touching := by
  refine ⟨fun {db u db'} h => ?_⟩
  obtain ⟨_, db₁, hcheck, hinsert⟩ := Tx.bind_ok.mp h
  obtain ⟨-, rfl⟩ := Tx.lift_ok.mp hcheck
  obtain ⟨t, -, rfl⟩ := Relvar.insertInto_ok.mp hinsert
  exact ⟨rfl, .of_eq rfl, rfl, rfl⟩

theorem touching_touchJobs (violation : PyError) (sel : JobLeaseV1 → Bool)
    {set : JobLeaseV1 → JobLeaseV1} (hset : ∀ job, Touched job (set job)) :
    (Db.jobs.updateWhere violation sel set).Leads Touching := by
  refine ⟨fun {db rows db'} h => ?_⟩
  obtain ⟨t, ht, rfl, -⟩ := Relvar.updateWhere_ok.mp h
  refine ⟨rfl, ⟨.of_update? Touched.refl (fun job _ _ => hset job) ht, ?_⟩, rfl, rfl⟩
  intro job' hjob'
  obtain ⟨job, hjob, rfl⟩ := (Table.mem_of_update? ht).mp hjob'
  refine ⟨job, hjob, ?_⟩
  split
  · exact hset job
  · exact .refl job

/-- The statements that keep every job where it stands. -/
theorem touchingStatements : QuietRepository Touching where
  touchJobs := touching_touchJobs
  insertReceipt := touching_insertReceipt

theorem touchingWatch : RunWatch Touching Touching :=
  { touchingStatements with
    refl := Touching.refl
    trans := Touching.trans
    effect := fun _ _ => id
    after := Touching.trans
    before := Touching.trans }

theorem silentStatements : QuietRepository Silent where
  touchJobs violation sel _ hset :=
    (touching_touchJobs violation sel hset).mono fun _ _ => Touching.silent
  insertReceipt violation receipt :=
    (touching_insertReceipt violation receipt).mono fun _ _ => Touching.silent

theorem silent_insertJob (violation : PyError) (job : JobLeaseV1) :
    (Db.jobs.insertInto violation job).Leads Silent := by
  refine ⟨fun {db u db'} h => ?_⟩
  obtain ⟨t, ht, rfl⟩ := Relvar.insertInto_ok.mp h
  exact ⟨⟨rfl, .of_insert? SameJob.refl ht⟩, rfl, rfl⟩

/-- Closing a job keeps its epoch. -/
theorem closeJob_silent (env : Ambient) (closed : JobStatus) (jobId siteId : Uuid)
    (fencingEpoch : Int) : (closeJob env closed jobId siteId fencingEpoch).Leads Silent := by
  refine .bind Silent.trans ?_ fun rows => ?_
  · refine ⟨fun {db rows db'} h => ?_⟩
    obtain ⟨t, ht, rfl, -⟩ := Relvar.updateWhere_ok.mp h
    have hset : ∀ job : JobLeaseV1,
        SameJob job { job with status := closed, heartbeatAt := some env.now } :=
      fun _ => ⟨rfl, rfl, rfl, le_rfl⟩
    exact ⟨⟨rfl, .of_update? SameJob.refl (fun job _ _ => hset job) ht⟩, rfl, rfl⟩
  · refine .ite (fun _ => .of_still Silent.refl (.pure _)) fun _ => ?_
    refine .bind Silent.trans (.of_still Silent.refl (Relvar.still_selectOne ..)) fun job => ?_
    exact .ite (fun _ => .throw _) fun _ => .throw _

/-- Leasing raises the fencing epoch of the one job it picks. -/
theorem leaseNextJob_silent (env : Ambient) (locked : JobLeaseV1 → Bool) (leaseOwner : String)
    (leaseSeconds : Int) : (leaseNextJob env locked leaseOwner leaseSeconds).Leads Silent := by
  refine .ite (fun _ => .throw _) fun _ => .ite (fun _ => .throw _) fun _ => ?_
  refine ⟨fun {db leased db'} h => ?_⟩
  obtain ⟨candidates, db₁, hread, h⟩ := Tx.bind_ok.mp h
  rw [Tx.run_read] at hread
  cases hread
  split at h
  · cases h; exact Silent.refl db
  · rename_i next rest hcandidates
    obtain ⟨rows, db₂, hupdate, h⟩ := Tx.bind_ok.mp h
    cases h
    obtain ⟨t, ht, rfl, -⟩ := Relvar.updateWhere_ok.mp hupdate
    have hnext : next ∈ db.jobQueue := by
      have : next ∈ next :: rest := List.mem_cons_self
      rw [← hcandidates, List.mem_insertionSort] at this
      exact List.mem_of_mem_filter this
    refine ⟨⟨rfl, .of_update? SameJob.refl (fun job hjob hsel => ?_) ht⟩, rfl, rfl⟩
    -- the picked row is the only one with its id
    have hsame : job = next := Table.eq_of_clash hjob hnext (by
      simp only [decide_eq_true_eq] at hsel
      simp [clash, hsel])
    subst hsame
    exact ⟨rfl, rfl, rfl, by simp⟩

/-- The statements around a move of a run. -/
theorem progressWatch : RunWatch Silent Progress :=
  { silentStatements with
    refl := Silent.refl
    trans := Silent.trans
    effect := fun _ _ => .silent
    after := Progress.after_silent
    before := Progress.before_silent }

/-- The statements around the opening of a run. -/
theorem recordedWatch : RunWatch Silent Recorded :=
  { silentStatements with
    refl := Silent.refl
    trans := Silent.trans
    effect := fun _ _ h => .progress (.silent h)
    after := Recorded.after_silent
    before := Recorded.before_silent }

/-! ## The event of a change -/

/-- `writeProgressEvent` appends the event of a run that stands as it says. -/
theorem writeProgressEvent_ok {env : Ambient} {siteId actorId : Uuid} {run : ScheduleRunRow}
    {status : ScheduleRunStatus} {reason : Option String} {resourceVersion : Int}
    {requestId : Uuid} {db db' : Db} {u : Unit} (hsite : run.siteId = siteId)
    (hstatus : run.status = status) (hversion : run.resourceVersion = resourceVersion)
    (h : (writeProgressEvent env run.id siteId actorId status reason resourceVersion
      requestId).run db = (.ok u, db')) :
    Appended db db' run ∧ db'.runTables = db.runTables ∧ db'.jobQueue = db.jobQueue := by
  unfold writeProgressEvent at h
  rw [Tx.run_read_bind] at h
  obtain ⟨t, ht, rfl⟩ := Relvar.insertInto_ok.mp h
  refine ⟨⟨⟨_, ?_, ht⟩, rfl⟩, rfl, rfl⟩
  exact
    { stream := rfl
      owner := rfl
      site := hsite.symm
      sequence := rfl
      eventType := by rw [hstatus]
      resourceVersion := hversion.symm
      payload := ⟨reason, env.clock, by rw [hstatus, hversion]⟩ }

/-- What a worker's move of a run does after the update: the actor is looked up, the event
appended. -/
theorem eventByActor_ok {env : Ambient} {runId siteId : Uuid} {run : ScheduleRunRow}
    {status : ScheduleRunStatus} {reason : Option String} {resourceVersion : Int}
    {requestId : Uuid} {db db' : Db} {u : Unit} (hrun : run.id = runId ∧ run.siteId = siteId)
    (hstatus : run.status = status) (hversion : run.resourceVersion = resourceVersion)
    (h : (do
      let actorId ← actorForRun runId siteId
      writeProgressEvent env runId siteId actorId status reason resourceVersion requestId :
        DbTx Unit).run db = (.ok u, db')) :
    Appended db db' run ∧ db'.runTables = db.runTables ∧ db'.jobQueue = db.jobQueue := by
  obtain ⟨rfl, hsite⟩ := hrun
  obtain ⟨actorId, db₁, hactor, h⟩ := Tx.bind_ok.mp h
  rw [(actorForRun_still _ _).eq_of_run hactor] at h
  exact writeProgressEvent_ok hsite hstatus hversion h

/-! ## The guarded updates of a run

A guarded update moves one run along an edge, or nothing at all. -/

/-- An update of runs that selects within one run and returned a row replaced that run. -/
theorem updateRun_ok (runId siteId : Uuid) {violation : PyError} {sel : ScheduleRunRow → Bool}
    {set : ScheduleRunRow → ScheduleRunRow} {db db' : Db} {row : ScheduleRunRow}
    {rest : List ScheduleRunRow}
    (hsel : ∀ row, sel row = true → isRun runId siteId row = true)
    (h : (Db.scheduleRuns.updateWhere violation sel set).run db = (.ok (row :: rest), db')) :
    ∃ old, sel old = true ∧ row = set old ∧ db.scheduleRun.Replaced db'.scheduleRun old row ∧
      check row = true ∧ db' = { db with scheduleRun := db'.scheduleRun } := by
  obtain ⟨t, ht, rfl, hrows⟩ := Relvar.updateWhere_ok.mp h
  have hfirst : row ∈ (db.scheduleRun.rows.filter sel).map set := by
    rw [← Db.scheduleRuns_get, ← hrows]; exact List.mem_cons_self
  obtain ⟨old, hold, rfl⟩ := List.mem_map.mp hfirst
  obtain ⟨hmem, hselOld⟩ := List.mem_filter.mp hold
  refine ⟨old, hselOld, rfl, .of_update? ?_ hmem hselOld ht, ?_, rfl⟩
  · intro a b ha hb
    have ha' := hsel a ha
    have hb' := hsel b hb
    simp only [isRun, Bool.and_eq_true, decide_eq_true_eq] at ha' hb'
    simp [clash, ha'.1, hb'.1]
  · refine (Table.update?_eq_some ht).2 _ ?_
    exact List.mem_map.mpr ⟨old, hmem, by rw [if_pos hselOld]⟩

/-- **A move, read off its two statements**: the update replaced one run, and the event of what
stands there now was appended. -/
theorem moved_of_update {runId siteId : Uuid} {status : ScheduleRunStatus}
    {db db₁ db₂ db' : Db} {run run' : ScheduleRunRow} (hrun : isRun runId siteId run = true)
    (hstatus : run'.status = status) (hreplaced : db₁.scheduleRun.Replaced db₂.scheduleRun run run')
    (hmoved : Moved run run') (hframe : db₂ = { db₁ with scheduleRun := db₂.scheduleRun })
    (hruns : db₁.scheduleRun = db.scheduleRun)
    (hcandidate : CandidateWrite run run' db.scheduleVersion db₁.scheduleVersion)
    (hsnapshots : db₁.runSnapshot = db.runSnapshot) (hjobs : JobsTouched db db₁)
    (hevents : db₁.persistedEvent = db.persistedEvent)
    (hconversations : db₁.conversation = db.conversation)
    (hevent : Appended db₂ db' run' ∧ db'.runTables = db₂.runTables ∧
      db'.jobQueue = db₂.jobQueue) : RunMoved runId siteId status db db' := by
  obtain ⟨happended, htables, hjobs'⟩ := hevent
  simp only [Db.runTables, RunTables.mk.injEq] at htables
  obtain ⟨hruns', hversions', hsnapshots'⟩ := htables
  have hversions₂ : db₂.scheduleVersion = db₁.scheduleVersion := by rw [hframe]
  have hsnapshots₂ : db₂.runSnapshot = db₁.runSnapshot := by rw [hframe]
  have hjobs₂ : db₂.jobQueue = db₁.jobQueue := by rw [hframe]
  have hevents₂ : db₂.persistedEvent = db.persistedEvent := by rw [hframe]; exact hevents
  have hconversations₂ : db₂.conversation = db.conversation := by
    rw [hframe]; exact hconversations
  refine ⟨⟨run, run', hrun, hstatus, ?_, hmoved, ?_, ?_⟩, ?_, hjobs.trans (.of_eq ?_)⟩
  · rw [hruns', ← hruns]; exact hreplaced
  · rw [hversions', hversions₂]; exact hcandidate
  · obtain ⟨e, he, hinsert⟩ := happended.event
    rw [hevents₂] at hinsert
    have hsequence := he.sequence.trans (nextSequence_congr hevents₂ run'.id)
    exact ⟨⟨e, { he with sequence := hsequence }, hinsert⟩,
      happended.conversations.trans hconversations₂⟩
  · rw [hsnapshots', hsnapshots₂, hsnapshots]
  · rw [hjobs', hjobs₂]

theorem markRunning_moved (env : Ambient) (runId siteId : Uuid) (fencingEpoch : Int)
    (requestId : Option Uuid) :
    (markRunning env runId siteId fencingEpoch requestId).Leads
      (RunMoved runId siteId .solverRunning) := by
  refine .seq RunMoved.after_touching (touchingWatch.claimEpoch ..) fun _ => ?_
  refine .seq RunMoved.after_touching (touchingWatch.still (.read _)) fun current => ?_
  refine ⟨fun {db u db'} h => ?_⟩
  obtain ⟨rows, db₁, hupdate, h⟩ := Tx.bind_ok.mp h
  cases rows with
  | nil => exact (raiseTransitionFailure_raises (fun _ => RunMoved _ _ _ db) _ _ _ _ _).led h
  | cons row rest =>
    obtain ⟨old, hsel, hrow, hreplaced, -, hframe⟩ := updateRun_ok runId siteId
      (fun row hrow => by
        simp only [Bool.and_eq_true] at hrow; exact hrow.1.1) hupdate
    simp only [Bool.and_eq_true, decide_eq_true_eq] at hsel
    have hrun : row.id = runId ∧ row.siteId = siteId := by
      subst hrow; simpa [isRun] using hsel.1.1
    have hstatus : row.status = .solverRunning := by rw [hrow]
    have hmoved : Moved old row := by
      subst hrow
      refine ⟨rfl, rfl, rfl, ?_, rfl⟩
      rw [hsel.1.2]; exact (by decide : Edge .solverQueued .solverRunning)
    exact moved_of_update hsel.1.1 hstatus hreplaced hmoved hframe rfl
      (.none (by simp [hstatus]) rfl) rfl (.of_eq rfl) rfl rfl (eventByActor_ok hrun hstatus rfl h)

/-- Every status `finalize_run` expects has an edge to the status it writes. -/
theorem edge_of_expected {a b : ScheduleRunStatus}
    (h : (finalizeExpectedStatuses b).contains a = true) : Edge a b := by
  revert h
  cases a <;> cases b <;> decide

/-- The candidates after the inserts of an optional candidate. -/
def CandidateInserted (runId siteId : Uuid) :
    Option ScheduleVersionV1 → Table ScheduleVersionRow → Table ScheduleVersionRow → Prop
  | none, versions, versions' => versions' = versions
  | some candidate, versions, versions' => ∃ v : ScheduleVersionRow,
      v.id = candidate.scheduleVersionId ∧ v.siteId = siteId ∧ v.scheduleRunId = runId ∧
      versions.insert? v = some versions'

/-- What the candidate's inserts leave. -/
structure CandidateFrame (runId siteId : Uuid) (candidate : Option ScheduleVersionV1)
    (db db' : Db) : Prop where
  runs : db'.scheduleRun = db.scheduleRun
  snapshots : db'.runSnapshot = db.runSnapshot
  jobs : JobsTouched db db'
  events : db'.persistedEvent = db.persistedEvent
  conversations : db'.conversation = db.conversation
  versions : CandidateInserted runId siteId candidate db.scheduleVersion db'.scheduleVersion

theorem insertCandidate_ok {runId siteId : Uuid} {candidate : Option ScheduleVersionV1}
    {db db' : Db} {u : Unit} (h : (insertCandidate runId siteId candidate).run db = (.ok u, db')) :
    CandidateFrame runId siteId candidate db db' := by
  cases candidate with
  | none => cases h; exact ⟨rfl, rfl, .of_eq rfl, rfl, rfl, rfl⟩
  | some candidate =>
    obtain ⟨_, db₀, hdigest, hwrites⟩ := Tx.bind_ok.mp h
    obtain ⟨-, hsame⟩ := Tx.lift_ok.mp hdigest
    rw [hsame] at hwrites
    obtain ⟨_, db₁, href, hinserts⟩ := Tx.bind_ok.mp hwrites
    rw [(references_still _ _).eq_of_run href] at hinserts
    obtain ⟨_, db₂, hinsert, hassignments⟩ := Tx.bind_ok.mp hinserts
    obtain ⟨t, ht, rfl⟩ := Relvar.insertInto_ok.mp hinsert
    have hrest : Touching _ db' := (Tx.Leads.forM Touching.refl Touching.trans
      (fun a => touching_insertAssignment _ _ a) candidate.assignments).led hassignments
    have htables := hrest.tables
    simp only [Db.runTables, RunTables.mk.injEq] at htables
    have hjobs : JobsTouched db (Db.scheduleVersions.put t db) := .of_eq rfl
    exact
      { runs := htables.1
        snapshots := htables.2.2
        jobs := hjobs.trans hrest.jobs
        events := hrest.events
        conversations := hrest.conversations
        versions := ⟨_, rfl, rfl, rfl, by rw [htables.2.1]; exact ht⟩ }

/-- **`finalize_run` is one move**, provided a completion carries its candidate. A candidate
under any other status never commits: the row check refuses it. -/
theorem finalizeRun_moved (env : Ambient) (runId siteId : Uuid) (fencingEpoch : Int)
    (status : ScheduleRunStatus) (reason : Option String) (candidate : Option ScheduleVersionV1)
    (finishedAt : Option Instant) (requestId : Option Uuid)
    (hcandidate : status = .solverCompleted → candidate.isSome = true) :
    (finalizeRun env runId siteId fencingEpoch status reason candidate finishedAt
      requestId).Leads (RunMoved runId siteId status) := by
  refine .ite (fun _ => .throw _) fun _ => ?_
  refine .seq RunMoved.after_touching (touchingWatch.claimEpoch ..) fun _ => ?_
  refine ⟨fun {db u db'} h => ?_⟩
  obtain ⟨_, db₁, hinsert, h⟩ := Tx.bind_ok.mp h
  -- the rows of the candidate, which touch no run
  have hinserted := insertCandidate_ok hinsert
  obtain ⟨current, db₂, hread, h⟩ := Tx.bind_ok.mp h
  rw [Tx.run_read] at hread
  cases hread
  obtain ⟨rows, db₃, hupdate, h⟩ := Tx.bind_ok.mp h
  cases rows with
  | nil => exact (raiseTransitionFailure_raises (fun _ => RunMoved _ _ _ db) _ _ _ _ _).led h
  | cons row rest =>
    obtain ⟨old, hsel, hrow, hreplaced, hcheck, hframe⟩ := updateRun_ok runId siteId
      (fun row hrow => by
        simp only [Bool.and_eq_true] at hrow; exact hrow.1.1) hupdate
    simp only [Bool.and_eq_true] at hsel
    have hrun : old.id = runId ∧ old.siteId = siteId := by
      simpa [isRun] using hsel.1.1
    have hmoved : Moved old row := by
      subst hrow
      exact ⟨rfl, rfl, rfl, edge_of_expected hsel.1.2, rfl⟩
    have hstatus : row.status = status := by rw [hrow]
    have hcandidateId : row.candidateScheduleVersionId =
        candidate.map ScheduleVersionV1.scheduleVersionId := by rw [hrow]
    -- the row check lets a candidate stand only at a completed run
    have hversion : CandidateWrite old row db.scheduleVersion db₁.scheduleVersion := by
      have hversions := hinserted.versions
      cases candidate with
      | none =>
        refine .none (fun hcompleted => ?_) hversions
        exact absurd (hcandidate (hstatus ▸ hcompleted)) (by simp)
      | some candidate =>
        obtain ⟨v, hid, hsite, hvrun, hv⟩ := hversions
        refine .some v ?_ hv (hvrun.trans hrun.1.symm) (hsite.trans hrun.2.symm) ?_
        · simpa [check, hcandidateId] using hcheck
        · simp [hcandidateId, hid]
    have hrun' : row.id = runId ∧ row.siteId = siteId :=
      ⟨hmoved.id.trans hrun.1, hmoved.site.trans hrun.2⟩
    exact moved_of_update hsel.1.1 hstatus hreplaced hmoved hframe hinserted.runs hversion
      hinserted.snapshots hinserted.jobs hinserted.events hinserted.conversations
      (eventByActor_ok hrun' hstatus rfl h)

theorem cancelTransition_moved (env : Ambient) (runId siteId actorId : Uuid)
    (expectedResourceVersion : Int) {expectedStatus status : ScheduleRunStatus} (reason : String)
    (terminal : Bool) (hedge : Edge expectedStatus status) (hcancels : status.cancels = true) :
    (cancelTransition env runId siteId actorId expectedResourceVersion expectedStatus status reason
      terminal).Leads (RunMoved runId siteId status) := by
  have hnotCompleted : status ≠ .solverCompleted := by rintro rfl; cases hcancels
  refine ⟨fun {db u db'} h => ?_⟩
  obtain ⟨rows, db₁, hupdate, h⟩ := Tx.bind_ok.mp h
  cases rows with
  | nil => exact absurd h Tx.throw_ok
  | cons row rest =>
    obtain ⟨old, hsel, hrow, hreplaced, -, hframe⟩ := updateRun_ok runId siteId
      (fun row hrow => by
        simp only [Bool.and_eq_true] at hrow; exact hrow.1.1) hupdate
    simp only [Bool.and_eq_true, decide_eq_true_eq] at hsel
    have hrun : old.id = runId ∧ old.siteId = siteId := by
      simpa [isRun] using hsel.1.1
    have hmoved : Moved old row := by
      subst hrow
      refine ⟨rfl, rfl, rfl, ?_, rfl⟩
      rw [hsel.1.2]; exact hedge
    have hstatus : row.status = status := by rw [hrow]
    obtain rfl : row.id = runId := hmoved.id.trans hrun.1
    exact moved_of_update hsel.1.1 hstatus hreplaced hmoved hframe rfl
      (.none (by rwa [hstatus]) rfl) rfl (.of_eq rfl) rfl rfl
      (writeProgressEvent_ok (hmoved.site.trans hrun.2) hstatus rfl h)

/-- **`create_queued_run` opens one run**, with its snapshot and its first event. -/
theorem createQueuedRun_recorded (env : Ambient) (snapshot : RunSnapshotV1)
    (siteId actorId : Uuid) : (createQueuedRun env snapshot siteId actorId).Leads Recorded := by
  refine ⟨fun {db u db'} h => ?_⟩
  obtain ⟨_, db₁, hsnapshot, h⟩ := Tx.bind_ok.mp h
  obtain ⟨snapshots, hsnapshots, rfl⟩ := Relvar.insertInto_ok.mp hsnapshot
  obtain ⟨_, db₂, hrun, h⟩ := Tx.bind_ok.mp h
  obtain ⟨runs, hruns, rfl⟩ := Relvar.insertInto_ok.mp hrun
  let run : ScheduleRunRow :=
    { id := snapshot.scheduleRunId, siteId := siteId, runSnapshotId := snapshot.snapshotId }
  have hsite : run.siteId = siteId := rfl
  have hstatus : run.status = .solverQueued := rfl
  have hversion : run.resourceVersion = 1 := rfl
  obtain ⟨⟨⟨e, he, hinsert⟩, hconversations⟩, htables, hjobs⟩ :=
    writeProgressEvent_ok hsite hstatus hversion h
  simp only [Db.runTables, RunTables.mk.injEq] at htables
  obtain ⟨hruns', hversions', hsnapshots'⟩ := htables
  have hopened := hsnapshots.trans (congrArg some hsnapshots'.symm)
  refine .opened _ run hopened ?_ hversions' hstatus hversion rfl rfl rfl ?_
    ⟨⟨e, ?_, hinsert⟩, hconversations⟩
  · rw [hruns']; exact hruns
  · exact .of_eq hjobs
  · exact { he with sequence := he.sequence }

/-! ## The regimes of the run writers -/

/-- **A worker's or a planner's transaction on a run moves at most that run**, and appends the event
of the move. -/
theorem progressRegime : SolveRegime Silent Progress :=
  { progressWatch with
    cancelTransition := fun _ _ _ _ _ _ _ _ _ hedge hcancels =>
      (cancelTransition_moved _ _ _ _ _ _ _ hedge hcancels).mono fun _ _ => RunMoved.progress
    closeJob := closeJob_silent
    markRunning := fun _ _ _ _ _ => (markRunning_moved ..).mono fun _ _ => RunMoved.progress
    finalizeRun := fun _ _ _ _ _ _ _ _ hstatus =>
      (finalizeRun_moved _ _ _ _ _ _ _ _ _ fun h => absurd h hstatus).mono
        fun _ _ => RunMoved.progress
    finalizeCandidate := fun _ _ _ _ _ _ _ _ _ hcandidate =>
      (finalizeRun_moved _ _ _ _ _ _ _ _ _ hcandidate).mono fun _ _ => RunMoved.progress }

/-- **A planner's command opens at most one run.** -/
theorem recordedRegime : PlannerRegime Silent Recorded :=
  { recordedWatch with
    insertJob := fun _ _ _ => silent_insertJob ..
    createQueuedRun := createQueuedRun_recorded }

end ShiftMind
