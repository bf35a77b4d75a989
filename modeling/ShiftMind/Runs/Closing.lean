import ShiftMind.Runs.Safety

/-!
# ShiftMind — a job is closed behind its run

A job and its run are separate rows, moved by separate transactions. Every transaction that closes
a job has first seen the run in a terminal status, or has itself ended it; so no committed state
shows a closed job whose run goes on.

* **`Db.RunAt`** — what is true of a run's status; kept by every effect when its edges keep it.
* **`Coherent`** — a closed job's run has ended.
* **`transactionAFrom_coherent`**, **`transactionBFrom_coherent`**, … — the worker's transactions,
  from what they observed.
* **`Unsolved`**, **`Unclosed`** — transactions that complete no run, and those that close no job.
-/

namespace ShiftMind

open Relational Transactional Transition ScheduleRunRepository

/-! ## Statuses move on -/

/-- A job that has been ended. -/
def JobStatus.closed : JobStatus → Bool
  | .completed | .failed => true
  | .queued | .leased => false

/-- A status an observed status may have become. -/
abbrev Later (a b : ScheduleRunStatus) : Prop := Relation.ReflTransGen Edge a b

/-- A terminal status stays. -/
theorem Later.eq_of_terminal {a b : ScheduleRunStatus} (h : Later a b) (ha : a.terminal = true) :
    b = a := by
  cases h.cases_head with
  | inl heq => exact heq.symm
  | inr hstep =>
    obtain ⟨c, hedge, -⟩ := hstep
    exact absurd hedge ((terminal_iff_no_edge a).mp ha c)

/-- No edge leads back to the queue. -/
theorem Edge.target_ne_queued {a b : ScheduleRunStatus} (h : Edge a b) : b ≠ .solverQueued := by
  rintro rfl
  revert h
  cases a <;> decide

theorem Later.ne_queued {a b : ScheduleRunStatus} (h : Later a b) (ha : a ≠ .solverQueued) :
    b ≠ .solverQueued := by
  induction h with
  | refl => exact ha
  | tail _ hedge _ => exact hedge.target_ne_queued

/-- A run that waits for its solve, or is being solved. -/
def ScheduleRunStatus.solvable : ScheduleRunStatus → Bool
  | .solverQueued | .solverRunning => true
  | _ => false

/-- A run that can no longer be solved stays so. -/
theorem Edge.not_solvable {a b : ScheduleRunStatus} (h : Edge a b) (ha : a.solvable = false) :
    b.solvable = false := by
  revert h ha
  cases a <;> cases b <;> decide

theorem cancels_not_solvable {a : ScheduleRunStatus} (h : a.cancels = true) :
    a.solvable = false := by
  cases a <;> first | rfl | cases h

/-! ## What is true of a run's status -/

/-- The run is there, and `P` holds of its status. -/
def Db.RunAt (db : Db) (runId siteId : Uuid) (P : ScheduleRunStatus → Prop) : Prop :=
  ∃ run ∈ db.scheduleRun, isRun runId siteId run = true ∧ P run.status

theorem Db.RunAt.mono {db : Db} {runId siteId : Uuid} {P P' : ScheduleRunStatus → Prop}
    (h : db.RunAt runId siteId P) (himp : ∀ a, P a → P' a) : db.RunAt runId siteId P' := by
  obtain ⟨run, hrun, hsel, hP⟩ := h
  exact ⟨run, hrun, hsel, himp _ hP⟩

/-- A run is moved, not replaced. -/
theorem Moved.isRun {run run' : ScheduleRunRow} (h : Moved run run') {runId siteId : Uuid}
    (hsel : isRun runId siteId run = true) : isRun runId siteId run' = true := by
  simp only [ScheduleRunRepository.isRun, Bool.and_eq_true, decide_eq_true_eq] at hsel ⊢
  exact ⟨h.id.trans hsel.1, h.site.trans hsel.2⟩

/-- What every edge keeps, every effect keeps. -/
theorem Effect.runAt {db db' : Db} (heffect : Effect db db') {runId siteId : Uuid}
    {P : ScheduleRunStatus → Prop} (hedge : ∀ a b, Edge a b → P a → P b)
    (h : db.RunAt runId siteId P) : db'.RunAt runId siteId P := by
  obtain ⟨run, hrun, hsel, hP⟩ := h
  cases heffect.tables.run_cases hrun with
  | inl hkept => exact ⟨run, hkept, hsel, hP⟩
  | inr hmoved =>
    obtain ⟨run', hrun', hmoved⟩ := hmoved
    exact ⟨run', hrun', hmoved.isRun hsel, hedge _ _ hmoved.edge hP⟩

/-- The run of a lease or a job has ended. -/
abbrev Db.RunEnded (db : Db) (job : JobLeaseV1) : Prop :=
  db.RunAt job.scheduleRunId job.siteId fun status => status.terminal = true

/-- The run of a lease has left the queue. -/
abbrev Db.RunStarted (db : Db) (lease : JobLeaseV1) : Prop :=
  db.RunAt lease.scheduleRunId lease.siteId fun status => status ≠ .solverQueued

/-- What was read of the run was its status once. -/
def Db.Observed (db : Db) (lease : JobLeaseV1) (observed : Option ScheduleRunStateV1) : Prop :=
  ∀ state, observed = some state →
    db.RunAt lease.scheduleRunId lease.siteId fun status => Later state.status status

theorem Effect.runEnded {db db' : Db} (heffect : Effect db db') {job : JobLeaseV1}
    (h : db.RunEnded job) : db'.RunEnded job :=
  heffect.runAt (fun a b hedge ha => absurd hedge ((terminal_iff_no_edge a).mp ha b)) h

theorem Effect.runStarted {db db' : Db} (heffect : Effect db db') {lease : JobLeaseV1}
    (h : db.RunStarted lease) : db'.RunStarted lease :=
  heffect.runAt (fun _ _ hedge _ => hedge.target_ne_queued) h

theorem Effect.observed {db db' : Db} (heffect : Effect db db') {lease : JobLeaseV1}
    {observed : Option ScheduleRunStateV1} (h : db.Observed lease observed) :
    db'.Observed lease observed := fun state hstate =>
  heffect.runAt (fun _ _ hedge hlater => hlater.tail hedge) (h state hstate)

/-- A fresh read is an observation. -/
theorem Db.observed_runState (db : Db) (lease : JobLeaseV1) :
    db.Observed lease (db.runState lease.scheduleRunId lease.siteId) := by
  intro state hstate
  obtain ⟨run, hrun, rfl⟩ := Option.map_eq_some_iff.mp hstate
  obtain ⟨hmem, hsel⟩ := Table.find?_eq_some hrun
  exact ⟨run, hmem, hsel, .refl⟩

/-- A terminal status that was read is still the status of the run. -/
theorem Db.Observed.runEnded {db : Db} {lease : JobLeaseV1} {state : ScheduleRunStateV1}
    (h : db.Observed lease (some state)) (hterminal : state.status.terminal = true) :
    db.RunEnded lease :=
  (h state rfl).mono fun _ hlater => by rw [hlater.eq_of_terminal hterminal]; exact hterminal

theorem Db.Observed.runStarted {db : Db} {lease : JobLeaseV1} {state : ScheduleRunStateV1}
    (h : db.Observed lease (some state)) (hstarted : state.status ≠ .solverQueued) :
    db.RunStarted lease :=
  (h state rfl).mono fun _ hlater => hlater.ne_queued hstarted

/-! ## The invariant of the two rows -/

/-- **A job is completed or failed only if its run has ended.** -/
def Coherent (db : Db) : Prop :=
  ∀ job ∈ db.jobQueue, job.status.closed = true → db.RunEnded job

/-- No job is closed that was not. -/
def NoneClosed (db db' : Db) : Prop :=
  ∀ job' ∈ db'.jobQueue, job'.status.closed = true →
    ∃ job ∈ db.jobQueue, job.status.closed = true ∧ SameJob job job'

theorem JobsTouched.noneClosed {db db' : Db} (h : JobsTouched db db') : NoneClosed db db' := by
  intro job' hjob' hclosed
  obtain ⟨job, hjob, htouched⟩ := h.only job' hjob'
  exact ⟨job, hjob, htouched.status ▸ hclosed, htouched.sameJob⟩

theorem SameJob.runEnded {db : Db} {a b : JobLeaseV1} (h : SameJob a b) (ha : db.RunEnded a) :
    db.RunEnded b := by
  unfold Db.RunEnded
  rw [h.run, h.site]
  exact ha

/-- An effect that closes no job keeps the invariant. -/
theorem Coherent.of_noneClosed {db db' : Db} (h : Coherent db) (heffect : Effect db db')
    (hnone : NoneClosed db db') : Coherent db' := by
  intro job' hjob' hclosed
  obtain ⟨job, hjob, hclosedBefore, hsame⟩ := hnone job' hjob' hclosed
  exact heffect.runEnded (hsame.runEnded (h job hjob hclosedBefore))

/-- The invariant, with the job of a lease in the queue. -/
structure Held (lease : JobLeaseV1) (db : Db) : Prop where
  coherent : Coherent db
  leased : ∃ job ∈ db.jobQueue, SameJob lease job

theorem Held.of_noneClosed {db db' : Db} {lease : JobLeaseV1} (h : Held lease db)
    (heffect : Effect db db') (hnone : NoneClosed db db') : Held lease db' := by
  refine ⟨h.coherent.of_noneClosed heffect hnone, ?_⟩
  obtain ⟨job, hjob, hsame⟩ := h.leased
  obtain ⟨job', hjob', hsame'⟩ := heffect.jobs job hjob
  exact ⟨job', hjob', hsame.trans _ _ _ hsame'⟩

theorem Held.touching {db db' : Db} {lease : JobLeaseV1} (h : Held lease db)
    (htouching : Touching db db') : Held lease db' :=
  h.of_noneClosed ⟨.quiet htouching.tables, htouching.jobs.jobsKept⟩ htouching.jobs.noneClosed

theorem Held.moved {db db' : Db} {lease : JobLeaseV1} (h : Held lease db) {runId siteId : Uuid}
    {status : ScheduleRunStatus} (hmoved : RunMoved runId siteId status db db') :
    Held lease db' :=
  h.of_noneClosed hmoved.progress.effect hmoved.jobs.noneClosed

/-- The run that was moved stands at the status it was moved to. -/
theorem RunMoved.runAt {runId siteId : Uuid} {status : ScheduleRunStatus} {db db' : Db}
    (h : RunMoved runId siteId status db db') :
    db'.RunAt runId siteId fun current => current = status := by
  obtain ⟨run, run', hsel, hstatus, hreplaced, hmoved, -⟩ := h.moved
  exact ⟨run', hreplaced.mem_new, hmoved.isRun hsel, hstatus⟩

/-- The other runs were not moved. -/
theorem RunMoved.other {runId siteId : Uuid} {status : ScheduleRunStatus} {db db' : Db}
    (h : RunMoved runId siteId status db db') {run : ScheduleRunRow}
    (hrun : run ∈ db'.scheduleRun) :
    run ∈ db.scheduleRun ∨ (isRun runId siteId run = true ∧ run.status = status) := by
  obtain ⟨old, new, hsel, hstatus, hreplaced, hmoved, -⟩ := h.moved
  cases (hreplaced.mem_iff run).mp hrun with
  | inl hnew => subst hnew; exact .inr ⟨hmoved.isRun hsel, hstatus⟩
  | inr hkept => exact .inl hkept.1

/-! ## Closing a job -/

/-- The job of a lease is closed, at the lease's own epoch. -/
def ClosedAt (db : Db) (lease : JobLeaseV1) : Prop :=
  ∃ job ∈ db.jobQueue, SameJob lease job ∧ job.status.closed = true ∧
    job.fencingEpoch = lease.fencingEpoch

/-- **`complete_job` and `fail_job`, read off their one statement**: the leased job of this id and
epoch is replaced by the same job, closed. -/
theorem closeJob_ok {env : Ambient} {closed : JobStatus} {jobId siteId : Uuid}
    {fencingEpoch : Int} {db db' : Db} {u : Unit}
    (h : (closeJob env closed jobId siteId fencingEpoch).run db = (.ok u, db')) :
    ∃ job job', job.jobId = jobId ∧ job.status = .leased ∧ job.fencingEpoch = fencingEpoch ∧
      job' = { job with status := closed, heartbeatAt := some env.now } ∧
      db.jobQueue.Replaced db'.jobQueue job job' ∧ db' = { db with jobQueue := db'.jobQueue } := by
  obtain ⟨rows, db₁, hupdate, h⟩ := Tx.bind_ok.mp h
  cases rows with
  | nil =>
    -- no row: what is left raises
    obtain ⟨job, db₂, -, h⟩ := Tx.bind_ok.mp h
    rw [Tx.run_ite] at h
    split at h
    · exact absurd h Tx.throw_ok
    · exact absurd h Tx.throw_ok
  | cons row rest =>
    obtain ⟨job, t, hsel, rfl, hreplaced, -, rfl⟩ := Relvar.updateWhere_first (by
      intro a b ha hb
      simp only [Bool.and_eq_true, decide_eq_true_eq] at ha hb
      simp [clash, ha.1.1.1, hb.1.1.1]) hupdate
    have hdb : db' = Db.jobs.put t db := by
      revert h
      split
      · intro h; cases h; rfl
      · intro h
        obtain ⟨job, db₂, -, h⟩ := Tx.bind_ok.mp h
        rw [Tx.run_ite] at h
        split at h
        · exact absurd h Tx.throw_ok
        · exact absurd h Tx.throw_ok
    subst hdb
    simp only [Bool.and_eq_true, decide_eq_true_eq] at hsel
    exact ⟨job, _, hsel.1.1.1, hsel.1.2, hsel.2, rfl, hreplaced, rfl⟩

/-- Closing the job of a lease leaves that job closed at the lease's epoch, and no other. -/
theorem closeJob_own {env : Ambient} {closed : JobStatus} (hclosed : closed.closed = true)
    {lease : JobLeaseV1} {db db' : Db} {u : Unit} (hleased : ∃ job ∈ db.jobQueue, SameJob lease job)
    (h : (closeJob env closed lease.jobId lease.siteId lease.fencingEpoch).run db = (.ok u, db')) :
    ClosedAt db' lease ∧ ∀ job ∈ db'.jobQueue, job ∈ db.jobQueue ∨ SameJob lease job := by
  obtain ⟨job, job', hid, hstatus, hepoch, hjob', hreplaced, hframe⟩ := closeJob_ok h
  -- the closed row is the job of the lease: it has its id
  obtain ⟨own, hown, hsame⟩ := hleased
  have hjob : own = job :=
    Table.eq_of_clash hown hreplaced.mem_old (by simp [clash, hsame.jobId, hid])
  subst hjob
  have hsame' : SameJob lease job' := by
    rw [hjob']; exact ⟨hsame.jobId, hsame.site, hsame.run, hsame.epoch⟩
  refine ⟨⟨job', hreplaced.mem_new, hsame', ?_, ?_⟩, fun other hother => ?_⟩
  · rw [hjob']; exact hclosed
  · rw [hjob']; exact hepoch
  · cases (hreplaced.mem_iff other).mp hother with
    | inl hnew => rw [hnew]; exact .inr hsame'
    | inr hkept => exact .inl hkept.1

theorem closeJob_frame {env : Ambient} {closed : JobStatus} {jobId siteId : Uuid}
    {fencingEpoch : Int} {db db' : Db} {u : Unit}
    (h : (closeJob env closed jobId siteId fencingEpoch).run db = (.ok u, db')) :
    db' = { db with jobQueue := db'.jobQueue } := by
  obtain ⟨_, _, -, -, -, -, -, hframe⟩ := closeJob_ok h
  exact hframe

/-- **A job is closed behind its run.** Once the run has ended, closing its job keeps the
invariant. -/
theorem closeJob_coherent (env : Ambient) {closed : JobStatus} (hclosed : closed.closed = true)
    (lease : JobLeaseV1) :
    Tx.Triple (fun db => Held lease db ∧ db.RunEnded lease)
      (closeJob env closed lease.jobId lease.siteId lease.fencingEpoch)
      fun _ db' => Coherent db' := by
  refine ⟨fun {db u db'} hpre h => ?_⟩
  have hruns : db'.scheduleRun = db.scheduleRun := by rw [closeJob_frame h]
  have hended : ∀ {job : JobLeaseV1}, db.RunEnded job → db'.RunEnded job := by
    intro job hjob
    unfold Db.RunEnded Db.RunAt
    rw [hruns]
    exact hjob
  intro job hjob hjobClosed
  cases (closeJob_own hclosed hpre.1.leased h).2 job hjob with
  | inl hkept => exact hended (hpre.1.coherent job hkept hjobClosed)
  | inr hsame => exact hended (hsame.runEnded hpre.2)

/-! ## The worker's statements -/

/-- Ending a run leaves it ended. -/
theorem finalizeRun_ended (env : Ambient) (lease : JobLeaseV1) {status : ScheduleRunStatus}
    (hterminal : status.terminal = true) (reason : Option String)
    {candidate : Option ScheduleVersionV1}
    (hcandidate : status = .solverCompleted → candidate.isSome = true)
    (finishedAt : Option Instant) (requestId : Option Uuid) :
    Tx.Triple (Held lease)
      (finalizeRun env lease.scheduleRunId lease.siteId lease.fencingEpoch status reason candidate
        finishedAt requestId) fun _ db' => Held lease db' ∧ db'.RunEnded lease :=
  .ofLeads (finalizeRun_moved _ _ _ _ _ _ _ _ _ hcandidate) fun _ _ _ hheld hmoved =>
    ⟨hheld.moved hmoved, hmoved.runAt.mono fun _ hstatus => hstatus ▸ hterminal⟩

theorem finishCancelled_coherent (env : Ambient) (lease : JobLeaseV1) :
    Tx.Triple (Held lease) (finishCancelled env lease) fun _ db' => Coherent db' :=
  .bind (finalizeRun_ended env lease rfl _ (fun h => by cases h) _ _) fun _ =>
    closeJob_coherent env rfl lease

/-- A read of the run's state is an observation. -/
theorem getRunState_observed (lease : JobLeaseV1) :
    Tx.Triple (Held lease) (getRunState lease.scheduleRunId lease.siteId) fun observed db' =>
      Held lease db' ∧ db'.Observed lease observed :=
  .ofStill (getRunState_still ..) fun db observed hheld h => by
    rw [run_getRunState] at h
    cases h
    exact ⟨hheld, db.observed_runState lease⟩

/-! ## The worker's transactions

Each checkpoint is a triple: what the worker holds before it, and what the two rows are after it. -/

/-- What Transaction A leaves: the invariant, and a run that has left the queue if it is to be
solved. -/
def AfterA (lease : JobLeaseV1) (next : AfterTransactionA) (db : Db) : Prop :=
  Coherent db ∧ ∀ snapshot, next = .execute snapshot → db.RunStarted lease

theorem checkpointA_coherent (env : Ambient) (lease : JobLeaseV1) (snapshot : RunSnapshotV1)
    {attempts : Nat} (hattempts : 0 < attempts) (observed : Option ScheduleRunStateV1) :
    Tx.Triple (fun db => Held lease db ∧ db.Observed lease observed)
      (checkpointA env lease snapshot attempts observed) (AfterA lease) := by
  have hfinished : ∀ status, ∀ {x : DbTx Unit} {P : Db → Prop},
      Tx.Triple P x (fun _ db' => Coherent db') →
      Tx.Triple P (do x; pure (.finished status) : DbTx AfterTransactionA) (AfterA lease) :=
    fun status _ _ hx => .bind hx fun _ => .pure fun _ h => ⟨h, fun _ heq => by cases heq⟩
  -- a terminal status was read: the run has ended, and its job is closed behind it
  have hclose : ∀ state : ScheduleRunStateV1, state.status.terminal = true →
      Tx.Triple (fun db => Held lease db ∧ db.Observed lease (some state))
        (completeJob env lease.jobId lease.siteId lease.fencingEpoch)
        fun _ db' => Coherent db' := fun state hterminal =>
    (closeJob_coherent env rfl lease).weaken
      (fun _ h => ⟨h.1, h.2.runEnded hterminal⟩) fun _ _ => id
  -- one lost race reads the run again, with one attempt less
  induction attempts generalizing observed with
  | zero => omega
  | succ attempts ih =>
    cases observed with
    | none => exact .throw _
    | some state =>
      obtain ⟨status, resourceVersion⟩ := state
      cases status with
      | solverQueued =>
        -- `mark_running` moves the run, or loses its race and leaves the job touched
        refine .tryCatch (S := fun e db => isTransitionConflict e → Held lease db) ?_ ?_ ?_
        · refine .bind (R := fun _ db' => Coherent db' ∧ db'.RunStarted lease) ?_ fun _ =>
            .pure fun _ h => ⟨h.1, fun _ _ => h.2⟩
          refine .ofLeads (markRunning_moved ..) fun _ _ _ hpre hmoved => ?_
          exact ⟨(hpre.1.moved hmoved).coherent,
            hmoved.runAt.mono fun _ hstatus => by rw [hstatus]; decide⟩
        · intro db e db' hpre h hconflict
          rcases Tx.bind_error.mp h with h | ⟨_, _, -, h⟩
          · exact hpre.1.touching ((touchingWatch.markRunning_conflict ..).failed h hconflict)
          · cases h
        · intro e
          cases e with
          | runTransitionConflict message =>
            refine .ite (fun _ => .throw _) fun hleft => ?_
            refine .bind (R := fun observed db' => Held lease db' ∧ db'.Observed lease observed)
              ?_ fun observed => ih (by omega) observed
            exact (getRunState_observed lease).weaken (fun _ h => h ⟨message, rfl⟩) fun _ _ => id
          | _ => exact .throw _
      | solverRunning =>
        exact .pure fun _ h => ⟨h.1.coherent, fun _ _ => h.2.runStarted (by simp)⟩
      | cancellationRequested =>
        exact hfinished _
          ((finishCancelled_coherent env lease).weaken (fun _ h => h.1) fun _ _ => id)
      | solverCompleted => exact hfinished _ (hclose _ rfl)
      | solverInfeasible => exact hfinished _ (hclose _ rfl)
      | solverTimedOut => exact hfinished _ (hclose _ rfl)
      | solverCancelled => exact hfinished _ (hclose _ rfl)
      | solverFailed => exact hfinished _ (hclose _ rfl)

theorem transactionAFrom_coherent (env : Ambient) (lease : JobLeaseV1)
    (observed : Option ScheduleRunStateV1) :
    Tx.Triple (fun db => Held lease db ∧ db.Observed lease observed)
      (transactionAFrom env lease observed) (AfterA lease) := by
  refine .bind (R := fun _ db => Held lease db ∧ db.Observed lease observed)
    (.ofStill (loadSnapshot_still ..) fun _ _ h _ => h) fun snapshot => ?_
  cases snapshot with
  | none => exact .throw _
  | some snapshot => exact checkpointA_coherent env lease snapshot (by omega) observed

/-- Transaction B, which no worker begins before its run has left the queue. -/
theorem transactionBFrom_coherent (env : Ambient) {lease : JobLeaseV1} {snapshot : RunSnapshotV1}
    (hsnapshot : snapshot.scheduleRunId = lease.scheduleRunId) (leaseSeconds : Int) (solve : Solve)
    {observed : Option ScheduleRunStateV1}
    (hstarted : ∀ state, observed = some state → state.status ≠ .solverQueued) :
    Tx.Triple (fun db => Held lease db ∧ db.Observed lease observed)
      (transactionBFrom env lease snapshot leaseSeconds solve observed)
      fun _ db' => Coherent db' := by
  have hcomplete : ∀ status : ScheduleRunStatus,
      Tx.Triple (fun db => Held lease db ∧ db.RunEnded lease)
        (do completeJob env lease.jobId lease.siteId lease.fencingEpoch
            pure status : DbTx ScheduleRunStatus) fun _ db' => Coherent db' := fun _ =>
    .bind (closeJob_coherent env rfl lease) fun _ => .pure fun _ h => h
  -- an ended run only needs its job closed
  have hclose : ∀ state : ScheduleRunStateV1, state.status.terminal = true →
      Tx.Triple (fun db => Held lease db ∧ db.Observed lease (some state))
        (do completeJob env lease.jobId lease.siteId lease.fencingEpoch
            pure state.status : DbTx ScheduleRunStatus) fun _ db' => Coherent db' :=
    fun _ hterminal =>
      (hcomplete _).weaken (fun _ h => ⟨h.1, h.2.runEnded hterminal⟩) fun _ _ => id
  cases observed with
  | none => exact .throw _
  | some state =>
    obtain ⟨status, resourceVersion⟩ := state
    cases status with
    | solverQueued => exact absurd rfl (hstarted _ rfl)
    | cancellationRequested =>
      refine .bind (R := fun _ db' => Coherent db') ?_ fun _ => .pure fun _ h => h
      exact (finishCancelled_coherent env lease).weaken (fun _ h => h.1) fun _ _ => id
    | solverRunning =>
      -- the finalisation ends the run while the lease is held, and the job is closed after it
      refine .bind (R := fun _ db' => Held lease db' ∧ db'.RunEnded lease) ?_
        fun f => hcomplete f.status
      refine .ite (fun _ => .throw _) fun _ => ?_
      refine .bind (R := fun f db => Held lease db ∧ f.WellFormed) ?_ fun f => ?_
      · refine .ofStill (.lift _) fun db f hpre h => ⟨hpre.1, ?_⟩
        exact finalized_wellFormed (Tx.lift_ok.mp h).1
      · refine ⟨fun hpre h => ?_⟩
        rw [hsnapshot] at h
        have hended := finalizeRun_ended env lease hpre.2.terminal f.reason
          hpre.2.candidate.mpr (some env.clock) lease.attemptId
        exact (Tx.Triple.bind (S := fun _ db' => Held lease db' ∧ db'.RunEnded lease) hended
          fun _ => .pure fun _ h => h).holds hpre.1 h
    | solverCompleted => exact hclose _ rfl
    | solverInfeasible => exact hclose _ rfl
    | solverTimedOut => exact hclose _ rfl
    | solverCancelled => exact hclose _ rfl
    | solverFailed => exact hclose _ rfl

theorem fatalTerminal_terminal (observed : ScheduleRunStatus) :
    (fatalTerminal observed).1.terminal = true ∧ (fatalTerminal observed).1 ≠ .solverCompleted := by
  cases observed <;> decide

theorem recordFatalFailureFrom_coherent (env : Ambient) (lease : JobLeaseV1) (cause : PyError)
    (observed : Option ScheduleRunStateV1) :
    Tx.Triple (fun db => Held lease db ∧ db.Observed lease observed)
      (recordFatalFailureFrom env lease cause observed) fun _ db' => Coherent db' := by
  -- the handler only raises again
  refine .tryCatch (S := fun _ _ => True) ?_ (fun _ _ => trivial) fun _ => .throw _
  cases observed with
  | none => exact .throw _
  | some state =>
    have hfail : ∀ status : ScheduleRunStatus,
        Tx.Triple (fun db => Held lease db ∧ db.RunEnded lease)
          (do failJob env lease.jobId lease.siteId lease.fencingEpoch
              pure status : DbTx ScheduleRunStatus) fun _ db' => Coherent db' := fun _ =>
      .bind (closeJob_coherent env rfl lease) fun _ => .pure fun _ h => h
    refine .ite (fun hterminal => ?_) fun _ => ?_
    · exact (hfail _).weaken (fun _ h => ⟨h.1, h.2.runEnded hterminal⟩) fun _ _ => id
    · have hended := fatalTerminal_terminal state.status
      refine .bind ?_ fun _ => hfail _
      exact (finalizeRun_ended env lease hended.1 _ (fun h => absurd h hended.2) _ _).weaken
        (fun _ h => h.1) fun _ _ => id

/-! ## Transactions that complete no run -/

/-- No run is completed and no candidate written; a job that was closed stays as it was closed. -/
structure Unsolved (db db' : Db) : Prop where
  runs : ∀ run ∈ db'.scheduleRun, run.status = .solverCompleted → run ∈ db.scheduleRun
  versions : db'.scheduleVersion = db.scheduleVersion
  closed : ∀ job ∈ db.jobQueue, job.status.closed = true → ∃ job' ∈ db'.jobQueue, Touched job job'

/-- Nor is a job closed. -/
structure Unclosed (db db' : Db) : Prop extends Unsolved db db' where
  noneClosed : NoneClosed db db'

theorem Unsolved.refl (db : Db) : Unsolved db db :=
  ⟨fun _ hrun _ => hrun, rfl, fun job hjob _ => ⟨job, hjob, .refl job⟩⟩

theorem Unsolved.trans (db db' db'' : Db) (h : Unsolved db db') (h' : Unsolved db' db'') :
    Unsolved db db'' where
  runs run hrun hstatus := h.runs run (h'.runs run hrun hstatus) hstatus
  versions := h'.versions.trans h.versions
  closed job hjob hclosed := by
    obtain ⟨job', hjob', htouched⟩ := h.closed job hjob hclosed
    obtain ⟨job'', hjob'', htouched'⟩ := h'.closed job' hjob' (htouched.status.symm ▸ hclosed)
    exact ⟨job'', hjob'', htouched.trans _ _ _ htouched'⟩

theorem Unclosed.refl (db : Db) : Unclosed db db :=
  ⟨.refl db, fun job hjob hclosed => ⟨job, hjob, hclosed, .refl job⟩⟩

theorem Unclosed.trans (db db' db'' : Db) (h : Unclosed db db') (h' : Unclosed db' db'') :
    Unclosed db db'' := by
  refine ⟨h.toUnsolved.trans _ _ _ h'.toUnsolved, fun job'' hjob'' hclosed'' => ?_⟩
  obtain ⟨job', hjob', hclosed', hsame'⟩ := h'.noneClosed job'' hjob'' hclosed''
  obtain ⟨job, hjob, hclosed, hsame⟩ := h.noneClosed job' hjob' hclosed'
  exact ⟨job, hjob, hclosed, hsame.trans _ _ _ hsame'⟩

theorem Unclosed.of_jobsTouched {db db' : Db} (hjobs : JobsTouched db db')
    (hruns : ∀ run ∈ db'.scheduleRun, run.status = .solverCompleted → run ∈ db.scheduleRun)
    (hversions : db'.scheduleVersion = db.scheduleVersion) : Unclosed db db' :=
  ⟨⟨hruns, hversions, fun job hjob _ => hjobs.kept job hjob⟩, hjobs.noneClosed⟩

theorem Touching.unclosed {db db' : Db} (h : Touching db db') : Unclosed db db' := by
  have htables := h.tables
  simp only [Db.runTables, RunTables.mk.injEq] at htables
  exact .of_jobsTouched h.jobs (fun run hrun _ => by rwa [htables.1] at hrun) htables.2.1

/-- A move to another status than `solver_completed`. -/
theorem RunMoved.unclosed {runId siteId : Uuid} {status : ScheduleRunStatus} {db db' : Db}
    (hstatus : status ≠ .solverCompleted) (h : RunMoved runId siteId status db db') :
    Unclosed db db' := by
  refine .of_jobsTouched h.jobs (fun run hrun hcompleted => ?_) ?_
  · cases h.other hrun with
    | inl hkept => exact hkept
    | inr hmoved => exact absurd (hmoved.2.symm.trans hcompleted) hstatus
  · obtain ⟨run, run', -, hrun', -, -, hcandidate, -⟩ := h.moved
    cases hcandidate with
    | none _ hversions => exact hversions
    | some v hcompleted => exact absurd (hrun'.symm.trans hcompleted) hstatus

theorem cancels_ne_completed {status : ScheduleRunStatus} (h : status.cancels = true) :
    status ≠ .solverCompleted := by
  rintro rfl
  cases h

theorem closeJob_unsolved (env : Ambient) (closed : JobStatus) (jobId siteId : Uuid)
    (fencingEpoch : Int) : (closeJob env closed jobId siteId fencingEpoch).Leads Unsolved := by
  refine ⟨fun {db u db'} h => ?_⟩
  obtain ⟨job, job', -, hleased, -, -, hreplaced, hframe⟩ := closeJob_ok h
  have hruns : db'.scheduleRun = db.scheduleRun := by rw [hframe]
  refine ⟨fun run hrun _ => hruns ▸ hrun, by rw [hframe], fun other hother hclosed => ?_⟩
  -- the row it closed was leased
  have hne : other ≠ job := by
    rintro rfl
    rw [hleased] at hclosed
    cases hclosed
  exact ⟨other, (hreplaced.mem_iff other).mpr (.inr ⟨hother, hne⟩), .refl other⟩

/-- The statements of a worker that found nothing to solve. -/
theorem unsolvedRegime : RunRegime Unsolved Unsolved where
  refl := Unsolved.refl
  trans := Unsolved.trans
  effect := fun _ _ => id
  after := Unsolved.trans
  before := Unsolved.trans
  touchJobs :=
    fun _ _ _ hset => (touching_touchJobs _ _ hset).mono fun _ _ h => h.unclosed.toUnsolved
  insertReceipt := fun _ _ => (touching_insertReceipt ..).mono fun _ _ h => h.unclosed.toUnsolved
  cancelTransition := fun _ _ _ _ _ _ _ _ _ hedge hcancels =>
    (cancelTransition_moved _ _ _ _ _ _ _ hedge hcancels).mono fun _ _ h =>
      (h.unclosed (cancels_ne_completed hcancels)).toUnsolved
  closeJob := closeJob_unsolved
  markRunning := fun _ _ _ _ _ =>
    (markRunning_moved ..).mono fun _ _ h => (h.unclosed (by decide)).toUnsolved
  finalizeRun := fun _ _ _ _ _ _ _ _ hstatus =>
    (finalizeRun_moved _ _ _ _ _ _ _ _ _ fun h => absurd h hstatus).mono fun _ _ h =>
      (h.unclosed hstatus).toUnsolved

/-- The statements of a planner's cancellation. -/
theorem unclosedRegime : CancelRegime Unclosed Unclosed where
  refl := Unclosed.refl
  trans := Unclosed.trans
  effect := fun _ _ => id
  after := Unclosed.trans
  before := Unclosed.trans
  touchJobs := fun _ _ _ hset => (touching_touchJobs _ _ hset).mono fun _ _ => Touching.unclosed
  insertReceipt := fun _ _ => (touching_insertReceipt ..).mono fun _ _ => Touching.unclosed
  cancelTransition := fun _ _ _ _ _ _ _ _ _ hedge hcancels =>
    (cancelTransition_moved _ _ _ _ _ _ _ hedge hcancels).mono fun _ _ =>
      RunMoved.unclosed (cancels_ne_completed hcancels)

theorem createQueuedRun_unclosed (env : Ambient) (snapshot : RunSnapshotV1)
    (siteId actorId : Uuid) : (createQueuedRun env snapshot siteId actorId).Leads Unclosed := by
  refine ⟨fun {db u db'} h => ?_⟩
  obtain ⟨_, db₁, hsnapshot, h⟩ := Tx.bind_ok.mp h
  obtain ⟨snapshots, -, rfl⟩ := Relvar.insertInto_ok.mp hsnapshot
  obtain ⟨_, db₂, hrun, h⟩ := Tx.bind_ok.mp h
  obtain ⟨runs, hruns, rfl⟩ := Relvar.insertInto_ok.mp hrun
  let run : ScheduleRunRow :=
    { id := snapshot.scheduleRunId, siteId := siteId, runSnapshotId := snapshot.snapshotId }
  have hsite : run.siteId = siteId := rfl
  have hstatus : run.status = .solverQueued := rfl
  have hversion : run.resourceVersion = 1 := rfl
  obtain ⟨-, htables, hjobs⟩ := writeProgressEvent_ok hsite hstatus hversion h
  simp only [Db.runTables, RunTables.mk.injEq] at htables
  refine .of_jobsTouched (.of_eq hjobs) (fun other hother hcompleted => ?_) htables.2.1
  rw [htables.1] at hother
  cases (Table.mem_of_insert? hruns).mp hother with
  | inl hkept => exact hkept
  | inr hnew => subst hnew; cases hcompleted

/-- The statements of a planner's scheduling. -/
theorem unclosedPlanner : PlannerRegime Unclosed Unclosed :=
  { unclosedRegime.toRunWatch with
    insertJob := fun _ job hqueued => by
      refine ⟨fun {db u db'} h => ?_⟩
      obtain ⟨t, ht, rfl⟩ := Relvar.insertInto_ok.mp h
      refine ⟨⟨fun _ hrun _ => hrun, rfl, fun other hother _ => ?_⟩, fun other hother hclosed => ?_⟩
      · exact ⟨other, (Table.mem_of_insert? ht).mpr (.inl hother), .refl other⟩
      · cases (Table.mem_of_insert? ht).mp hother with
        | inl hkept => exact ⟨other, hkept, hclosed, .refl other⟩
        | inr hnew => rw [hnew, hqueued] at hclosed; cases hclosed
    createQueuedRun := createQueuedRun_unclosed }

/-- Leasing picks a job that is not closed. -/
theorem leaseNextJob_unclosed (env : Ambient) (locked : JobLeaseV1 → Bool) (leaseOwner : String)
    (leaseSeconds : Int) : (leaseNextJob env locked leaseOwner leaseSeconds).Leads Unclosed := by
  refine .ite (fun _ => .throw _) fun _ => .ite (fun _ => .throw _) fun _ => ?_
  refine ⟨fun {db leased db'} h => ?_⟩
  obtain ⟨candidates, db₁, hread, h⟩ := Tx.bind_ok.mp h
  rw [Tx.run_read] at hread
  cases hread
  split at h
  · cases h; exact Unclosed.refl db
  · rename_i next rest hcandidates
    obtain ⟨rows, db₂, hupdate, h⟩ := Tx.bind_ok.mp h
    cases h
    obtain ⟨t, ht, rfl, -⟩ := Relvar.updateWhere_ok.mp hupdate
    have hnext :
        next ∈ db.jobQueue.rows.filter fun job => leaseable env.now job && !locked job := by
      have hfirst : next ∈ next :: rest := List.mem_cons_self
      rw [← hcandidates, List.mem_insertionSort] at hfirst
      exact hfirst
    have hopen : next.status.closed = false := by
      have hleaseable := (List.mem_filter.mp hnext).2
      simp only [leaseable, Bool.and_eq_true] at hleaseable
      cases hstatus : next.status with
      | queued => rfl
      | leased => rfl
      | completed => rw [hstatus] at hleaseable; cases hleaseable.1
      | failed => rw [hstatus] at hleaseable; cases hleaseable.1
    -- the picked row is the only one with its id
    have hpicked : ∀ job ∈ db.jobQueue, job.status.closed = true → ¬ job.jobId = next.jobId := by
      intro job hjob hclosed hid
      have hsame : job = next :=
        Table.eq_of_clash hjob (List.mem_filter.mp hnext).1 (by simp [clash, hid])
      rw [hsame, hopen] at hclosed
      cases hclosed
    refine ⟨⟨fun _ hrun _ => hrun, rfl, fun job hjob hclosed => ?_⟩, fun job' hjob' hclosed => ?_⟩
    · refine ⟨job, (Table.mem_of_update? ht).mpr ⟨job, hjob, ?_⟩, .refl job⟩
      rw [if_neg (by simpa using hpicked job hjob hclosed)]
    · obtain ⟨job, hjob, rfl⟩ := (Table.mem_of_update? ht).mp hjob'
      split at hclosed
      · cases hclosed
      · rename_i hother
        refine ⟨job, hjob, hclosed, ?_⟩
        rw [if_neg hother]
        exact .refl job

/-- The runs that a cancellation moved are the ones it stopped. -/
def CancelsOnly (db db' : Db) : Prop :=
  ∀ run ∈ db'.scheduleRun, run ∈ db.scheduleRun ∨ run.status.cancels = true

theorem cancelsRegime : CancelRegime CancelsOnly CancelsOnly := by
  have htrans : ∀ db db' db'' : Db, CancelsOnly db db' → CancelsOnly db' db'' →
      CancelsOnly db db'' := fun _ _ _ h h' run hrun => (h' run hrun).elim (h run) .inr
  have htouching : ∀ db db' : Db, Touching db db' → CancelsOnly db db' := by
    intro db db' h run hrun
    have htables := h.tables
    simp only [Db.runTables, RunTables.mk.injEq] at htables
    exact .inl (htables.1 ▸ hrun)
  exact
    { refl := fun _ _ hrun => .inl hrun
      trans := htrans
      effect := fun _ _ => id
      after := htrans
      before := htrans
      touchJobs := fun _ _ _ hset => (touching_touchJobs _ _ hset).mono htouching
      insertReceipt := fun _ _ => (touching_insertReceipt ..).mono htouching
      cancelTransition := fun _ _ _ _ _ _ _ _ _ hedge hcancels =>
        (cancelTransition_moved _ _ _ _ _ _ _ hedge hcancels).mono fun _ _ h run hrun =>
          (h.other hrun).imp_right fun hown => by rw [hown.2]; exact hcancels }

/-! ## The transaction that may complete its run -/

/-- A run is completed by the execution that closes its job, at the epoch of that lease. -/
structure Solved (lease : JobLeaseV1) (db db' : Db) : Prop where
  runs : ∀ run ∈ db'.scheduleRun, run.status = .solverCompleted → run ∈ db.scheduleRun ∨
    (isRun lease.scheduleRunId lease.siteId run = true ∧ ClosedAt db' lease)
  closed : ∀ job ∈ db.jobQueue, job.status.closed = true → ∃ job' ∈ db'.jobQueue, Touched job job'

theorem Unsolved.solved {lease : JobLeaseV1} {db db' : Db} (h : Unsolved db db') :
    Solved lease db db' :=
  ⟨fun run hrun hstatus => .inl (h.runs run hrun hstatus), h.closed⟩

/-- Transaction B that solves: it moves its run, then closes its job. -/
theorem transactionBFrom_solved {env : Ambient} {lease : JobLeaseV1} {snapshot : RunSnapshotV1}
    (hsnapshot : snapshot.scheduleRunId = lease.scheduleRunId) {leaseSeconds : Int} {solve : Solve}
    {state : ScheduleRunStateV1} (hrunning : state.status = .solverRunning) {db db' : Db}
    {status : ScheduleRunStatus} (hheld : Held lease db)
    (h : (transactionBFrom env lease snapshot leaseSeconds solve (some state)).run db =
      (.ok status, db')) : Solved lease db db' := by
  obtain ⟨observed, resourceVersion⟩ := state
  subst hrunning
  obtain ⟨f, db₁, hexecute, h⟩ := Tx.bind_ok.mp h
  obtain ⟨_, db₂, hclose, h⟩ := Tx.bind_ok.mp h
  cases h
  -- the finalisation moves the run
  obtain ⟨outcome, hmoved⟩ : ∃ outcome,
      RunMoved lease.scheduleRunId lease.siteId outcome db db₁ := by
    unfold executeScheduleRun at hexecute
    split at hexecute
    · exact absurd hexecute Tx.throw_ok
    · obtain ⟨g, db₂, hlift, hfinalize⟩ := Tx.bind_ok.mp hexecute
      obtain ⟨hformed, hdb⟩ := Tx.lift_ok.mp hlift
      obtain ⟨_, db₃, hfinalize, hpure⟩ := Tx.bind_ok.mp hfinalize
      cases hpure
      -- what it is finalised with is well formed, so the run has a candidate if it is solved
      have hwell := finalized_wellFormed hformed
      rw [hsnapshot, hdb] at hfinalize
      exact ⟨_, (finalizeRun_moved _ _ _ _ _ _ _ _ _ hwell.candidate.mpr).led hfinalize⟩
  have hruns : db'.scheduleRun = db₁.scheduleRun := by rw [closeJob_frame hclose]
  -- the job closed last is the one leased
  have hclosedAt := (closeJob_own rfl (hheld.moved hmoved).leased hclose).1
  refine ⟨fun run hrun hcompleted => ?_, fun job hjob hclosed => ?_⟩
  · rw [hruns] at hrun
    exact (hmoved.other hrun).imp_right fun hown => ⟨hown.1, hclosedAt⟩
  · obtain ⟨job₁, hjob₁, htouched⟩ := hmoved.jobs.kept job hjob
    have hunsolved := (closeJob_unsolved ..).led hclose
    obtain ⟨job', hjob', htouched'⟩ :=
      hunsolved.closed job₁ hjob₁ (htouched.status.symm ▸ hclosed)
    exact ⟨job', hjob', htouched.trans _ _ _ htouched'⟩

end ShiftMind
