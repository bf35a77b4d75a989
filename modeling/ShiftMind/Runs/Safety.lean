import ShiftMind.Runs.System

/-!
# ShiftMind — safety of the run state machine

Every step of the system makes at most one effect on the run tables, so what the lifecycle proves
of an effect holds of every step, and what it proves of the linkage of runs, candidates and
snapshots holds of every reachable state.

* **`Sys.perform_effect`** — one step, one effect.
* **`Sys.Inv`** — the linkage, with every lease a current or past epoch of its job and every
  attempt carrying the snapshot of its own run.
* **`schedule_run_state_machine_safety`** — the state machine over whole runs.
-/

namespace ShiftMind

open Relational Transactional Transition ScheduleRunRepository

/-! ## One step, one effect -/

/-- A worker's call leads through whatever its regime watches. -/
theorem WorkerCall.body_leads {Q E : Db → Db → Prop} (hr : SolverRegime Q E) (env : Ambient)
    (lease : JobLeaseV1) {call : WorkerCall}
    (hformed : ∀ f finishedAt requestId, call = .finalizeRun f finishedAt requestId →
      f.WellFormed) : (call.body env lease).Leads E := by
  have hthen : ∀ {α β : Type} {x : DbTx α} (f : α → β), x.Leads E →
      (do let a ← x; pure (f a) : DbTx β).Leads E := fun f hx =>
    hr.thenQuiet hx fun _ => hr.still (.pure _)
  cases call with
  | transactionA observed => exact hthen _ (hr.transactionAFrom ..)
  | transactionB snapshot leaseSeconds solve observed => exact hthen _ (hr.transactionBFrom ..)
  | recordFatalFailure cause observed => exact hthen _ (hr.recordFatalFailureFrom ..)
  | renewJobLease extensionSeconds => exact hthen _ (hr.ofQuiet (hr.renewJobLease ..))
  | markRunning requestId => exact hthen _ (hr.markRunning ..)
  | finalizeRun f finishedAt requestId =>
    exact hthen _ (hr.finalizeCandidate _ _ _ _ _ _ _ _ _ (hformed _ _ _ rfl).candidate.mpr)
  | completeJob => exact hthen _ (hr.ofQuiet (hr.completeJob ..))
  | failJob => exact hthen _ (hr.ofQuiet (hr.failJob ..))

/-- A cancel command that has not reached its write phase commits what it found. -/
theorem cancelRequest_still {body : DbTx (Option ScheduleRunCancellationV1)} (hbody : body.Still)
    (db : Db) : (cancelRequest body db).2 = db := by
  have hroute : (cancelRoute body).Still := by
    refine ⟨fun db => .tryCatch (.bind (hbody.unchanged db) fun _ => rfl) fun e _ => ?_⟩
    exact .ite (fun _ => rfl) fun _ => rfl
  have hcommit := (hroute.unchanged db).commit
  unfold cancelRequest
  cases hrun : (cancelRoute body).commit db with
  | mk r db' =>
    rw [hrun] at hcommit
    cases r with
    | ok response => exact hcommit
    | error e => exact hcommit

/-- The admission of a cancel command commits nothing and hands out nothing. -/
theorem Sys.perform_admit (s : Sys) (env : Ambient) (cmd : CancelCommand)
    (observed : Option ScheduleRunStateV1) :
    (s.perform (.admitCancel env cmd observed)).db = s.db ∧
      (s.perform (.admitCancel env cmd observed)).leases = s.leases ∧
      (s.perform (.admitCancel env cmd observed)).attempts = s.attempts := by
  have hanswer : ∀ {body}, Tx.Still body → (s.answer none body).db = s.db ∧
      (s.answer none body).leases = s.leases ∧ (s.answer none body).attempts = s.attempts :=
    fun hbody => ⟨cancelRequest_still hbody s.db, rfl, rfl⟩
  simp only [Sys.perform]
  split
  · exact ⟨rfl, rfl, rfl⟩
  · exact hanswer (.pure _)
  · exact hanswer (.throw _)

/-- A worker's call, committed or rolled back. -/
theorem WorkerCall.body_progress (env : Ambient) (lease : JobLeaseV1) {call : WorkerCall}
    (hformed : ∀ f finishedAt requestId, call = .finalizeRun f finishedAt requestId →
      f.WellFormed) (db : Db) : Progress db ((call.body env lease).commit db).2 :=
  (WorkerCall.body_leads progressRegime.toSolverRegime env lease hformed).commit
    progressRegime.effect_refl db

theorem leaseNextJob_commit (env : Ambient) (locked : JobLeaseV1 → Bool) (leaseOwner : String)
    (leaseSeconds : Int) (db : Db) :
    Silent db ((leaseNextJob env locked leaseOwner leaseSeconds).commit db).2 :=
  (leaseNextJob_silent ..).commit Silent.refl db

theorem cancelRequest_progress (session : CancelSession) (db : Db) :
    Progress db (cancelRequest (cancelWrite session.env session.cmd session.state) db).2 :=
  progressRegime.cancelRequest (progressRegime.cancelWrite ..)
    (progressRegime.cancelWrite_fails ..) db

theorem enqueueCompute_recorded (env : Ambient) (catalogue : ScenarioCatalogue)
    (cmd : EnqueueCommand) (db : Db) :
    Recorded db ((enqueueCompute env catalogue cmd).commit db).2 :=
  (recordedRegime.enqueueCompute ..).commit recordedRegime.effect_refl db

/-- **One step, one effect.** -/
theorem Sys.perform_effect {s : Sys} {a : Action} (ha : a.Enabled s) :
    Effect s.db (s.perform a).db := by
  cases a with
  | enqueueCompute env catalogue cmd => exact (enqueueCompute_recorded env catalogue cmd _).effect
  | leaseNextJob env locked leaseOwner leaseSeconds =>
    exact (Progress.silent (leaseNextJob_commit env locked leaseOwner leaseSeconds s.db)).effect
  | worker env lease call =>
    refine (WorkerCall.body_progress env lease ?_ s.db).effect
    rintro f finishedAt requestId rfl
    exact ha.2
  | observeCancel cmd => exact Effect.refl s.db
  | admitCancel env cmd observed =>
    rw [(s.perform_admit env cmd observed).1]
    exact Effect.refl s.db
  | writeCancel session => exact (cancelRequest_progress session s.db).effect
  | elsewhere db' => exact ⟨.quiet ha.1, .of_eq ha.2⟩

/-! ## The invariant -/

structure Sys.Inv (s : Sys) : Prop where
  tables : s.db.runTables.Inv
  /-- a lease is a current or past epoch of its job -/
  leased : ∀ lease ∈ s.leases, ∃ job ∈ s.db.jobQueue, SameJob lease job
  /-- an attempt was let go ahead under a lease, with the snapshot of that lease's run -/
  attempted : ∀ attempt ∈ s.attempts, attempt.1 ∈ s.leases ∧
    attempt.2.scheduleRunId = attempt.1.scheduleRunId

theorem Sys.Inv.initial {s : Sys} (h : s.Initial) : s.Inv where
  tables := .of_empty h.runs h.versions
  leased := by rw [h.leases]; simp
  attempted := by rw [h.attempts]; simp

/-- What a lease hands out is a row the transaction leaves in the queue. -/
theorem leaseNextJob_handsOut {env : Ambient} {locked : JobLeaseV1 → Bool} {leaseOwner : String}
    {leaseSeconds : Int} {db db' : Db} {lease : JobLeaseV1}
    (h : (leaseNextJob env locked leaseOwner leaseSeconds).run db = (.ok (some lease), db')) :
    lease ∈ db'.jobQueue := by
  unfold leaseNextJob at h
  split_ifs at h
  · cases h
  · cases h
  · obtain ⟨candidates, db₁, hread, h⟩ := Tx.bind_ok.mp h
    cases hread
    split at h
    · cases h
    · obtain ⟨rows, db₂, hupdate, h⟩ := Tx.bind_ok.mp h
      obtain ⟨t, ht, rfl, hrows⟩ := Relvar.updateWhere_ok.mp hupdate
      cases rows with
      | nil => cases h
      | cons row rest =>
        cases h
        have hrow : lease ∈ lease :: rest := List.mem_cons_self
        rw [hrows] at hrow
        obtain ⟨job, hjob, rfl⟩ := List.mem_map.mp hrow
        obtain ⟨hjob, hsel⟩ := List.mem_filter.mp hjob
        exact (Table.mem_of_update? ht).mpr ⟨job, hjob, by rw [if_pos hsel]⟩

/-- Transaction A solves the snapshot it is given. -/
theorem checkpointA_yields (env : Ambient) (lease : JobLeaseV1) (snapshot : RunSnapshotV1)
    (attempts : Nat) (observed : Option ScheduleRunStateV1) :
    (checkpointA env lease snapshot attempts observed).Yields fun next =>
      ∀ solved, next = .execute solved → solved = snapshot := by
  -- only two arms execute, both on the snapshot given
  have hexecute : (pure (.execute snapshot) : DbTx AfterTransactionA).Yields fun next =>
      ∀ solved, next = .execute solved → solved = snapshot :=
    .pure fun solved h => by cases h; rfl
  have hfinished : ∀ {x : DbTx Unit} (status : ScheduleRunStatus),
      (do x; pure (.finished status) : DbTx AfterTransactionA).Yields fun next =>
        ∀ solved, next = .execute solved → solved = snapshot := fun _ =>
    .bind fun _ => .pure fun solved h => by cases h
  -- a lost compare-and-set observes again, with one attempt less
  induction attempts generalizing observed with
  | zero => exact hexecute
  | succ attempts ih =>
    cases observed with
    | none => exact .throw _
    | some state =>
      obtain ⟨status, resourceVersion⟩ := state
      cases status with
      | solverQueued =>
        refine .tryCatch (.bind fun _ => hexecute) fun e => ?_
        cases e with
        | runTransitionConflict message =>
          exact .ite (fun _ => .throw _) fun _ => .bind fun _ => ih _
        | _ => exact .throw _
      | solverRunning => exact hexecute
      | cancellationRequested => exact hfinished _
      | solverCompleted => exact hfinished _
      | solverInfeasible => exact hfinished _
      | solverTimedOut => exact hfinished _
      | solverCancelled => exact hfinished _
      | solverFailed => exact hfinished _

/-- The snapshot a lease's run loads was made for that run. -/
theorem loadSnapshot_ok {runId siteId : Uuid} {db db' : Db} {snapshot : RunSnapshotV1}
    (hinv : db.runTables.Inv)
    (h : (loadSnapshot runId siteId).run db = (.ok (some snapshot), db')) :
    snapshot.scheduleRunId = runId := by
  unfold loadSnapshot at h
  rw [Tx.run_bind, Relvar.run_selectOne] at h
  cases hrun : db.scheduleRun.find? (isRun runId siteId) with
  | none => simp only [Db.scheduleRuns_get, hrun] at h; cases h
  | some run =>
    simp only [Db.scheduleRuns_get, hrun] at h
    rw [Tx.run_bind, Relvar.run_selectOne] at h
    obtain ⟨hmem, hsel⟩ := Table.find?_eq_some hrun
    have hid : run.id = runId := by
      simp only [isRun, Bool.and_eq_true, decide_eq_true_eq] at hsel; exact hsel.1
    cases hfind : db.runSnapshot.find? fun s =>
        decide (s.id = run.runSnapshotId) && decide (s.siteId = run.siteId) with
    | none => simp only [Db.runSnapshots_get, hfind] at h; cases h
    | some row =>
      simp only [Db.runSnapshots_get, hfind] at h
      cases h
      obtain ⟨hrow, hkey⟩ := Table.find?_eq_some hfind
      simp only [Bool.and_eq_true, decide_eq_true_eq] at hkey
      -- the run names one snapshot, and the invariant says whose it is
      obtain ⟨own, hown, hownId, -, hpayload⟩ := hinv.snapshot_of_run run hmem
      have hsame : row = own :=
        db.runTables.snapshot_eq_of_id hrow hown (hkey.1.trans hownId.symm)
      rw [hsame, hpayload, hid]

/-- An attempt hands the solver the snapshot of its lease's run. -/
theorem WorkerCall.body_snapshot {env : Ambient} {lease : JobLeaseV1} {call : WorkerCall}
    {db db' : Db} {snapshot : RunSnapshotV1} (hinv : db.runTables.Inv)
    (h : (call.body env lease).run db = (.ok (some snapshot), db')) :
    snapshot.scheduleRunId = lease.scheduleRunId := by
  cases call with
  | transactionA observed =>
    obtain ⟨next, db₁, hnext, h⟩ := Tx.bind_ok.mp h
    cases next with
    | finished status => cases h
    | execute solved =>
      cases h
      obtain ⟨loaded, db₂, hload, hcheckpoint⟩ := Tx.bind_ok.mp hnext
      cases loaded with
      | none => cases hcheckpoint
      | some loaded =>
        rw [(checkpointA_yields env lease loaded 2 observed).yielded hcheckpoint _ rfl]
        exact loadSnapshot_ok hinv hload
  | transactionB snapshot leaseSeconds solve observed =>
    obtain ⟨_, _, _, h⟩ := Tx.bind_ok.mp h; cases h
  | recordFatalFailure cause observed => obtain ⟨_, _, _, h⟩ := Tx.bind_ok.mp h; cases h
  | renewJobLease extensionSeconds => obtain ⟨_, _, _, h⟩ := Tx.bind_ok.mp h; cases h
  | markRunning requestId => obtain ⟨_, _, _, h⟩ := Tx.bind_ok.mp h; cases h
  | finalizeRun f finishedAt requestId => obtain ⟨_, _, _, h⟩ := Tx.bind_ok.mp h; cases h
  | completeJob => obtain ⟨_, _, _, h⟩ := Tx.bind_ok.mp h; cases h
  | failJob => obtain ⟨_, _, _, h⟩ := Tx.bind_ok.mp h; cases h

/-- Leases stay current or past epochs of their jobs. -/
theorem leased_of_jobsKept {leases : List JobLeaseV1} {db db' : Db} (hkept : JobsKept db db')
    (h : ∀ lease ∈ leases, ∃ job ∈ db.jobQueue, SameJob lease job) :
    ∀ lease ∈ leases, ∃ job ∈ db'.jobQueue, SameJob lease job := by
  intro lease hlease
  obtain ⟨job, hjob, hsame⟩ := h lease hlease
  obtain ⟨job', hjob', hsame'⟩ := hkept job hjob
  exact ⟨job', hjob', hsame.trans _ _ _ hsame'⟩

/-- **Every step keeps the invariant.** -/
theorem Sys.Inv.perform {s : Sys} (hinv : s.Inv) {a : Action} (ha : a.Enabled s) :
    (s.perform a).Inv := by
  have heffect := Sys.perform_effect ha
  have htables := hinv.tables.effect heffect.tables
  have hleased := leased_of_jobsKept heffect.jobs hinv.leased
  cases a with
  | enqueueCompute env catalogue cmd => exact ⟨htables, hleased, hinv.attempted⟩
  | leaseNextJob env locked leaseOwner leaseSeconds =>
    refine ⟨htables, ?_, ?_⟩
    · intro lease hlease
      -- a lease is handed out with the job it was written to
      rcases List.mem_append.mp hlease with hnew | hold
      · have hok := Tx.commit_ok.mp (Prod.ext (mem_handed.mp hnew) rfl)
        exact ⟨lease, leaseNextJob_handsOut hok, SameJob.refl lease⟩
      · exact hleased lease hold
    · intro attempt hattempt
      have h := hinv.attempted attempt hattempt
      exact ⟨List.mem_append_right _ h.1, h.2⟩
  | worker env lease call =>
    refine ⟨htables, hleased, ?_⟩
    intro attempt hattempt
    rcases List.mem_append.mp hattempt with hnew | hold
    · -- an attempt starts from a snapshot that the worker was returned
      obtain ⟨snapshot, hsnapshot, rfl⟩ := List.mem_map.mp hnew
      have hok := Tx.commit_ok.mp (Prod.ext (mem_handed.mp hsnapshot) rfl)
      exact ⟨ha.1, WorkerCall.body_snapshot hinv.tables hok⟩
    · exact hinv.attempted attempt hold
  | observeCancel cmd => exact ⟨htables, hleased, hinv.attempted⟩
  | admitCancel env cmd observed =>
    obtain ⟨-, hleases, hattempts⟩ := s.perform_admit env cmd observed
    refine ⟨htables, ?_, ?_⟩
    · rw [hleases]; exact hleased
    · rw [hleases, hattempts]; exact hinv.attempted
  | writeCancel session => exact ⟨htables, hleased, hinv.attempted⟩
  | elsewhere db' => exact ⟨htables, hleased, hinv.attempted⟩

theorem Sys.Inv.of_reachable {s : Sys} (hreach : Reachable runSystem s) : s.Inv :=
  Machine.reachable_invariant Sys.Inv (fun _ => Sys.Inv.initial)
    (fun _ _ hinv ha => hinv.perform ha) hreach

/-! ## The state machine over whole runs

One transaction is one effect, so the edges of a run are those of the effects. -/

/-- Runs that had ended in `db` have the same row and the same candidates in `db'`. -/
def Frozen (db db' : Db) : Prop :=
  ∀ run ∈ db.scheduleRun, run.status.terminal = true →
    run ∈ db'.scheduleRun ∧ (∀ run' ∈ db'.scheduleRun, run'.id = run.id → run' = run) ∧
      ∀ v : ScheduleVersionRow, v.scheduleRunId = run.id →
        (v ∈ db'.scheduleVersion ↔ v ∈ db.scheduleVersion)

/-- A run owns a candidate exactly when it has completed, and never two. -/
def Linked (db : Db) : Prop :=
  (∀ run ∈ db.scheduleRun,
    (∃ v ∈ db.scheduleVersion, v.scheduleRunId = run.id) ↔ run.status = .solverCompleted) ∧
  (∀ v ∈ db.scheduleVersion, ∃ run ∈ db.scheduleRun, run.id = v.scheduleRunId) ∧
  ∀ v ∈ db.scheduleVersion, ∀ w ∈ db.scheduleVersion, v.scheduleRunId = w.scheduleRunId → v = w

/-- No run of `db` is lost; each is unchanged in `db'` or moved along one edge to its next resource
version; and the other runs of `db'` are queued. -/
def EdgesOnly (db db' : Db) : Prop :=
  (∀ run ∈ db.scheduleRun, ∃ run' ∈ db'.scheduleRun, run'.id = run.id) ∧
  (∀ run ∈ db.scheduleRun, ∀ run' ∈ db'.scheduleRun, run'.id = run.id →
    run' = run ∨ Moved run run') ∧
  ∀ run' ∈ db'.scheduleRun, (∀ run ∈ db.scheduleRun, run.id ≠ run'.id) →
    run'.status = .solverQueued

theorem Frozen.refl (db : Db) : Frozen db db := by
  intro run hrun _
  refine ⟨hrun, fun run' hrun' hid => ?_, fun v _ => Iff.rfl⟩
  exact db.runTables.run_eq_of_id hrun' hrun hid

theorem Frozen.trans (db db' db'' : Db) (h : Frozen db db') (h' : Frozen db' db'') :
    Frozen db db'' := by
  intro run hrun hterminal
  obtain ⟨hmem, -, hversions⟩ := h run hrun hterminal
  obtain ⟨hmem', hsame, hversions'⟩ := h' run hmem hterminal
  exact ⟨hmem', hsame, fun v hv => (hversions' v hv).trans (hversions v hv)⟩

/-- One effect leaves ended runs alone. -/
theorem Effect.frozen {db db' : Db} (heffect : Effect db db') : Frozen db db' := by
  intro run hrun hterminal
  have hmem : run ∈ db'.runTables.runs := heffect.tables.terminal_frozen hrun hterminal
  refine ⟨hmem, fun run' hrun' hid => ?_, fun v hv => ?_⟩
  · exact db'.runTables.run_eq_of_id hrun' hmem hid
  · exact heffect.tables.terminal_versions hrun hterminal hv

theorem Effect.edgesOnly {db db' : Db} (heffect : Effect db db') : EdgesOnly db db' := by
  refine ⟨fun run hrun => ?_, fun run hrun run' hrun' hid => ?_,
    fun run' hrun' hnew => heffect.tables.new_run_queued hrun' hnew⟩
  · rcases heffect.tables.run_cases hrun with hkept | ⟨run', hrun', hmoved⟩
    · exact ⟨run, hkept, rfl⟩
    · exact ⟨run', hrun', hmoved.id⟩
  · -- the one row of `db'` with this id is the row the effect left
    rcases heffect.tables.run_cases hrun with hkept | ⟨moved, hmem, hmoved⟩
    · exact .inl (db'.runTables.run_eq_of_id hrun' hkept hid)
    · have hsame := db'.runTables.run_eq_of_id hrun' hmem (hid.trans hmoved.id.symm)
      exact .inr (hsame ▸ hmoved)

theorem Sys.Inv.linked {s : Sys} (hinv : s.Inv) : Linked s.db := by
  refine ⟨fun run hrun => ⟨?_, hinv.tables.version_of_completed run hrun⟩, ?_, ?_⟩
  · rintro ⟨v, hv, hvrun⟩
    by_contra hstatus
    exact hinv.tables.no_version hrun hstatus hv hvrun
  · intro v hv
    obtain ⟨run, hrun, hid, -⟩ := hinv.tables.completed_of_version v hv
    exact ⟨run, hrun, hid⟩
  · exact fun v hv w hw h => s.db.runTables.version_eq_of_run hv hw h

/-- **Schedule-run state machine safety.** Over a run of any length from a reachable state, ended
runs are frozen; the state reached links runs and candidates; and each further step changes a
status along an edge only. -/
theorem schedule_run_state_machine_safety {s s' : Sys} (hreach : Reachable runSystem s)
    (hrun : Run runSystem s s') :
    Frozen s.db s'.db ∧ Linked s'.db ∧
      ∀ s'', runSystem.step s' s'' → EdgesOnly s'.db s''.db := by
  refine ⟨?_, (Sys.Inv.of_reachable (hreach.run hrun)).linked, ?_⟩
  · refine hrun.leads (R := fun s s' => Frozen s.db s'.db) (fun s => .refl s.db)
      (fun s s' s'' => Frozen.trans s.db s'.db s''.db) ?_ hreach
    rintro s s' - ⟨a, ha, rfl⟩
    exact (Sys.perform_effect ha).frozen
  · rintro s'' ⟨a, ha, rfl⟩
    exact (Sys.perform_effect ha).edgesOnly

/-- At the depot the queued run completes, and no further step moves it. -/
theorem schedule_run_state_machine_safety_depot :
    let queued := runMachine.performAll Depot.site [Depot.enqueue, Depot.lease 2]
    let ended := runMachine.performAll queued
      [Depot.transactionA 3 (Depot.leased 2 1), Depot.transactionB 4 (Depot.leased 2 1)]
    (ended.db.scheduleRun.rows.map ScheduleRunRow.status = [.solverCompleted]) ∧
      Frozen queued.db ended.db ∧ Linked ended.db ∧
        ∀ s, runSystem.step ended s → EdgesOnly ended.db s.db := by
  intro queued ended
  have hreach : Reachable runSystem queued :=
    Machine.reachable_of_schedule Depot.site_initial ⟨trivial, trivial, trivial⟩
  have hrun : Run runSystem queued ended := Machine.run_of_schedule
    ⟨⟨by decide +kernel, trivial⟩, ⟨by decide +kernel, by decide +kernel⟩, trivial⟩
  exact ⟨by decide +kernel, schedule_run_state_machine_safety hreach hrun⟩

end ShiftMind
