import ShiftMind.Runs.Lifecycle
import ShiftMind.UseCases.LeaseAndExecute
import ShiftMind.UseCases.CancelScheduleRun
import ShiftMind.UseCases.EnqueueCompute

/-!
# ShiftMind — the shape of the run writers

The transactions of workers and planners are compositions of one statement that moves a run with
statements that leave the runs alone. What such a transaction leads through follows from what its
statements do, whatever is being watched: the run tables, the event streams, a site's open runs.

* **`JobRepository`**, **`QuietRepository`** — what the statements on jobs, and those on receipts,
  lead through.
* **`PlannerRegime`**, **`CancelRegime`**, **`WorkerRegime`**, **`SolverRegime`** — with it, what
  the statements of a party lead through; a `WorkerRegime` has no completion, a `SolverRegime` has.
  **`RunRegime`** and **`SolveRegime`** add the statements of a cancellation.
* **`WorkerRegime.transactionAFrom`**, **`CancelRegime.cancelWrite`**, … — the transactions, in any
  regime that has their statements.
-/

namespace ShiftMind

open Relational Transactional ScheduleRunRepository

/-! ## Jobs are kept -/

/-- `b` is the job `a` at the same or a later fencing epoch. -/
structure SameJob (a b : JobLeaseV1) : Prop where
  jobId : b.jobId = a.jobId
  site : b.siteId = a.siteId
  run : b.scheduleRunId = a.scheduleRunId
  epoch : a.fencingEpoch ≤ b.fencingEpoch

theorem SameJob.refl (a : JobLeaseV1) : SameJob a a := ⟨rfl, rfl, rfl, le_rfl⟩

theorem SameJob.trans (a b c : JobLeaseV1) (h : SameJob a b) (h' : SameJob b c) : SameJob a c :=
  ⟨h'.jobId.trans h.jobId, h'.site.trans h.site, h'.run.trans h.run, h.epoch.trans h'.epoch⟩

/-- `b` is the job `a`, at the status and the fencing epoch it had. Its cancellation flag may have
been raised, and is not lowered. -/
structure Touched (a b : JobLeaseV1) : Prop where
  jobId : b.jobId = a.jobId
  site : b.siteId = a.siteId
  run : b.scheduleRunId = a.scheduleRunId
  status : b.status = a.status
  epoch : b.fencingEpoch = a.fencingEpoch
  flag : a.cancellationRequested = true → b.cancellationRequested = true

theorem Touched.sameJob {a b : JobLeaseV1} (h : Touched a b) : SameJob a b :=
  ⟨h.jobId, h.site, h.run, h.epoch.ge⟩

theorem Touched.refl (a : JobLeaseV1) : Touched a a := ⟨rfl, rfl, rfl, rfl, rfl, id⟩

theorem Touched.trans (a b c : JobLeaseV1) (h : Touched a b) (h' : Touched b c) : Touched a c :=
  ⟨h'.jobId.trans h.jobId, h'.site.trans h.site, h'.run.trans h.run, h'.status.trans h.status,
    h'.epoch.trans h.epoch, fun hflag => h'.flag (h.flag hflag)⟩

theorem getRunState_still (runId siteId : Uuid) : (getRunState runId siteId).Still :=
  .bind (Relvar.still_selectOne ..) fun _ => .pure _

theorem jobEpoch_still (runId siteId : Uuid) : (jobEpoch runId siteId).Still :=
  .bind (Relvar.still_selectOne ..) fun _ => .pure _

theorem loadSnapshot_still (runId siteId : Uuid) : (loadSnapshot runId siteId).Still := by
  refine .bind (Relvar.still_selectOne ..) fun run => ?_
  cases run with
  | none => exact .pure _
  | some run => exact .bind (Relvar.still_selectOne ..) fun _ => .pure _

theorem actorForRun_still (runId siteId : Uuid) : (actorForRun runId siteId).Still := by
  refine .bind (Relvar.still_selectOne ..) fun job => ?_
  cases job with
  | some job => exact .pure _
  | none =>
    refine .bind (.read _) fun events => ?_
    cases events.head? with
    | some event => exact .pure _
    | none => exact .throw _

theorem raiseTransitionFailure_raises {α : Type} (R : Db → Db → Prop) (runId siteId : Uuid)
    (fencingEpoch : Int) (expected : String) (target : ScheduleRunStatus) :
    (raiseTransitionFailure runId siteId fencingEpoch expected target : DbTx α).Leads R := by
  refine ⟨fun {db a db'} h => ?_⟩
  obtain ⟨_, _, _, h⟩ := Tx.bind_ok.mp h
  rw [Tx.run_ite] at h
  split at h
  · exact absurd h Tx.throw_ok
  · obtain ⟨_, _, _, h⟩ := Tx.bind_ok.mp h
    rw [Tx.run_ite] at h
    split at h
    · exact absurd h Tx.throw_ok
    · exact absurd h Tx.throw_ok

theorem raiseTransitionFailure_still {α : Type} (runId siteId : Uuid) (fencingEpoch : Int)
    (expected : String) (target : ScheduleRunStatus) :
    (raiseTransitionFailure runId siteId fencingEpoch expected target : DbTx α).Still :=
  .bind (jobEpoch_still ..) fun _ =>
    .ite (.throw _) (.bind (getRunState_still ..) fun _ => .ite (.throw _) (.throw _))

theorem references_still (constraint : String) (present : Db → Bool) :
    (references constraint present).Still :=
  .bind (.read _) fun _ => .ite (.pure _) (.throw _)

/-! ## Regimes

A regime is a relation on states that every transaction of the workflow follows. -/

/-- The statuses a cancellation moves a run to. -/
def ScheduleRunStatus.cancels : ScheduleRunStatus → Bool
  | .cancellationRequested | .solverCancelled => true
  | _ => false

/-- The statements that keep every job where it stands lead through `Q`. -/
structure JobRepository (Q : Db → Db → Prop) : Prop where
  touchJobs : ∀ (violation : PyError) (sel : JobLeaseV1 → Bool) {set : JobLeaseV1 → JobLeaseV1},
    (∀ job, Touched job (set job)) → (Db.jobs.updateWhere violation sel set).Leads Q

/-- The statements that move no run and close no job lead through `Q`. -/
structure QuietRepository (Q : Db → Db → Prop) : Prop extends JobRepository Q where
  insertReceipt : ∀ (violation : PyError) (receipt : CommandIdempotencyRow),
    (Db.commandReceipts.insertInto violation receipt).Leads Q

/-- What is watched of a transaction that moves at most one run and stores no receipt: `Q` of its
statements on jobs, `E` of the whole. -/
structure JobWatch (Q E : Db → Db → Prop) : Prop extends Tx.Around Q E, JobRepository Q

/-- What is watched of a transaction that moves at most one run: `Q` of its quiet statements, `E`
of the whole. -/
structure RunWatch (Q E : Db → Db → Prop) : Prop extends JobWatch Q E, QuietRepository Q

/-- Opening a run leads through `E`, and queueing its job through `Q`. -/
structure PlannerRegime (Q E : Db → Db → Prop) : Prop extends RunWatch Q E where
  insertJob : ∀ (violation : PyError) (job : JobLeaseV1), job.status = .queued →
    (Db.jobs.insertInto violation job).Leads Q
  createQueuedRun : ∀ (env : Ambient) (snapshot : RunSnapshotV1) (siteId actorId : Uuid),
    (createQueuedRun env snapshot siteId actorId).Leads E

/-- The transition of a cancellation leads through `E`. -/
structure CancelRegime (Q E : Db → Db → Prop) : Prop extends RunWatch Q E where
  cancelTransition : ∀ (env : Ambient) (runId siteId actorId : Uuid)
    (expectedResourceVersion : Int) {expectedStatus status : ScheduleRunStatus} (reason : String)
    (terminal : Bool), Edge expectedStatus status → status.cancels = true →
    (cancelTransition env runId siteId actorId expectedResourceVersion expectedStatus status reason
      terminal).Leads E

/-- A worker's moves of a run lead through `E`, completions apart. -/
structure WorkerRegime (Q E : Db → Db → Prop) : Prop extends JobWatch Q E where
  closeJob : ∀ (env : Ambient) (closed : JobStatus) (jobId siteId : Uuid) (fencingEpoch : Int),
    (closeJob env closed jobId siteId fencingEpoch).Leads Q
  markRunning : ∀ (env : Ambient) (runId siteId : Uuid) (fencingEpoch : Int)
    (requestId : Option Uuid), (markRunning env runId siteId fencingEpoch requestId).Leads E
  finalizeRun : ∀ (env : Ambient) (runId siteId : Uuid) (fencingEpoch : Int)
    (status : ScheduleRunStatus) (reason : Option String) (finishedAt : Option Instant)
    (requestId : Option Uuid), status ≠ .solverCompleted →
    (finalizeRun env runId siteId fencingEpoch status reason none finishedAt requestId).Leads E

/-- A worker's moves of a run lead through `E`, with any well-formed candidate. -/
structure SolverRegime (Q E : Db → Db → Prop) : Prop extends WorkerRegime Q E where
  finalizeCandidate : ∀ (env : Ambient) (runId siteId : Uuid) (fencingEpoch : Int)
    (status : ScheduleRunStatus) (reason : Option String) (candidate : Option ScheduleVersionV1)
    (finishedAt : Option Instant) (requestId : Option Uuid),
    (status = .solverCompleted → candidate.isSome = true) →
    (ScheduleRunRepository.finalizeRun env runId siteId fencingEpoch status reason candidate
      finishedAt requestId).Leads E

/-- The guarded updates of a run lead through `E`, completions apart. -/
structure RunRegime (Q E : Db → Db → Prop) : Prop extends CancelRegime Q E, WorkerRegime Q E

/-- The guarded updates of a run lead through `E`, with any well-formed candidate. -/
structure SolveRegime (Q E : Db → Db → Prop) : Prop extends RunRegime Q E, SolverRegime Q E

section Regime

variable {Q E : Db → Db → Prop}

/-! ## Quiet operations of the repository -/

theorem RunWatch.storeIdempotentResult (hr : RunWatch Q E) (siteId actorId : Uuid)
    (operation idempotencyKey bodyHash : String) (payload : ResponsePayload) :
    (storeIdempotentResult siteId actorId operation idempotencyKey bodyHash payload).Leads Q := by
  refine hr.andThen (hr.still (Relvar.still_selectOne ..)) fun stored => ?_
  cases stored with
  | some _ => exact hr.still (.pure _)
  | none => exact hr.insertReceipt _ _

theorem JobWatch.claimEpoch (hr : JobWatch Q E) (env : Ambient) (runId siteId : Uuid)
    (fencingEpoch : Int) : (claimEpoch env runId siteId fencingEpoch).Leads Q := by
  refine hr.andThen (hr.touchJobs _ _ fun _ => ⟨rfl, rfl, rfl, rfl, rfl, id⟩) fun touched => ?_
  refine .ite (fun _ => hr.still (.pure _)) fun _ => ?_
  exact hr.andThen (hr.still (jobEpoch_still ..)) fun _ => .throw _

theorem RunWatch.setJobCancellationRequested (hr : RunWatch Q E) (runId siteId : Uuid) :
    (setJobCancellationRequested runId siteId).Leads Q :=
  hr.andThen (hr.touchJobs _ _ fun _ => ⟨rfl, rfl, rfl, rfl, rfl, fun _ => rfl⟩) fun _ =>
    hr.still (.pure _)

theorem WorkerRegime.completeJob (hr : WorkerRegime Q E) (env : Ambient) (jobId siteId : Uuid)
    (fencingEpoch : Int) : (completeJob env jobId siteId fencingEpoch).Leads Q :=
  hr.closeJob ..

theorem WorkerRegime.failJob (hr : WorkerRegime Q E) (env : Ambient) (jobId siteId : Uuid)
    (fencingEpoch : Int) : (failJob env jobId siteId fencingEpoch).Leads Q :=
  hr.closeJob ..

theorem JobWatch.renewJobLease (hr : JobWatch Q E) (env : Ambient) (jobId siteId : Uuid)
    (fencingEpoch extensionSeconds : Int) :
    (renewJobLease env jobId siteId fencingEpoch extensionSeconds).Leads Q := by
  refine .ite (fun _ => .throw _) fun _ => ?_
  refine hr.andThen (hr.touchJobs _ _ fun _ => ⟨rfl, rfl, rfl, rfl, rfl, id⟩) fun rows => ?_
  cases rows with
  | nil => exact hr.still (.pure _)
  | cons job rest => exact hr.still (.pure _)

theorem PlannerRegime.enqueueJob (hr : PlannerRegime Q E) {job : JobLeaseV1}
    (hqueued : job.status = .queued) (siteId : Uuid) : (enqueueJob job siteId).Leads Q := by
  refine .ite (fun _ => .throw _) fun _ => ?_
  exact hr.andThen (hr.still (references_still ..)) fun _ => hr.insertJob _ _ hqueued

/-! ## The worker's transactions -/

theorem WorkerRegime.finishCancelled (hr : WorkerRegime Q E) (env : Ambient) (lease : JobLeaseV1) :
    (finishCancelled env lease).Leads E :=
  hr.thenQuiet (hr.finalizeRun _ _ _ _ _ _ _ _ (by simp)) fun _ => hr.completeJob ..

/-- The exception `checkpointA` catches. -/
def isTransitionConflict (e : PyError) : Prop := ∃ message, e = .runTransitionConflict message

/-- The fence raises no transition conflict. -/
theorem claimEpoch_noConflict (env : Ambient) (runId siteId : Uuid) (fencingEpoch : Int)
    {R : Db → Db → Prop} :
    (claimEpoch env runId siteId fencingEpoch).Fails isTransitionConflict R := by
  refine .never (.seq (R := fun _ _ => True) (S := fun _ _ => False) (fun _ _ _ _ h => h)
    (Relvar.updateWhere_fails (by rintro ⟨_, h⟩; cases h)) ⟨fun _ => trivial⟩ fun touched => ?_)
  refine .ite (fun _ => ⟨fun h => by cases h⟩) fun _ => ?_
  refine .seq (R := fun _ _ => True) (S := fun _ _ => False) (fun _ _ _ _ h => h)
    ⟨fun h => ?_⟩ ⟨fun _ => trivial⟩ fun current => .throw_of_not (by rintro ⟨_, h⟩; cases h)
  rcases Tx.bind_error.mp h with h | ⟨_, _, _, h⟩ <;> cases h

/-- **A lost `mark_running` leaves only the heartbeat behind**: the update matched no row, and the
classification of the failure only reads. -/
theorem JobWatch.markRunning_conflict (hr : JobWatch Q E) (env : Ambient)
    (runId siteId : Uuid) (fencingEpoch : Int) (requestId : Option Uuid) :
    (ScheduleRunRepository.markRunning env runId siteId fencingEpoch requestId).Fails
      isTransitionConflict Q := by
  refine .bind hr.trans (claimEpoch_noConflict ..) (hr.claimEpoch ..) fun _ => ?_
  refine ⟨fun {db e db'} h hconflict => ?_⟩
  rw [Tx.run_read_bind] at h
  rcases Tx.bind_error.mp h with hupdate | ⟨rows, db₁, hupdate, h⟩
  · exact (Relvar.updateWhere_fails (by rintro ⟨_, h⟩; cases h)).failed hupdate hconflict
  · cases rows with
    | nil =>
      rw [(raiseTransitionFailure_still _ _ _ _ _).eq_of_run h, Relvar.updateWhere_nil hupdate]
      exact hr.refl db
    | cons row rest =>
      -- a row matched: what is left raises no transition conflict
      obtain ⟨message, rfl⟩ := hconflict
      rcases Tx.bind_error.mp h with hactor | ⟨actorId, db₂, _, h⟩
      · rcases Tx.bind_error.mp hactor with hselect | ⟨job, db₃, _, h⟩
        · cases hselect
        · cases job with
          | some job => cases h
          | none =>
            rw [Tx.run_read_bind] at h
            revert h
            split <;> intro h <;> cases h
      · rw [writeProgressEvent, Tx.run_read_bind] at h
        cases (Relvar.insertInto_error.mp h).2.1

theorem WorkerRegime.checkpointA (hr : WorkerRegime Q E) (env : Ambient) (lease : JobLeaseV1)
    (snapshot : RunSnapshotV1) (attempts : Nat) (observed : Option ScheduleRunStateV1) :
    (checkpointA env lease snapshot attempts observed).Leads E := by
  have hstill : ∀ {α : Type} (a : α), (pure a : DbTx α).Leads E :=
    fun a => hr.ofStill (.pure a)
  have hcomplete : ∀ status : ScheduleRunStatus,
      (do ScheduleRunRepository.completeJob env lease.jobId lease.siteId lease.fencingEpoch
          pure (.finished status) : DbTx AfterTransactionA).Leads E := fun status =>
    hr.ofQuiet (hr.andThen (hr.completeJob ..) fun _ => hr.still (.pure _))
  -- a lost race is still a quiet run, so the next round starts from the same state
  induction attempts generalizing observed with
  | zero => exact hstill _
  | succ attempts ih =>
    cases observed with
    | none => exact .throw _
    | some state =>
      unfold ShiftMind.checkpointA
      cases hstatus : state.status with
      | solverQueued =>
        refine .tryCatch (P := isTransitionConflict) (S := Q) hr.after
          (hr.thenQuiet (hr.markRunning ..) fun _ => hr.still (.pure _))
          (.bind_never (hr.markRunning_conflict ..) fun _ => ⟨fun h => by cases h⟩) ?_ ?_
        · rintro e ⟨message, rfl⟩
          refine .ite (fun _ => .throw _) fun _ => ?_
          exact hr.afterQuiet (hr.still (getRunState_still ..)) fun state => ih state
        · intro e he
          cases e with
          | runTransitionConflict message => exact absurd ⟨message, rfl⟩ he
          | _ => rfl
      | solverRunning => exact hstill _
      | cancellationRequested =>
        exact hr.thenQuiet (hr.finishCancelled ..) fun _ => hr.still (.pure _)
      | solverCompleted => exact hcomplete _
      | solverInfeasible => exact hcomplete _
      | solverTimedOut => exact hcomplete _
      | solverCancelled => exact hcomplete _
      | solverFailed => exact hcomplete _

theorem WorkerRegime.transactionAFrom (hr : WorkerRegime Q E) (env : Ambient) (lease : JobLeaseV1)
    (observed : Option ScheduleRunStateV1) :
    (transactionAFrom env lease observed).Leads E := by
  refine hr.afterQuiet (hr.still (loadSnapshot_still ..)) fun snapshot => ?_
  cases snapshot with
  | none => exact .throw _
  | some snapshot => exact hr.checkpointA ..

theorem SolverRegime.finalizeScheduleRun (hr : SolverRegime Q E) (env : Ambient)
    (fencingEpoch : Int)
    (requestId : Option Uuid) (snapshot : RunSnapshotV1) (outcome : SolverOutcomeV1)
    (siteId : Uuid) :
    (finalizeScheduleRun env fencingEpoch requestId snapshot outcome siteId).Leads E := by
  refine ⟨fun {db f db'} h => ?_⟩
  obtain ⟨f, db₁, hlift, h⟩ := Tx.bind_ok.mp h
  rw [Tx.run_lift] at hlift
  cases hlift' : finalized env snapshot outcome with
  | error e => rw [hlift'] at hlift; cases hlift
  | ok g =>
    rw [hlift'] at hlift
    cases hlift
    have hformed := finalized_wellFormed hlift'
    exact (hr.thenQuiet (hr.finalizeCandidate _ _ _ _ _ _ _ _ _ hformed.candidate.mpr)
      fun _ => hr.still (.pure _)).led h

/-- Transaction B without a solve. -/
theorem WorkerRegime.transactionBFrom (hr : WorkerRegime Q E) (env : Ambient) (lease : JobLeaseV1)
    (snapshot : RunSnapshotV1) (leaseSeconds : Int) (solve : Solve)
    {observed : Option ScheduleRunStateV1}
    (hobserved : ∀ state, observed = some state → state.status ≠ .solverRunning) :
    (transactionBFrom env lease snapshot leaseSeconds solve observed).Leads E := by
  have hcomplete : ∀ status : ScheduleRunStatus,
      (do ScheduleRunRepository.completeJob env lease.jobId lease.siteId lease.fencingEpoch
          pure status : DbTx ScheduleRunStatus).Leads E := fun status =>
    hr.ofQuiet (hr.andThen (hr.completeJob ..) fun _ => hr.still (.pure _))
  cases observed with
  | none => exact .throw _
  | some state =>
    obtain ⟨status, resourceVersion⟩ := state
    cases status with
    | cancellationRequested =>
      exact hr.thenQuiet (hr.finishCancelled ..) fun _ => hr.still (.pure _)
    | solverRunning => exact absurd rfl (hobserved _ rfl)
    | solverQueued => exact hcomplete _
    | solverCompleted => exact hcomplete _
    | solverInfeasible => exact hcomplete _
    | solverTimedOut => exact hcomplete _
    | solverCancelled => exact hcomplete _
    | solverFailed => exact hcomplete _

theorem SolverRegime.transactionBFrom (hr : SolverRegime Q E) (env : Ambient) (lease : JobLeaseV1)
    (snapshot : RunSnapshotV1) (leaseSeconds : Int) (solve : Solve)
    (observed : Option ScheduleRunStateV1) :
    (transactionBFrom env lease snapshot leaseSeconds solve observed).Leads E := by
  by_cases hrunning : ∃ state, observed = some state ∧ state.status = .solverRunning
  · obtain ⟨⟨status, resourceVersion⟩, rfl, rfl⟩ := hrunning
    refine hr.thenQuiet (.ite (fun _ => .throw _) fun _ => hr.finalizeScheduleRun ..) fun f => ?_
    exact hr.andThen (hr.completeJob ..) fun _ => hr.still (.pure _)
  · exact hr.toWorkerRegime.transactionBFrom _ _ _ _ _ fun state hstate hstatus =>
      hrunning ⟨state, hstate, hstatus⟩

theorem WorkerRegime.recordFatalFailureFrom (hr : WorkerRegime Q E) (env : Ambient)
    (lease : JobLeaseV1)
    (cause : PyError) (observed : Option ScheduleRunStateV1) :
    (recordFatalFailureFrom env lease cause observed).Leads E := by
  -- whatever was raised, the handler raises again
  refine .tryCatch (P := fun _ => True) (S := fun _ _ => True) (T := fun _ _ => False)
    (fun _ _ _ _ h => h.elim) ?_ ⟨fun _ _ => trivial⟩ (fun _ _ => .throw _)
    fun _ h => absurd trivial h
  cases observed with
  | none => exact .throw _
  | some state =>
    refine .ite (fun _ => ?_) fun _ => ?_
    · exact hr.ofQuiet (hr.andThen (hr.failJob ..) fun _ => hr.still (.pure _))
    · refine hr.thenQuiet (hr.finalizeRun _ _ _ _ _ _ _ _ ?_) fun _ =>
        hr.andThen (hr.failJob ..) fun _ => hr.still (.pure _)
      intro h
      unfold fatalTerminal at h
      split at h <;> cases h

/-! ## The planner's transactions -/

theorem getCurrent_still (proposalId : Uuid) :
    (ProposalRepository.getCurrent proposalId).Still := by
  refine .bind (Relvar.still_selectOne ..) fun row => ?_
  cases row with
  | none => exact .pure _
  | some row =>
    refine .bind (.read _) fun version => ?_
    cases version with
    | none => exact .throw _
    | some version => exact .pure _

theorem PlannerRegime.createCompute (hr : PlannerRegime Q E) (env : Ambient)
    (catalogue : ScenarioCatalogue)
    (cmd : EnqueueCommand) : (createCompute env catalogue cmd).Leads E := by
  refine hr.thenQuiet ?_ fun snapshot => ?_
  · refine hr.afterQuiet (hr.still (getCurrent_still _)) fun record => ?_
    cases record with
    | none => exact .throw _
    | some record =>
      refine hr.afterQuiet (hr.still (.lift _)) fun frozen => ?_
      exact hr.thenQuiet (hr.createQueuedRun ..) fun _ => hr.still (.pure _)
  · refine hr.andThen (hr.enqueueJob rfl _) fun _ => ?_
    exact hr.andThen (hr.storeIdempotentResult ..) fun _ => hr.still (.pure _)

theorem PlannerRegime.enqueueCompute (hr : PlannerRegime Q E) (env : Ambient)
    (catalogue : ScenarioCatalogue)
    (cmd : EnqueueCommand) : (enqueueCompute env catalogue cmd).Leads E := by
  have hstill : ∀ {α : Type} {x : DbTx α}, x.Still → x.Leads E :=
    fun hx => hr.ofStill hx
  refine hr.afterQuiet (hr.still (getCurrent_still _)) fun record => ?_
  cases record with
  | none => exact .throw _
  | some record =>
    refine .ite (fun _ => .throw _) fun _ => ?_
    refine hr.afterQuiet (hr.still (Relvar.still_selectOne ..)) fun stored => ?_
    cases stored with
    | some stored => exact hstill (.lift _)
    | none =>
      refine hr.afterQuiet (hr.still (.lift _)) fun _ => ?_
      refine hr.afterQuiet (hr.still (.read _)) fun active => ?_
      exact .ite (fun _ => .throw _) fun _ => hr.createCompute ..

theorem resolveLostRace_still (env : Ambient) (cmd : CancelCommand) (message : String) :
    (resolveLostRace env cmd message).Still := by
  refine .bind (Relvar.still_selectOne ..) fun replayed => ?_
  cases replayed with
  | some stored => exact .bind (.lift _) fun _ => .pure _
  | none =>
    refine .bind (getRunState_still ..) fun current => ?_
    cases current with
    | none => exact .pure _
    | some current =>
      simp only
      split
      · exact .throw _
      · exact .throw _

theorem jobFlag_still (runId siteId : Uuid) : (getJobCancellationRequested runId siteId).Still :=
  .bind (Relvar.still_selectOne ..) fun _ => .pure _

theorem RunWatch.storeCancellation (hr : RunWatch Q E) (env : Ambient) (cmd : CancelCommand)
    (result : ScheduleRunCancellationV1) : (storeCancellation env cmd result).Leads Q := by
  refine hr.andThen (hr.still (jobFlag_still ..)) fun flag => ?_
  exact hr.andThen (hr.storeIdempotentResult ..) fun _ => hr.still (.pure _)

theorem CancelRegime.cancelStatement (hr : CancelRegime Q E) (env : Ambient) (cmd : CancelCommand)
    (state : ScheduleRunStateV1) : (cancelStatement env cmd state).Leads E := by
  have hpure : ∀ {α : Type} (a : α), (pure a : DbTx α).Leads E :=
    fun a => hr.ofStill (.pure a)
  unfold ShiftMind.cancelStatement
  cases state.status with
  | solverQueued =>
    exact hr.thenQuiet (hr.cancelTransition _ _ _ _ _ _ _ (by decide) (by decide))
      fun _ => hr.still (.pure _)
  | solverRunning =>
    exact hr.thenQuiet (hr.cancelTransition _ _ _ _ _ _ _ (by decide) (by decide))
      fun _ => hr.still (.pure _)
  | cancellationRequested => exact hpure _
  | solverCompleted => exact hpure _
  | solverInfeasible => exact hpure _
  | solverTimedOut => exact hpure _
  | solverCancelled => exact hpure _
  | solverFailed => exact hpure _

/-- The exception the cancel command catches. -/
def isRaceLost (e : PyError) : Prop := ∃ message, e = .repositoryRunNotCancellable message

/-- The run stands at a status and a resource version. -/
def Db.RunStands (db : Db) (runId siteId : Uuid) (status : ScheduleRunStatus)
    (resourceVersion : Int) : Prop :=
  ∃ row ∈ db.scheduleRun, isRun runId siteId row = true ∧ row.status = status ∧
    row.resourceVersion = resourceVersion

/-- **How a cancellation's transition fails**: a constraint refuses it, or it lost its race, found
no row to move and wrote nothing. -/
theorem cancelTransition_error {env : Ambient} {runId siteId actorId : Uuid}
    {expectedResourceVersion : Int} {expectedStatus status : ScheduleRunStatus} {reason : String}
    {terminal : Bool} {db db' : Db} {e : PyError}
    (h : (cancelTransition env runId siteId actorId expectedResourceVersion expectedStatus status
      reason terminal).run db = (.error e, db')) :
    (∃ constraint, e = .integrityError constraint) ∨
      (isRaceLost e ∧ db' = db ∧
        ¬ db.RunStands runId siteId expectedStatus expectedResourceVersion) := by
  rcases Tx.bind_error.mp h with hupdate | ⟨rows, db₁, hupdate, h⟩
  · exact .inl ⟨_, (Relvar.updateWhere_error.mp hupdate).2.1⟩
  · cases rows with
    | nil =>
      obtain ⟨t, -, -, hrows⟩ := Relvar.updateWhere_ok.mp hupdate
      have hnone := List.filter_eq_nil_iff.mp (List.map_eq_nil_iff.mp hrows.symm)
      refine .inr ⟨by cases h; exact ⟨_, rfl⟩, ?_, ?_⟩
      · rw [(Tx.Still.throw _).eq_of_run h, Relvar.updateWhere_nil hupdate]
      · rintro ⟨row, hrow, hrun, hstatus, hversion⟩
        exact hnone row hrow (by simp [hrun, hstatus, hversion])
    | cons row rest =>
      have h : (writeProgressEvent env runId siteId actorId status (some reason)
        row.resourceVersion (env.uuid4 0)).run db₁ = (.error e, db') := h
      rw [writeProgressEvent, Tx.run_read_bind] at h
      exact .inl ⟨_, (Relvar.insertInto_error.mp h).2.1⟩

/-- How the transition of a cancel command fails. -/
theorem cancelStatement_error {env : Ambient} {cmd : CancelCommand} {state : ScheduleRunStateV1}
    {db db' : Db} {e : PyError} (h : (cancelStatement env cmd state).run db = (.error e, db')) :
    (∃ constraint, e = .integrityError constraint) ∨
      (isRaceLost e ∧ db' = db ∧ cancelWrites state.status = true ∧
        ¬ db.RunStands cmd.runId cmd.siteId state.status cmd.expectedResourceVersion) := by
  obtain ⟨status, resourceVersion⟩ := state
  cases status with
  | solverQueued =>
    rcases Tx.bind_error.mp h with h | ⟨_, _, -, h⟩
    · exact (cancelTransition_error h).imp_right fun hlost => ⟨hlost.1, hlost.2.1, rfl, hlost.2.2⟩
    · cases h
  | solverRunning =>
    rcases Tx.bind_error.mp h with h | ⟨_, _, -, h⟩
    · exact (cancelTransition_error h).imp_right fun hlost => ⟨hlost.1, hlost.2.1, rfl, hlost.2.2⟩
    · cases h
  | cancellationRequested => cases h
  | solverCompleted => cases h
  | solverInfeasible => cases h
  | solverTimedOut => cases h
  | solverCancelled => cases h
  | solverFailed => cases h

/-- A lost race leaves the session as it found it. -/
theorem CancelRegime.cancelStatement_fails (hr : CancelRegime Q E) (env : Ambient)
    (cmd : CancelCommand)
    (state : ScheduleRunStateV1) {P : PyError → Prop}
    (hP : ∀ constraint, ¬ P (.integrityError constraint)) :
    (ShiftMind.cancelStatement env cmd state).Fails P Q := by
  refine ⟨fun {db e db'} h hkind => ?_⟩
  rcases cancelStatement_error h with ⟨constraint, rfl⟩ | ⟨-, rfl, -⟩
  · exact absurd hkind (hP constraint)
  · exact hr.refl _

/-- The flag, or no write at all. -/
theorem RunWatch.raiseFlag (hr : RunWatch Q E) (cmd : CancelCommand) (status : ScheduleRunStatus) :
    (raiseFlag cmd status).Leads Q :=
  .ite (fun _ => hr.setJobCancellationRequested ..) fun _ => hr.still (.pure _)

/-- The attempt to move the run, with a lost race caught. -/
theorem CancelRegime.attemptCancel (hr : CancelRegime Q E) (env : Ambient) (cmd : CancelCommand)
    (state : ScheduleRunStateV1) : (attemptCancel env cmd state).Leads E := by
  refine .tryCatch (P := isRaceLost) (S := Q) (T := Q)
    (fun _ _ _ h h' => hr.effect _ _ (hr.trans _ _ _ h h')) ?_ ?_ ?_ ?_
  · exact hr.thenQuiet (hr.cancelStatement ..) fun _ => hr.still (.pure _)
  · exact .bind_never (hr.cancelStatement_fails _ _ _ (by rintro _ ⟨_, h⟩; cases h))
      fun _ => ⟨fun h => by cases h⟩
  · rintro e ⟨message, rfl⟩
    exact hr.still (.pure _)
  · intro e he
    cases e with
    | repositoryRunNotCancellable message => exact absurd ⟨message, rfl⟩ he
    | _ => rfl

/-- **Whatever a cancellation's write phase returns, it made at most one effect.** -/
theorem CancelRegime.cancelWrite (hr : CancelRegime Q E) (env : Ambient) (cmd : CancelCommand)
    (state : ScheduleRunStateV1) : (cancelWrite env cmd state).Leads E := by
  refine hr.afterQuiet (hr.raiseFlag ..) fun _ => ?_
  refine hr.thenQuiet (hr.attemptCancel ..) fun attempted => ?_
  cases attempted with
  | some result => exact hr.storeCancellation ..
  | none => exact hr.still (resolveLostRace_still ..)

/-- A domain error leaves the write phase with the flag raised and at most one effect made. -/
theorem CancelRegime.cancelWrite_fails (hr : CancelRegime Q E) (env : Ambient) (cmd : CancelCommand)
    (state : ScheduleRunStateV1) :
    (ShiftMind.cancelWrite env cmd state).Fails (fun e => cancelScheduleRunError e = true) E := by
  -- a constraint that breaks is no domain error
  have hintegrity : ∀ constraint, ¬ cancelScheduleRunError (.integrityError constraint) = true :=
    fun _ => Bool.false_ne_true
  refine .seq hr.after ?_ (hr.raiseFlag ..) fun _ => ?_
  · refine .ite (fun _ => ?_) fun _ => ⟨fun h => by cases h⟩
    exact .bind_never (Relvar.updateWhere_fails (hintegrity _)) fun _ => ⟨fun h => by cases h⟩
  · refine .seq hr.before ?_ (hr.attemptCancel ..) fun attempted => ?_
    · refine .tryCatch ?_ fun e => ?_
      · refine .bind_never ?_ fun _ => ⟨fun h => by cases h⟩
        have hstatement := hr.cancelStatement_fails env cmd state
          (P := fun e => cancelScheduleRunError e = true) hintegrity
        exact ⟨fun h hkind => hr.effect _ _ (hstatement.failed h hkind)⟩
      · cases e with
        | repositoryRunNotCancellable message => exact .inr ⟨fun h => by cases h⟩
        | _ => exact .inl rfl
    · cases attempted with
      | none => exact .of_still hr.refl (resolveLostRace_still ..)
      | some result =>
        refine .bind hr.trans (.of_still hr.refl (jobFlag_still ..))
          (hr.still (jobFlag_still ..)) fun flag => ?_
        refine .bind_never ?_ fun _ => ⟨fun h => by cases h⟩
        refine .bind hr.trans (.of_still hr.refl (Relvar.still_selectOne ..))
          (hr.still (Relvar.still_selectOne ..)) fun stored => ?_
        cases stored with
        | some _ => exact .of_still hr.refl (.pure _)
        | none => exact Relvar.insertInto_fails (hintegrity _)

/-- **What the cancel endpoint commits is at most one effect**, also when it answers with a
problem: the route turns a domain error into a response, and the session commits behind it. -/
theorem CancelRegime.cancelRequest (hr : CancelRegime Q E)
    {body : DbTx (Option ScheduleRunCancellationV1)}
    (hbody : body.Leads E)
    (hfail : body.Fails (fun e => cancelScheduleRunError e = true) E) (db : Db) :
    E db (ShiftMind.cancelRequest body db).2 := by
  have hroute : (cancelRoute body).Leads E := by
    refine .tryCatch (P := fun e => cancelScheduleRunError e = true) (S := E) (T := Q)
      hr.before ?_ ?_ ?_ ?_
    · exact hr.thenQuiet hbody fun _ => hr.still (.pure _)
    · exact .bind_never hfail fun _ => ⟨fun h => by cases h⟩
    · intro e he
      rw [if_pos he]
      exact hr.still (.pure _)
    · intro e he
      rw [if_neg he]
  have hcommit := hroute.commit hr.effect_refl db
  unfold ShiftMind.cancelRequest
  cases hrun : (cancelRoute body).commit db with
  | mk r db' =>
    rw [hrun] at hcommit
    cases r with
    | ok response => exact hcommit
    | error e => exact hcommit

end Regime

end ShiftMind
