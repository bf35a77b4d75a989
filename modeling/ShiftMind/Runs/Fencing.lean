import ShiftMind.Runs.Safety

/-!
# ShiftMind — a superseded lease writes nothing

Once `lease_next_job` has handed a job out again, the worker that held it before may be suspended
anywhere: before Transaction A, between the two transactions, inside either, in the failure path
or in its heartbeat. All its transactions go through statements guarded by the epoch it holds, and
the job's epoch only grows, so none of them selects a row again.

* **`Fenced`** — no job stands at the epoch a lease holds: what every guard of the lease sees.
* **`claimEpoch_fenced`** — the fence of the run's transitions raises before they write.
* **`lease_fencing`** — over whole runs, from the moment a lease is superseded.
-/

namespace ShiftMind

open Relational Transactional Transition ScheduleRunRepository

/-- The job of a lease has been leased again, at a higher fencing epoch. -/
def Superseded (db : Db) (lease : JobLeaseV1) : Prop :=
  ∃ job ∈ db.jobQueue, job.jobId = lease.jobId ∧ lease.fencingEpoch < job.fencingEpoch

theorem Superseded.of_jobsKept {db db' : Db} {lease : JobLeaseV1} (h : Superseded db lease)
    (hkept : JobsKept db db') : Superseded db' lease := by
  obtain ⟨job, hjob, hid, hepoch⟩ := h
  obtain ⟨job', hjob', hsame⟩ := hkept job hjob
  exact ⟨job', hjob', hsame.jobId.trans hid, hepoch.trans_le hsame.epoch⟩

/-- No job stands at the epoch the lease holds, under either of the keys its guards use. -/
structure Fenced (db : Db) (lease : JobLeaseV1) : Prop where
  ofRun : ∀ job ∈ db.jobQueue,
    leasedAtEpoch lease.scheduleRunId lease.siteId lease.fencingEpoch job = false
  ofJob : ∀ job ∈ db.jobQueue, job.jobId = lease.jobId → job.fencingEpoch ≠ lease.fencingEpoch

/-- A superseded lease is fenced off: its job is the one row of its run and of its id. -/
theorem Superseded.fenced {db : Db} {lease : JobLeaseV1} (h : Superseded db lease)
    (hleased : ∃ job ∈ db.jobQueue, SameJob lease job) : Fenced db lease := by
  obtain ⟨job, hjob, hid, hepoch⟩ := h
  obtain ⟨own, hown, hsame⟩ := hleased
  have hone : own = job := Table.eq_of_clash hown hjob (by simp [clash, hsame.jobId, hid])
  subst hone
  refine ⟨fun other hother => ?_, fun other hother hother' hat => ?_⟩
  · by_contra hguard
    simp only [leasedAtEpoch, isJobOf, Bool.not_eq_false, Bool.and_eq_true,
      decide_eq_true_eq] at hguard
    have hrun : other = own := Table.eq_of_clash hother hjob
      (by simp [clash, hguard.1.1.1.1, hsame.run])
    rw [← hrun, hguard.1.2] at hepoch
    exact absurd hepoch (lt_irrefl _)
  · have hjob' : other = own := Table.eq_of_clash hother hjob (by simp [clash, hother', hid])
    rw [← hjob', hat] at hepoch
    exact absurd hepoch (lt_irrefl _)

/-! ## The guarded statements of a fenced lease -/

section Fenced

variable {db : Db} {lease : JobLeaseV1} (hfenced : Fenced db lease) (env : Ambient)

include hfenced

/-- **The fence.** `claimEpoch` raises a stale-lease error and leaves the session untouched. -/
theorem claimEpoch_fenced : ∃ message,
    (claimEpoch env lease.scheduleRunId lease.siteId lease.fencingEpoch).run db =
      (.error (.staleLease message), db) := by
  unfold claimEpoch
  rw [Tx.run_bind_of_ok (Relvar.updateWhere_none hfenced.ofRun)]
  exact ⟨_, rfl⟩

theorem markRunning_fenced (requestId : Option Uuid) : ∃ message,
    (markRunning env lease.scheduleRunId lease.siteId lease.fencingEpoch requestId).run db =
      (.error (.staleLease message), db) := by
  obtain ⟨message, hclaim⟩ := claimEpoch_fenced hfenced env
  exact ⟨message, Tx.run_bind_of_error hclaim⟩

theorem finalizeRun_fenced (status : ScheduleRunStatus) (reason : Option String)
    (candidate : Option ScheduleVersionV1) (finishedAt : Option Instant)
    (requestId : Option Uuid) :
    (finalizeRun env lease.scheduleRunId lease.siteId lease.fencingEpoch status reason candidate
      finishedAt requestId).StillAt db := by
  obtain ⟨message, hclaim⟩ := claimEpoch_fenced hfenced env
  exact .ite (fun _ => rfl) fun _ => .of_error hclaim

/-- `complete_job` and `fail_job` select no row, and what is left of them only reads. -/
theorem closeJob_fenced (closed : JobStatus) :
    (closeJob env closed lease.jobId lease.siteId lease.fencingEpoch).StillAt db := by
  refine .bind ?_ fun rows => ?_
  · rw [Tx.StillAt, Relvar.updateWhere_none]
    intro job hjob
    simpa using fun hid _ _ => hfenced.ofJob job hjob hid
  · refine .ite (fun _ => rfl) fun _ => ?_
    exact .bind rfl fun job => .ite (fun _ => rfl) fun _ => rfl

/-- A heartbeat of a fenced lease is refused without a write. -/
theorem renewJobLease_fenced (extensionSeconds : Int) :
    (renewJobLease env lease.jobId lease.siteId lease.fencingEpoch extensionSeconds).StillAt
      db := by
  refine .ite (fun _ => rfl) fun _ => .bind ?_ fun rows => ?_
  · rw [Tx.StillAt, Relvar.updateWhere_none]
    intro job hjob
    simpa using fun hid _ _ => hfenced.ofJob job hjob hid
  · cases rows <;> rfl

theorem finishCancelled_fenced : (finishCancelled env lease).StillAt db :=
  .bind (finalizeRun_fenced hfenced env ..) fun _ => closeJob_fenced hfenced env _

/-! ## The transactions of a fenced lease

Whichever statement of a fenced lease comes first, its guard finds no row, and nothing is written.
-/

theorem checkpointA_fenced (snapshot : RunSnapshotV1) (attempts : Nat)
    (observed : Option ScheduleRunStateV1) :
    (checkpointA env lease snapshot attempts observed).StillAt db := by
  have hcomplete : ∀ status : ScheduleRunStatus,
      (do completeJob env lease.jobId lease.siteId lease.fencingEpoch
          pure (.finished status) : DbTx AfterTransactionA).StillAt db := fun _ =>
    .bind (closeJob_fenced hfenced env _) fun _ => rfl
  cases attempts with
  | zero => rfl
  | succ attempts =>
    cases observed with
    | none => rfl
    | some state =>
      obtain ⟨status, resourceVersion⟩ := state
      cases status with
      | solverQueued =>
        -- the fence raises a stale lease, which the retry does not catch
        obtain ⟨message, hmark⟩ := markRunning_fenced hfenced env lease.attemptId
        have hattempt := Tx.run_bind_of_error
          (f := fun _ => (pure (.execute snapshot) : DbTx AfterTransactionA)) hmark
        refine .tryCatch (.of_error hmark) fun e he => ?_
        cases (Prod.mk.inj (hattempt.symm.trans he)).1
        rfl
      | solverRunning => rfl
      | cancellationRequested => exact .bind (finishCancelled_fenced hfenced env) fun _ => rfl
      | solverCompleted => exact hcomplete _
      | solverInfeasible => exact hcomplete _
      | solverTimedOut => exact hcomplete _
      | solverCancelled => exact hcomplete _
      | solverFailed => exact hcomplete _

theorem transactionAFrom_fenced (observed : Option ScheduleRunStateV1) :
    (transactionAFrom env lease observed).StillAt db := by
  refine .bind ((loadSnapshot_still ..).unchanged db) fun snapshot => ?_
  cases snapshot with
  | none => rfl
  | some snapshot => exact checkpointA_fenced hfenced env ..

/-- Transaction B finalises the run of its lease, so its fence is the lease's. -/
theorem transactionBFrom_fenced {snapshot : RunSnapshotV1}
    (hsnapshot : snapshot.scheduleRunId = lease.scheduleRunId) (leaseSeconds : Int) (solve : Solve)
    (observed : Option ScheduleRunStateV1) :
    (transactionBFrom env lease snapshot leaseSeconds solve observed).StillAt db := by
  have hcomplete : ∀ status : ScheduleRunStatus,
      (do completeJob env lease.jobId lease.siteId lease.fencingEpoch
          pure status : DbTx ScheduleRunStatus).StillAt db := fun _ =>
    .bind (closeJob_fenced hfenced env _) fun _ => rfl
  cases observed with
  | none => rfl
  | some state =>
    obtain ⟨status, resourceVersion⟩ := state
    cases status with
    | cancellationRequested => exact .bind (finishCancelled_fenced hfenced env) fun _ => rfl
    | solverRunning =>
      refine .bind (.ite (fun _ => rfl) fun _ => .bind rfl fun f => ?_) fun f => hcomplete _
      rw [hsnapshot]
      exact .bind (finalizeRun_fenced hfenced env ..) fun _ => rfl
    | solverQueued => exact hcomplete _
    | solverCompleted => exact hcomplete _
    | solverInfeasible => exact hcomplete _
    | solverTimedOut => exact hcomplete _
    | solverCancelled => exact hcomplete _
    | solverFailed => exact hcomplete _

theorem recordFatalFailureFrom_fenced (cause : PyError) (observed : Option ScheduleRunStateV1) :
    (recordFatalFailureFrom env lease cause observed).StillAt db := by
  refine .tryCatch ?_ fun _ _ => rfl
  cases observed with
  | none => rfl
  | some state =>
    refine .ite (fun _ => ?_) fun _ => ?_
    · exact .bind (closeJob_fenced hfenced env _) fun _ => rfl
    · refine .bind (finalizeRun_fenced hfenced env ..) fun _ => ?_
      exact .bind (closeJob_fenced hfenced env _) fun _ => rfl

/-- **Whatever a fenced worker issues leaves the session untouched.** -/
theorem WorkerCall.body_fenced {call : WorkerCall}
    (hsnapshot : ∀ snapshot leaseSeconds solve observed,
      call = .transactionB snapshot leaseSeconds solve observed →
        snapshot.scheduleRunId = lease.scheduleRunId) :
    (call.body env lease).StillAt db := by
  cases call with
  | transactionA observed => exact .bind (transactionAFrom_fenced hfenced env _) fun _ => rfl
  | transactionB snapshot leaseSeconds solve observed =>
    exact .bind (transactionBFrom_fenced hfenced env (hsnapshot _ _ _ _ rfl) ..) fun _ => rfl
  | recordFatalFailure cause observed =>
    exact .bind (recordFatalFailureFrom_fenced hfenced env ..) fun _ => rfl
  | renewJobLease extensionSeconds => exact .bind (renewJobLease_fenced hfenced env _) fun _ => rfl
  | markRunning requestId =>
    obtain ⟨message, hmark⟩ := markRunning_fenced hfenced env requestId
    exact .of_error hmark
  | finalizeRun f finishedAt requestId =>
    exact .bind (finalizeRun_fenced hfenced env ..) fun _ => rfl
  | completeJob => exact .bind (closeJob_fenced hfenced env _) fun _ => rfl
  | failJob => exact .bind (closeJob_fenced hfenced env _) fun _ => rfl

end Fenced

/-! ## Over whole runs -/

/-- A superseded lease stays superseded, and is never taken back. -/
theorem Superseded.run {s s' : Sys} {lease : JobLeaseV1} (hreach : Reachable runSystem s)
    (hrun : Run runSystem s s') (h : Superseded s.db lease) : Superseded s'.db lease := by
  refine hrun.preserves (P := fun s => Superseded s.db lease) ?_ hreach h
  rintro s s' - hs ⟨a, ha, rfl⟩
  exact hs.of_jobsKept (Sys.perform_effect ha).jobs

/-- **Lease fencing.** Once a job has been leased again at a higher epoch, then in every state the
system runs to, every transaction of a worker that still holds a smaller one leaves its session as
it found it, and the committed database exactly as before. -/
theorem lease_fencing {s s' : Sys} {lease : JobLeaseV1} (hreach : Reachable runSystem s)
    (hsuperseded : Superseded s.db lease) (hrun : Run runSystem s s') (env : Ambient)
    (call : WorkerCall) (henabled : (Action.worker env lease call).Enabled s') :
    (call.body env lease).StillAt s'.db ∧ (s'.perform (.worker env lease call)).db = s'.db := by
  have hinv := Sys.Inv.of_reachable (hreach.run hrun)
  have hfenced := (hsuperseded.run hreach hrun).fenced (hinv.leased lease henabled.1)
  have hstill : (call.body env lease).StillAt s'.db := by
    refine WorkerCall.body_fenced hfenced env ?_
    rintro snapshot leaseSeconds solve observed rfl
    exact (hinv.attempted _ henabled.2).2
  exact ⟨hstill, hstill.commit⟩

/-- At the depot, the first worker returns with its solution after its lease has lapsed and the
job was leased again. -/
theorem lease_fencing_depot :
    let superseded := runMachine.performAll Depot.site
      [Depot.enqueue, Depot.lease 2, Depot.transactionA 3 (Depot.leased 2 1), Depot.lease 70]
    let late := WorkerCall.transactionB Depot.snapshot 60 Depot.optimal (some ⟨.solverRunning, 2⟩)
    Depot.leased 70 2 ∈ superseded.leases ∧
      (late.body (Depot.env 71) (Depot.leased 2 1)).StillAt superseded.db ∧
      (superseded.perform (.worker (Depot.env 71) (Depot.leased 2 1) late)).db =
        superseded.db := by
  intro superseded late
  have hreach : Reachable runSystem superseded := Machine.reachable_of_schedule Depot.site_initial
    ⟨trivial, trivial, ⟨by decide +kernel, trivial⟩, trivial, trivial⟩
  have hsuperseded : Superseded superseded.db (Depot.leased 2 1) :=
    ⟨Depot.leased 70 2, by decide +kernel, rfl, by decide⟩
  exact ⟨by decide +kernel, lease_fencing hreach hsuperseded .refl (Depot.env 71) late
    ⟨by decide +kernel, by decide +kernel⟩⟩

end ShiftMind
