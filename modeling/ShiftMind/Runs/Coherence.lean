import ShiftMind.Runs.Closing
import ShiftMind.Runs.CancelRace

/-!
# ShiftMind — jobs and runs stay coherent

The worker's execution as the source runs it: an unlocked read, Transaction A; a second unlocked
read, Transaction B; or a read and the permanent failure. The reads are steps of their own, so any
other transaction may commit between a read and what is written on it, and an attempt may be
abandoned, and its job leased again, at any point.

* **`SecondRead`** — what Transaction B read of its run, and what had been committed by then.
* **`ExecSys`** — `Sys` with the reads in flight and the runs a cancellation has moved.
* **`ExecSys.Inv`** — among others, a completed run's job is closed at the epoch of the one
  execution that completed it, and that execution had read a running run.
* **`job_run_coherence`** — over whole runs.
-/

namespace ShiftMind

open Relational Transactional Transition ScheduleRunRepository

/-! ## The system -/

/-- What the second transaction of an attempt read. -/
structure SecondRead where
  lease : JobLeaseV1
  snapshot : RunSnapshotV1
  observed : Option ScheduleRunStateV1
  /-- a cancellation of the run had been committed -/
  cancelled : Bool
  /-- the job stood at the epoch of the lease -/
  current : Bool
  deriving DecidableEq

/-- The read found the run running, so the attempt goes on to solve. -/
def SecondRead.SawRunning (read : SecondRead) : Prop :=
  ∃ state, read.observed = some state ∧ state.status = .solverRunning

structure ExecSys where
  runs : Sys
  /-- reads of a run's state, as a worker made them under a lease -/
  seen : List (JobLeaseV1 × Option ScheduleRunStateV1) := []
  second : List SecondRead := []
  /-- the runs, by id and site, that a committed cancellation has moved -/
  cancelled : List (Uuid × Uuid) := []

inductive ExecAction where
  /-- a step of a planner or of the queue, or one elsewhere -/
  | other (a : Action)
  | observe (lease : JobLeaseV1)
  | transactionA (env : Ambient) (lease : JobLeaseV1) (observed : Option ScheduleRunStateV1)
  /-- Transaction B begins with its read -/
  | observeSecond (lease : JobLeaseV1) (snapshot : RunSnapshotV1)
  | transactionB (env : Ambient) (read : SecondRead) (leaseSeconds : Int) (solve : Solve)
  | recordFatalFailure (env : Ambient) (lease : JobLeaseV1) (cause : PyError)
      (observed : Option ScheduleRunStateV1)
  | renewJobLease (env : Ambient) (lease : JobLeaseV1) (extensionSeconds : Int)

/-- The lease under which a step commits a worker's transaction. -/
def ExecAction.lease? : ExecAction → Option JobLeaseV1
  | .other _ | .observe _ | .observeSecond .. => none
  | .transactionA _ lease _ => some lease
  | .transactionB _ read _ _ => some read.lease
  | .recordFatalFailure _ lease _ _ => some lease
  | .renewJobLease _ lease _ => some lease

/-- A statement a worker issues. -/
def Action.isWorker : Action → Bool
  | .worker .. => true
  | _ => false

/-- When a party may take a step: a worker writes on what it read, and an execution reads a second
time once. -/
def ExecAction.Enabled (s : ExecSys) : ExecAction → Prop
  | .other a => a.isWorker = false ∧ a.Enabled s.runs
  | .observe lease => lease ∈ s.runs.leases
  | .transactionA _ lease observed => (lease, observed) ∈ s.seen
  | .observeSecond lease snapshot => (lease, snapshot) ∈ s.runs.attempts ∧
    ∀ read ∈ s.second, ¬ (read.lease.jobId = lease.jobId ∧
      read.lease.fencingEpoch = lease.fencingEpoch)
  | .transactionB _ read _ _ => read ∈ s.second
  | .recordFatalFailure _ lease _ observed => (lease, observed) ∈ s.seen
  | .renewJobLease _ lease _ => lease ∈ s.runs.leases

/-- The run a step's cancellation moves, if it commits one. -/
def ExecSys.cancels (s : ExecSys) : Action → List (Uuid × Uuid)
  | .writeCancel session =>
    if s.runs.db.runState session.cmd.runId session.cmd.siteId =
        (s.runs.perform (.writeCancel session)).db.runState session.cmd.runId session.cmd.siteId
    then []
    else [(session.cmd.runId, session.cmd.siteId)]
  | _ => []

/-- The job of a lease stands at the lease's epoch. -/
def Db.holdsEpoch (db : Db) (lease : JobLeaseV1) : Bool :=
  db.jobQueue.rows.any fun job =>
    decide (job.jobId = lease.jobId) && decide (job.fencingEpoch = lease.fencingEpoch)

/-- Commit a worker's transaction. -/
def ExecSys.commit (s : ExecSys) (env : Ambient) (lease : JobLeaseV1) (call : WorkerCall) :
    ExecSys :=
  { s with runs := s.runs.perform (.worker env lease call) }

/-- The state after a step. -/
def ExecSys.perform (s : ExecSys) : ExecAction → ExecSys
  | .other a => { s with runs := s.runs.perform a, cancelled := s.cancels a ++ s.cancelled }
  | .observe lease =>
    { s with seen := (lease, s.runs.db.runState lease.scheduleRunId lease.siteId) :: s.seen }
  | .transactionA env lease observed => s.commit env lease (.transactionA observed)
  -- the ghost fields: whether the cancellation was committed, and whether the epoch was current
  | .observeSecond lease snapshot =>
    { s with
      second :=
        { lease := lease
          snapshot := snapshot
          observed := s.runs.db.runState lease.scheduleRunId lease.siteId
          cancelled := s.cancelled.contains (lease.scheduleRunId, lease.siteId)
          current := s.runs.db.holdsEpoch lease } :: s.second }
  | .transactionB env read leaseSeconds solve =>
    s.commit env read.lease (.transactionB read.snapshot leaseSeconds solve read.observed)
  | .recordFatalFailure env lease cause observed =>
    s.commit env lease (.recordFatalFailure cause observed)
  | .renewJobLease env lease extensionSeconds =>
    s.commit env lease (.renewJobLease extensionSeconds)

/-- Nothing has been scheduled yet. -/
structure ExecSys.Initial (s : ExecSys) : Prop where
  runs : s.runs.Initial
  seen : s.seen = []
  second : s.second = []
  cancelled : s.cancelled = []

/-- Leases, executions, cancellations and completions, interleaved. -/
def execMachine : Transition.Machine ExecSys ExecAction where
  initial := ExecSys.Initial
  enabled s a := a.Enabled s
  perform := ExecSys.perform

abbrev execSystem : Transition.System ExecSys := execMachine.system

/-! ## The invariant

What is true of every read of a worker, as the run moves on behind it. -/

/-- What is known of a second read. -/
structure SecondSound (s : ExecSys) (read : SecondRead) : Prop where
  attempted : (read.lease, read.snapshot) ∈ s.runs.attempts
  observed : s.runs.db.Observed read.lease read.observed
  /-- no execution gets that far with a queued run -/
  started : ∀ state, read.observed = some state → state.status ≠ .solverQueued
  stopped : read.cancelled = true → ¬ read.SawRunning
  cancelled : read.cancelled = true → (read.lease.scheduleRunId, read.lease.siteId) ∈ s.cancelled
  /-- an execution that went on to solve, if the job was leased again before this one read -/
  superseded : read.cancelled = true → read.current = true → ∀ other ∈ s.second,
    other.SawRunning → other.lease.jobId = read.lease.jobId →
      other.lease.fencingEpoch < read.lease.fencingEpoch

structure ExecSys.Inv (s : ExecSys) : Prop where
  runs : s.runs.Inv
  coherent : Coherent s.runs.db
  seen : ∀ p ∈ s.seen, p.1 ∈ s.runs.leases ∧ s.runs.db.Observed p.1 p.2
  started : ∀ attempt ∈ s.runs.attempts, s.runs.db.RunStarted attempt.1
  second : ∀ read ∈ s.second, SecondSound s read
  /-- an execution reads a second time once -/
  once : ∀ read ∈ s.second, ∀ other ∈ s.second, other.lease.jobId = read.lease.jobId →
    other.lease.fencingEpoch = read.lease.fencingEpoch → other = read
  cancelled : ∀ p ∈ s.cancelled, s.runs.db.RunAt p.1 p.2 fun status => status.solvable = false
  /-- **A completed run was completed by an execution that had read it running**, and its job is
  closed at the epoch of that execution's lease. -/
  completed : ∀ run ∈ s.runs.db.scheduleRun, run.status = .solverCompleted →
    ∃ read ∈ s.second, read.SawRunning ∧
      isRun read.lease.scheduleRunId read.lease.siteId run = true ∧ ClosedAt s.runs.db read.lease

theorem ExecSys.Inv.initial {s : ExecSys} (h : s.Initial) : s.Inv where
  runs := .initial h.runs
  coherent job hjob := by rw [h.runs.jobs] at hjob; exact absurd hjob (Table.not_mem_empty job)
  seen := by rw [h.seen]; simp
  started := by rw [h.runs.attempts]; simp
  second := by rw [h.second]; simp
  once := by rw [h.second]; simp
  cancelled := by rw [h.cancelled]; simp
  completed run hrun := by rw [h.runs.runs] at hrun; exact absurd hrun (Table.not_mem_empty run)

/-- The leases of a step's worker hold their jobs. -/
theorem ExecSys.Inv.held {s : ExecSys} (hinv : s.Inv) {lease : JobLeaseV1}
    (hlease : lease ∈ s.runs.leases) : Held lease s.runs.db :=
  ⟨hinv.coherent, hinv.runs.leased lease hlease⟩

theorem ClosedAt.kept {db db' : Db} {lease : JobLeaseV1} (h : ClosedAt db lease)
    (hclosed : ∀ job ∈ db.jobQueue, job.status.closed = true →
      ∃ job' ∈ db'.jobQueue, Touched job job') : ClosedAt db' lease := by
  obtain ⟨job, hjob, hsame, hstatus, hepoch⟩ := h
  obtain ⟨job', hjob', htouched⟩ := hclosed job hjob hstatus
  exact ⟨job', hjob', hsame.trans _ _ _ htouched.sameJob, by rw [htouched.status]; exact hstatus,
    by rw [htouched.epoch]; exact hepoch⟩

/-- **What a step of the runs has to show** for the invariant: nothing was closed in front of its
run, an attempt was let go ahead behind the queue, and whatever was completed was completed by an
execution that had read a running run. -/
theorem ExecSys.Inv.advance {s : ExecSys} (hinv : s.Inv) {runs : Sys} (hruns : runs.Inv)
    (heffect : Effect s.runs.db runs.db) (hleases : ∀ lease ∈ s.runs.leases, lease ∈ runs.leases)
    (hattempts : ∀ attempt ∈ s.runs.attempts, attempt ∈ runs.attempts)
    (hnew : ∀ attempt ∈ runs.attempts,
      attempt ∈ s.runs.attempts ∨ runs.db.RunStarted attempt.1)
    (hcoherent : Coherent runs.db)
    (hcompleted : ∀ run ∈ runs.db.scheduleRun, run.status = .solverCompleted →
      run ∈ s.runs.db.scheduleRun ∨ ∃ read ∈ s.second, read.SawRunning ∧
        isRun read.lease.scheduleRunId read.lease.siteId run = true ∧ ClosedAt runs.db read.lease)
    (hclosed : ∀ job ∈ s.runs.db.jobQueue, job.status.closed = true →
      ∃ job' ∈ runs.db.jobQueue, Touched job job') :
    ({ s with runs := runs } : ExecSys).Inv where
  runs := hruns
  coherent := hcoherent
  seen p hp := ⟨hleases _ (hinv.seen p hp).1, heffect.observed (hinv.seen p hp).2⟩
  started attempt hattempt :=
    (hnew attempt hattempt).elim (fun hold => heffect.runStarted (hinv.started attempt hold)) id
  second read hread :=
    have hsound := hinv.second read hread
    { attempted := hattempts _ hsound.attempted
      observed := heffect.observed hsound.observed
      started := hsound.started
      stopped := hsound.stopped
      cancelled := hsound.cancelled
      superseded := hsound.superseded }
  once := hinv.once
  cancelled p hp := heffect.runAt (fun _ _ hedge => hedge.not_solvable) (hinv.cancelled p hp)
  completed run hrun hstatus := by
    cases hcompleted run hrun hstatus with
    | inr hnew => exact hnew
    | inl hold =>
      obtain ⟨read, hread, hsaw, hsel, hclosedAt⟩ := hinv.completed run hold hstatus
      exact ⟨read, hread, hsaw, hsel, hclosedAt.kept hclosed⟩

/-! ## The steps of planners and of the queue -/

/-- No step but a worker's closes a job or completes a run. -/
theorem Sys.perform_unclosed {s : Sys} {a : Action} (ha : a.Enabled s)
    (hplanner : a.isWorker = false) : Unclosed s.db (s.perform a).db := by
  cases a with
  | enqueueCompute env catalogue cmd =>
    exact (unclosedPlanner.enqueueCompute ..).commit Unclosed.refl s.db
  | leaseNextJob env locked leaseOwner leaseSeconds =>
    exact (leaseNextJob_unclosed ..).commit Unclosed.refl s.db
  | worker env lease call => cases hplanner
  | observeCancel cmd => exact Unclosed.refl s.db
  | admitCancel env cmd observed =>
    rw [(s.perform_admit env cmd observed).1]
    exact Unclosed.refl s.db
  | writeCancel session =>
    exact unclosedRegime.cancelRequest (unclosedRegime.cancelWrite ..)
      (unclosedRegime.cancelWrite_fails ..) s.db
  | elsewhere db' =>
    have htables := ha.1
    simp only [Db.runTables, RunTables.mk.injEq] at htables
    exact .of_jobsTouched (.of_eq ha.2) (fun run hrun _ => by rwa [Sys.perform, htables.1] at hrun)
      htables.2.1

/-- Such a step hands out leases at most. -/
theorem Sys.perform_handsOut (s : Sys) {a : Action} (hplanner : a.isWorker = false) :
    (∀ lease ∈ s.leases, lease ∈ (s.perform a).leases) ∧ (s.perform a).attempts = s.attempts := by
  cases a with
  | enqueueCompute env catalogue cmd => exact ⟨fun _ => id, rfl⟩
  | leaseNextJob env locked leaseOwner leaseSeconds =>
    exact ⟨fun _ hlease => List.mem_append_right _ hlease, rfl⟩
  | worker env lease call => cases hplanner
  | observeCancel cmd => exact ⟨fun _ => id, rfl⟩
  | admitCancel env cmd observed =>
    obtain ⟨-, hleases, hattempts⟩ := s.perform_admit env cmd observed
    exact ⟨fun _ hlease => hleases ▸ hlease, hattempts⟩
  | writeCancel session => exact ⟨fun _ => id, rfl⟩
  | elsewhere db' => exact ⟨fun _ => id, rfl⟩

/-- A run's row is what a read of its state reports. -/
theorem Db.runState_of_mem {db : Db} {runId siteId : Uuid} {run : ScheduleRunRow}
    (hrun : run ∈ db.scheduleRun) (hsel : isRun runId siteId run = true) :
    db.runState runId siteId = some ⟨run.status, run.resourceVersion⟩ :=
  runState_eq_some.mpr ⟨run, hrun, hsel, rfl, rfl⟩

/-- **A committed cancellation stops the run**: the run it moved is neither queued nor running. -/
theorem ExecSys.cancels_stopped {s : ExecSys} {a : Action} (ha : a.Enabled s.runs) :
    ∀ p ∈ s.cancels a,
      (s.runs.perform a).db.RunAt p.1 p.2 fun status => status.solvable = false := by
  intro p hp
  cases a with
  | writeCancel session =>
    simp only [ExecSys.cancels] at hp
    split at hp
    · cases hp
    · rename_i hmoved
      obtain rfl := List.mem_singleton.mp hp
      have heffect := Sys.perform_effect ha
      have hcancels : CancelsOnly s.runs.db (s.runs.perform (.writeCancel session)).db :=
        cancelsRegime.cancelRequest (cancelsRegime.cancelWrite ..)
          (cancelsRegime.cancelWrite_fails ..) s.runs.db
      cases hstate : (s.runs.perform (.writeCancel session)).db.runState session.cmd.runId
          session.cmd.siteId with
      | none =>
        -- no run is lost, so there was none either
        rw [hstate] at hmoved
        cases hbefore : s.runs.db.runState session.cmd.runId session.cmd.siteId with
        | none => exact absurd hbefore hmoved
        | some state =>
          have hat : s.runs.db.RunAt session.cmd.runId session.cmd.siteId fun _ => True := by
            obtain ⟨run, hrun, hsel, -⟩ := runState_eq_some.mp hbefore
            exact ⟨run, hrun, hsel, trivial⟩
          obtain ⟨run, hrun, hsel, -⟩ := heffect.runAt (fun _ _ _ => id) hat
          rw [Db.runState_of_mem hrun hsel] at hstate
          cases hstate
      | some state =>
        obtain ⟨run, hrun, hsel, hstatus, hversion⟩ := runState_eq_some.mp hstate
        refine ⟨run, hrun, hsel, ?_⟩
        cases hcancels run hrun with
        | inr hcancelled => exact cancels_not_solvable hcancelled
        | inl hkept =>
          -- a run that stayed is the run that was read before
          rw [hstate] at hmoved
          exact absurd (runState_eq_some.mpr ⟨run, hkept, hsel, hstatus, hversion⟩) hmoved
  | _ => cases hp

theorem ExecSys.Inv.other {s : ExecSys} (hinv : s.Inv) {a : Action} (ha : a.Enabled s.runs)
    (hplanner : a.isWorker = false) : (s.perform (.other a)).Inv := by
  have hunclosed := Sys.perform_unclosed ha hplanner
  have heffect := Sys.perform_effect ha
  have hhands := s.runs.perform_handsOut hplanner
  have hadvanced := hinv.advance (hinv.runs.perform ha) heffect hhands.1
    (fun attempt hattempt => by rw [hhands.2]; exact hattempt)
    (fun attempt hattempt => .inl (by rwa [hhands.2] at hattempt))
    (hinv.coherent.of_noneClosed heffect hunclosed.noneClosed)
    (fun run hrun hstatus => .inl (hunclosed.runs run hrun hstatus)) hunclosed.closed
  refine { hadvanced with second := fun read hread => ?_, cancelled := fun p hp => ?_ }
  · have hsound := hadvanced.second read hread
    exact { hsound with cancelled := fun h => List.mem_append_right _ (hsound.cancelled h) }
  · cases List.mem_append.mp hp with
    | inl hnew => exact ExecSys.cancels_stopped ha p hnew
    | inr hold => exact hadvanced.cancelled p hold

/-! ## The reads of a worker -/

theorem ExecSys.Inv.observe {s : ExecSys} (hinv : s.Inv) {lease : JobLeaseV1}
    (hlease : lease ∈ s.runs.leases) : (s.perform (.observe lease)).Inv := by
  have hseen : ∀ p ∈ (s.perform (.observe lease)).seen,
      p.1 ∈ s.runs.leases ∧ s.runs.db.Observed p.1 p.2 := by
    intro p hp
    cases List.mem_cons.mp hp with
    | inl hnew => subst hnew; exact ⟨hlease, s.runs.db.observed_runState lease⟩
    | inr hold => exact hinv.seen p hold
  have hsecond : ∀ read ∈ s.second, SecondSound (s.perform (.observe lease)) read :=
    fun read hread => { hinv.second read hread with }
  exact { hinv with seen := hseen, second := hsecond }

/-- One row has the run's id and site, so a read of it and a fact about it meet. -/
theorem Db.RunAt.of_runState {db : Db} {runId siteId : Uuid} {P : ScheduleRunStatus → Prop}
    (h : db.RunAt runId siteId P) {state : ScheduleRunStateV1}
    (hstate : db.runState runId siteId = some state) : P state.status := by
  obtain ⟨run, hrun, hsel, hP⟩ := h
  rw [Db.runState_of_mem hrun hsel] at hstate
  cases hstate
  exact hP

/-- Leases of one job name one run. -/
theorem ExecSys.Inv.same_run {s : ExecSys} (hinv : s.Inv) {a b : JobLeaseV1}
    (ha : a ∈ s.runs.leases) (hb : b ∈ s.runs.leases) (hjob : a.jobId = b.jobId) :
    a.scheduleRunId = b.scheduleRunId ∧ a.siteId = b.siteId := by
  obtain ⟨ja, hja, hsameA⟩ := hinv.runs.leased a ha
  obtain ⟨jb, hjb, hsameB⟩ := hinv.runs.leased b hb
  have hsame : ja = jb :=
    Table.eq_of_clash hja hjb (by simp [clash, hsameA.jobId, hsameB.jobId, hjob])
  subst hsame
  exact ⟨hsameA.run.symm.trans hsameB.run, hsameA.site.symm.trans hsameB.site⟩

/-- The lease of a second read was handed out. -/
theorem ExecSys.Inv.second_leased {s : ExecSys} (hinv : s.Inv) {read : SecondRead}
    (hread : read ∈ s.second) : read.lease ∈ s.runs.leases :=
  (hinv.runs.attempted _ (hinv.second read hread).attempted).1

theorem ExecSys.Inv.observeSecond {s : ExecSys} (hinv : s.Inv) {lease : JobLeaseV1}
    {snapshot : RunSnapshotV1} (hattempt : (lease, snapshot) ∈ s.runs.attempts)
    (hfresh : ∀ read ∈ s.second, ¬ (read.lease.jobId = lease.jobId ∧
      read.lease.fencingEpoch = lease.fencingEpoch)) :
    (s.perform (.observeSecond lease snapshot)).Inv := by
  have hlease := (hinv.runs.attempted _ hattempt).1
  -- a cancelled run is no longer running when it is read
  have hstopped : s.cancelled.contains (lease.scheduleRunId, lease.siteId) = true →
      ∀ state, s.runs.db.runState lease.scheduleRunId lease.siteId = some state →
        state.status.solvable = false := fun hcancelled state hstate =>
    (hinv.cancelled _ (List.contains_iff_mem.mp hcancelled)).of_runState hstate
  refine { hinv with second := fun read hread => ?_, once := ?_, completed := ?_ }
  · cases List.mem_cons.mp hread with
    | inl hnew =>
      subst hnew
      refine
        { attempted := hattempt
          observed := s.runs.db.observed_runState lease
          started := fun state hstate => (hinv.started _ hattempt).of_runState hstate
          stopped := fun hcancelled hsaw => ?_
          cancelled := fun hcancelled => List.contains_iff_mem.mp hcancelled
          superseded := fun hcancelled hcurrent other hother hsaw hjob => ?_ }
      · obtain ⟨state, hstate, hrunning⟩ := hsaw
        have := hstopped hcancelled state hstate
        rw [hrunning] at this
        cases this
      · cases List.mem_cons.mp hother with
        | inl hself =>
          -- this read did not see it running
          subst hself
          obtain ⟨state, hstate, hrunning⟩ := hsaw
          have := hstopped hcancelled state hstate
          rw [hrunning] at this
          cases this
        | inr hold =>
          -- the epoch of the job only grows, and the other execution read before
          obtain ⟨job, hjobMem, hsame⟩ := hinv.runs.leased _ (hinv.second_leased hold)
          obtain ⟨own, hown, hownSel⟩ := List.any_eq_true.mp hcurrent
          simp only [Bool.and_eq_true, decide_eq_true_eq] at hownSel
          have hone : job = own :=
            Table.eq_of_clash hjobMem hown (by simp [clash, hsame.jobId, hjob, hownSel.1])
          subst hone
          have hle : other.lease.fencingEpoch ≤ lease.fencingEpoch := hownSel.2 ▸ hsame.epoch
          exact lt_of_le_of_ne hle fun heq => hfresh other hold ⟨hjob, heq⟩
    | inr hold =>
      have hsound := hinv.second read hold
      refine { hsound with superseded := fun hcancelled hcurrent other hother hsaw hjob => ?_ }
      cases List.mem_cons.mp hother with
      | inr hotherOld => exact hsound.superseded hcancelled hcurrent other hotherOld hsaw hjob
      | inl hnew =>
        -- the run was cancelled before this read, so the read did not see it running
        subst hnew
        have hrun := hinv.same_run hlease (hinv.second_leased hold) hjob
        have hcontains : s.cancelled.contains (lease.scheduleRunId, lease.siteId) = true := by
          rw [hrun.1, hrun.2]
          exact List.contains_iff_mem.mpr (hsound.cancelled hcancelled)
        obtain ⟨state, hstate, hrunning⟩ := hsaw
        have := hstopped hcontains state hstate
        rw [hrunning] at this
        cases this
  · intro read hread other hother hjob hepoch
    cases List.mem_cons.mp hread with
    | inl hnew =>
      cases List.mem_cons.mp hother with
      | inl hnew' => rw [hnew, hnew']
      | inr hold => subst hnew; exact absurd ⟨hjob, hepoch⟩ (hfresh other hold)
    | inr hold =>
      cases List.mem_cons.mp hother with
      | inl hnew' => subst hnew'; exact absurd ⟨hjob.symm, hepoch.symm⟩ (hfresh read hold)
      | inr hold' => exact hinv.once read hold other hold' hjob hepoch
  · intro run hrun hstatus
    obtain ⟨read, hread, hrest⟩ := hinv.completed run hrun hstatus
    exact ⟨read, List.mem_cons_of_mem _ hread, hrest⟩

/-! ## The transactions of a worker -/

/-- A worker's transaction that ran from a held lease, with whatever it let go ahead. -/
theorem ExecSys.Inv.commit {s : ExecSys} (hinv : s.Inv) {env : Ambient} {lease : JobLeaseV1}
    {call : WorkerCall} (henabled : (Action.worker env lease call).Enabled s.runs)
    (hcoherent : Coherent (s.commit env lease call).runs.db)
    (hgoesAhead : ∀ snapshot db', (call.body env lease).run s.runs.db = (.ok (some snapshot), db') →
      db'.RunStarted lease)
    (hcompleted : ∀ run ∈ (s.commit env lease call).runs.db.scheduleRun,
      run.status = .solverCompleted → run ∈ s.runs.db.scheduleRun ∨ ∃ read ∈ s.second,
        read.SawRunning ∧ isRun read.lease.scheduleRunId read.lease.siteId run = true ∧
          ClosedAt (s.commit env lease call).runs.db read.lease)
    (hclosed : ∀ job ∈ s.runs.db.jobQueue, job.status.closed = true →
      ∃ job' ∈ (s.commit env lease call).runs.db.jobQueue, Touched job job') :
    (s.commit env lease call).Inv := by
  refine hinv.advance (hinv.runs.perform henabled) (Sys.perform_effect henabled) (fun _ => id)
    (fun _ hattempt => List.mem_append_right _ hattempt) ?_ hcoherent hcompleted hclosed
  intro attempt hattempt
  cases List.mem_append.mp hattempt with
  | inr hold => exact .inl hold
  | inl hnew =>
    obtain ⟨snapshot, hsnapshot, rfl⟩ := List.mem_map.mp hnew
    have hrun := Tx.commit_ok.mp (Prod.ext (mem_handed.mp hsnapshot) rfl)
    exact .inr (hgoesAhead snapshot _ hrun)

/-- A worker's transaction that completes no run. -/
theorem ExecSys.Inv.commit_unsolved {s : ExecSys} (hinv : s.Inv) {env : Ambient}
    {lease : JobLeaseV1} {call : WorkerCall}
    (henabled : (Action.worker env lease call).Enabled s.runs)
    (hcoherent : Coherent (s.commit env lease call).runs.db)
    (hgoesAhead : ∀ snapshot db', (call.body env lease).run s.runs.db = (.ok (some snapshot), db') →
      db'.RunStarted lease)
    (hunsolved : (call.body env lease).Leads Unsolved) : (s.commit env lease call).Inv := by
  have hled : Unsolved s.runs.db (s.commit env lease call).runs.db :=
    hunsolved.commit Unsolved.refl s.runs.db
  exact hinv.commit henabled hcoherent hgoesAhead
    (fun run hrun hstatus => .inl (hled.runs run hrun hstatus)) hled.closed

/-- A call whose value is dropped. -/
theorem unsolved_drop {α : Type} {x : DbTx α} (f : α → Option RunSnapshotV1)
    (hx : x.Leads Unsolved) :
    (do let a ← x; pure (f a) : DbTx (Option RunSnapshotV1)).Leads Unsolved :=
  hx.bind Unsolved.trans fun _ => .of_still Unsolved.refl (.pure _)

/-- The worker's transactions that never complete a run, whatever they observed. -/
theorem transactionA_unsolved (env : Ambient) (lease : JobLeaseV1)
    (observed : Option ScheduleRunStateV1) :
    ((WorkerCall.transactionA observed).body env lease).Leads Unsolved :=
  unsolved_drop _ (unsolvedRegime.transactionAFrom ..)

theorem recordFatalFailure_unsolved (env : Ambient) (lease : JobLeaseV1) (cause : PyError)
    (observed : Option ScheduleRunStateV1) :
    ((WorkerCall.recordFatalFailure cause observed).body env lease).Leads Unsolved :=
  unsolved_drop _ (unsolvedRegime.recordFatalFailureFrom ..)

theorem renewJobLease_unsolved (env : Ambient) (lease : JobLeaseV1) (extensionSeconds : Int) :
    ((WorkerCall.renewJobLease extensionSeconds).body env lease).Leads Unsolved :=
  unsolved_drop _ (unsolvedRegime.renewJobLease ..)

/-- Transaction B completes no run that it did not read running. -/
theorem transactionB_unsolved (env : Ambient) {read : SecondRead} (hsaw : ¬ read.SawRunning)
    (leaseSeconds : Int) (solve : Solve) :
    ((WorkerCall.transactionB read.snapshot leaseSeconds solve read.observed).body env
      read.lease).Leads Unsolved :=
  unsolved_drop _ (unsolvedRegime.transactionBFrom _ _ _ _ _ fun state hstate hstatus =>
    hsaw ⟨state, hstate, hstatus⟩)

theorem ExecSys.Inv.transactionA {s : ExecSys} (hinv : s.Inv) (env : Ambient) {lease : JobLeaseV1}
    {observed : Option ScheduleRunStateV1} (hseen : (lease, observed) ∈ s.seen) :
    (s.perform (.transactionA env lease observed)).Inv := by
  obtain ⟨hlease, hobserved⟩ := hinv.seen _ hseen
  have hbody : Tx.Triple (fun db => Held lease db ∧ db.Observed lease observed)
      ((WorkerCall.transactionA observed).body env lease)
      fun result db' => Coherent db' ∧ ∀ snapshot, result = some snapshot → db'.RunStarted lease :=
    (transactionAFrom_coherent env lease observed).bind fun next => .pure fun _ h =>
      ⟨h.1, fun snapshot hresult => by
        cases next with
        | finished status => cases hresult
        | execute solved => exact h.2 solved rfl⟩
  have hpre := And.intro (hinv.held hlease) hobserved
  refine hinv.commit_unsolved ⟨hlease, trivial⟩ ?_ ?_ (transactionA_unsolved env lease observed)
  · exact (hbody.weaken (fun _ => id) fun _ _ h => h.1).commit (fun _ h => h.1.coherent) hpre
  · intro snapshot db' hrun
    exact (hbody.holds hpre hrun).2 snapshot rfl

theorem ExecSys.Inv.recordFatalFailure {s : ExecSys} (hinv : s.Inv) (env : Ambient)
    {lease : JobLeaseV1} (cause : PyError) {observed : Option ScheduleRunStateV1}
    (hseen : (lease, observed) ∈ s.seen) :
    (s.perform (.recordFatalFailure env lease cause observed)).Inv := by
  obtain ⟨hlease, hobserved⟩ := hinv.seen _ hseen
  have hbody : Tx.Triple (fun db => Held lease db ∧ db.Observed lease observed)
      ((WorkerCall.recordFatalFailure cause observed).body env lease) fun _ db' => Coherent db' :=
    (recordFatalFailureFrom_coherent env lease cause observed).bind fun _ => .pure fun _ h => h
  refine hinv.commit_unsolved ⟨hlease, trivial⟩ ?_ ?_ (recordFatalFailure_unsolved ..)
  · exact hbody.commit (fun _ h => h.1.coherent) ⟨hinv.held hlease, hobserved⟩
  · intro snapshot db' hrun
    obtain ⟨_, _, -, hpure⟩ := Tx.bind_ok.mp hrun
    cases hpure

theorem ExecSys.Inv.renewJobLease {s : ExecSys} (hinv : s.Inv) (env : Ambient) {lease : JobLeaseV1}
    (extensionSeconds : Int) (hlease : lease ∈ s.runs.leases) :
    (s.perform (.renewJobLease env lease extensionSeconds)).Inv := by
  have henabled : (Action.worker env lease (.renewJobLease extensionSeconds)).Enabled s.runs :=
    ⟨hlease, trivial⟩
  have hrenew : (ScheduleRunRepository.renewJobLease env lease.jobId lease.siteId lease.fencingEpoch
      extensionSeconds).Leads Unclosed := unclosedRegime.renewJobLease ..
  have hbody : ((WorkerCall.renewJobLease extensionSeconds).body env lease).Leads Unclosed :=
    hrenew.bind Unclosed.trans fun _ => .of_still Unclosed.refl (.pure _)
  have hunclosed := hbody.commit Unclosed.refl s.runs.db
  refine hinv.commit_unsolved henabled ?_ ?_ (renewJobLease_unsolved ..)
  · exact hinv.coherent.of_noneClosed (Sys.perform_effect henabled) hunclosed.noneClosed
  · intro snapshot db' hrun
    obtain ⟨_, _, -, hpure⟩ := Tx.bind_ok.mp hrun
    cases hpure

theorem ExecSys.Inv.transactionB {s : ExecSys} (hinv : s.Inv) (env : Ambient) {read : SecondRead}
    (leaseSeconds : Int) (solve : Solve) (hread : read ∈ s.second) :
    (s.perform (.transactionB env read leaseSeconds solve)).Inv := by
  have hsound := hinv.second read hread
  have hattempted := hinv.runs.attempted _ hsound.attempted
  have henabled : (Action.worker env read.lease
      (.transactionB read.snapshot leaseSeconds solve read.observed)).Enabled s.runs :=
    ⟨hattempted.1, hsound.attempted⟩
  have hheld := hinv.held hattempted.1
  have hbody := (transactionBFrom_coherent env hattempted.2 leaseSeconds solve hsound.started).bind
    (S := fun _ db' => Coherent db') fun _ =>
      Tx.Triple.pure (a := (none : Option RunSnapshotV1)) fun _ h => h
  have hcoherent : Coherent (s.perform (.transactionB env read leaseSeconds solve)).runs.db :=
    hbody.commit (fun _ h => h.1.coherent) ⟨hheld, hsound.observed⟩
  have hnone : ∀ snapshot db', ((WorkerCall.transactionB read.snapshot leaseSeconds solve
      read.observed).body env read.lease).run s.runs.db = (.ok (some snapshot), db') →
      db'.RunStarted read.lease := by
    intro snapshot db' hrun
    obtain ⟨_, _, -, hpure⟩ := Tx.bind_ok.mp hrun
    cases hpure
  by_cases hsaw : read.SawRunning
  · -- the execution that solves
    have hsolved : Solved read.lease s.runs.db
        (s.perform (.transactionB env read leaseSeconds solve)).runs.db := by
      cases Tx.commit_cases ((WorkerCall.transactionB read.snapshot leaseSeconds solve
          read.observed).body env read.lease) s.runs.db with
      | inr hkept =>
        have hdb : (s.perform (.transactionB env read leaseSeconds solve)).runs.db = s.runs.db :=
          hkept
        rw [hdb]
        exact (Unsolved.refl s.runs.db).solved
      | inl hok =>
        obtain ⟨result, hrun⟩ := hok
        obtain ⟨status, db₁, hrun, hpure⟩ := Tx.bind_ok.mp hrun
        obtain ⟨state, hobserved, hrunning⟩ := hsaw
        rw [hobserved] at hrun
        have hdb : (s.perform (.transactionB env read leaseSeconds solve)).runs.db = db₁ :=
          (Prod.mk.inj hpure).2.symm
        rw [hdb]
        exact transactionBFrom_solved hattempted.2 hrunning hheld hrun
    exact hinv.commit henabled hcoherent hnone
      (fun run hrun hstatus => (hsolved.runs run hrun hstatus).imp_right fun hown =>
        ⟨read, hread, hsaw, hown.1, hown.2⟩) hsolved.closed
  · exact hinv.commit_unsolved henabled hcoherent hnone (transactionB_unsolved env hsaw ..)

/-- **Every step keeps the invariant.** -/
theorem ExecSys.Inv.perform {s : ExecSys} (hinv : s.Inv) {a : ExecAction} (ha : a.Enabled s) :
    (s.perform a).Inv := by
  cases a with
  | other a => exact hinv.other ha.2 ha.1
  | observe lease => exact hinv.observe ha
  | transactionA env lease observed => exact hinv.transactionA env ha
  | observeSecond lease snapshot => exact hinv.observeSecond ha.1 ha.2
  | transactionB env read leaseSeconds solve => exact hinv.transactionB env leaseSeconds solve ha
  | recordFatalFailure env lease cause observed => exact hinv.recordFatalFailure env cause ha
  | renewJobLease env lease extensionSeconds => exact hinv.renewJobLease env extensionSeconds ha

theorem ExecSys.Inv.of_reachable {s : ExecSys} (hreach : Reachable execSystem s) : s.Inv :=
  Machine.reachable_invariant ExecSys.Inv (fun _ => ExecSys.Inv.initial)
    (fun _ _ hinv ha => hinv.perform ha) hreach

/-! ## Over whole runs -/

/-- The solver's answer is not looked at unless the run was read running. -/
theorem transactionBFrom_ignores (env : Ambient) (lease : JobLeaseV1) (snapshot : RunSnapshotV1)
    (leaseSeconds : Int) {observed : Option ScheduleRunStateV1}
    (hobserved : ∀ state, observed = some state → state.status ≠ .solverRunning)
    (solve solve' : Solve) :
    transactionBFrom env lease snapshot leaseSeconds solve observed =
      transactionBFrom env lease snapshot leaseSeconds solve' observed := by
  cases observed with
  | none => rfl
  | some state =>
    obtain ⟨status, resourceVersion⟩ := state
    cases status with
    | solverRunning => exact absurd rfl (hobserved _ rfl)
    | _ => rfl

/-- No transaction of an execution that did not read its run running writes a candidate. -/
theorem ExecSys.Inv.no_candidate {s : ExecSys} (hinv : s.Inv) {read : SecondRead}
    (hread : read ∈ s.second) (hsaw : ¬ read.SawRunning) {a : ExecAction} (ha : a.Enabled s)
    (hlease : a.lease? = some read.lease) :
    (s.perform a).runs.db.scheduleVersion = s.runs.db.scheduleVersion := by
  have hcommit : ∀ {env lease} {call : WorkerCall}, (call.body env lease).Leads Unsolved →
      (s.commit env lease call).runs.db.scheduleVersion = s.runs.db.scheduleVersion := fun hbody =>
    (hbody.commit Unsolved.refl s.runs.db).versions
  cases a with
  | other a => cases hlease
  | observe lease => cases hlease
  | observeSecond lease snapshot => cases hlease
  | transactionA env lease observed => exact hcommit (transactionA_unsolved ..)
  | transactionB env other leaseSeconds solve =>
    -- an execution reads a second time once
    have hsame : other.lease = read.lease := Option.some.inj hlease
    have hone : other = read := hinv.once read hread other ha (by rw [hsame]) (by rw [hsame])
    subst hone
    exact hcommit (transactionB_unsolved env hsaw ..)
  | recordFatalFailure env lease cause observed => exact hcommit (recordFatalFailure_unsolved ..)
  | renewJobLease env lease extensionSeconds => exact hcommit (renewJobLease_unsolved ..)

/-- **Who completes a run that was cancelled**: an execution under a later lease, which had read it
running before the cancellation; so nobody, where the job still stood at the lease's epoch. -/
theorem ExecSys.Inv.completed_by_later {s : ExecSys} (hinv : s.Inv) {read : SecondRead}
    (hread : read ∈ s.second) (hcancelled : read.cancelled = true) {run : ScheduleRunRow}
    (hrun : run ∈ s.runs.db.scheduleRun) (hid : run.id = read.lease.scheduleRunId)
    (hstatus : run.status = .solverCompleted) :
    read.current = false ∧ ∃ other ∈ s.second, other.cancelled = false ∧ other.SawRunning ∧
      ClosedAt s.runs.db other.lease ∧ other.lease.jobId = read.lease.jobId ∧
        read.lease.fencingEpoch < other.lease.fencingEpoch := by
  obtain ⟨other, hother, hsaw, hsel, hclosed⟩ := hinv.completed run hrun hstatus
  have hat : ClosedAt s.runs.db other.lease := hclosed
  obtain ⟨job, hjob, hsame, -, hepoch⟩ := hclosed
  simp only [isRun, Bool.and_eq_true, decide_eq_true_eq] at hsel
  -- the two leases are of the one job of the run
  obtain ⟨own, hown, hsameOwn⟩ := hinv.runs.leased _ (hinv.second_leased hread)
  have hone : own = job :=
    Table.eq_of_clash hown hjob (by simp [clash, hsameOwn.run, hsame.run, ← hid, hsel.1])
  subst hone
  have hjobs : other.lease.jobId = read.lease.jobId := hsame.jobId.symm.trans hsameOwn.jobId
  have hle : read.lease.fencingEpoch ≤ other.lease.fencingEpoch := hepoch ▸ hsameOwn.epoch
  have hothers : other.cancelled = false := by
    cases hothers : other.cancelled with
    | false => rfl
    | true => exact absurd hsaw ((hinv.second other hother).stopped hothers)
  refine ⟨?_, other, hother, hothers, hsaw, hat, hjobs, lt_of_le_of_ne hle fun heq => ?_⟩
  · cases hcurrent : read.current with
    | false => rfl
    | true =>
      have hlt := (hinv.second read hread).superseded hcancelled hcurrent other hother hsaw hjobs
      omega
  · have hsameRead := hinv.once read hread other hother hjobs heq.symm
    rw [hsameRead, hcancelled] at hothers
    cases hothers

/-- **Job and run stay coherent.** A closed job's run has ended. An execution whose second
transaction read the run after a committed cancellation never looks at the solver and writes no
candidate; and its run is completed only by the execution of a later lease, which had read it
running before the cancellation and has closed the job at its own epoch. -/
theorem job_run_coherence {s : ExecSys} (hreach : Reachable execSystem s) :
    (∀ job ∈ s.runs.db.jobQueue, job.status = .completed ∨ job.status = .failed →
      ∃ run ∈ s.runs.db.scheduleRun, run.id = job.scheduleRunId ∧ run.siteId = job.siteId ∧
        run.status.terminal = true) ∧
    ∀ read ∈ s.second, read.cancelled = true →
      (∀ env leaseSeconds solve solve',
        transactionBFrom env read.lease read.snapshot leaseSeconds solve read.observed =
          transactionBFrom env read.lease read.snapshot leaseSeconds solve' read.observed) ∧
      (∀ a : ExecAction, a.Enabled s → a.lease? = some read.lease →
        (s.perform a).runs.db.scheduleVersion = s.runs.db.scheduleVersion) ∧
      ∀ run ∈ s.runs.db.scheduleRun, run.id = read.lease.scheduleRunId →
        run.status = .solverCompleted → read.current = false ∧
          ∃ other ∈ s.second, other.cancelled = false ∧ other.SawRunning ∧
            ClosedAt s.runs.db other.lease ∧ other.lease.jobId = read.lease.jobId ∧
            read.lease.fencingEpoch < other.lease.fencingEpoch := by
  have hinv := ExecSys.Inv.of_reachable hreach
  constructor
  · intro job hjob hstatus
    have hclosed : job.status.closed = true := by
      cases hstatus with
      | inl h => rw [h]; rfl
      | inr h => rw [h]; rfl
    obtain ⟨run, hrun, hsel, hterminal⟩ := hinv.coherent job hjob hclosed
    simp only [isRun, Bool.and_eq_true, decide_eq_true_eq] at hsel
    exact ⟨run, hrun, hsel.1, hsel.2, hterminal⟩
  · intro read hread hcancelled
    have hsaw := (hinv.second read hread).stopped hcancelled
    refine ⟨fun env leaseSeconds solve solve' => ?_, fun a ha hlease => ?_,
      fun run hrun hid hstatus => hinv.completed_by_later hread hcancelled hrun hid hstatus⟩
    · exact transactionBFrom_ignores env read.lease read.snapshot leaseSeconds
        (fun state hstate hrunning => hsaw ⟨state, hstate, hrunning⟩) solve solve'
    · exact hinv.no_candidate hread hsaw ha hlease

/-! ## Two executions of one job -/

namespace Depot

/-- The planner cancels the run that the worker has started. -/
def stop : CancelCommand := ⟨102, 1, 3, 2, "stop"⟩

def running : ScheduleRunStateV1 := ⟨.solverRunning, 2⟩

def stopSession : CancelSession := ⟨env 72, stop, running⟩

/-- The read of an execution before its Transaction B. -/
def secondRead (lease : JobLeaseV1) (state : ScheduleRunStateV1) (cancelled current : Bool) :
    SecondRead :=
  ⟨lease, snapshot, some state, cancelled, current⟩

def opened : ExecSys := ⟨site, [], [], []⟩

theorem opened_initial : execMachine.initial opened := ⟨site_initial, rfl, rfl, rfl⟩

/-- The first worker starts the run; its lease lapses, and the second worker takes the job over. -/
def takenOver : ExecSys := execMachine.performAll opened
  [.other enqueue, .other (lease 2), .observe (leased 2 1),
    .transactionA (env 3) (leased 2 1) (some ⟨.solverQueued, 1⟩), .other (lease 70),
    .observe (leased 70 2), .transactionA (env 71) (leased 70 2) (some running)]

theorem takenOver_reachable : Reachable execSystem takenOver :=
  Machine.reachable_of_schedule opened_initial
    ⟨⟨rfl, trivial⟩, ⟨rfl, trivial⟩, (by decide +kernel : leased 2 1 ∈ Sys.leases _),
      (by decide +kernel : (leased 2 1, some (⟨.solverQueued, 1⟩ : ScheduleRunStateV1)) ∈
        ExecSys.seen _), ⟨rfl, trivial⟩, (by decide +kernel : leased 70 2 ∈ Sys.leases _),
      (by decide +kernel : (leased 70 2, some running) ∈ ExecSys.seen _), trivial⟩

/-- The cancellation of the running run. -/
def cancellation : List ExecAction :=
  [.other (.observeCancel stop), .other (.admitCancel (env 72) stop (some running)),
    .other (.writeCancel stopSession)]

/-- The second worker reads after the cancellation. -/
def stopped : ExecSys := execMachine.performAll takenOver
  (cancellation ++ [.observeSecond (leased 70 2) snapshot])

theorem stopped_run : Run execSystem takenOver stopped :=
  Machine.run_of_schedule
    ⟨⟨rfl, trivial⟩,
      ⟨rfl, (by decide +kernel : (stop, some running) ∈ Sys.observing _)⟩,
      ⟨rfl, List.mem_cons_self⟩, ⟨by decide +kernel, by decide +kernel⟩, trivial⟩

/-- The second worker reads before the cancellation, the first one after it; then the second worker
comes back with its solution. -/
def overtaken : ExecSys := execMachine.performAll takenOver
  (.observeSecond (leased 70 2) snapshot :: cancellation ++
    [.observeSecond (leased 2 1) snapshot,
      .transactionB (env 74) (secondRead (leased 70 2) running false true) 60 optimal])

theorem overtaken_run : Run execSystem takenOver overtaken :=
  Machine.run_of_schedule
    ⟨⟨by decide +kernel, by decide +kernel⟩, ⟨rfl, trivial⟩,
      ⟨rfl, (by decide +kernel : (stop, some running) ∈ Sys.observing _)⟩,
      ⟨rfl, List.mem_cons_self⟩, ⟨by decide +kernel, by decide +kernel⟩,
      (by decide +kernel : secondRead (leased 70 2) running false true ∈ ExecSys.second _),
      trivial⟩

end Depot

/-- At the depot the second worker finds the cancellation: its run is not completed, in the state it
reads or in any later one. -/
theorem job_run_coherence_depot :
    let read := Depot.secondRead (Depot.leased 70 2) ⟨.cancellationRequested, 3⟩ true true
    read ∈ Depot.stopped.second ∧
      ∀ run ∈ Depot.stopped.runs.db.scheduleRun, run.id = 102 → run.status ≠ .solverCompleted := by
  intro read
  have hread : read ∈ Depot.stopped.second := by decide +kernel
  have hcoherent := job_run_coherence (Depot.takenOver_reachable.run Depot.stopped_run)
  refine ⟨hread, fun run hrun hid hstatus => ?_⟩
  have hlater := (hcoherent.2 read hread rfl).2.2 run hrun hid hstatus
  cases hlater.1

/-- **A superseded execution does not stop the run.** It read the run after the cancellation, and
the worker that holds the job, which had read it before, still completes it. -/
theorem cancelled_run_completed :
    ¬ ∀ s, Reachable execSystem s →
      (∀ job ∈ s.runs.db.jobQueue, job.status = .completed ∨ job.status = .failed →
        ∃ run ∈ s.runs.db.scheduleRun, run.id = job.scheduleRunId ∧ run.siteId = job.siteId ∧
          run.status.terminal = true) ∧
      ∀ read ∈ s.second, read.cancelled = true →
        (∀ env leaseSeconds solve solve',
          transactionBFrom env read.lease read.snapshot leaseSeconds solve read.observed =
            transactionBFrom env read.lease read.snapshot leaseSeconds solve' read.observed) ∧
        (∀ a : ExecAction, a.Enabled s → a.lease? = some read.lease →
          (s.perform a).runs.db.scheduleVersion = s.runs.db.scheduleVersion) ∧
        ∀ run ∈ s.runs.db.scheduleRun, run.id = read.lease.scheduleRunId →
          run.status ≠ .solverCompleted := by
  intro h
  have hclaim := h _ (Depot.takenOver_reachable.run Depot.overtaken_run)
  let read := Depot.secondRead (Depot.leased 2 1) ⟨.cancellationRequested, 3⟩ true false
  have hread : read ∈ Depot.overtaken.second := by decide +kernel
  have hnever := (hclaim.2 read hread rfl).2.2
  have hcompleted : ¬ ∀ run ∈ Depot.overtaken.runs.db.scheduleRun.rows, run.id = 102 →
      run.status ≠ .solverCompleted := by decide +kernel
  exact hcompleted hnever

end ShiftMind
