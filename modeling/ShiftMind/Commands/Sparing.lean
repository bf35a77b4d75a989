import ShiftMind.Runs.Closing

/-!
# ShiftMind — what the workers spare

A worker's transactions write runs, candidates, events and jobs. They store no receipt and touch no
draft, they neither open a run nor ask for a cancellation, and a job whose cancellation was asked
for keeps its flag.

* **`RecordsKept`** — receipts, drafts and scenarios are as they were.
* **`Spared`** — with it, the flags stay raised, no run or job is new, and no run is newly asked to
  stop.
* **`spareRegime`** — every transaction of a worker spares; so does a lease
  (`leaseNextJob_spared`).
-/

namespace ShiftMind

open Relational Transactional ScheduleRunRepository

/-! ## Receipts and drafts -/

structure RecordsKept (db db' : Db) : Prop where
  receipts : db'.commandIdempotency = db.commandIdempotency
  drafts : db'.proposal = db.proposal
  versions : db'.proposalVersion = db.proposalVersion
  scenarios : db'.scenarioVersion = db.scenarioVersion

theorem RecordsKept.refl (db : Db) : RecordsKept db db := ⟨rfl, rfl, rfl, rfl⟩

theorem RecordsKept.trans (db db' db'' : Db) (h : RecordsKept db db') (h' : RecordsKept db' db'') :
    RecordsKept db db'' :=
  ⟨h'.receipts.trans h.receipts, h'.drafts.trans h.drafts, h'.versions.trans h.versions,
    h'.scenarios.trans h.scenarios⟩

theorem recordsKept_still {α : Type} {x : DbTx α} (hx : x.Still) : x.Follows RecordsKept :=
  .of_still RecordsKept.refl hx

theorem recordsKept_updateJobs (violation : PyError) (sel : JobLeaseV1 → Bool)
    (set : JobLeaseV1 → JobLeaseV1) :
    (Db.jobs.updateWhere violation sel set).Follows RecordsKept :=
  Relvar.updateWhere_follows RecordsKept.refl (fun _ _ => ⟨rfl, rfl, rfl, rfl⟩) ..

theorem recordsKept_updateRuns (violation : PyError) (sel : ScheduleRunRow → Bool)
    (set : ScheduleRunRow → ScheduleRunRow) :
    (Db.scheduleRuns.updateWhere violation sel set).Follows RecordsKept :=
  Relvar.updateWhere_follows RecordsKept.refl (fun _ _ => ⟨rfl, rfl, rfl, rfl⟩) ..

theorem writeProgressEvent_kept (env : Ambient) (runId siteId actorId : Uuid)
    (status : ScheduleRunStatus) (reason : Option String) (resourceVersion : Int)
    (requestId : Uuid) :
    (writeProgressEvent env runId siteId actorId status reason resourceVersion
      requestId).Follows RecordsKept :=
  .bind RecordsKept.trans (recordsKept_still (.read _)) fun _ =>
    Relvar.insertInto_follows RecordsKept.refl (fun _ _ => ⟨rfl, rfl, rfl, rfl⟩) ..

theorem claimEpoch_kept (env : Ambient) (runId siteId : Uuid) (fencingEpoch : Int) :
    (claimEpoch env runId siteId fencingEpoch).Follows RecordsKept := by
  refine .bind RecordsKept.trans (recordsKept_updateJobs ..) fun touched => ?_
  refine .ite (fun _ => recordsKept_still (.pure _)) fun _ => ?_
  exact recordsKept_still (.bind (jobEpoch_still ..) fun _ => .throw _)

/-- What a worker's move of a run does after the update. -/
theorem eventByActor_kept (env : Ambient) (runId siteId : Uuid) (status : ScheduleRunStatus)
    (reason : Option String) (resourceVersion : Int) (requestId : Uuid) :
    (do
      let actorId ← actorForRun runId siteId
      writeProgressEvent env runId siteId actorId status reason resourceVersion requestId :
        DbTx Unit).Follows RecordsKept :=
  .bind RecordsKept.trans (recordsKept_still (actorForRun_still ..)) fun _ =>
    writeProgressEvent_kept ..

theorem markRunning_kept (env : Ambient) (runId siteId : Uuid) (fencingEpoch : Int)
    (requestId : Option Uuid) :
    (markRunning env runId siteId fencingEpoch requestId).Follows RecordsKept := by
  refine .bind RecordsKept.trans (claimEpoch_kept ..) fun _ => ?_
  refine .bind RecordsKept.trans (recordsKept_still (.read _)) fun _ => ?_
  refine .bind RecordsKept.trans (recordsKept_updateRuns ..) fun rows => ?_
  cases rows with
  | nil => exact recordsKept_still (raiseTransitionFailure_still ..)
  | cons row rest => exact eventByActor_kept ..

theorem insertAssignment_kept (siteId scheduleVersionId : Uuid) (a : AssignmentV1) :
    (insertAssignment siteId scheduleVersionId a).Follows RecordsKept :=
  .bind RecordsKept.trans (recordsKept_still (.lift _)) fun _ =>
    Relvar.insertInto_follows RecordsKept.refl (fun _ _ => ⟨rfl, rfl, rfl, rfl⟩) ..

theorem insertCandidate_kept (runId siteId : Uuid) (candidate : Option ScheduleVersionV1) :
    (insertCandidate runId siteId candidate).Leads RecordsKept := by
  cases candidate with
  | none => exact .of_still RecordsKept.refl (.pure _)
  | some candidate =>
    refine .bind RecordsKept.trans (.of_still RecordsKept.refl (.lift _)) fun _ => ?_
    refine .bind RecordsKept.trans (.of_still RecordsKept.refl (references_still ..)) fun _ => ?_
    refine .bind RecordsKept.trans (Relvar.insertInto_follows RecordsKept.refl
      (fun _ _ => ⟨rfl, rfl, rfl, rfl⟩) ..).leads fun _ => ?_
    exact .forM RecordsKept.refl RecordsKept.trans (fun a => (insertAssignment_kept _ _ a).leads) _

theorem finalizeRun_kept (env : Ambient) (runId siteId : Uuid) (fencingEpoch : Int)
    (status : ScheduleRunStatus) (reason : Option String) (candidate : Option ScheduleVersionV1)
    (finishedAt : Option Instant) (requestId : Option Uuid) :
    (finalizeRun env runId siteId fencingEpoch status reason candidate finishedAt
      requestId).Leads RecordsKept := by
  refine .ite (fun _ => .throw _) fun _ => ?_
  refine .bind RecordsKept.trans (claimEpoch_kept ..).leads fun _ => ?_
  refine .bind RecordsKept.trans (insertCandidate_kept ..) fun _ => ?_
  refine .bind RecordsKept.trans (recordsKept_still (.read _)).leads fun _ => ?_
  refine .bind RecordsKept.trans (recordsKept_updateRuns ..).leads fun rows => ?_
  cases rows with
  | nil => exact (recordsKept_still (raiseTransitionFailure_still ..)).leads
  | cons row rest => exact (eventByActor_kept ..).leads

theorem cancelTransition_kept (env : Ambient) (runId siteId actorId : Uuid)
    (expectedResourceVersion : Int) (expectedStatus status : ScheduleRunStatus) (reason : String)
    (terminal : Bool) :
    (cancelTransition env runId siteId actorId expectedResourceVersion expectedStatus status reason
      terminal).Follows RecordsKept := by
  refine .bind RecordsKept.trans (recordsKept_updateRuns ..) fun rows => ?_
  cases rows with
  | nil => exact recordsKept_still (.throw _)
  | cons row rest => exact writeProgressEvent_kept ..

/-! ## Runs and flags -/

/-- The job of the run has its cancellation flag raised. -/
def Db.Flagged (db : Db) (runId siteId : Uuid) : Prop :=
  ∃ job ∈ db.jobQueue, isJobOf runId siteId job = true ∧ job.cancellationRequested = true

theorem isJobOf_of_same {a b : JobLeaseV1} {runId siteId : Uuid}
    (hrun : b.scheduleRunId = a.scheduleRunId) (hsite : b.siteId = a.siteId)
    (h : isJobOf runId siteId a = true) : isJobOf runId siteId b = true := by
  unfold isJobOf at *
  rw [hrun, hsite]
  exact h

theorem JobsTouched.flagged {db db' : Db} (h : JobsTouched db db') {runId siteId : Uuid}
    (hflagged : db.Flagged runId siteId) : db'.Flagged runId siteId := by
  obtain ⟨job, hjob, hsel, hflag⟩ := hflagged
  obtain ⟨job', hjob', htouched⟩ := h.kept job hjob
  exact ⟨job', hjob', isJobOf_of_same htouched.run htouched.site hsel, htouched.flag hflag⟩

/-- No job is new. -/
def JobsFrom (db db' : Db) : Prop :=
  ∀ job' ∈ db'.jobQueue, ∃ job ∈ db.jobQueue, job.jobId = job'.jobId ∧
    job.scheduleRunId = job'.scheduleRunId ∧ job.siteId = job'.siteId

theorem JobsFrom.refl (db : Db) : JobsFrom db db := fun job hjob => ⟨job, hjob, rfl, rfl, rfl⟩

theorem JobsTouched.jobsFrom {db db' : Db} (h : JobsTouched db db') : JobsFrom db db' := by
  intro job' hjob'
  obtain ⟨job, hjob, htouched⟩ := h.only job' hjob'
  exact ⟨job, hjob, htouched.jobId.symm, htouched.run.symm, htouched.site.symm⟩

theorem jobsFrom_of_update {db : Db} {t : Table JobLeaseV1} {sel : JobLeaseV1 → Bool}
    {set : JobLeaseV1 → JobLeaseV1} (ht : db.jobQueue.update? sel set = some t)
    (hid : ∀ job, (set job).jobId = job.jobId)
    (hrun : ∀ job, (set job).scheduleRunId = job.scheduleRunId)
    (hsite : ∀ job, (set job).siteId = job.siteId) : JobsFrom db (Db.jobs.put t db) := by
  intro job' hjob'
  obtain ⟨job, hjob, rfl⟩ := (Table.mem_of_update? ht).mp hjob'
  refine ⟨job, hjob, ?_⟩
  split
  · exact ⟨(hid job).symm, (hrun job).symm, (hsite job).symm⟩
  · exact ⟨rfl, rfl, rfl⟩

/-- An update of jobs that keeps the flag, and what a job is of, keeps every raised flag. -/
theorem flagged_of_update {db : Db} {t : Table JobLeaseV1} {sel : JobLeaseV1 → Bool}
    {set : JobLeaseV1 → JobLeaseV1} (ht : db.jobQueue.update? sel set = some t)
    (hrun : ∀ job, (set job).scheduleRunId = job.scheduleRunId)
    (hsite : ∀ job, (set job).siteId = job.siteId)
    (hflag : ∀ job, (set job).cancellationRequested = job.cancellationRequested)
    {runId siteId : Uuid} (h : db.Flagged runId siteId) :
    (Db.jobs.put t db).Flagged runId siteId := by
  obtain ⟨job, hjob, hsel, hraised⟩ := h
  refine ⟨if sel job then set job else job, (Table.mem_of_update? ht).mpr ⟨job, hjob, rfl⟩, ?_⟩
  split
  · exact ⟨isJobOf_of_same (hrun job) (hsite job) hsel, (hflag job).trans hraised⟩
  · exact ⟨hsel, hraised⟩

/-- What a worker's transaction leaves alone. -/
structure Spared (db db' : Db) : Prop extends RecordsKept db db' where
  flags : ∀ runId siteId, db.Flagged runId siteId → db'.Flagged runId siteId
  runs : ∀ run' ∈ db'.scheduleRun, ∃ run ∈ db.scheduleRun,
    run.id = run'.id ∧ run.siteId = run'.siteId
  asked : ∀ run' ∈ db'.scheduleRun, run'.status = .cancellationRequested → run' ∈ db.scheduleRun
  jobs : JobsFrom db db'

theorem Spared.of_runs {db db' : Db} (hkept : RecordsKept db db')
    (hruns : db'.scheduleRun = db.scheduleRun) (hjobs : JobsFrom db db')
    (hflags : ∀ runId siteId, db.Flagged runId siteId → db'.Flagged runId siteId) :
    Spared db db' := by
  refine ⟨hkept, hflags, fun run hrun => ?_, fun run hrun _ => ?_, hjobs⟩
  · rw [hruns] at hrun
    exact ⟨run, hrun, rfl, rfl⟩
  · rwa [hruns] at hrun

theorem Spared.refl (db : Db) : Spared db db :=
  .of_runs (.refl db) rfl (.refl db) fun _ _ h => h

theorem Spared.trans (db db' db'' : Db) (h : Spared db db') (h' : Spared db' db'') :
    Spared db db'' := by
  refine ⟨h.toRecordsKept.trans _ _ _ h'.toRecordsKept,
    fun runId siteId hflagged => h'.flags _ _ (h.flags _ _ hflagged), fun run'' hrun'' => ?_,
    fun run hrun hstatus => h.asked run (h'.asked run hrun hstatus) hstatus, fun job'' hjob'' => ?_⟩
  · obtain ⟨run', hrun', hid', hsite'⟩ := h'.runs run'' hrun''
    obtain ⟨run, hrun, hid, hsite⟩ := h.runs run' hrun'
    exact ⟨run, hrun, hid.trans hid', hsite.trans hsite'⟩
  · obtain ⟨job', hjob', hid', hrun', hsite'⟩ := h'.jobs job'' hjob''
    obtain ⟨job, hjob, hid, hrun, hsite⟩ := h.jobs job' hjob'
    exact ⟨job, hjob, hid.trans hid', hrun.trans hrun', hsite.trans hsite'⟩

/-- A move of a run to another status than `cancellation_requested`. -/
theorem Spared.of_moved {runId siteId : Uuid} {status : ScheduleRunStatus} {db db' : Db}
    (hstatus : status ≠ .cancellationRequested) (hkept : RecordsKept db db')
    (h : RunMoved runId siteId status db db') : Spared db db' := by
  refine ⟨hkept, fun _ _ => h.jobs.flagged, fun run hrun => ?_, fun run hrun hasked => ?_,
    h.jobs.jobsFrom⟩
  · obtain ⟨old, new, -, -, hreplaced, hmoved, -⟩ := h.moved
    cases (hreplaced.mem_iff run).mp hrun with
    | inl hnew => exact ⟨old, hreplaced.mem_old, by rw [hnew, hmoved.id], by rw [hnew, hmoved.site]⟩
    | inr hold => exact ⟨run, hold.1, rfl, rfl⟩
  · cases h.other hrun with
    | inl hold => exact hold
    | inr hmoved => exact absurd (hmoved.2.symm.trans hasked) hstatus

/-! ## The regime

A transaction that spares the commands keeps their records and lowers no flag. -/

theorem closeJob_spared (env : Ambient) (closed : JobStatus) (jobId siteId : Uuid)
    (fencingEpoch : Int) : (closeJob env closed jobId siteId fencingEpoch).Leads Spared := by
  refine .bind Spared.trans ⟨fun {db rows db'} h => ?_⟩ fun rows => ?_
  · obtain ⟨t, ht, rfl, -⟩ := Relvar.updateWhere_ok.mp h
    exact .of_runs ⟨rfl, rfl, rfl, rfl⟩ rfl
      (jobsFrom_of_update ht (fun _ => rfl) (fun _ => rfl) fun _ => rfl) fun _ _ =>
      flagged_of_update ht (fun _ => rfl) (fun _ => rfl) fun _ => rfl
  · refine .ite (fun _ => .of_still Spared.refl (.pure _)) fun _ => ?_
    refine .bind Spared.trans (.of_still Spared.refl (Relvar.still_selectOne ..)) fun job => ?_
    exact .ite (fun _ => .throw _) fun _ => .throw _

theorem finalizeRun_spared (env : Ambient) (runId siteId : Uuid) (fencingEpoch : Int)
    (status : ScheduleRunStatus) (reason : Option String) (candidate : Option ScheduleVersionV1)
    (finishedAt : Option Instant) (requestId : Option Uuid)
    (hcandidate : status = .solverCompleted → candidate.isSome = true) :
    (finalizeRun env runId siteId fencingEpoch status reason candidate finishedAt
      requestId).Leads Spared := by
  by_cases hasked : status = .cancellationRequested
  · -- no run is finalised to a status that is not terminal
    subst hasked
    exact .ite (fun _ => .throw _) fun hterminal => absurd rfl hterminal
  · exact ⟨fun h => .of_moved hasked ((finalizeRun_kept ..).led h)
      ((finalizeRun_moved _ _ _ _ _ _ _ _ _ hcandidate).led h)⟩

/-- **A worker's transactions spare** the receipts, the drafts and the flags. -/
theorem spareRegime : SolverRegime Spared Spared where
  refl := Spared.refl
  trans := Spared.trans
  effect := fun _ _ => id
  after := Spared.trans
  before := Spared.trans
  touchJobs := fun violation sel set hset => ⟨fun h => by
    have htouching := (touching_touchJobs violation sel hset).led h
    exact .of_runs ((recordsKept_updateJobs violation sel set).followed h)
      (congrArg RunTables.runs htouching.tables) htouching.jobs.jobsFrom fun _ _ =>
      htouching.jobs.flagged⟩
  closeJob := closeJob_spared
  markRunning := fun _ _ _ _ _ => ⟨fun h => .of_moved (by decide) ((markRunning_kept ..).followed h)
    ((markRunning_moved ..).led h)⟩
  finalizeRun := fun _ _ _ _ _ _ _ _ hstatus =>
    finalizeRun_spared _ _ _ _ _ _ _ _ _ fun h => absurd h hstatus
  finalizeCandidate := finalizeRun_spared

theorem leaseNextJob_spared (env : Ambient) (locked : JobLeaseV1 → Bool) (leaseOwner : String)
    (leaseSeconds : Int) : (leaseNextJob env locked leaseOwner leaseSeconds).Leads Spared := by
  refine .ite (fun _ => .throw _) fun _ => .ite (fun _ => .throw _) fun _ => ?_
  refine .bind Spared.trans (.of_still Spared.refl (.read _)) fun candidates => ?_
  cases candidates with
  | nil => exact .of_still Spared.refl (.pure _)
  | cons next rest =>
    refine .bind Spared.trans ⟨fun {db rows db'} h => ?_⟩ fun _ => .of_still Spared.refl (.pure _)
    obtain ⟨t, ht, rfl, -⟩ := Relvar.updateWhere_ok.mp h
    exact .of_runs ⟨rfl, rfl, rfl, rfl⟩ rfl
      (jobsFrom_of_update ht (fun _ => rfl) (fun _ => rfl) fun _ => rfl) fun _ _ =>
      flagged_of_update ht (fun _ => rfl) (fun _ => rfl) fun _ => rfl

end ShiftMind
