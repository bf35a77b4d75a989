import ShiftMind.Runs.Effects
import ShiftMind.UseCases.LeaseAndExecute

/-!
# ShiftMind — when a candidate is written

`finalize_run` writes a candidate in one transaction with the move of its run. What it raises is
either a matter of the other rows of the database, or of the candidate alone; in the second case
every attempt raises it again.

* **`insertCandidate_writable`**, **`finalizeRun_returns`** — a candidate is written exactly if it
  is `Writable`: what was written is, and what is will be, under a lease that stands and beside rows
  that leave room for it.
* **`finalizeRun_error`** — what leaves the transaction is a matter of the other rows, or the
  candidate's own refusal.
* **`finalizeRun_unwritable`** — the others are refused by every database, with an exception that
  the worker retries.
-/

namespace ShiftMind

open Relational Transactional ScheduleRunRepository

/-! ## What refuses a candidate

The digest, the checks of a row and the keys: each is a condition of its own. -/

/-- An assignment that fits its columns passes the check of its row. -/
theorem check_of_checkAssignment {siteId scheduleVersionId : Uuid} {a : AssignmentV1}
    (h : checkAssignment a = .ok ()) :
    check (⟨siteId, scheduleVersionId, a⟩ : ScheduleAssignmentRow) = true := by
  have hfits := checkAssignment_ok.mp h
  simp [check, hfits.start, hfits.interval]

/-- Nothing about the candidate itself refuses its rows. -/
structure ScheduleVersionV1.Writable (candidate : ScheduleVersionV1) : Prop where
  digest : ∀ x ∈ candidate.numbers, x.canonical = true
  columns : ∀ a ∈ candidate.assignments, a.FitsColumns
  distinct : (candidate.assignments.map AssignmentV1.recordId).Nodup

/-- What leaves a finalisation for a reason outside the candidate: the lease fence, a lost
compare-and-set, or a constraint that other rows have a part in. -/
def PyError.external : PyError → Bool
  | .staleLease _ | .runTransitionConflict _ => true
  | .integrityError constraint => constraint ≠ "ck_schedule_assignment_interval"
  | _ => false

/-! ## The rows of a candidate -/

theorem insertAssignment_ok {siteId scheduleVersionId : Uuid} {a : AssignmentV1} {db db' : Db}
    {u : Unit} (h : (insertAssignment siteId scheduleVersionId a).run db = (.ok u, db')) :
    checkAssignment a = .ok () ∧ ∃ t,
      db.scheduleAssignment.insert? ⟨siteId, scheduleVersionId, a⟩ = some t ∧
      db' = { db with scheduleAssignment := t } := by
  obtain ⟨u', db₁, hcheck, hinsert⟩ := Tx.bind_ok.mp h
  obtain ⟨hfits, rfl⟩ := Tx.lift_ok.mp hcheck
  obtain ⟨t, ht, rfl⟩ := Relvar.insertInto_ok.mp hinsert
  exact ⟨hfits, t, ht, rfl⟩

theorem insertAssignment_returns_iff {siteId scheduleVersionId : Uuid} {a : AssignmentV1}
    {db : Db} : (insertAssignment siteId scheduleVersionId a).Returns db ↔
      checkAssignment a = .ok () ∧ ∀ row ∈ db.scheduleAssignment,
        row.scheduleVersionId = scheduleVersionId → row.assignment.recordId ≠ a.recordId := by
  constructor
  · rintro ⟨u, db', h⟩
    obtain ⟨hfits, t, ht, -⟩ := insertAssignment_ok h
    refine ⟨hfits, fun row hrow hversion hrecord => ?_⟩
    have hfree := (Table.insert?_eq_some ht).2.1 row hrow
    simp [clash, hversion, hrecord] at hfree
  · rintro ⟨hfits, hfree⟩
    have hcheck : (Tx.lift (checkAssignment a) : DbTx Unit).run db = (.ok (), db) := by
      rw [Tx.run_lift, hfits]
    unfold insertAssignment
    rw [Tx.returns_bind_of_ok hcheck]
    refine Relvar.insertInto_returns.mpr ⟨check_of_checkAssignment hfits, fun row hrow => ?_⟩
    simpa [clash] using hfree row hrow

/-- **The assignments of a candidate** go in when each fits and no record identifier is taken, in
the table or by another of them. -/
theorem insertAssignments_returns_iff {siteId scheduleVersionId : Uuid}
    {assignments : List AssignmentV1} {db : Db} :
    (assignments.forM (insertAssignment siteId scheduleVersionId)).Returns db ↔
      (∀ a ∈ assignments, checkAssignment a = .ok ()) ∧
      (assignments.map AssignmentV1.recordId).Nodup ∧
      ∀ row ∈ db.scheduleAssignment, row.scheduleVersionId = scheduleVersionId →
        row.assignment.recordId ∉ assignments.map AssignmentV1.recordId := by
  induction assignments generalizing db with
  | nil => exact iff_of_true (.pure _ _) ⟨by simp, .nil, by simp⟩
  | cons a rest ih =>
    show Tx.Returns db (insertAssignment siteId scheduleVersionId a >>= fun _ =>
      rest.forM (insertAssignment siteId scheduleVersionId)) ↔ _
    rw [Tx.returns_bind, List.forall_mem_cons]
    simp only [List.map_cons, List.nodup_cons, List.mem_cons, not_or]
    constructor
    · rintro ⟨u, db₁, hfirst, hrest⟩
      obtain ⟨hfits, hfree⟩ := insertAssignment_returns_iff.mp ⟨u, db₁, hfirst⟩
      obtain ⟨-, t, ht, rfl⟩ := insertAssignment_ok hfirst
      obtain ⟨hfits', hdistinct, hfree'⟩ := ih.mp hrest
      -- the first row is there when the others are inserted
      have hnew := hfree' _ ((Table.mem_of_insert? ht).mpr (.inr rfl)) rfl
      refine ⟨⟨hfits, hfits'⟩, ⟨hnew, hdistinct⟩, fun row hrow hversion => ?_⟩
      exact ⟨hfree row hrow hversion,
        hfree' row ((Table.mem_of_insert? ht).mpr (.inl hrow)) hversion⟩
    · rintro ⟨⟨hfits, hfits'⟩, ⟨hnew, hdistinct⟩, hfree⟩
      obtain ⟨u, db₁, hfirst⟩ := insertAssignment_returns_iff.mpr
        ⟨hfits, fun row hrow hversion => (hfree row hrow hversion).1⟩
      refine ⟨u, db₁, hfirst, ?_⟩
      obtain ⟨-, t, ht, rfl⟩ := insertAssignment_ok hfirst
      refine ih.mpr ⟨hfits', hdistinct, fun row hrow hversion => ?_⟩
      rcases (Table.mem_of_insert? ht).mp hrow with hold | rfl
      · exact (hfree row hold hversion).2
      · exact hnew

/-- **What was written is writable.** -/
theorem insertCandidate_writable {runId siteId : Uuid} {candidate : ScheduleVersionV1} {db db' : Db}
    {u : Unit} (h : (insertCandidate runId siteId (some candidate)).run db = (.ok u, db')) :
    candidate.Writable := by
  obtain ⟨_, db₁, hdigest, h⟩ := Tx.bind_ok.mp h
  obtain ⟨_, db₂, -, h⟩ := Tx.bind_ok.mp h
  obtain ⟨_, db₃, -, hassignments⟩ := Tx.bind_ok.mp h
  obtain ⟨hcolumns, hdistinct, -⟩ := insertAssignments_returns_iff.mp ⟨u, db', hassignments⟩
  exact ⟨checkDigest_ok.mp (Tx.lift_ok.mp hdigest).1,
    fun a ha => checkAssignment_ok.mp (hcolumns a ha), hdistinct⟩

/-- A candidate that is not inserted is refused for itself, or by a constraint that other rows have
a part in. -/
theorem insertCandidate_error {runId siteId : Uuid} {candidate : ScheduleVersionV1} {db db' : Db}
    {e : PyError}
    (h : (insertCandidate runId siteId (some candidate)).run db = (.error e, db')) :
    (∃ constraint, e = .integrityError constraint ∧
      constraint ≠ "ck_schedule_assignment_interval") ∨
    checkDigest candidate = .error e ∨
      ∃ a ∈ candidate.assignments, checkAssignment a = .error e := by
  rcases Tx.bind_error.mp h with hdigest | ⟨_, db₁, -, h⟩
  · exact .inr (.inl (Prod.mk.inj hdigest).1)
  · rcases Tx.bind_error.mp h with hreferences | ⟨_, db₂, -, h⟩
    · unfold references at hreferences
      rw [Tx.run_read_bind, Tx.run_ite] at hreferences
      split at hreferences
      · cases hreferences
      · cases hreferences
        exact .inl ⟨_, rfl, by decide⟩
    · rcases Tx.bind_error.mp h with hversion | ⟨_, db₃, -, h⟩
      · obtain ⟨-, rfl, -⟩ := Relvar.insertInto_error.mp hversion
        exact .inl ⟨_, rfl, by decide⟩
      · obtain ⟨a, ha, t, t', hraised⟩ := Tx.forM_error h
        rcases Tx.bind_error.mp hraised with hcheck | ⟨_, t₁, -, hinsert⟩
        · exact .inr (.inr ⟨a, ha, (Prod.mk.inj hcheck).1⟩)
        · obtain ⟨-, rfl, -⟩ := Relvar.insertInto_error.mp hinsert
          exact .inl ⟨_, rfl, by decide⟩

/-! ## The statements around it -/

/-- The next sequence of a stream is above every sequence of the stream. -/
theorem lt_nextSequence {streamId : Uuid} {db : Db} {e : PersistedEventRow}
    (he : e ∈ db.persistedEvent) (hstream : e.streamId = streamId) :
    e.sequence < nextSequence streamId db := by
  have hmem : e.sequence ∈ (db.persistedEvent.rows.filter fun e => e.streamId = streamId).map
      PersistedEventRow.sequence :=
    List.mem_map.mpr ⟨e, List.mem_filter.mpr ⟨he, by simp [hstream]⟩, rfl⟩
  unfold nextSequence
  cases hmax : ((db.persistedEvent.rows.filter fun e => e.streamId = streamId).map
      PersistedEventRow.sequence).max? with
  | none =>
    rw [List.max?_eq_none_iff.mp hmax] at hmem
    cases hmem
  | some top =>
    have hle := (List.max?_eq_some_iff.mp hmax).2 e.sequence hmem
    show e.sequence < top + 1
    omega

theorem references_run {constraint : String} {present : Db → Bool} {db : Db}
    (h : present db = true) : (references constraint present).run db = (.ok (), db) := by
  unfold references
  rw [Tx.run_read_bind, h]
  rfl

/-- A lease that stands still stands when its job has been touched. -/
theorem hasCurrentEpoch_touched {runId siteId : Uuid} {fencingEpoch : Int} {db db' : Db}
    (hjobs : JobsTouched db db') (hleased : hasCurrentEpoch runId siteId fencingEpoch db = true) :
    hasCurrentEpoch runId siteId fencingEpoch db' = true := by
  obtain ⟨job, hjob, hsel⟩ := List.any_eq_true.mp hleased
  obtain ⟨job', hjob', htouched⟩ := hjobs.kept job hjob
  refine List.any_eq_true.mpr ⟨job', hjob', ?_⟩
  simpa [leasedAtEpoch, isJobOf, htouched.run, htouched.site, htouched.status, htouched.epoch]
    using hsel

/-- **The fence opens** for the lease that stands, and touches nothing but its job. -/
theorem claimEpoch_run (env : Ambient) {runId siteId : Uuid} {fencingEpoch : Int} {db : Db}
    (hleased : hasCurrentEpoch runId siteId fencingEpoch db = true) :
    ∃ t, (claimEpoch env runId siteId fencingEpoch).run db = (.ok (), { db with jobQueue := t }) ∧
      JobsTouched db { db with jobQueue := t } := by
  obtain ⟨job, hjob, hsel⟩ := List.any_eq_true.mp hleased
  -- two leases of one run and site are one job
  have hkey : ∀ a b, leasedAtEpoch runId siteId fencingEpoch a = true →
      leasedAtEpoch runId siteId fencingEpoch b = true → clash a b = true := by
    intro a b ha hb
    simp only [leasedAtEpoch, isJobOf, Bool.and_eq_true, decide_eq_true_eq] at ha hb
    simp [clash, ha.1.1.1.1, hb.1.1.1.1]
  -- the heartbeat changes neither key
  have hsame : ∀ row : JobLeaseV1, (if leasedAtEpoch runId siteId fencingEpoch row then
      { row with heartbeatAt := some env.now } else row).jobId = row.jobId ∧
      (if leasedAtEpoch runId siteId fencingEpoch row then
        { row with heartbeatAt := some env.now } else row).scheduleRunId = row.scheduleRunId := by
    intro row
    split
    · exact ⟨rfl, rfl⟩
    · exact ⟨rfl, rfl⟩
  obtain ⟨t, -, hupdate⟩ := Relvar.updateWhere_key Db.jobs (PyError.integrityError "job_queue")
    (fun row : JobLeaseV1 => { row with heartbeatAt := some env.now }) hkey hjob hsel
    (fun row hrow _ => db.jobQueue.checked row hrow)
    (fun a _ b _ h => by simpa [clash, hsame] using h)
  have hrun : (claimEpoch env runId siteId fencingEpoch).run db =
      (.ok (), { db with jobQueue := t }) := by
    unfold claimEpoch
    rw [Tx.run_bind_of_ok hupdate]
    rfl
  exact ⟨t, hrun, ((touchingWatch.claimEpoch env runId siteId fencingEpoch).led hrun).jobs⟩

/-- The fence stays shut with one of two exceptions. -/
theorem claimEpoch_error {env : Ambient} {runId siteId : Uuid} {fencingEpoch : Int} {db db' : Db}
    {e : PyError} (h : (claimEpoch env runId siteId fencingEpoch).run db = (.error e, db')) :
    (∃ message, e = .staleLease message) ∨ e = .integrityError "job_queue" := by
  unfold claimEpoch at h
  rcases Tx.bind_error.mp h with hupdate | ⟨touched, db₁, -, h⟩
  · exact .inr (Relvar.updateWhere_error.mp hupdate).2.1
  · rw [Tx.run_ite] at h
    split at h
    · cases h
    · rcases Tx.bind_error.mp h with hepoch | ⟨_, db₂, -, h⟩
      · cases hepoch
      · cases h; exact .inl ⟨_, rfl⟩

/-- The actor of a leased run is the one of its job. -/
theorem actorForRun_run {runId siteId : Uuid} {fencingEpoch : Int} {db : Db}
    (hleased : hasCurrentEpoch runId siteId fencingEpoch db = true) :
    ∃ actorId, (actorForRun runId siteId).run db = (.ok actorId, db) := by
  obtain ⟨job, hjob, hsel⟩ := List.any_eq_true.mp hleased
  unfold actorForRun
  rw [Tx.run_bind, Relvar.run_selectOne]
  dsimp only
  cases hfound : (Db.jobs.get db).find? (isJobOf runId siteId) with
  | some found => exact ⟨found.actorId, rfl⟩
  | none =>
    simp only [leasedAtEpoch, Bool.and_eq_true] at hsel
    have hnone := Table.find?_eq_none.mp hfound job hjob
    rw [hsel.1.1.1] at hnone
    cases hnone

/-- The event of a run is always free. -/
theorem writeProgressEvent_returns (env : Ambient) (runId siteId actorId : Uuid)
    (status : ScheduleRunStatus) (reason : Option String) (resourceVersion : Int) (requestId : Uuid)
    (db : Db) : (writeProgressEvent env runId siteId actorId status reason resourceVersion
      requestId).Returns db := by
  unfold writeProgressEvent
  rw [Tx.returns_bind_of_ok (Tx.run_read ..)]
  refine Relvar.insertInto_returns.mpr ⟨by simp [check], fun other hother => ?_⟩
  refine Bool.eq_false_iff.mpr fun hclash => ?_
  simp only [clash, Bool.and_eq_true, decide_eq_true_eq] at hclash
  have hlt := lt_nextSequence hother hclash.1
  rw [hclash.2] at hlt
  exact absurd hlt (lt_irrefl _)

/-! ## The finalisation of a completed run -/

/-- The lease stands, its run is under way, and no row has the identifier of the new version. -/
structure Finalisable (runId siteId : Uuid) (fencingEpoch : Int) (scheduleVersionId : Uuid)
    (db : Db) : Prop where
  leased : hasCurrentEpoch runId siteId fencingEpoch db = true
  running : ∃ run ∈ db.scheduleRun, isRun runId siteId run = true ∧
    (run.status = .solverRunning ∨ run.status = .cancellationRequested)
  version : ∀ v ∈ db.scheduleVersion, v.id ≠ scheduleVersionId ∧ v.scheduleRunId ≠ runId
  assignments : ∀ row ∈ db.scheduleAssignment, row.scheduleVersionId ≠ scheduleVersionId

/-- A writable candidate of a solver that found one goes in. -/
theorem insertCandidate_returns {runId siteId : Uuid} {candidate : ScheduleVersionV1} {db : Db}
    (hwritable : candidate.Writable) (hsolved : candidate.feasibleSolverStatus = .optimal ∨
      candidate.feasibleSolverStatus = .feasible)
    (hrun : ∃ run ∈ db.scheduleRun, isRun runId siteId run = true)
    (hversion : ∀ v ∈ db.scheduleVersion, v.id ≠ candidate.scheduleVersionId ∧
      v.scheduleRunId ≠ runId)
    (hassignments : ∀ row ∈ db.scheduleAssignment,
      row.scheduleVersionId ≠ candidate.scheduleVersionId) :
    (insertCandidate runId siteId (some candidate)).Returns db := by
  have hdigest : (Tx.lift (checkDigest candidate) : DbTx Unit).run db = (.ok (), db) := by
    rw [Tx.run_lift, checkDigest_ok.mpr hwritable.digest]
  unfold insertCandidate
  rw [Tx.returns_bind_of_ok hdigest,
    Tx.returns_bind_of_ok (references_run (List.any_eq_true.mpr hrun)), Tx.returns_bind]
  -- the version passes its check and meets no other of its keys
  have hinsert : Tx.Returns db (Db.scheduleVersions.insertInto
      (PyError.integrityError "uq_schedule_version_run")
      { id := candidate.scheduleVersionId
        siteId := siteId
        scheduleRunId := runId
        proposalId := candidate.proposalId
        proposalVersionId := candidate.proposalVersionId
        solverStatus := candidate.feasibleSolverStatus
        payload := candidate
        createdAt := candidate.createdAt }) := by
    refine Relvar.insertInto_returns.mpr ⟨?_, fun v hv => ?_⟩
    · simpa [check] using hsolved
    · simpa [clash] using hversion v hv
  obtain ⟨u, db₁, hinsert⟩ := hinsert
  refine ⟨u, db₁, hinsert, ?_⟩
  obtain ⟨t, -, rfl⟩ := Relvar.insertInto_ok.mp hinsert
  -- the assignments are new under it, and apart from one another
  refine insertAssignments_returns_iff.mpr
    ⟨fun a ha => checkAssignment_ok.mpr (hwritable.columns a ha), hwritable.distinct, ?_⟩
  exact fun row hrow heq => absurd heq (hassignments row hrow)

/-- **A writable candidate is written** wherever its run can be finalised. -/
theorem finalizeRun_returns (env : Ambient) {runId siteId : Uuid} {fencingEpoch : Int}
    {candidate : ScheduleVersionV1} {db : Db} (hwritable : candidate.Writable)
    (hsolved : candidate.feasibleSolverStatus = .optimal ∨
      candidate.feasibleSolverStatus = .feasible)
    (hready : Finalisable runId siteId fencingEpoch candidate.scheduleVersionId db)
    (reason : Option String) (finishedAt : Option Instant) (requestId : Option Uuid) :
    (finalizeRun env runId siteId fencingEpoch .solverCompleted reason (some candidate) finishedAt
      requestId).Returns db := by
  obtain ⟨run, hmem, hrun, hstatus⟩ := hready.running
  obtain ⟨jobs, hclaim, htouched⟩ := claimEpoch_run env hready.leased
  -- the epoch is claimed, and then the candidate's rows fit
  have hreturns : (insertCandidate runId siteId (some candidate)).Returns
      { db with jobQueue := jobs } :=
    insertCandidate_returns hwritable hsolved ⟨run, hmem, hrun⟩ hready.version hready.assignments
  obtain ⟨u, db₁, hinsert⟩ := hreturns
  have hframe := insertCandidate_ok hinsert
  have hcurrent : hasCurrentEpoch runId siteId fencingEpoch db₁ = true :=
    hasCurrentEpoch_touched (htouched.trans hframe.jobs) hready.leased
  unfold finalizeRun
  rw [if_neg (by simp [ScheduleRunStatus.terminal]), Tx.returns_bind_of_ok hclaim,
    Tx.returns_bind_of_ok hinsert, Tx.returns_bind_of_ok (Tx.run_read ..), hcurrent]
  -- the update is of one run, by its key
  have hkey : ∀ a b : ScheduleRunRow,
      (isRun runId siteId a &&
        (finalizeExpectedStatuses .solverCompleted).contains a.status && true) = true →
      (isRun runId siteId b &&
        (finalizeExpectedStatuses .solverCompleted).contains b.status && true) = true →
      clash a b = true := by
    intro a b ha hb
    simp only [isRun, Bool.and_eq_true, decide_eq_true_eq] at ha hb
    simp [clash, ha.1.1.1, hb.1.1.1]
  have hsel : (isRun runId siteId run &&
      (finalizeExpectedStatuses .solverCompleted).contains run.status && true) = true := by
    rw [hrun]
    cases hstatus with
    | inl h => rw [h]; rfl
    | inr h => rw [h]; rfl
  obtain ⟨runs, -, hupdate⟩ := Relvar.updateWhere_key Db.scheduleRuns
    (PyError.integrityError "ck_schedule_run_candidate_completed")
    (fun row : ScheduleRunRow =>
      { row with
        status := .solverCompleted
        reason := reason
        candidateScheduleVersionId := some candidate.scheduleVersionId
        resourceVersion := row.resourceVersion + 1
        finishedAt := some candidate.createdAt })
    hkey (s := db₁) (by rw [Db.scheduleRuns_get, hframe.runs]; exact hmem) hsel
    (fun _ _ _ => by simp [check])
    (fun a _ b _ h => by
      revert h
      split <;> split <;> exact id)
  refine (Tx.returns_bind_of_ok hupdate).mpr ?_
  have hactor : ∃ actorId, (actorForRun runId siteId).run (Db.scheduleRuns.put runs db₁) =
      (.ok actorId, Db.scheduleRuns.put runs db₁) := actorForRun_run hcurrent
  obtain ⟨actorId, hactor⟩ := hactor
  exact (Tx.returns_bind_of_ok hactor).mpr (writeProgressEvent_returns ..)

theorem raiseTransitionFailure_error {α : Type} {runId siteId : Uuid} {fencingEpoch : Int}
    {expected : String} {target : ScheduleRunStatus} {db db' : Db} {e : PyError}
    (htarget : target ≠ .solverCancelled)
    (h : (raiseTransitionFailure runId siteId fencingEpoch expected target : DbTx α).run db =
      (.error e, db')) : e.external = true := by
  rcases Tx.bind_error.mp h with hepoch | ⟨current, db₁, -, h⟩
  · cases hepoch
  · rw [Tx.run_ite] at h
    split at h
    · cases h; rfl
    · rcases Tx.bind_error.mp h with hstate | ⟨state, db₂, -, h⟩
      · cases hstate
      · rw [Tx.run_ite, if_neg fun hboth => htarget hboth.2] at h
        cases h
        rfl

/-- **What leaves the transaction of a completed run** is a matter of other rows, or what the
insert of its candidate raised. -/
theorem finalizeRun_error {env : Ambient} {runId siteId : Uuid} {fencingEpoch : Int}
    {reason : Option String} {candidate : ScheduleVersionV1} {finishedAt : Option Instant}
    {requestId : Option Uuid} {db db' : Db} {e : PyError}
    (h : (finalizeRun env runId siteId fencingEpoch .solverCompleted reason (some candidate)
      finishedAt requestId).run db = (.error e, db')) :
    e.external = true ∨ checkDigest candidate = .error e ∨
      ∃ a ∈ candidate.assignments, checkAssignment a = .error e := by
  unfold finalizeRun at h
  rw [if_neg (by simp [ScheduleRunStatus.terminal])] at h
  rcases Tx.bind_error.mp h with hclaim | ⟨_, db₁, -, h⟩
  · rcases claimEpoch_error hclaim with ⟨message, rfl⟩ | rfl
    · exact .inl rfl
    · exact .inl (by decide)
  rcases Tx.bind_error.mp h with hinsert | ⟨_, db₂, -, h⟩
  · rcases insertCandidate_error hinsert with ⟨constraint, rfl, hne⟩ | hself
    · exact .inl (by simpa [PyError.external] using hne)
    · exact .inr hself
  refine .inl ?_
  rw [Tx.run_read_bind] at h
  rcases Tx.bind_error.mp h with hupdate | ⟨rows, db₃, hupdate, h⟩
  · obtain ⟨-, rfl, -⟩ := Relvar.updateWhere_error.mp hupdate
    decide +kernel
  cases rows with
  | nil => exact raiseTransitionFailure_error (by decide) h
  | cons row rest =>
    rcases Tx.bind_error.mp h with hactor | ⟨actorId, db₄, -, h⟩
    · -- the update found the lease standing, so the run has a job
      obtain ⟨old, hsel, -, -, -, hframe⟩ := updateRun_ok runId siteId
        (fun row hrow => by
          simp only [Bool.and_eq_true] at hrow; exact hrow.1.1) hupdate
      simp only [Bool.and_eq_true] at hsel
      have hcurrent : hasCurrentEpoch runId siteId fencingEpoch db₃ = true := by
        rw [hframe]; exact hsel.2
      obtain ⟨actorId, hfound⟩ := actorForRun_run hcurrent
      rw [hfound] at hactor
      cases hactor
    · unfold writeProgressEvent at h
      rw [Tx.run_read_bind] at h
      obtain ⟨-, rfl, -⟩ := Relvar.insertInto_error.mp h
      decide +kernel

/-- A candidate that can be written is stopped by nothing of its own. -/
theorem external_of_writable {env : Ambient} {runId siteId : Uuid} {fencingEpoch : Int}
    {reason : Option String} {candidate : ScheduleVersionV1} {finishedAt : Option Instant}
    {requestId : Option Uuid} {db db' : Db} {e : PyError} (hwritable : candidate.Writable)
    (h : (finalizeRun env runId siteId fencingEpoch .solverCompleted reason (some candidate)
      finishedAt requestId).run db = (.error e, db')) : e.external = true := by
  rcases finalizeRun_error h with hexternal | hdigest | ⟨a, ha, hcheck⟩
  · exact hexternal
  · rw [checkDigest_ok.mpr hwritable.digest] at hdigest
    cases hdigest
  · rw [checkAssignment_ok.mpr (hwritable.columns a ha)] at hcheck
    cases hcheck

/-- **A candidate that is not writable is never written**: whatever the database holds, the
transaction raises, and not because its run has moved. -/
theorem finalizeRun_unwritable (env : Ambient) {runId siteId : Uuid} {fencingEpoch : Int}
    {candidate : ScheduleVersionV1} (hunwritable : ¬ candidate.Writable) (reason : Option String)
    (finishedAt : Option Instant) (requestId : Option Uuid) (db : Db) :
    ∃ e db', (finalizeRun env runId siteId fencingEpoch .solverCompleted reason (some candidate)
      finishedAt requestId).run db = (.error e, db') ∧ fatalExecutionError e = false := by
  unfold finalizeRun
  rw [if_neg (by simp [ScheduleRunStatus.terminal])]
  -- the fence may refuse first
  cases hclaim : (claimEpoch env runId siteId fencingEpoch).run db with
  | mk r db₁ =>
    cases r with
    | error e =>
      refine ⟨e, db₁, Tx.run_bind_of_error hclaim, ?_⟩
      rcases claimEpoch_error hclaim with ⟨message, rfl⟩ | rfl
      · rfl
      · rfl
    | ok u =>
      rw [Tx.run_bind_of_ok hclaim]
      cases hinsert : (insertCandidate runId siteId (some candidate)).run db₁ with
      | mk r db₂ =>
        cases r with
        -- an insert that goes through was of a writable candidate
        | ok u => exact absurd (insertCandidate_writable hinsert) hunwritable
        | error e =>
          refine ⟨e, db₂, Tx.run_bind_of_error hinsert, ?_⟩
          -- none of the ways to refuse it is fatal to the worker
          rcases insertCandidate_error hinsert with ⟨constraint, rfl, -⟩ | hdigest | ⟨a, -, hcheck⟩
          · rfl
          · obtain ⟨message, rfl⟩ := checkDigest_error hdigest
            rfl
          · rcases checkAssignment_error hcheck with ⟨message, rfl⟩ | rfl
            · rfl
            · rfl

end ShiftMind
