import ShiftMind.Commands.Receipts

/-!
# ShiftMind — a cancellation and its receipt

A cancel command reads its run and its receipt without a lock, and may come to its write phase long
after. What it finds there depends on what the other requests have done in between.

* **`Db.Stopped`** — the run of a carried-out cancellation: it is no longer solved, and its job is
  flagged.
* **`Db.Asked`** — what an observed `cancellation_requested` has become.
* **`CancelSession.Sound`** — what is true of an admitted command at any later state.
* **`cancelWrite_written`** — the three ways a write phase ends.
* **`cancelWrite_replays`** — a command whose key has a receipt by then writes nothing.
-/

namespace ShiftMind

open Relational Transactional ScheduleRunRepository

/-! ## The run and its job -/

theorem isJobOf_iff {runId siteId : Uuid} {job : JobLeaseV1} :
    isJobOf runId siteId job = true ↔ job.scheduleRunId = runId ∧ job.siteId = siteId := by
  simp [isJobOf]

theorem isRun_iff {runId siteId : Uuid} {run : ScheduleRunRow} :
    isRun runId siteId run = true ↔ run.id = runId ∧ run.siteId = siteId := by
  simp [isRun]

theorem eq_of_isRun {t : Table ScheduleRunRow} {runId siteId : Uuid} {a b : ScheduleRunRow}
    (ha : a ∈ t) (hb : b ∈ t) (hselA : isRun runId siteId a = true)
    (hselB : isRun runId siteId b = true) : a = b := by
  rw [isRun_iff] at hselA hselB
  exact Table.eq_of_clash ha hb (by simp [clash, hselA.1, hselB.1])

theorem clash_of_isJobOf (runId siteId : Uuid) (a b : JobLeaseV1)
    (ha : isJobOf runId siteId a = true) (hb : isJobOf runId siteId b = true) :
    clash a b = true := by
  rw [isJobOf_iff] at ha hb
  simp [clash, ha.1, hb.1]

/-- A run has one job, so a flagged run has no other. -/
theorem Db.Flagged.all {db : Db} {runId siteId : Uuid} (h : db.Flagged runId siteId) :
    ∀ job ∈ db.jobQueue, isJobOf runId siteId job = true → job.cancellationRequested = true := by
  intro job hjob hsel
  obtain ⟨flagged, hflagged, hselFlagged, hraised⟩ := h
  have hone : job = flagged :=
    Table.eq_of_clash hjob hflagged (clash_of_isJobOf _ _ _ _ hsel hselFlagged)
  rw [hone]
  exact hraised

/-- The flag reads as raised. -/
theorem Db.Flagged.read {db : Db} {runId siteId : Uuid} (h : db.Flagged runId siteId) :
    (getJobCancellationRequested runId siteId).run db = (.ok true, db) := by
  obtain ⟨job, hjob, hsel, hraised⟩ := h
  have hfind : db.jobQueue.find? (isJobOf runId siteId) = some job :=
    Table.find?_of_mem hjob hsel (clash_of_isJobOf _ _)
  unfold getJobCancellationRequested
  rw [Tx.run_bind, Relvar.run_selectOne, Db.jobs_get, hfind]
  simp [hraised]

/-- **The run was cancelled**: it is no longer queued or running, and its job is flagged. -/
structure Db.Stopped (db : Db) (runId siteId : Uuid) : Prop where
  run : db.RunAt runId siteId fun status => status.solvable = false
  flagged : db.Flagged runId siteId

/-- The run was seen at `cancellation_requested`, at this version: it still is, or it ended next. -/
def Db.Asked (db : Db) (runId siteId : Uuid) (version : Int) : Prop :=
  ∃ run ∈ db.scheduleRun, isRun runId siteId run = true ∧
    ((run.status = .cancellationRequested ∧ run.resourceVersion = version) ∨
      (run.status.terminal = true ∧ run.resourceVersion = version + 1))

theorem Edge.of_asked {status : ScheduleRunStatus} (h : Edge .cancellationRequested status) :
    status.terminal = true := by
  revert h
  cases status <;> decide

theorem Effect.asked {db db' : Db} (heffect : Effect db db') {runId siteId : Uuid} {version : Int}
    (h : db.Asked runId siteId version) : db'.Asked runId siteId version := by
  obtain ⟨run, hrun, hsel, hstate⟩ := h
  cases heffect.tables.run_cases hrun with
  | inl hkept => exact ⟨run, hkept, hsel, hstate⟩
  | inr hmoved =>
    obtain ⟨run', hrun', hmoved⟩ := hmoved
    refine ⟨run', hrun', hmoved.isRun hsel, ?_⟩
    cases hstate with
    | inl hasked =>
      refine .inr ⟨?_, by rw [hmoved.version, hasked.2]⟩
      exact Edge.of_asked (hasked.1 ▸ hmoved.edge)
    | inr hended =>
      have hopen := hmoved.edge.source_not_terminal
      rw [hended.1] at hopen
      cases hopen

/-- **One version.** All who saw the run at `cancellation_requested` saw it at one version. -/
theorem Db.Asked.version_eq {db : Db} {runId siteId : Uuid} {v w : Int}
    (hv : db.Asked runId siteId v) (hw : db.Asked runId siteId w) : v = w := by
  obtain ⟨run, hrun, hsel, hstate⟩ := hv
  obtain ⟨other, hother, hselOther, hstateOther⟩ := hw
  obtain rfl := eq_of_isRun hrun hother hsel hselOther
  rcases hstate with ⟨hstatus, hversion⟩ | ⟨hterminal, hversion⟩
  · rcases hstateOther with ⟨-, hversion'⟩ | ⟨hterminal', -⟩
    · exact hversion.symm.trans hversion'
    · rw [hstatus] at hterminal'
      cases hterminal'
  · rcases hstateOther with ⟨hstatus', -⟩ | ⟨-, hversion'⟩
    · rw [hstatus'] at hterminal
      cases hterminal
    · omega

theorem not_solvable_of_terminal {status : ScheduleRunStatus} (h : status.terminal = true) :
    status.solvable = false := by
  cases status <;> first | rfl | cases h

theorem Db.Asked.runAt {db : Db} {runId siteId : Uuid} {version : Int}
    (h : db.Asked runId siteId version) :
    db.RunAt runId siteId fun status => status.solvable = false := by
  obtain ⟨run, hrun, hsel, hstate⟩ := h
  refine ⟨run, hrun, hsel, ?_⟩
  cases hstate with
  | inl hasked => rw [hasked.1]; rfl
  | inr hended => exact not_solvable_of_terminal hended.1

theorem cancelWrites_solvable {status : ScheduleRunStatus} (h : cancelWrites status = true) :
    status.solvable = true := by
  cases status <;> first | rfl | cases h

/-- A run that is no longer solved does not stand where a command wants to cancel it. -/
theorem not_stands_of_runAt {db : Db} {session : CancelSession}
    (hwrites : cancelWrites session.state.status = true)
    (h : db.RunAt session.cmd.runId session.cmd.siteId fun status => status.solvable = false) :
    ¬ session.Stands db := by
  rintro ⟨run, hrun, hsel, hstatus, -⟩
  obtain ⟨other, hother, hselOther, hnot⟩ := h
  obtain rfl := eq_of_isRun hrun hother hsel hselOther
  rw [hstatus, cancelWrites_solvable hwrites] at hnot
  cases hnot

/-! ## Admitted commands -/

/-- What a command reports that finds the cancellation requested already. -/
def CancelSession.standing (session : CancelSession) : ScheduleRunCancellationV1 :=
  ⟨session.cmd.runId, .cancellationRequested, "cancellation_requested",
    session.state.resourceVersion, true⟩

/-- **An admitted command, later.** If it saw the cancellation requested already, a receipt that
another request of its key has stored since says what it is about to say itself. -/
structure CancelSession.Sound (digest : List (String × JsonScalar) → String)
    (session : CancelSession) (db : Db) : Prop where
  hashes : session.env.contractDigest = digest
  key : ValidKey session.cmd.idempotencyKey
  version : session.state.resourceVersion = session.cmd.expectedResourceVersion
  cancellable : cancelWrites session.state.status = true ∨
    session.state.status = .cancellationRequested
  asked : session.state.status = .cancellationRequested →
    db.Asked session.cmd.runId session.cmd.siteId session.state.resourceVersion
  flagged : session.state.status = .cancellationRequested →
    db.Flagged session.cmd.runId session.cmd.siteId
  agreed : session.state.status = .cancellationRequested →
    ∀ row ∈ db.commandIdempotency, (Command.cancel session.cmd).isReceipt row = true →
      row.bodyHash = session.cmd.bodyHash session.env ∧
        row.responsePayload = .cancellation session.standing

/-! ## The write phase

The flag is raised first, then the run is moved if it still stands where the command saw it, then
the receipt is written. -/

/-- How a write phase ends: with nothing but the flag raised; or with nothing written at all; or the
cancellation was carried out. A success of the first two kinds is a receipt that was there. -/
inductive CancelWritten (session : CancelSession) (db : Db) : CancelResponse → Db → Prop where
  | raised (response : CancelResponse) (jobs : Table JobLeaseV1)
      (hjobs : db.jobQueue.update? (isJobOf session.cmd.runId session.cmd.siteId) raised =
        some jobs)
      (hanswered : ∀ result, response = .ok result → (Command.cancel session.cmd).Answered db
        (session.cmd.bodyHash session.env) (.cancellation result)) :
      CancelWritten session db response { db with jobQueue := jobs }
  | kept (response : CancelResponse)
      (hanswered : ∀ result, response = .ok result → (Command.cancel session.cmd).Answered db
        (session.cmd.bodyHash session.env) (.cancellation result)) :
      CancelWritten session db response db
  | carried (result : ScheduleRunCancellationV1) (db' : Db)
      (hreceipt : db.commandIdempotency.insert? ((Command.cancel session.cmd).receipt
        (session.cmd.bodyHash session.env) (.cancellation result)) = some db'.commandIdempotency)
      (hdrafts : db'.proposal = db.proposal) (hversions : db'.proposalVersion = db.proposalVersion)
      (hscenarios : db'.scenarioVersion = db.scenarioVersion)
      (hjobs : JobsTouched db db')
      (hruns : ∀ run' ∈ db'.scheduleRun, run' ∈ db.scheduleRun ∨
        (isRun session.cmd.runId session.cmd.siteId run' = true ∧ ∃ run ∈ db.scheduleRun,
          run.id = run'.id ∧ run.siteId = run'.siteId))
      (hstopped : db'.Stopped session.cmd.runId session.cmd.siteId)
      (hcause : (session.state.status = .cancellationRequested ∧ result = session.standing) ∨
        db.RunAt session.cmd.runId session.cmd.siteId fun status => status.solvable = true) :
      CancelWritten session db (.ok result) db'

/-- What a replay of a stored cancellation returns. -/
theorem replayCancellation_ok {env : Ambient} {cmd : CancelCommand}
    {stored : CommandIdempotencyRow} {result : ScheduleRunCancellationV1}
    (h : replayCancellation env cmd stored = .ok result) :
    stored.bodyHash = cmd.bodyHash env ∧ stored.responsePayload = .cancellation result := by
  unfold replayCancellation at h
  split at h
  · cases h
  · rename_i hbody
    refine ⟨not_not.mp hbody, ?_⟩
    cases hpayload : stored.responsePayload with
    | cancellation found => rw [hpayload] at h; cases h; rfl
    | _ => rw [hpayload] at h; cases h

/-- A lost race that ends in a success is a replay. -/
theorem resolveLostRace_ok {env : Ambient} {cmd : CancelCommand} {message : String} {db db' : Db}
    {result : ScheduleRunCancellationV1}
    (h : (resolveLostRace env cmd message).run db = (.ok (some result), db')) :
    (Command.cancel cmd).Answered db (cmd.bodyHash env) (.cancellation result) := by
  unfold resolveLostRace at h
  obtain ⟨stored, db₁, hlooked, h₁⟩ := Tx.bind_ok.mp h
  obtain ⟨rfl, hsome, -⟩ := receipt_looked (c := .cancel cmd) hlooked
  cases stored with
  | some row =>
    simp only [Tx.run_map_lift, Prod.mk.injEq] at h₁
    cases hreplay : replayCancellation env cmd row with
    | error e => rw [hreplay] at h₁; cases h₁.1
    | ok found =>
      rw [hreplay] at h₁
      cases h₁.1
      obtain ⟨hbody, hpayload⟩ := replayCancellation_ok hreplay
      exact ⟨row, (hsome row rfl).1, (hsome row rfl).2, hbody, by rw [hpayload]⟩
  | none =>
    obtain ⟨current, db₂, -, h₂⟩ := Tx.bind_ok.mp h₁
    cases current with
    | none => cases h₂
    | some current =>
      rw [Tx.run_ite] at h₂
      split at h₂
      · exact absurd h₂ Tx.throw_ok
      · exact absurd h₂ Tx.throw_ok

theorem touched_raised (job : JobLeaseV1) : Touched job (raised job) :=
  ⟨rfl, rfl, rfl, rfl, rfl, fun _ => rfl⟩

/-- Raising the flag keeps every job where it stands, and flags the job of the run. -/
theorem jobsTouched_raised {db : Db} {runId siteId : Uuid} {jobs : Table JobLeaseV1}
    (h : db.jobQueue.update? (isJobOf runId siteId) raised = some jobs) :
    JobsTouched db { db with jobQueue := jobs } := by
  refine ⟨.of_update? Touched.refl (fun job _ _ => touched_raised job) h, fun job' hjob' => ?_⟩
  obtain ⟨job, hjob, rfl⟩ := (Table.mem_of_update? h).mp hjob'
  refine ⟨job, hjob, ?_⟩
  split
  · exact touched_raised job
  · exact .refl job

theorem flagged_raised {db : Db} {runId siteId : Uuid} {jobs : Table JobLeaseV1}
    (hjob : ∃ job ∈ db.jobQueue, isJobOf runId siteId job = true)
    (h : db.jobQueue.update? (isJobOf runId siteId) raised = some jobs) :
    Db.Flagged { db with jobQueue := jobs } runId siteId := by
  obtain ⟨job, hjob, hsel⟩ := hjob
  refine ⟨raised job, (Table.mem_of_update? h).mpr ⟨job, hjob, by rw [if_pos hsel]⟩, hsel, rfl⟩

/-- The transition of a command that won its race. -/
theorem attemptCancel_ok {session : CancelSession} {db db' : Db}
    {result : ScheduleRunCancellationV1}
    (hwrites : cancelWrites session.state.status = true)
    (h : (attemptCancel session.env session.cmd session.state).run db = (.ok (some result), db')) :
    ∃ status : ScheduleRunStatus, status.cancels = true ∧
      RunMoved session.cmd.runId session.cmd.siteId status db db' ∧ RecordsKept db db' := by
  obtain ⟨env, cmd, status, resourceVersion⟩ := session
  -- the savepoint returned a result only if the statement did
  have hstatement : (cancelStatement env cmd ⟨status, resourceVersion⟩).run db =
      (.ok result, db') := by
    unfold attemptCancel at h
    cases hrun : (cancelStatement env cmd ⟨status, resourceVersion⟩).run db with
    | mk outcome db₁ =>
      cases outcome with
      | ok found =>
        rw [Tx.run_tryCatch_of_ok (Tx.run_map_of_ok some hrun)] at h
        cases h
        rfl
      | error e =>
        rw [Tx.run_tryCatch_of_error (Tx.run_map_of_error some hrun)] at h
        cases e <;> cases h
  -- a queued run is cancelled, a running one is asked to stop
  cases status with
  | solverQueued =>
    obtain ⟨_, db₁, hmove, hpure⟩ := Tx.bind_ok.mp hstatement
    cases hpure
    exact ⟨.solverCancelled, rfl,
      (cancelTransition_moved _ _ _ _ _ _ _ (by decide) (by decide)).led hmove,
      (cancelTransition_kept ..).followed hmove⟩
  | solverRunning =>
    obtain ⟨_, db₁, hmove, hpure⟩ := Tx.bind_ok.mp hstatement
    cases hpure
    exact ⟨.cancellationRequested, rfl,
      (cancelTransition_moved _ _ _ _ _ _ _ (by decide) (by decide)).led hmove,
      (cancelTransition_kept ..).followed hmove⟩
  | _ => cases hwrites

/-- What the receipt of a cancellation records, and what is stored with it. -/
theorem storeCancellation_ok {env : Ambient} {cmd : CancelCommand}
    {result final : ScheduleRunCancellationV1} {db db' : Db}
    (hflagged : db.Flagged cmd.runId cmd.siteId)
    (h : (storeCancellation env cmd result).run db = (.ok (some final), db')) :
    final = { result with cancellationRequested := true } ∧
      (((∃ row ∈ db.commandIdempotency, (Command.cancel cmd).isReceipt row = true) ∧ db' = db) ∨
      ∃ t, db.commandIdempotency.insert? ((Command.cancel cmd).receipt (cmd.bodyHash env)
          (.cancellation final)) = some t ∧ db' = { db with commandIdempotency := t }) := by
  unfold storeCancellation at h
  rw [Tx.run_bind_of_ok hflagged.read] at h
  obtain ⟨_, db₁, hstore, hpure⟩ := Tx.bind_ok.mp h
  cases hpure
  exact ⟨rfl, (storeIdempotentResult_ok (c := .cancel cmd) hstore).imp_right fun hstored =>
    hstored.2⟩

/-- The response of the route to a body that ended. -/
def CancelResponse.ofOutcome :
    Except PyError (Option ScheduleRunCancellationV1) → CancelResponse
  | .ok value => .ofValue value
  | .error e => if cancelScheduleRunError e then .problem e else .internalError e

theorem cancelRequest_response {body : DbTx (Option ScheduleRunCancellationV1)} {db db' : Db}
    {outcome : Except PyError (Option ScheduleRunCancellationV1)}
    (h : body.run db = (outcome, db')) :
    (cancelRequest body db).1 = .ofOutcome outcome := by
  rw [cancelRequest_eq, h]
  cases outcome with
  | ok value => rfl
  | error e => cases he : cancelScheduleRunError e <;> simp [CancelResponse.ofOutcome, he]

theorem ofOutcome_ok {outcome : Except PyError (Option ScheduleRunCancellationV1)}
    {result : ScheduleRunCancellationV1} (h : CancelResponse.ofOutcome outcome = .ok result) :
    outcome = .ok (some result) := by
  unfold CancelResponse.ofOutcome at h
  split at h
  · rename_i value
    cases value with
    | none => cases h
    | some found => cases h; rfl
  · split at h <;> cases h

/-- A body that ended in an exception the route does not know is rolled back. -/
theorem cancelRequest_unknown {body : DbTx (Option ScheduleRunCancellationV1)} {db db' : Db}
    {e : PyError} (h : body.run db = (.error e, db')) (he : cancelScheduleRunError e = false) :
    cancelRequest body db = (.internalError e, db) := by
  rw [cancelRequest_eq, h]
  simp [he]

/-- What the route commits when storing the result ended. -/
theorem storeCancellation_written {session : CancelSession} {db db₁ db₂ : Db}
    {outcome : Except PyError (Option ScheduleRunCancellationV1)}
    {body : DbTx (Option ScheduleRunCancellationV1)} {result : ScheduleRunCancellationV1}
    (hbody : body.run db = (outcome, db₂))
    (hstore : (storeCancellation session.env session.cmd result).run db₁ = (outcome, db₂))
    (hstored : ∀ final, outcome = .ok (some final) →
      CancelWritten session db (.ok final) db₂) :
    CancelWritten session db (cancelRequest body db).1 (cancelRequest body db).2 := by
  have hfine := storeCancellation_notRejected hstore
  cases outcome with
  | error e =>
    rw [cancelRequest_unknown hbody hfine]
    exact .kept _ fun _ hok => by cases hok
  | ok value =>
    cases value with
    | none => cases hfine
    | some final =>
      rw [cancelRequest_eq, hbody]
      exact hstored final rfl

/-- A command that wants to move a run which still stands where it saw it. -/
theorem cancelWrite_won_written {session : CancelSession} {db : Db}
    (hwrites : cancelWrites session.state.status = true) (hstands : session.Stands db)
    (hjob : ∃ job ∈ db.jobQueue, isJobOf session.cmd.runId session.cmd.siteId job = true)
    (hfree : ∀ row ∈ db.commandIdempotency, (Command.cancel session.cmd).isReceipt row = false) :
    CancelWritten session db
      (cancelRequest (cancelWrite session.env session.cmd session.state) db).1
      (cancelRequest (cancelWrite session.env session.cmd session.state) db).2 := by
  obtain ⟨jobs, hjobs, hflag⟩ := raiseFlag_run session.cmd hwrites db
  have hstands₁ : session.Stands { db with jobQueue := jobs } := hstands
  cases hattempt : (attemptCancel session.env session.cmd session.state).run
      { db with jobQueue := jobs } with
  | mk attempted db₁ =>
    rcases attemptCancel_won (fun _ => hstands₁) hattempt with ⟨result, rfl⟩ | ⟨constraint, rfl⟩
    · have hrun : (cancelWrite session.env session.cmd session.state).run db =
          (storeCancellation session.env session.cmd result).run db₁ := by
        unfold cancelWrite
        rw [Tx.run_bind_of_ok hflag, Tx.run_bind_of_ok hattempt]
      obtain ⟨status, hcancels, hmoved, hkept⟩ := attemptCancel_ok hwrites hattempt
      -- the job was flagged before the run was moved, and its lease keeps the flag
      have hflagged₁ : db₁.Flagged session.cmd.runId session.cmd.siteId :=
        hmoved.jobs.flagged (flagged_raised hjob hjobs)
      cases hstore : (storeCancellation session.env session.cmd result).run db₁ with
      | mk outcome db₂ =>
        rw [hstore] at hrun
        refine storeCancellation_written hrun hstore fun final hfinal => ?_
        subst hfinal
        obtain ⟨-, hreceipt⟩ := storeCancellation_ok hflagged₁ hstore
        have hreceipts : db₁.commandIdempotency = db.commandIdempotency := hkept.receipts
        rcases hreceipt with ⟨⟨row, hrow, hsel⟩, -⟩ | ⟨t, ht, rfl⟩
        · rw [hreceipts] at hrow
          rw [hfree row hrow] at hsel
          cases hsel
        · rw [hreceipts] at ht
          have htouched : JobsTouched db db₁ := (jobsTouched_raised hjobs).trans hmoved.jobs
          -- the run stands where a worker does not solve it
          have hended : db₁.RunAt session.cmd.runId session.cmd.siteId
              fun current => current.solvable = false := by
            refine hmoved.runAt.mono fun current hcurrent => ?_
            rw [hcurrent]
            exact cancels_not_solvable hcancels
          refine .carried final _ ht hkept.drafts hkept.versions hkept.scenarios
            ⟨htouched.kept, htouched.only⟩ (fun run' hrun' => ?_) ⟨hended, hflagged₁⟩ (.inr ?_)
          · -- the moved run is the old one with another status
            obtain ⟨old, new, hselOld, -, hreplaced, hnew, -⟩ := hmoved.moved
            cases (hreplaced.mem_iff run').mp hrun' with
            | inl hsame =>
              rw [hsame]
              exact .inr ⟨hnew.isRun hselOld, old, hreplaced.mem_old, hnew.id.symm, hnew.site.symm⟩
            | inr hold => exact .inl hold.1
          · obtain ⟨run, hmem, hsel, hstatus, -⟩ := hstands
            exact ⟨run, hmem, hsel, by rw [hstatus]; exact cancelWrites_solvable hwrites⟩
    · -- a constraint refused the transition
      have hrun : (cancelWrite session.env session.cmd session.state).run db =
          (.error (.integrityError constraint), db₁) := by
        unfold cancelWrite
        rw [Tx.run_bind_of_ok hflag, Tx.run_bind_of_error hattempt]
      rw [cancelRequest_unknown hrun rfl]
      exact .kept _ fun _ hok => by cases hok

/-- A command whose run has moved on: the flag is raised, and the rest only reads. -/
theorem cancelWrite_lost_run {session : CancelSession} {db : Db} {jobs : Table JobLeaseV1}
    (hwrites : cancelWrites session.state.status = true) (hstands : ¬ session.Stands db)
    (hflag : (raiseFlag session.cmd session.state.status).run db =
      (.ok (), { db with jobQueue := jobs })) :
    ∃ message, (cancelWrite session.env session.cmd session.state).run db =
      (resolveLostRace session.env session.cmd message).run { db with jobQueue := jobs } := by
  have hstands₁ : ¬ session.Stands { db with jobQueue := jobs } := hstands
  unfold cancelWrite
  rw [Tx.run_bind_of_ok hflag, Tx.run_bind_of_ok (attemptCancel_lost hwrites hstands₁)]
  exact ⟨_, rfl⟩

theorem cancelWrite_lost_written {session : CancelSession} {db : Db}
    (hwrites : cancelWrites session.state.status = true) (hstands : ¬ session.Stands db) :
    CancelWritten session db
      (cancelRequest (cancelWrite session.env session.cmd session.state) db).1
      (cancelRequest (cancelWrite session.env session.cmd session.state) db).2 := by
  -- the flag is raised before the race is found lost
  obtain ⟨jobs, hjobs, hflag⟩ := raiseFlag_run session.cmd hwrites db
  obtain ⟨message, hrun⟩ := cancelWrite_lost_run hwrites hstands hflag
  cases hresolve : (resolveLostRace session.env session.cmd message).run
      { db with jobQueue := jobs } with
  | mk outcome db₂ =>
    -- resolving the lost race only reads
    have hdb : db₂ = { db with jobQueue := jobs } :=
      (resolveLostRace_still _ _ _).eq_of_run hresolve
    rw [hresolve] at hrun
    have hanswered : ∀ result,
        (cancelRequest (cancelWrite session.env session.cmd session.state) db).1 = .ok result →
        (Command.cancel session.cmd).Answered db (session.cmd.bodyHash session.env)
          (.cancellation result) := by
      intro result hok
      rw [cancelRequest_response hrun] at hok
      rw [ofOutcome_ok hok] at hresolve
      exact (resolveLostRace_ok hresolve :)
    -- so the flag is kept or rolled back, by the answer's status
    have hcommitted : (cancelRequest (cancelWrite session.env session.cmd session.state) db).2 =
        { db with jobQueue := jobs } ∨
        (cancelRequest (cancelWrite session.env session.cmd session.state) db).2 = db := by
      rw [cancelRequest_eq, hrun, hdb]
      cases outcome with
      | ok value => exact .inl rfl
      | error e => cases he : cancelScheduleRunError e <;> simp [he]
    rcases hcommitted with hcommitted | hcommitted
    · rw [hcommitted]
      exact .raised _ jobs hjobs hanswered
    · rw [hcommitted]
      exact .kept _ hanswered

/-- A command that saw the cancellation requested writes its receipt alone. -/
theorem cancelWrite_standing_run {session : CancelSession} (db : Db)
    (hasked : session.state.status = .cancellationRequested) :
    (cancelWrite session.env session.cmd session.state).run db =
      (storeCancellation session.env session.cmd
        { session.standing with cancellationRequested := false }).run db := by
  obtain ⟨env, cmd, status, resourceVersion⟩ := session
  obtain rfl : status = .cancellationRequested := hasked
  rfl

theorem cancelWrite_standing_written {digest : List (String × JsonScalar) → String}
    {session : CancelSession} {db : Db} (hsound : session.Sound digest db)
    (hasked : session.state.status = .cancellationRequested) :
    CancelWritten session db
      (cancelRequest (cancelWrite session.env session.cmd session.state) db).1
      (cancelRequest (cancelWrite session.env session.cmd session.state) db).2 := by
  have hrun := cancelWrite_standing_run db hasked
  cases hstore : (storeCancellation session.env session.cmd
      { session.standing with cancellationRequested := false }).run db with
  | mk outcome db₂ =>
    rw [hstore] at hrun
    refine storeCancellation_written hrun hstore fun final hfinal => ?_
    subst hfinal
    obtain ⟨hfinal, hreceipt⟩ := storeCancellation_ok (hsound.flagged hasked) hstore
    have hstanding : final = session.standing := hfinal
    subst hstanding
    rcases hreceipt with ⟨⟨row, hrow, hsel⟩, rfl⟩ | ⟨t, ht, rfl⟩
    · refine .kept _ fun result hok => ?_
      obtain rfl : session.standing = result := CancelResponse.ok.inj hok
      obtain ⟨hbody, hpayload⟩ := hsound.agreed hasked row hrow hsel
      exact ⟨row, hrow, hsel, hbody, by rw [hpayload]⟩
    · exact .carried _ _ ht rfl rfl rfl (.of_eq rfl) (fun run' hrun' => .inl hrun')
        ⟨(hsound.asked hasked).runAt, hsound.flagged hasked⟩ (.inl ⟨hasked, rfl⟩)

/-- **How a write phase ends.** The run of the command has a job, and while the run can still be
solved no receipt of a cancellation is stored for it. -/
theorem cancelWrite_written {digest : List (String × JsonScalar) → String}
    {session : CancelSession} {db : Db} (hsound : session.Sound digest db)
    (hjobs : ∀ run ∈ db.scheduleRun, isRun session.cmd.runId session.cmd.siteId run = true →
      ∃ job ∈ db.jobQueue, isJobOf session.cmd.runId session.cmd.siteId job = true)
    (hreceipts : ∀ row ∈ db.commandIdempotency, (Command.cancel session.cmd).isReceipt row = true →
      db.Stopped session.cmd.runId session.cmd.siteId) :
    CancelWritten session db
      (cancelRequest (cancelWrite session.env session.cmd session.state) db).1
      (cancelRequest (cancelWrite session.env session.cmd session.state) db).2 := by
  rcases hsound.cancellable with hwrites | hasked
  · by_cases hstands : session.Stands db
    · have hjob : ∃ job ∈ db.jobQueue,
          isJobOf session.cmd.runId session.cmd.siteId job = true := by
        obtain ⟨run, hmem, hsel, -⟩ := hstands
        exact hjobs run hmem hsel
      refine cancelWrite_won_written hwrites hstands hjob fun row hrow => ?_
      by_contra hreceipt
      rw [Bool.not_eq_false] at hreceipt
      exact not_stands_of_runAt hwrites (hreceipts row hrow hreceipt).run hstands
    · exact cancelWrite_lost_written hwrites hstands
  · exact cancelWrite_standing_written hsound hasked

/-! ## Replays -/

end ShiftMind
