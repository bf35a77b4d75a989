import ShiftMind.Runs.Safety

/-!
# ShiftMind — what a rejected cancel commits

The source promises that a cancel whose compare-and-set loses "still rolls the flag back". The
route returns the domain error as a response, so the session behind it commits, and the flag stays
raised. This module says exactly when a rejected cancel leaves a trace.

* **`cancelRequest_eq`** — the commit rule of the endpoint, outcome by outcome.
* **`CancelSession.Undisturbed`** — the condition: nothing to write, no lost race, a job flagged
  already, or a replay.
* **`cancelWrite_traceless_iff`** — one request, from any database.
* **`rejected_cancel_traceless_iff`** — every cancel answered in any run of the system.
-/

namespace ShiftMind

open Relational Transactional Transition ScheduleRunRepository

/-! ## The commit rule of the endpoint -/

/-- The outcomes of the command that the route turns into an error response and commits. -/
def rejected : Except PyError (Option ScheduleRunCancellationV1) → Bool
  | .ok none => true
  | .ok (some _) => false
  | .error e => cancelScheduleRunError e

/-- A problem response is committed; only an exception the route does not know rolls back. -/
theorem cancelRequest_eq (body : DbTx (Option ScheduleRunCancellationV1)) (db : Db) :
    cancelRequest body db =
      match body.run db with
      | (.ok value, db') => (.ofValue value, db')
      | (.error e, db') =>
        if cancelScheduleRunError e then (.problem e, db') else (.internalError e, db) := by
  unfold cancelRequest cancelRoute Tx.commit
  rw [Tx.run_tryCatch, Tx.run_bind]
  cases hrun : body.run db with
  | mk r db' =>
    cases r with
    | ok value => rfl
    | error e => cases he : cancelScheduleRunError e <;> simp [he]

/-- An error response leaves no trace exactly when a rejected command wrote nothing. -/
theorem cancelRequest_traceless_iff {body : DbTx (Option ScheduleRunCancellationV1)} {db db' : Db}
    {r : Except PyError (Option ScheduleRunCancellationV1)} (h : body.run db = (r, db')) :
    ((cancelRequest body db).1.isError = true → (cancelRequest body db).2 = db) ↔
      (rejected r = true → db' = db) := by
  rw [cancelRequest_eq, h]
  cases r with
  | ok value => cases value <;> simp [CancelResponse.ofValue, CancelResponse.isError, rejected]
  | error e => cases he : cancelScheduleRunError e <;> simp [he, CancelResponse.isError, rejected]

/-! ## The flag -/

/-- The job of a run, with its cancellation flag raised. -/
def raised (job : JobLeaseV1) : JobLeaseV1 := { job with cancellationRequested := true }

/-- Raising the flag always succeeds, and touches the job queue alone. -/
theorem raiseFlag_run (cmd : CancelCommand) {status : ScheduleRunStatus}
    (hwrites : cancelWrites status = true) (db : Db) :
    ∃ jobs, db.jobQueue.update? (isJobOf cmd.runId cmd.siteId) raised = some jobs ∧
      (raiseFlag cmd status).run db = (.ok (), { db with jobQueue := jobs }) := by
  obtain ⟨jobs, hjobs⟩ := db.jobQueue.update?_of_keeps (isJobOf cmd.runId cmd.siteId) raised
    (fun job hjob _ => db.jobQueue.checked job hjob) (fun a _ b _ h => by
      revert h
      split <;> split <;> exact id)
  refine ⟨jobs, hjobs, ?_⟩
  rw [raiseFlag, if_pos hwrites, setJobCancellationRequested]
  rw [Tx.run_bind_of_ok (Relvar.updateWhere_ok.mpr ⟨jobs, hjobs, rfl, rfl⟩)]
  rfl

/-- Raising the flag changes nothing exactly when the run's job, if any, has it raised. -/
theorem raised_eq_iff {runId siteId : Uuid} {db : Db} {jobs : Table JobLeaseV1}
    (h : db.jobQueue.update? (isJobOf runId siteId) raised = some jobs) :
    { db with jobQueue := jobs } = db ↔
      ∀ job ∈ db.jobQueue, isJobOf runId siteId job = true → job.cancellationRequested = true := by
  constructor
  · intro heq job hjob hsel
    have hjobs : jobs = db.jobQueue := congrArg Db.jobQueue heq
    -- the raised row and the old one have one id, so they are one row
    have hmem : raised job ∈ db.jobQueue := by
      rw [← hjobs]
      exact (Table.mem_of_update? h).mpr ⟨job, hjob, by rw [if_pos hsel]⟩
    have hsame : raised job = job := Table.eq_of_clash hmem hjob (by simp [clash, raised])
    rw [← hsame]; rfl
  · intro hflag
    have hjobs : jobs = db.jobQueue := by
      refine Table.ext_rows ?_
      rw [(Table.update?_eq_some h).1, Table.updated]
      refine (List.map_congr_left fun job hjob => ?_).trans (List.map_id _)
      split
      · rename_i hsel
        have := hflag job hjob hsel
        cases job; cases this; rfl
      · rfl
    rw [hjobs]

/-! ## The attempt -/

/-- The run still stands where the command saw it. -/
def CancelSession.Stands (session : CancelSession) (db : Db) : Prop :=
  db.RunStands session.cmd.runId session.cmd.siteId session.state.status
    session.cmd.expectedResourceVersion

/-- The state a fresh read reports is where the run stands. -/
theorem runState_eq_some {db : Db} {runId siteId : Uuid} {state : ScheduleRunStateV1} :
    db.runState runId siteId = some state ↔
      db.RunStands runId siteId state.status state.resourceVersion := by
  unfold Db.runState Db.RunStands
  rw [Option.map_eq_some_iff]
  constructor
  · rintro ⟨row, hrow, rfl⟩
    obtain ⟨hmem, hsel⟩ := Table.find?_eq_some hrow
    exact ⟨row, hmem, hsel, rfl, rfl⟩
  · rintro ⟨row, hmem, hsel, hstatus, hversion⟩
    refine ⟨row, Table.find?_of_mem hmem hsel fun a b ha hb => ?_, by rw [hstatus, hversion]⟩
    simp only [isRun, Bool.and_eq_true, decide_eq_true_eq] at ha hb
    simp [clash, ha.1, hb.1]

/-- A transition whose run stands elsewhere loses its race and writes nothing. -/
theorem cancelTransition_lost {env : Ambient} {runId siteId actorId : Uuid}
    {expectedResourceVersion : Int} {expectedStatus status : ScheduleRunStatus} {reason : String}
    {terminal : Bool} {db : Db}
    (h : ¬ db.RunStands runId siteId expectedStatus expectedResourceVersion) :
    ∃ message, (cancelTransition env runId siteId actorId expectedResourceVersion expectedStatus
      status reason terminal).run db = (.error (.repositoryRunNotCancellable message), db) := by
  unfold cancelTransition
  rw [Tx.run_bind_of_ok (Relvar.updateWhere_none fun row hrow => ?_)]
  · exact ⟨_, rfl⟩
  · by_contra hsel
    simp only [Bool.not_eq_false, Bool.and_eq_true, decide_eq_true_eq] at hsel
    exact h ⟨row, hrow, hsel.1.1, hsel.1.2, hsel.2⟩

theorem cancelStatement_lost {session : CancelSession} {db : Db}
    (hwrites : cancelWrites session.state.status = true) (hstands : ¬ session.Stands db) :
    ∃ message, (cancelStatement session.env session.cmd session.state).run db =
      (.error (.repositoryRunNotCancellable message), db) := by
  obtain ⟨env, cmd, status, resourceVersion⟩ := session
  cases status with
  | solverQueued =>
    obtain ⟨message, hlost⟩ := cancelTransition_lost hstands
    exact ⟨message, Tx.run_bind_of_error hlost⟩
  | solverRunning =>
    obtain ⟨message, hlost⟩ := cancelTransition_lost hstands
    exact ⟨message, Tx.run_bind_of_error hlost⟩
  | _ => cases hwrites

/-- **A lost race is caught**, with nothing written. -/
theorem attemptCancel_lost {session : CancelSession} {db : Db}
    (hwrites : cancelWrites session.state.status = true) (hstands : ¬ session.Stands db) :
    (attemptCancel session.env session.cmd session.state).run db = (.ok none, db) := by
  obtain ⟨message, hlost⟩ := cancelStatement_lost hwrites hstands
  exact Tx.run_tryCatch_of_error (Tx.run_map_of_error some hlost)

/-- An attempt without a race to lose ends with a result or is refused by a constraint. -/
theorem attemptCancel_won {session : CancelSession} {db db' : Db}
    {r : Except PyError (Option ScheduleRunCancellationV1)}
    (hwon : cancelWrites session.state.status = true → session.Stands db)
    (h : (attemptCancel session.env session.cmd session.state).run db = (r, db')) :
    (∃ result, r = .ok (some result)) ∨ ∃ constraint, r = .error (.integrityError constraint) := by
  unfold attemptCancel at h
  cases hrun : (cancelStatement session.env session.cmd session.state).run db with
  | mk outcome db₁ =>
    cases outcome with
    | ok result =>
      rw [Tx.run_tryCatch_of_ok (Tx.run_map_of_ok some hrun)] at h
      cases h
      exact .inl ⟨result, rfl⟩
    | error e =>
      rw [Tx.run_tryCatch_of_error (Tx.run_map_of_error some hrun)] at h
      rcases cancelStatement_error hrun with ⟨constraint, rfl⟩ | ⟨-, -, hwrites, hstands⟩
      · cases h
        exact .inr ⟨constraint, rfl⟩
      · exact absurd (hwon hwrites) hstands

/-! ## One request

The flag is raised, the attempt wins or loses, and what was answered is committed. -/

/-- **The condition.** The observed status asks for no write; or the run still stands where the
command saw it; or its job has the flag raised already; or the command is a replay. -/
def CancelSession.Undisturbed (session : CancelSession) (db : Db) : Prop :=
  cancelWrites session.state.status = false ∨ session.Stands db ∨
    (∀ job ∈ db.jobQueue, isJobOf session.cmd.runId session.cmd.siteId job = true →
      job.cancellationRequested = true) ∨
    ∃ stored, db.cancelReceipt session.cmd = some stored ∧
      stored.bodyHash = session.cmd.bodyHash session.env

theorem storeCancellation_notRejected {env : Ambient} {cmd : CancelCommand}
    {result : ScheduleRunCancellationV1} {db db' : Db}
    {r : Except PyError (Option ScheduleRunCancellationV1)}
    (h : (storeCancellation env cmd result).run db = (r, db')) : rejected r = false := by
  cases r with
  | ok value =>
    obtain ⟨flag, _, -, h⟩ := Tx.bind_ok.mp h
    obtain ⟨_, _, -, h⟩ := Tx.bind_ok.mp h
    cases h; rfl
  | error e =>
    rcases Tx.bind_error.mp h with h | ⟨flag, _, -, h⟩
    · rcases Tx.bind_error.mp h with h | ⟨_, _, -, h⟩ <;> cases h
    · rcases Tx.bind_error.mp h with h | ⟨_, _, -, h⟩
      · rcases Tx.bind_error.mp h with h | ⟨stored, _, -, h⟩
        · cases h
        · cases stored with
          | some stored => cases h
          | none =>
            rw [(Relvar.insertInto_error.mp h).2.1]; rfl
      · cases h

/-- With no race to lose, the write phase is not rejected. -/
theorem cancelWrite_won {session : CancelSession} {db db' : Db}
    {r : Except PyError (Option ScheduleRunCancellationV1)}
    (hwon : cancelWrites session.state.status = true → session.Stands db)
    (h : (cancelWrite session.env session.cmd session.state).run db = (r, db')) :
    rejected r = false := by
  -- the flag leaves the run where it stands
  obtain ⟨db₁, hflag, hruns⟩ : ∃ db₁, (raiseFlag session.cmd session.state.status).run db =
      (.ok (), db₁) ∧ db₁.scheduleRun = db.scheduleRun := by
    cases hwrites : cancelWrites session.state.status with
    | true =>
      obtain ⟨jobs, -, hrun⟩ := raiseFlag_run session.cmd hwrites db
      exact ⟨_, hrun, rfl⟩
    | false => exact ⟨db, by rw [raiseFlag, hwrites]; rfl, rfl⟩
  have hwon₁ : cancelWrites session.state.status = true → session.Stands db₁ := by
    intro hwrites
    have := hwon hwrites
    unfold CancelSession.Stands Db.RunStands at *
    rwa [hruns]
  unfold cancelWrite at h
  rw [Tx.run_bind_of_ok hflag] at h
  cases hattempt : (attemptCancel session.env session.cmd session.state).run db₁ with
  | mk outcome db₂ =>
    rcases attemptCancel_won hwon₁ hattempt with ⟨result, rfl⟩ | ⟨constraint, rfl⟩
    · rw [Tx.run_bind_of_ok hattempt] at h
      exact storeCancellation_notRejected h
    · rw [Tx.run_bind_of_error hattempt] at h
      cases h; rfl

/-- A stored receipt is refused only when it was stored for another body. -/
theorem replayCancellation_rejected_iff (env : Ambient) (cmd : CancelCommand)
    (stored : CommandIdempotencyRow) :
    rejected (some <$> replayCancellation env cmd stored) = true ↔
      stored.bodyHash ≠ cmd.bodyHash env := by
  unfold replayCancellation
  split
  · rename_i hbody; exact ⟨fun _ => hbody, fun _ => rfl⟩
  · rename_i hbody
    refine ⟨fun h => ?_, fun h => absurd h hbody⟩
    cases hpayload : stored.responsePayload <;> rw [hpayload] at h <;> cases h

/-- How a lost race is resolved: a replay is answered, everything else is rejected. -/
theorem resolveLostRace_rejected_iff {env : Ambient} {cmd : CancelCommand} {message : String}
    {db db' : Db} {r : Except PyError (Option ScheduleRunCancellationV1)}
    (h : (resolveLostRace env cmd message).run db = (r, db')) :
    rejected r = true ↔
      ¬ ∃ stored, db.cancelReceipt cmd = some stored ∧ stored.bodyHash = cmd.bodyHash env := by
  unfold resolveLostRace at h
  rw [Tx.run_bind, run_cancelReceipt] at h
  cases hstored : db.cancelReceipt cmd with
  | none =>
    rw [hstored] at h
    simp only [Tx.run_bind, run_getRunState] at h
    simp only [reduceCtorEq, false_and, exists_false, not_false_eq_true, iff_true]
    cases hcurrent : db.runState cmd.runId cmd.siteId with
    | none => rw [hcurrent] at h; cases h; rfl
    | some current =>
      rw [hcurrent] at h
      simp only [Tx.run_ite, Tx.run_throw] at h
      split at h <;> cases h <;> rfl
  | some stored =>
    rw [hstored] at h
    have hr : some <$> replayCancellation env cmd stored = r := by
      simp only [Tx.run_map_lift] at h; exact (Prod.mk.inj h).1
    rw [← hr, replayCancellation_rejected_iff]
    simp

/-- **One request.** From any database, a write phase that ends in an error response leaves no
trace exactly when it was undisturbed. -/
theorem cancelWrite_traceless_iff (session : CancelSession) (db : Db) :
    ((cancelRequest (cancelWrite session.env session.cmd session.state) db).1.isError = true →
        (cancelRequest (cancelWrite session.env session.cmd session.state) db).2 = db) ↔
      session.Undisturbed db := by
  cases hrun : (cancelWrite session.env session.cmd session.state).run db with
  | mk r db' =>
    rw [cancelRequest_traceless_iff hrun]
    by_cases hlost : cancelWrites session.state.status = true ∧ ¬ session.Stands db
    · -- the race is lost: the flag is raised, and the resolution only reads
      obtain ⟨hwrites, hstands⟩ := hlost
      obtain ⟨jobs, hjobs, hflag⟩ := raiseFlag_run session.cmd hwrites db
      have hstands₁ : ¬ session.Stands { db with jobQueue := jobs } := hstands
      have hattempt := attemptCancel_lost hwrites hstands₁
      have hresolve := hrun
      unfold cancelWrite at hresolve
      rw [Tx.run_bind_of_ok hflag, Tx.run_bind_of_ok hattempt] at hresolve
      have hdb : db' = { db with jobQueue := jobs } :=
        (resolveLostRace_still _ _ _).eq_of_run hresolve
      rw [resolveLostRace_rejected_iff hresolve, hdb, raised_eq_iff hjobs]
      simp only [CancelSession.Undisturbed, hwrites, hstands, Bool.true_eq_false, false_or]
      exact (or_comm.trans or_iff_not_imp_left).symm
    · -- no race is lost: the response is no error, and the condition holds
      rw [not_and, not_not] at hlost
      have hfine := cancelWrite_won hlost hrun
      rw [hfine]
      simp only [Bool.false_eq_true, false_implies, true_iff]
      cases hwrites : cancelWrites session.state.status with
      | false => exact .inl hwrites
      | true => exact .inr (.inl (hlost hwrites))

/-! ## Over whole runs -/

/-- An error response that left the committed state as it was. -/
def CancelRecord.Traceless (record : CancelRecord) : Prop :=
  record.response.isError = true → record.after = record.before

/-- The record's write phase, if the command got to it, was undisturbed. -/
def CancelRecord.Undisturbed (record : CancelRecord) : Prop :=
  ∀ session, record.session = some session → session.Undisturbed record.before

/-- What a record says happened did happen. -/
def CancelRecord.Faithful (record : CancelRecord) : Prop :=
  match record.session with
  | none => record.after = record.before
  | some session => (record.response, record.after) =
      cancelRequest (cancelWrite session.env session.cmd session.state) record.before

theorem CancelRecord.Faithful.traceless_iff {record : CancelRecord} (h : record.Faithful) :
    record.Traceless ↔ record.Undisturbed := by
  obtain ⟨session, response, before, after⟩ := record
  cases session with
  | none => exact iff_of_true (fun _ => h) (fun session hsession => by cases hsession)
  | some session =>
    have hiff := cancelWrite_traceless_iff session before
    simp only [CancelRecord.Faithful] at h
    rw [← h] at hiff
    refine hiff.trans ⟨fun hundisturbed s hs => ?_, fun hundisturbed => hundisturbed _ rfl⟩
    cases hs; exact hundisturbed

/-- Records are faithful in every reachable state. -/
theorem faithful_of_reachable {s : Sys} (hreach : Reachable runSystem s) :
    ∀ record ∈ s.answered, record.Faithful := by
  refine Machine.reachable_invariant (fun s => ∀ record ∈ s.answered, record.Faithful)
    (fun s hinit => by rw [hinit.answered]; simp) ?_ hreach
  intro s a hs _
  -- an answer without a write leaves the database as it was
  have hanswer : ∀ {body : DbTx (Option ScheduleRunCancellationV1)}, body.Still →
      ∀ record ∈ (s.answer none body).answered, record.Faithful := by
    intro body hbody record hrecord
    rcases List.mem_cons.mp hrecord with rfl | hold
    · exact cancelRequest_still hbody s.db
    · exact hs record hold
  cases a with
  | writeCancel session =>
    intro record hrecord
    rcases List.mem_cons.mp hrecord with rfl | hold
    · exact rfl
    · exact hs record hold
  | admitCancel env cmd observed =>
    show ∀ record ∈ (s.perform (.admitCancel env cmd observed)).answered, record.Faithful
    simp only [Sys.perform]
    split
    · exact hs
    · exact hanswer (.pure _)
    · exact hanswer (.throw _)
  | _ => exact hs

/-- **A rejected cancel leaves no trace exactly when it was undisturbed**, for every cancel command
answered in any run of the system. -/
theorem rejected_cancel_traceless_iff {s : Sys} (hreach : Reachable runSystem s) :
    ∀ record ∈ s.answered, record.Traceless ↔ record.Undisturbed :=
  fun record hrecord => (faithful_of_reachable hreach record hrecord).traceless_iff

/-- At the depot a planner cancels the queued run while a worker starts it. -/
def Depot.cancel : CancelCommand := ⟨102, 1, 3, 1, "cancel"⟩

/-- The command read the run queued at version 1; its write phase comes after the worker's
`mark_running`. -/
def Depot.cancelSession : CancelSession := ⟨Depot.env 4, Depot.cancel, ⟨.solverQueued, 1⟩⟩

def Depot.raced : Sys := runMachine.performAll Depot.site
  [Depot.enqueue, Depot.lease 2, .observeCancel Depot.cancel,
    Depot.transactionA 3 (Depot.leased 2 1),
    .admitCancel (Depot.env 4) Depot.cancel (some ⟨.solverQueued, 1⟩)]

theorem Depot.raced_reachable :
    Reachable runSystem (Depot.raced.perform (.writeCancel Depot.cancelSession)) := by
  have hraced : Reachable runSystem Depot.raced :=
    Machine.reachable_of_schedule Depot.site_initial
      ⟨trivial, trivial, trivial, ⟨by decide +kernel, trivial⟩,
        (by decide +kernel : (Depot.cancel, some (⟨.solverQueued, 1⟩ : ScheduleRunStateV1)) ∈
          Sys.observing _), trivial⟩
  exact hraced.step ⟨.writeCancel Depot.cancelSession, List.mem_cons_self, rfl⟩

/-- The record of the raced command. -/
def Depot.racedRecord : CancelRecord :=
  let outcome := cancelRequest (cancelWrite Depot.cancelSession.env Depot.cancelSession.cmd
    Depot.cancelSession.state) Depot.raced.db
  ⟨some Depot.cancelSession, outcome.1, Depot.raced.db, outcome.2⟩

theorem rejected_cancel_traceless_iff_depot :
    Depot.racedRecord.Traceless ↔ Depot.racedRecord.Undisturbed :=
  rejected_cancel_traceless_iff Depot.raced_reachable Depot.racedRecord List.mem_cons_self

/-- **The lost race commits its flag.** The planner is told that the version moved, and the job of
the run that goes on has its cancellation flag raised. -/
theorem rejected_cancel_leaves_flag :
    ¬ ∀ s, Reachable runSystem s → ∀ record ∈ s.answered,
      record.response.isError = true → record.after = record.before := by
  intro h
  have hsame : Depot.racedRecord.after = Depot.racedRecord.before :=
    h _ Depot.raced_reachable Depot.racedRecord List.mem_cons_self (by decide +kernel)
  have hflags : Depot.racedRecord.after.jobQueue.rows.map JobLeaseV1.cancellationRequested =
      Depot.racedRecord.before.jobQueue.rows.map JobLeaseV1.cancellationRequested :=
    congrArg (fun db : Db => db.jobQueue.rows.map JobLeaseV1.cancellationRequested) hsame
  exact absurd hflags (by decide +kernel)

end ShiftMind
