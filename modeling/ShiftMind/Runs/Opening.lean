import ShiftMind.Runs.Safety

/-!
# ShiftMind — opening a run

`enqueue_compute`, statement by statement: what it does before it takes the lock of its site, the
count under the lock, and the writes.

* **`createCompute_opens`** — the writes open one run, at the site of the command.
* **`enqueueCompute_phases`** — the statements, taken together, are `enqueueCompute`.
-/

namespace ShiftMind

open Relational Transactional ScheduleRunRepository

/-! ## Active runs -/

/-- The runs of a site that have not ended. -/
def Db.activeRuns (siteId : Uuid) (db : Db) : Nat :=
  db.scheduleRun.rows.countP fun row => decide (row.siteId = siteId) && !row.status.terminal

/-- The statuses `enqueue_compute` counts are the ones that are not terminal. -/
theorem contains_nonTerminal (status : ScheduleRunStatus) :
    nonTerminalRunStatuses.contains status = !status.terminal := by
  cases status <;> decide

theorem countRunsWithStatuses_run (siteId : Uuid) (db : Db) :
    (countRunsWithStatuses siteId nonTerminalRunStatuses).run db =
      (.ok (db.activeRuns siteId), db) := by
  unfold countRunsWithStatuses Db.activeRuns
  rw [Tx.run_read]
  simp only [contains_nonTerminal]

theorem Db.activeRuns_congr {db db' : Db} (h : db'.scheduleRun = db.scheduleRun) (siteId : Uuid) :
    db'.activeRuns siteId = db.activeRuns siteId := by
  unfold Db.activeRuns
  rw [h]

/-! ## What an enqueue command opens -/

/-- `db'` has one more run than `db`. -/
def OpenedAt (runId siteId : Uuid) (db db' : Db) : Prop :=
  ∃ run : ScheduleRunRow, run.id = runId ∧ run.siteId = siteId ∧
    db.scheduleRun.insert? run = some db'.scheduleRun

/-- What opening a run writes: a queued run, its snapshot and its first event. -/
theorem createQueuedRun_ok {env : Ambient} {snapshot : RunSnapshotV1} {siteId actorId : Uuid}
    {db db' : Db} {u : Unit}
    (h : (createQueuedRun env snapshot siteId actorId).run db = (.ok u, db')) :
    (∃ run : ScheduleRunRow, run.id = snapshot.scheduleRunId ∧ run.status = .solverQueued ∧
      db.scheduleRun.insert? run = some db'.scheduleRun) ∧
    db' = { db with
      runSnapshot := db'.runSnapshot
      scheduleRun := db'.scheduleRun
      persistedEvent := db'.persistedEvent } := by
  obtain ⟨_, db₁, hsnapshot, h⟩ := Tx.bind_ok.mp h
  obtain ⟨snapshots, -, rfl⟩ := Relvar.insertInto_ok.mp hsnapshot
  obtain ⟨_, db₂, hrun, h⟩ := Tx.bind_ok.mp h
  obtain ⟨runs, hruns, rfl⟩ := Relvar.insertInto_ok.mp hrun
  rw [writeProgressEvent, Tx.run_read_bind] at h
  obtain ⟨events, -, rfl⟩ := Relvar.insertInto_ok.mp h
  exact ⟨⟨_, rfl, rfl, hruns⟩, rfl⟩

/-- A snapshot names the run it was made for. -/
theorem snapshotOf_ok {env : Ambient} {catalogue : ScenarioCatalogue} {proposal : ProposalV1}
    {frozen : RunSnapshotV1 × Uuid} (h : snapshotOf env catalogue proposal = .ok frozen) :
    frozen.1.scheduleRunId = env.uuid4 2 := by
  unfold snapshotOf at h
  -- past the checks, the identifier is the third one drawn
  split at h
  · cases h
  split at h
  · cases h
  split at h
  · cases h
  split at h
  · cases h
  split at h
  · cases h
  split at h
  · unfold RunSnapshotV1.validated at h
    split at h
    · cases h
    split at h
    · cases h
    split at h
    · cases h
    split at h
    · cases h
    cases h
    rfl
  · cases h

theorem createRunSnapshot_ok {env : Ambient} {catalogue : ScenarioCatalogue}
    {proposalId actorId : Uuid} {snapshot : RunSnapshotV1} {db db' : Db}
    (h : (createRunSnapshot env catalogue proposalId actorId).run db = (.ok snapshot, db')) :
    snapshot.scheduleRunId = env.uuid4 2 ∧
    (∃ run : ScheduleRunRow, run.id = snapshot.scheduleRunId ∧ run.status = .solverQueued ∧
      db.scheduleRun.insert? run = some db'.scheduleRun) ∧
    db' = { db with
      runSnapshot := db'.runSnapshot
      scheduleRun := db'.scheduleRun
      persistedEvent := db'.persistedEvent } := by
  obtain ⟨record, db₁, hrecord, h⟩ := Tx.bind_ok.mp h
  rw [(getCurrent_still _).eq_of_run hrecord] at h
  cases record with
  | none => exact absurd h Tx.throw_ok
  | some record =>
    obtain ⟨frozen, db₂, hfrozen, h⟩ := Tx.bind_ok.mp h
    obtain ⟨hsnapshot, hsame⟩ := Tx.lift_ok.mp hfrozen
    obtain ⟨made, siteId⟩ := frozen
    obtain ⟨_, db₃, hcreate, h⟩ := Tx.bind_ok.mp h
    cases h
    rw [hsame] at hcreate
    exact ⟨snapshotOf_ok hsnapshot, createQueuedRun_ok hcreate⟩

/-- **Queueing the job of a run**: the foreign key found the run at the site of the job. -/
theorem enqueueJob_ok {job : JobLeaseV1} {siteId : Uuid} {run : ScheduleRunRow} {db db' : Db}
    {u : Unit} (hmem : run ∈ db.scheduleRun) (hid : run.id = job.scheduleRunId)
    (h : (enqueueJob job siteId).run db = (.ok u, db')) :
    run.siteId = siteId ∧ ∃ t, db.jobQueue.insert? job = some t ∧
      db' = { db with jobQueue := t } := by
  unfold enqueueJob at h
  rw [Tx.run_ite] at h
  split at h
  · exact absurd h Tx.throw_ok
  obtain ⟨_, db₁, href, hinsert⟩ := Tx.bind_ok.mp h
  obtain rfl := (references_still ..).eq_of_run href
  obtain ⟨t, ht, rfl⟩ := Relvar.insertInto_ok.mp hinsert
  refine ⟨?_, t, ht, rfl⟩
  have hreferenced : db₁.scheduleRun.rows.any (isRun job.scheduleRunId siteId) = true := by
    obtain ⟨present, db₂, hread, href⟩ := Tx.bind_ok.mp href
    cases hread
    by_contra hmissing
    rw [Tx.run_ite, if_neg hmissing] at href
    exact absurd href Tx.throw_ok
  obtain ⟨row, hrow, hisRun⟩ := List.any_eq_true.mp hreferenced
  simp only [isRun, Bool.and_eq_true, decide_eq_true_eq] at hisRun
  have hsame : row = run := Table.eq_of_clash hrow hmem (by simp [clash, hisRun.1, hid])
  exact hsame ▸ hisRun.2

/-- **The run an enqueue command opens belongs to the command's site**: its job refers to it
there. -/
theorem createCompute_opens {env : Ambient} {catalogue : ScenarioCatalogue} {cmd : EnqueueCommand}
    {result : EnqueueComputeResultV1} {db db' : Db}
    (h : (createCompute env catalogue cmd).run db = (.ok result, db')) :
    OpenedAt (env.uuid4 2) cmd.siteId db db' := by
  obtain ⟨snapshot, db₁, hsnapshot, h⟩ := Tx.bind_ok.mp h
  obtain ⟨hfresh, ⟨run, hid, -, hinsert⟩, -⟩ := createRunSnapshot_ok hsnapshot
  obtain ⟨_, db₂, hjob, h⟩ := Tx.bind_ok.mp h
  obtain ⟨_, db₃, hstore, h⟩ := Tx.bind_ok.mp h
  cases h
  have hjobRuns : db₂.scheduleRun = db₁.scheduleRun :=
    ((recordedRegime.enqueueJob rfl _).led hjob).runs
  have hstoreRuns : db'.scheduleRun = db₂.scheduleRun :=
    ((progressWatch.storeIdempotentResult ..).led hstore).runs
  have hmem : run ∈ db₁.scheduleRun := (Table.mem_of_insert? hinsert).mpr (.inr rfl)
  exact ⟨run, hid.trans hfresh, (enqueueJob_ok hmem hid hjob).1,
    by rw [hstoreRuns, hjobRuns]; exact hinsert⟩

/-! ## The statements of an enqueue session -/

/-- What `enqueue_compute` does before it takes the site's lock: a replayed result ends the command,
an admitted command goes on. -/
def enqueueAdmission (env : Ambient) (cmd : EnqueueCommand) :
    DbTx (Option EnqueueComputeResultV1) := do
  let record ← ProposalRepository.getCurrent cmd.proposalId
  match record with
  | none => throw (.enqueueProposalNotFound "proposal was not found")
  | some record =>
    if cmd.idempotencyKey.length = 0 ∨ maxIdempotencyKeyLength < cmd.idempotencyKey.length then
      throw (.enqueueCompute
        ("idempotency_key must be 1.." ++ toString maxIdempotencyKeyLength ++ " characters"))
    else do
      let stored ← getIdempotentResult cmd.siteId cmd.actorId cmd.operation cmd.idempotencyKey
      match stored with
      | some stored => do
        let result ← Tx.lift (replayEnqueue env cmd stored)
        pure (some result)
      | none => do
        Tx.lift (admitEnqueue cmd record.proposal)
        pure none

/-- The statement under the lock: count the site's active runs, and refuse a site that is full. -/
def takeCapacity (cmd : EnqueueCommand) : DbTx Nat := do
  let active ← countRunsWithStatuses cmd.siteId nonTerminalRunStatuses
  if cmd.siteMaxConcurrentRuns ≤ active then
    throw (.siteConcurrencyExhausted ("site has reached its limit of " ++
      toString cmd.siteMaxConcurrentRuns ++ " active runs"))
  else pure active

/-- **The statements of a session, taken together, are `enqueueCompute`.** -/
theorem enqueueCompute_phases (env : Ambient) (catalogue : ScenarioCatalogue)
    (cmd : EnqueueCommand) (db : Db) :
    (enqueueCompute env catalogue cmd).run db =
      (do
        let replayed ← enqueueAdmission env cmd
        match replayed with
        | some result => pure result
        | none => do
          let _ ← takeCapacity cmd
          createCompute env catalogue cmd : DbTx EnqueueComputeResultV1).run db := by
  unfold enqueueCompute enqueueAdmission
  simp only [Tx.run_bind]
  cases hrecord : (ProposalRepository.getCurrent cmd.proposalId).run db with
  | mk r db₁ =>
    cases r with
    | error e => rfl
    | ok record =>
      cases record with
      | none => rfl
      | some record =>
        simp only [Tx.run_ite]
        split
        · rfl
        · simp only [Tx.run_bind]
          cases hstored : (getIdempotentResult cmd.siteId cmd.actorId cmd.operation
              cmd.idempotencyKey).run db₁ with
          | mk r db₂ =>
            cases r with
            | error e => rfl
            | ok stored =>
              cases stored with
              | some stored =>
                simp only [Tx.run_bind, Tx.run_lift]
                cases replayEnqueue env cmd stored <;> rfl
              | none =>
                simp only [Tx.run_bind, Tx.run_lift]
                cases admitEnqueue cmd record.proposal with
                | error e => rfl
                | ok _ =>
                  -- the count, and what follows it
                  simp only [Tx.run_pure, takeCapacity, Tx.run_bind, countRunsWithStatuses_run,
                    Tx.run_ite]
                  split <;> rfl

theorem enqueueAdmission_still (env : Ambient) (cmd : EnqueueCommand) :
    (enqueueAdmission env cmd).Still := by
  refine .bind (getCurrent_still _) fun record => ?_
  cases record with
  | none => exact .throw _
  | some record =>
    refine .ite (.throw _) (.bind (Relvar.still_selectOne ..) fun stored => ?_)
    cases stored with
    | some stored => exact .bind (.lift _) fun _ => .pure _
    | none => exact .bind (.lift _) fun _ => .pure _

theorem takeCapacity_still (cmd : EnqueueCommand) : (takeCapacity cmd).Still :=
  .bind (.read _) fun _ => .ite (.throw _) (.pure _)

/-- **What an enqueue command commits**: nothing, or one run under the identifier it drew. -/
theorem enqueueCompute_opens {env : Ambient} {catalogue : ScenarioCatalogue} {cmd : EnqueueCommand}
    {result : EnqueueComputeResultV1} {db db' : Db}
    (h : (enqueueCompute env catalogue cmd).run db = (.ok result, db')) :
    db' = db ∨ OpenedAt (env.uuid4 2) cmd.siteId db db' := by
  rw [enqueueCompute_phases] at h
  obtain ⟨replayed, db₁, hadmit, h⟩ := Tx.bind_ok.mp h
  rw [(enqueueAdmission_still env cmd).eq_of_run hadmit] at h
  cases replayed with
  | some result => cases h; exact .inl rfl
  | none =>
    obtain ⟨active, db₂, hcapacity, h⟩ := Tx.bind_ok.mp h
    rw [(takeCapacity_still cmd).eq_of_run hcapacity] at h
    exact .inr (createCompute_opens h)

/-! ## The other steps -/

/-- The step is no enqueue command. -/
def Action.opensNothing : Action → Bool
  | .enqueueCompute .. => false
  | _ => true

/-- **Any other step moves at most one run**, unless it is taken elsewhere in the database. -/
theorem Sys.perform_progress {s : Sys} {a : Action} (ha : a.Enabled s)
    (hopens : a.opensNothing = true) :
    Progress s.db (s.perform a).db ∨ ∃ db', a = .elsewhere db' := by
  cases a with
  | enqueueCompute env catalogue cmd => cases hopens
  | leaseNextJob env locked leaseOwner leaseSeconds =>
    exact .inl (.silent (leaseNextJob_commit env locked leaseOwner leaseSeconds s.db))
  | worker env lease call =>
    refine .inl (WorkerCall.body_progress env lease ?_ s.db)
    rintro f finishedAt requestId rfl
    exact ha.2
  | observeCancel cmd => exact .inl (.silent (.refl s.db))
  | admitCancel env cmd observed =>
    rw [(s.perform_admit env cmd observed).1]
    exact .inl (.silent (.refl s.db))
  | writeCancel session => exact .inl (cancelRequest_progress session s.db)
  | elsewhere db' => exact .inr ⟨db', rfl⟩

end ShiftMind
