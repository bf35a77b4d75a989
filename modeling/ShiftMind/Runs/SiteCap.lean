import ShiftMind.Library.KeyedLock
import ShiftMind.Runs.Opening

/-!
# ShiftMind — the concurrency cap of a site

`enqueue_compute` counts the active runs of its site in one statement and opens a run in another.
What lies between is covered by the advisory lock of the site, held to the end of the transaction.
Here an enqueue command is a session that goes through its statements one by one, beside the steps
of workers and cancel commands and beside any number of other sessions.

* **`EnqueueSys.Inv`** — the cap, and what a session has counted is still an upper bound.
* **`site_concurrency_cap`** — no site ever has more active runs than the configured maximum.
-/

namespace ShiftMind

open Relational Transactional Transition ScheduleRunRepository KeyedLock

/-! ## How busy a site is -/

/-- A run that has moved is not yet in the table. -/
theorem Moved.not_mem {runs : Table ScheduleRunRow} {run run' : ScheduleRunRow}
    (hmoved : Moved run run') (hrun : run ∈ runs) : run' ∉ runs := by
  intro hmem
  have hsame : run' = run := Table.eq_of_clash hmem hrun (by simp [clash, hmoved.id])
  exact hmoved.edge.ne (by rw [hsame])

/-- **No move of a run makes a site busier.** -/
theorem Progress.activeRuns_le {db db' : Db} (h : Progress db db') (siteId : Uuid) :
    db'.activeRuns siteId ≤ db.activeRuns siteId := by
  cases h with
  | silent h => exact (Db.activeRuns_congr h.runs siteId).le
  | moved run run' hreplaced hmoved =>
    refine hreplaced.countP_le (fun row => by simp [clash]) (hmoved.not_mem hreplaced.mem_old) ?_
    intro hactive
    simp only [Bool.and_eq_true] at hactive ⊢
    exact ⟨by rw [← hmoved.site]; exact hactive.1, by rw [hmoved.edge.source_not_terminal]; rfl⟩

theorem OpenedAt.activeRuns_le {runId siteId : Uuid} {db db' : Db}
    (h : OpenedAt runId siteId db db') : db'.activeRuns siteId ≤ db.activeRuns siteId + 1 := by
  obtain ⟨run, -, -, hinsert⟩ := h
  unfold Db.activeRuns
  rw [Table.countP_insert? hinsert]
  split <;> omega

/-- A run opened at one site is no run of another. -/
theorem OpenedAt.activeRuns_elsewhere {runId siteId other : Uuid} {db db' : Db}
    (h : OpenedAt runId siteId db db') (hne : other ≠ siteId) :
    db'.activeRuns other = db.activeRuns other := by
  obtain ⟨run, -, hsite, hinsert⟩ := h
  unfold Db.activeRuns
  rw [Table.countP_insert? hinsert, if_neg]
  · rfl
  · simp [hsite, hne.symm]

/-! ## Sessions

An enqueue request between its statements: what it holds, and what it has counted. -/

/-- Where an enqueue session is. -/
inductive EnqueuePhase where
  /-- admitted; the lock is not yet taken -/
  | waiting
  /-- the lock is held -/
  | locked
  /-- the lock is held, and the site's active runs were counted -/
  | counted (active : Nat)
  deriving DecidableEq, Repr

structure EnqueueSession where
  env : Ambient
  cmd : EnqueueCommand
  phase : EnqueuePhase

/-- The site whose lock a session holds. -/
def EnqueueSession.lockedSite (session : EnqueueSession) : Option Uuid :=
  match session.phase with
  | .waiting => none
  | .locked | .counted _ => some session.cmd.siteId

/-- The runs with their workers and cancel commands, and the open enqueue transactions by number. -/
structure EnqueueSys where
  runs : Sys
  sessions : Nat → Option EnqueueSession := fun _ => none

namespace EnqueueSys

def db (s : EnqueueSys) : Db := s.runs.db

/-- A transaction goes on as `session`, or ends. -/
def put (s : EnqueueSys) (tx : Nat) (session : Option EnqueueSession) : EnqueueSys :=
  { s with sessions := Function.update s.sessions tx session }

/-- A transaction ends and leaves a committed state. -/
def close (s : EnqueueSys) (tx : Nat) (db : Db) : EnqueueSys :=
  { s.put tx none with runs := { s.runs with db := db } }

/-- The lock keys the transactions hold, `key` being the hash of a site's id. -/
def held (key : Uuid → Int) (s : EnqueueSys) (tx : Nat) : Option Int :=
  ((s.sessions tx).bind EnqueueSession.lockedSite).map key

end EnqueueSys

inductive EnqueueAction where
  /-- a transaction begins with the reads that admit its command -/
  | enter (tx : Nat) (env : Ambient) (cmd : EnqueueCommand)
  /-- `acquire_site_enqueue_lock` returns -/
  | lock (tx : Nat) (session : EnqueueSession)
  /-- `count_runs_with_statuses` -/
  | count (tx : Nat) (session : EnqueueSession)
  /-- the writes, and the commit or the rollback of what they raise -/
  | write (tx : Nat) (session : EnqueueSession) (catalogue : ScenarioCatalogue)
  /-- the transaction is rolled back from outside -/
  | abandon (tx : Nat)
  /-- a step of a worker, of a cancel command, or elsewhere in the database -/
  | other (a : Action)

/-- When a step may be taken; the maximum is the configured one for every command. -/
def EnqueueAction.Enabled (key : Uuid → Int) (maximum : Nat) (s : EnqueueSys) :
    EnqueueAction → Prop
  | .enter tx _ cmd => s.sessions tx = none ∧ cmd.siteMaxConcurrentRuns = maximum
  | .lock tx session => s.sessions tx = some session ∧ session.phase = .waiting ∧
    Free (s.held key) (key session.cmd.siteId)
  | .count tx session => s.sessions tx = some session ∧ session.phase = .locked
  | .write tx session _ => s.sessions tx = some session ∧ ∃ active, session.phase = .counted active
  | .abandon _ => True
  | .other a => a.Enabled s.runs ∧ a.opensNothing = true

def EnqueueSys.perform (s : EnqueueSys) : EnqueueAction → EnqueueSys
  | .enter tx env cmd =>
    match ((enqueueAdmission env cmd).run s.db).1 with
    | .ok none => s.put tx (some ⟨env, cmd, .waiting⟩)
    | .ok (some _) | .error _ => s
  | .lock tx session => s.put tx (some { session with phase := .locked })
  | .count tx session =>
    match ((takeCapacity session.cmd).run s.db).1 with
    | .ok active => s.put tx (some { session with phase := .counted active })
    | .error _ => s.put tx none
  | .write tx session catalogue =>
    s.close tx ((createCompute session.env catalogue session.cmd).commit s.db).2
  | .abandon tx => s.put tx none
  | .other a => { s with runs := s.runs.perform a }

/-- No transaction is open and no run is active. -/
structure EnqueueSys.Initial (s : EnqueueSys) : Prop where
  sessions : ∀ tx, s.sessions tx = none
  runs : ∀ run ∈ s.db.scheduleRun, run.status.terminal = true

/-- Enqueue commands beside workers and cancel commands, under one configured maximum. -/
def enqueueMachine (key : Uuid → Int) (maximum : Nat) :
    Transition.Machine EnqueueSys EnqueueAction where
  initial := EnqueueSys.Initial
  enabled := EnqueueAction.Enabled key maximum
  perform := EnqueueSys.perform

/-! ## The invariant -/

/-- The cap, and what carries it: locks exclude, and a count taken under its lock stays a bound. -/
structure EnqueueSys.Inv (key : Uuid → Int) (maximum : Nat) (s : EnqueueSys) : Prop where
  cap : ∀ siteId, s.db.activeRuns siteId ≤ maximum
  exclusive : Exclusive (s.held key)
  configured : ∀ tx session, s.sessions tx = some session →
    session.cmd.siteMaxConcurrentRuns = maximum
  counted : ∀ tx session active, s.sessions tx = some session → session.phase = .counted active →
    s.db.activeRuns session.cmd.siteId ≤ active ∧ active < maximum

section Inv

variable {key : Uuid → Int} {maximum : Nat}

theorem EnqueueSys.Inv.of_initial {s : EnqueueSys} (h : s.Initial) : s.Inv key maximum where
  cap siteId := by
    have hnone : s.db.activeRuns siteId = 0 := by
      unfold Db.activeRuns
      rw [List.countP_eq_zero]
      intro run hrun
      simp [h.runs run hrun]
    omega
  exclusive := .of_none fun tx => by simp [held, h.sessions tx]
  configured tx session hsession := by rw [h.sessions tx] at hsession; cases hsession
  counted tx session active hsession := by rw [h.sessions tx] at hsession; cases hsession

theorem EnqueueSys.put_sessions (s : EnqueueSys) (tx other : Nat)
    (session : Option EnqueueSession) :
    (s.put tx session).sessions other = if other = tx then session else s.sessions other :=
  Function.update_apply ..

theorem EnqueueSys.held_put (s : EnqueueSys) (tx : Nat) (session : Option EnqueueSession) :
    (s.put tx session).held key =
      Function.update (s.held key) tx ((session.bind EnqueueSession.lockedSite).map key) := by
  funext other
  rw [Function.update_apply, held, put_sessions]
  split <;> rfl

/-- A transaction is, after a step of one of them, the one that stepped or another as before. -/
theorem EnqueueSys.put_cases {s : EnqueueSys} {tx other : Nat} {next : Option EnqueueSession}
    {session : EnqueueSession} (h : (s.put tx next).sessions other = some session) :
    (other = tx ∧ next = some session) ∨ (other ≠ tx ∧ s.sessions other = some session) := by
  rw [put_sessions] at h
  split at h
  · exact .inl ⟨‹_›, h⟩
  · exact .inr ⟨‹_›, h⟩

/-- **A session steps without writing**: what it becomes has to be right about its maximum, its
lock and its count. -/
theorem EnqueueSys.Inv.put {s : EnqueueSys} (hinv : s.Inv key maximum) {tx : Nat}
    {next : Option EnqueueSession} (hexclusive : Exclusive ((s.put tx next).held key))
    (hconfigured : ∀ session, next = some session → session.cmd.siteMaxConcurrentRuns = maximum)
    (hcounted : ∀ session active, next = some session → session.phase = .counted active →
      s.db.activeRuns session.cmd.siteId ≤ active ∧ active < maximum) :
    (s.put tx next).Inv key maximum where
  cap := hinv.cap
  exclusive := hexclusive
  configured other session hsession := by
    rcases put_cases hsession with ⟨-, hnext⟩ | ⟨-, hold⟩
    · exact hconfigured session hnext
    · exact hinv.configured other session hold
  counted other session active hsession hphase := by
    rcases put_cases hsession with ⟨-, hnext⟩ | ⟨-, hold⟩
    · exact hcounted session active hnext hphase
    · exact hinv.counted other session active hold hphase

theorem EnqueueSys.Inv.closed {s : EnqueueSys} (hinv : s.Inv key maximum) (tx : Nat) :
    (s.put tx none).Inv key maximum := by
  refine hinv.put ?_ (fun _ h => by cases h) (fun _ _ h => by cases h)
  rw [held_put]
  exact hinv.exclusive.release tx

/-- A committed state with no busier site keeps the invariant. -/
theorem EnqueueSys.Inv.of_le {s : EnqueueSys} (hinv : s.Inv key maximum) {runs : Sys}
    (hle : ∀ siteId, runs.db.activeRuns siteId ≤ s.db.activeRuns siteId) :
    ({ s with runs := runs } : EnqueueSys).Inv key maximum where
  cap siteId := (hle siteId).trans (hinv.cap siteId)
  exclusive := hinv.exclusive
  configured := hinv.configured
  counted tx session active hsession hphase :=
    have hcount := hinv.counted tx session active hsession hphase
    ⟨(hle _).trans hcount.1, hcount.2⟩

/-- Sites whose sessions both hold a lock are different sites. -/
theorem EnqueueSys.Inv.sites_ne {s : EnqueueSys} (hinv : s.Inv key maximum) {tx other : Nat}
    {session session' : EnqueueSession} {active active' : Nat}
    (hsession : s.sessions tx = some session) (hsession' : s.sessions other = some session')
    (hphase : session.phase = .counted active) (hphase' : session'.phase = .counted active')
    (hne : other ≠ tx) : session'.cmd.siteId ≠ session.cmd.siteId := by
  intro hsite
  have hheld : s.held key tx = some (key session.cmd.siteId) := by
    simp [held, hsession, EnqueueSession.lockedSite, hphase]
  have hheld' : s.held key other = some (key session.cmd.siteId) := by
    simp [held, hsession', EnqueueSession.lockedSite, hphase', hsite]
  exact hne (hinv.exclusive other tx _ hheld' hheld)

/-- **The writes under the lock**: the count was below the maximum, nobody else opened a run of the
site since, and this transaction opens at most one. -/
theorem EnqueueSys.Inv.write {s : EnqueueSys} (hinv : s.Inv key maximum) {tx : Nat}
    {session : EnqueueSession} {active : Nat} (hsession : s.sessions tx = some session)
    (hphase : session.phase = .counted active) {db : Db} {runId : Uuid}
    (hopens : OpenedAt runId session.cmd.siteId s.db db) : (s.close tx db).Inv key maximum := by
  obtain ⟨hbound, hfree⟩ := hinv.counted tx session active hsession hphase
  have hended := hinv.closed tx
  exact
    { cap := by
        intro siteId
        by_cases hsite : siteId = session.cmd.siteId
        · have hopened : db.activeRuns siteId ≤ s.db.activeRuns siteId + 1 :=
            hsite ▸ hopens.activeRuns_le
          have hbefore : s.db.activeRuns siteId ≤ active := hsite ▸ hbound
          show db.activeRuns siteId ≤ maximum
          omega
        · show db.activeRuns siteId ≤ maximum
          rw [hopens.activeRuns_elsewhere hsite]
          exact hinv.cap siteId
      exclusive := hended.exclusive
      configured := hended.configured
      counted := by
        intro other session' active' hsession' hphase'
        rcases put_cases hsession' with ⟨-, hnone⟩ | ⟨hne, hold⟩
        · cases hnone
        · -- another holder of a lock counts another site
          have hsites := hinv.sites_ne hsession hold hphase hphase' hne
          show db.activeRuns session'.cmd.siteId ≤ active' ∧ active' < maximum
          rw [hopens.activeRuns_elsewhere hsites]
          exact hinv.counted other session' active' hold hphase' }

/-- A step of the runs' system that is no enqueue command makes no site busier. -/
theorem Sys.activeRuns_le {s : Sys} {a : Action} (ha : a.Enabled s)
    (hopens : a.opensNothing = true) (siteId : Uuid) :
    (s.perform a).db.activeRuns siteId ≤ s.db.activeRuns siteId := by
  rcases Sys.perform_progress ha hopens with hprogress | ⟨db', rfl⟩
  · exact hprogress.activeRuns_le siteId
  · exact (Db.activeRuns_congr (congrArg RunTables.runs ha.1) siteId).le

theorem EnqueueSys.Inv.perform {s : EnqueueSys} {a : EnqueueAction} (hinv : s.Inv key maximum)
    (ha : a.Enabled key maximum s) : (s.perform a).Inv key maximum := by
  cases a with
  | enter tx env cmd =>
    simp only [EnqueueSys.perform]
    split
    · -- a transaction that enters holds no lock yet
      refine hinv.put ?_ ?_ ?_
      · rw [held_put]
        exact hinv.exclusive.release tx
      · intro session hsession; cases hsession; exact ha.2
      · intro session active hsession hphase; cases hsession; cases hphase
    · exact hinv
    · exact hinv
  | lock tx session =>
    obtain ⟨hsession, -, hfree⟩ := ha
    -- the lock of the site is free, so taking it keeps it exclusive
    refine hinv.put ?_ ?_ ?_
    · rw [held_put]
      exact hinv.exclusive.acquire hfree tx
    · intro next hnext; cases hnext; exact hinv.configured tx session hsession
    · intro next active hnext hphase; cases hnext; cases hphase
  | count tx session =>
    obtain ⟨hsession, hphase⟩ := ha
    -- the count is made under the lock, and so is the write after it
    have hheld : s.held key tx = some (key session.cmd.siteId) := by
      simp [held, hsession, EnqueueSession.lockedSite, hphase]
    have hmaximum := hinv.configured tx session hsession
    simp only [EnqueueSys.perform, takeCapacity, Tx.run_bind, countRunsWithStatuses_run, Tx.run_ite]
    split
    · rename_i active hactive
      split at hactive
      · cases hactive
      · rename_i hroom
        cases hactive
        refine hinv.put ?_ ?_ ?_
        · rw [held_put]
          exact hinv.exclusive.keep hheld
        · intro next hnext; cases hnext; exact hmaximum
        · intro next active hnext hcounted
          cases hnext
          cases hcounted
          exact ⟨le_rfl, by omega⟩
    · exact hinv.closed tx
  | write tx session catalogue =>
    obtain ⟨hsession, active, hphase⟩ := ha
    simp only [EnqueueSys.perform]
    rcases Tx.commit_cases (createCompute session.env catalogue session.cmd) s.db with
      ⟨result, hrun⟩ | hback
    · exact hinv.write hsession hphase (createCompute_opens hrun)
    · rw [hback]
      exact hinv.closed tx
  | abandon tx => exact hinv.closed tx
  | other a =>
    exact hinv.of_le fun siteId => Sys.activeRuns_le ha.1 ha.2 siteId

end Inv

/-- Transactions that only wait hold nothing. -/
theorem EnqueueSys.free_of_waiting {key : Uuid → Int} {s : EnqueueSys}
    (h : ∀ tx session, s.sessions tx = some session → session.phase = .waiting) (k : Int) :
    Free (s.held key) k := by
  intro tx hheld
  unfold held at hheld
  cases hsession : s.sessions tx with
  | none => simp [hsession] at hheld
  | some session => simp [hsession, EnqueueSession.lockedSite, h tx session hsession] at hheld

/-- **The concurrency cap.** However enqueue commands of any proposals, keys and retries interleave
with each other and with workers and cancel commands, no site has more runs that have not ended than
the configured maximum. -/
theorem site_concurrency_cap (key : Uuid → Int) (maximum : Nat) {s : EnqueueSys}
    (hreach : Reachable (enqueueMachine key maximum).system s) (siteId : Uuid) :
    s.db.activeRuns siteId ≤ maximum := by
  have hinv : s.Inv key maximum :=
    Machine.reachable_invariant (EnqueueSys.Inv key maximum) (fun _ => .of_initial)
      (fun _ _ hinv ha => hinv.perform ha) hreach
  exact hinv.cap siteId

namespace Depot

/-- Two planners race for the one run a site may have: both were admitted before either took the
lock. -/
def race (n : Nat) : List EnqueueAction :=
  let cmd (key : String) : EnqueueCommand := ⟨10, 1, 3, 1, key, "v1", n⟩
  let session (k : Nat) (key : String) (phase : EnqueuePhase) : EnqueueSession :=
    ⟨env k, cmd key, phase⟩
  [.enter 1 (env 1) (cmd "first"), .enter 2 (env 2) (cmd "second"),
    .lock 1 (session 1 "first" .waiting), .count 1 (session 1 "first" .locked),
    .write 1 (session 1 "first" (.counted 0)) catalogue,
    .lock 2 (session 2 "second" .waiting), .count 2 (session 2 "second" .locked)]

def capped : EnqueueSys := (enqueueMachine (fun _ => 0) 1).performAll ⟨site, fun _ => none⟩ (race 1)

theorem capped_reachable : Reachable (enqueueMachine (fun _ => 0) 1).system capped := by
  have hinit : EnqueueSys.Initial ⟨site, fun _ => none⟩ :=
    ⟨fun _ => rfl, fun _ h => absurd h (Table.not_mem_empty _)⟩
  refine Machine.reachable_of_schedule hinit ⟨⟨rfl, rfl⟩, ⟨rfl, rfl⟩, ⟨rfl, rfl, ?_⟩, ⟨rfl, rfl⟩,
    ⟨rfl, 0, rfl⟩, ⟨rfl, rfl, ?_⟩, ⟨rfl, rfl⟩, trivial⟩
  · refine EnqueueSys.free_of_waiting (fun tx session hsession => ?_) 0
    rcases EnqueueSys.put_cases hsession with ⟨-, h⟩ | ⟨-, hsession⟩
    · cases h; rfl
    · rcases EnqueueSys.put_cases hsession with ⟨-, h⟩ | ⟨-, h⟩ <;> cases h; rfl
  · refine EnqueueSys.free_of_waiting (fun tx session hsession => ?_) 0
    rcases EnqueueSys.put_cases hsession with ⟨-, h⟩ | ⟨hne, hsession⟩
    · cases h
    rcases EnqueueSys.put_cases hsession with ⟨htx, -⟩ | ⟨-, hsession⟩
    · exact absurd htx hne
    rcases EnqueueSys.put_cases hsession with ⟨htx, -⟩ | ⟨-, hsession⟩
    · exact absurd htx hne
    rcases EnqueueSys.put_cases hsession with ⟨-, h⟩ | ⟨-, hsession⟩
    · cases h; rfl
    rcases EnqueueSys.put_cases hsession with ⟨htx, -⟩ | ⟨-, h⟩
    · exact absurd htx hne
    · cases h

end Depot

theorem site_concurrency_cap_depot : Depot.capped.db.activeRuns 1 ≤ 1 :=
  site_concurrency_cap (fun _ => 0) 1 Depot.capped_reachable 1

/-- The first session opened its run; the second found the site full. -/
example : Depot.capped.db.activeRuns 1 = 1 := by decide +kernel

end ShiftMind
