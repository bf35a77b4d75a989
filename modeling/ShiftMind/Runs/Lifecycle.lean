import ShiftMind.Store.Schema

/-!
# ShiftMind — the lifecycle of a schedule run

What the run aggregate is for, stated on its three tables alone and without any statement of the
source: a run starts queued, moves along the edges of a state machine with five absorbing states,
and owns a candidate schedule version exactly when it has completed.

* **`Edge`** — the state machine of a run's status.
* **`RunTables.Effect`** — what one committed transaction may do to the tables: nothing, open one
  queued run, or move one run along one edge, writing the candidate with the move to
  `solver_completed`.
* **`RunTables.Inv`** — the linkage of runs, candidates and snapshots, kept by every effect.
-/

namespace ShiftMind

open Relational

/-! ## The state machine

The edges are those of the guards in the repository, not of a table. -/

/-- The statuses a status may change to. -/
def ScheduleRunStatus.successors : ScheduleRunStatus → List ScheduleRunStatus
  | .solverQueued => [.solverRunning, .solverCancelled, .solverTimedOut, .solverFailed]
  | .solverRunning =>
    [.cancellationRequested, .solverCompleted, .solverInfeasible, .solverTimedOut, .solverFailed]
  | .cancellationRequested =>
    [.solverCompleted, .solverInfeasible, .solverTimedOut, .solverCancelled, .solverFailed]
  | .solverCompleted | .solverInfeasible | .solverTimedOut | .solverCancelled | .solverFailed => []

/-- A legal change of a run's status. -/
def Edge (a b : ScheduleRunStatus) : Prop := b ∈ a.successors

instance (a b : ScheduleRunStatus) : Decidable (Edge a b) :=
  inferInstanceAs (Decidable (b ∈ a.successors))

/-- The five terminal statuses are exactly the ones no edge leaves. -/
theorem terminal_iff_no_edge (a : ScheduleRunStatus) : a.terminal = true ↔ ∀ b, ¬ Edge a b := by
  have hnil : a.terminal = true ↔ a.successors = [] := by cases a <;> decide
  rw [hnil, List.eq_nil_iff_forall_not_mem]
  rfl

theorem Edge.source_not_terminal {a b : ScheduleRunStatus} (h : Edge a b) : a.terminal = false := by
  by_contra hterm
  exact (terminal_iff_no_edge a).mp (by simpa using hterm) b h

/-- An edge changes the status. -/
theorem Edge.ne {a b : ScheduleRunStatus} (h : Edge a b) : a ≠ b := by
  rintro rfl
  revert h
  cases a <;> decide

/-! ## The tables of the aggregate -/

/-- The tables whose rows the lifecycle speaks about. -/
structure RunTables where
  runs : Table ScheduleRunRow
  versions : Table ScheduleVersionRow
  snapshots : Table RunSnapshotRow

/-- The run tables of a database. -/
def Db.runTables (db : Db) : RunTables where
  runs := db.scheduleRun
  versions := db.scheduleVersion
  snapshots := db.runSnapshot

/-- `run'` is `run` after one change of status. -/
structure Moved (run run' : ScheduleRunRow) : Prop where
  id : run'.id = run.id
  site : run'.siteId = run.siteId
  snapshot : run'.runSnapshotId = run.runSnapshotId
  edge : Edge run.status run'.status
  version : run'.resourceVersion = run.resourceVersion + 1

/-- The candidate written with a change of status: one exactly on completion. -/
inductive CandidateWrite (run run' : ScheduleRunRow)
    (versions versions' : Table ScheduleVersionRow) : Prop where
  | none (hstatus : run'.status ≠ .solverCompleted) (hversions : versions' = versions)
  | some (v : ScheduleVersionRow) (hstatus : run'.status = .solverCompleted)
      (hinsert : versions.insert? v = some versions') (hrun : v.scheduleRunId = run.id)
      (hsite : v.siteId = run.siteId) (hcandidate : run'.candidateScheduleVersionId = some v.id)

/-- What one committed transaction does to the run tables. -/
inductive RunTables.Effect (c c' : RunTables) : Prop where
  | quiet (h : c' = c)
  | opened (snapshot : RunSnapshotRow) (run : ScheduleRunRow)
      (hsnapshot : c.snapshots.insert? snapshot = some c'.snapshots)
      (hrun : c.runs.insert? run = some c'.runs) (hversions : c'.versions = c.versions)
      (hstatus : run.status = .solverQueued) (hsnapshotId : run.runSnapshotId = snapshot.id)
      (hsite : run.siteId = snapshot.siteId) (hpayload : snapshot.payload.scheduleRunId = run.id)
  | moved (run run' : ScheduleRunRow) (hreplaced : c.runs.Replaced c'.runs run run')
      (hmoved : Moved run run') (hcandidate : CandidateWrite run run' c.versions c'.versions)
      (hsnapshots : c'.snapshots = c.snapshots)

namespace RunTables

/-- Runs with one id are one run. -/
theorem run_eq_of_id (c : RunTables) {run other : ScheduleRunRow} (hrun : run ∈ c.runs)
    (hother : other ∈ c.runs) (h : run.id = other.id) : run = other :=
  Table.eq_of_clash hrun hother (by simpa [check, clash] using h)

/-- Candidates of one run are one candidate. -/
theorem version_eq_of_run (c : RunTables) {v w : ScheduleVersionRow} (hv : v ∈ c.versions)
    (hw : w ∈ c.versions) (h : v.scheduleRunId = w.scheduleRunId) : v = w :=
  Table.eq_of_clash hv hw (by simp [clash, h])

theorem snapshot_eq_of_id (c : RunTables) {a b : RunSnapshotRow} (ha : a ∈ c.snapshots)
    (hb : b ∈ c.snapshots) (h : a.id = b.id) : a = b :=
  Table.eq_of_clash ha hb (by simpa [clash] using h)

/-! ## The invariant -/

/-- The linkage of the run tables. -/
structure Inv (c : RunTables) : Prop where
  /-- a candidate belongs to a completed run that names it -/
  completed_of_version : ∀ v ∈ c.versions, ∃ run ∈ c.runs, run.id = v.scheduleRunId ∧
    run.siteId = v.siteId ∧ run.status = .solverCompleted ∧
    run.candidateScheduleVersionId = some v.id
  /-- a completed run has its candidate -/
  version_of_completed : ∀ run ∈ c.runs, run.status = .solverCompleted →
    ∃ v ∈ c.versions, v.scheduleRunId = run.id
  /-- a run was opened with a snapshot made for it -/
  snapshot_of_run : ∀ run ∈ c.runs, ∃ s ∈ c.snapshots, s.id = run.runSnapshotId ∧
    s.siteId = run.siteId ∧ s.payload.scheduleRunId = run.id

theorem Inv.of_empty {c : RunTables} (hruns : c.runs = .empty) (hversions : c.versions = .empty) :
    c.Inv where
  completed_of_version := by
    intro v hv; rw [hversions] at hv; exact absurd hv (Table.not_mem_empty v)
  version_of_completed := by
    intro run hrun; rw [hruns] at hrun; exact absurd hrun (Table.not_mem_empty run)
  snapshot_of_run := by
    intro run hrun; rw [hruns] at hrun; exact absurd hrun (Table.not_mem_empty run)

/-- No candidate belongs to a run that has not completed. -/
theorem Inv.no_version {c : RunTables} (hinv : c.Inv) {run : ScheduleRunRow} (hrun : run ∈ c.runs)
    (hstatus : run.status ≠ .solverCompleted) {v : ScheduleVersionRow} (hv : v ∈ c.versions) :
    v.scheduleRunId ≠ run.id := by
  intro heq
  obtain ⟨owner, howner, hid, -, hcompleted, -⟩ := hinv.completed_of_version v hv
  have hsame := c.run_eq_of_id howner hrun (hid.trans heq)
  exact hstatus (hsame ▸ hcompleted)

/-- Opening a queued run keeps the linkage: its snapshot is new, and it owns no candidate. -/
theorem Inv.opened {c c' : RunTables} (hinv : c.Inv) {snapshot : RunSnapshotRow}
    {run : ScheduleRunRow} (hsnapshot : c.snapshots.insert? snapshot = some c'.snapshots)
    (hrun : c.runs.insert? run = some c'.runs) (hversions : c'.versions = c.versions)
    (hstatus : run.status = .solverQueued) (hsnapshotId : run.runSnapshotId = snapshot.id)
    (hsite : run.siteId = snapshot.siteId) (hpayload : snapshot.payload.scheduleRunId = run.id) :
    c'.Inv where
  completed_of_version := by
    intro v hv
    rw [hversions] at hv
    obtain ⟨owner, howner, hrest⟩ := hinv.completed_of_version v hv
    exact ⟨owner, (Table.mem_of_insert? hrun).mpr (.inl howner), hrest⟩
  version_of_completed := by
    intro r hr hcompleted
    rw [hversions]
    rcases (Table.mem_of_insert? hrun).mp hr with hold | rfl
    · exact hinv.version_of_completed r hold hcompleted
    · rw [hstatus] at hcompleted; cases hcompleted
  snapshot_of_run := by
    intro r hr
    rcases (Table.mem_of_insert? hrun).mp hr with hold | rfl
    · obtain ⟨s, hs, hrest⟩ := hinv.snapshot_of_run r hold
      exact ⟨s, (Table.mem_of_insert? hsnapshot).mpr (.inl hs), hrest⟩
    · exact ⟨snapshot, (Table.mem_of_insert? hsnapshot).mpr (.inr rfl), hsnapshotId.symm,
        hsite.symm, hpayload⟩

/-- A change of status keeps the linkage: the run it moves was not completed, so no candidate
named it, and the candidate written with a completion is its own. -/
theorem Inv.moved {c c' : RunTables} (hinv : c.Inv) {run run' : ScheduleRunRow}
    (hreplaced : c.runs.Replaced c'.runs run run') (hmoved : Moved run run')
    (hcandidate : CandidateWrite run run' c.versions c'.versions)
    (hsnapshots : c'.snapshots = c.snapshots) : c'.Inv := by
  have hrun := hreplaced.mem_old
  have hnotCompleted : run.status ≠ .solverCompleted := by
    intro h
    have := hmoved.edge.source_not_terminal
    rw [h] at this; cases this
  -- a candidate that was there before keeps its owner, which is another run
  have hkept : ∀ v ∈ c.versions, ∃ owner ∈ c'.runs, owner.id = v.scheduleRunId ∧
      owner.siteId = v.siteId ∧ owner.status = .solverCompleted ∧
      owner.candidateScheduleVersionId = some v.id := by
    intro v hv
    obtain ⟨owner, howner, hid, hsite, hcompleted, hnamed⟩ := hinv.completed_of_version v hv
    refine ⟨owner, (hreplaced.mem_iff owner).mpr (.inr ⟨howner, ?_⟩), hid, hsite, hcompleted,
      hnamed⟩
    rintro rfl
    exact hnotCompleted hcompleted
  have hsnap : ∀ r ∈ c'.runs, ∃ s ∈ c'.snapshots, s.id = r.runSnapshotId ∧
      s.siteId = r.siteId ∧ s.payload.scheduleRunId = r.id := by
    intro r hr
    rw [hsnapshots]
    rcases (hreplaced.mem_iff r).mp hr with rfl | ⟨hold, -⟩
    · obtain ⟨s, hs, hid, hsite, hpayload⟩ := hinv.snapshot_of_run run hrun
      exact ⟨s, hs, hid.trans hmoved.snapshot.symm, hsite.trans hmoved.site.symm,
        hpayload.trans hmoved.id.symm⟩
    · exact hinv.snapshot_of_run r hold
  cases hcandidate with
  | none hstatus hversions =>
    refine ⟨by rw [hversions]; exact hkept, ?_, hsnap⟩
    intro r hr hcompleted
    rw [hversions]
    rcases (hreplaced.mem_iff r).mp hr with rfl | ⟨hold, -⟩
    · exact absurd hcompleted hstatus
    · exact hinv.version_of_completed r hold hcompleted
  | some v hstatus hinsert hvrun hvsite hnamed =>
    refine ⟨?_, ?_, hsnap⟩
    · intro w hw
      rcases (Table.mem_of_insert? hinsert).mp hw with hold | rfl
      · exact hkept w hold
      · exact ⟨run', hreplaced.mem_new, hmoved.id.trans hvrun.symm, hmoved.site.trans hvsite.symm,
          hstatus, hnamed⟩
    · intro r hr hcompleted
      rcases (hreplaced.mem_iff r).mp hr with rfl | ⟨hold, -⟩
      · exact ⟨v, (Table.mem_of_insert? hinsert).mpr (.inr rfl), hvrun.trans hmoved.id.symm⟩
      · obtain ⟨w, hw, hwrun⟩ := hinv.version_of_completed r hold hcompleted
        exact ⟨w, (Table.mem_of_insert? hinsert).mpr (.inl hw), hwrun⟩

/-- **Every effect keeps the linkage.** -/
theorem Inv.effect {c c' : RunTables} (hinv : c.Inv) (heffect : Effect c c') : c'.Inv := by
  cases heffect with
  | quiet h => rw [h]; exact hinv
  | opened snapshot run hsnapshot hrun hversions hstatus hsnapshotId hsite hpayload =>
    exact hinv.opened hsnapshot hrun hversions hstatus hsnapshotId hsite hpayload
  | moved run run' hreplaced hmoved hcandidate hsnapshots =>
    exact hinv.moved hreplaced hmoved hcandidate hsnapshots

/-! ## What an effect does to one run -/

/-- **One edge per effect.** A run stays as it was or moves along one edge of the state machine. -/
theorem Effect.run_cases {c c' : RunTables} (heffect : Effect c c') {run : ScheduleRunRow}
    (hrun : run ∈ c.runs) : run ∈ c'.runs ∨ ∃ run' ∈ c'.runs, Moved run run' := by
  cases heffect with
  | quiet h => rw [h]; exact .inl hrun
  | opened snapshot opened hsnapshot hopened hversions hstatus hsnapshotId hsite hpayload =>
    exact .inl ((Table.mem_of_insert? hopened).mpr (.inl hrun))
  | moved old new hreplaced hmoved hcandidate hsnapshots =>
    by_cases hold : run = old
    · subst hold; exact .inr ⟨new, hreplaced.mem_new, hmoved⟩
    · exact .inl ((hreplaced.mem_iff run).mpr (.inr ⟨hrun, hold⟩))

/-- A run that an effect adds starts queued. -/
theorem Effect.new_run_queued {c c' : RunTables} (heffect : Effect c c') {run : ScheduleRunRow}
    (hrun : run ∈ c'.runs) (hnew : ∀ old ∈ c.runs, old.id ≠ run.id) :
    run.status = .solverQueued := by
  cases heffect with
  | quiet h => rw [h] at hrun; exact absurd rfl (hnew run hrun)
  | opened snapshot opened hsnapshot hopened hversions hstatus hsnapshotId hsite hpayload =>
    rcases (Table.mem_of_insert? hopened).mp hrun with hold | rfl
    · exact absurd rfl (hnew run hold)
    · exact hstatus
  | moved old new hreplaced hmoved hcandidate hsnapshots =>
    rcases (hreplaced.mem_iff run).mp hrun with rfl | ⟨hold, -⟩
    · exact absurd hmoved.id.symm (hnew old hreplaced.mem_old)
    · exact absurd rfl (hnew run hold)

/-- **Terminal runs are frozen.** No effect changes the row of a run in a terminal status. -/
theorem Effect.terminal_frozen {c c' : RunTables} (heffect : Effect c c') {run : ScheduleRunRow}
    (hrun : run ∈ c.runs) (hterminal : run.status.terminal = true) : run ∈ c'.runs := by
  rcases heffect.run_cases hrun with hkept | ⟨run', -, hmoved⟩
  · exact hkept
  · have := hmoved.edge.source_not_terminal
    rw [hterminal] at this; cases this

/-- No effect adds, changes or removes the candidate of a run in a terminal status. -/
theorem Effect.terminal_versions {c c' : RunTables} (heffect : Effect c c')
    {run : ScheduleRunRow} (hrun : run ∈ c.runs) (hterminal : run.status.terminal = true)
    {v : ScheduleVersionRow} (hv : v.scheduleRunId = run.id) : v ∈ c'.versions ↔
    v ∈ c.versions := by
  cases heffect with
  | quiet h => rw [h]
  | opened snapshot opened hsnapshot hopened hversions hstatus hsnapshotId hsite hpayload =>
    rw [hversions]
  | moved old new hreplaced hmoved hcandidate hsnapshots =>
    cases hcandidate with
    | none hstatus hversions => rw [hversions]
    | some w hstatus hinsert hwrun hwsite hnamed =>
      rw [Table.mem_of_insert? hinsert]
      -- the inserted candidate belongs to the run that moved, which was not terminal
      have hne : v ≠ w := by
        rintro rfl
        have hsame : run = old := c.run_eq_of_id hrun hreplaced.mem_old (hv.symm.trans hwrun)
        have := hmoved.edge.source_not_terminal
        rw [← hsame, hterminal] at this; cases this
      exact ⟨fun h => h.resolve_right hne, .inl⟩

end RunTables

end ShiftMind
