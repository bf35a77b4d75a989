import ShiftMind.Engine.Finalisation
import ShiftMind.Runs.Writing
import ShiftMind.Scheduling.MetricNumbers

/-!
# ShiftMind — does a job come back because of its own data?

A worker that raises anything but a fatal error leaves its job leased, and once the lease expires
the job is solved again. So a solution that passed the hard-constraint check and still cannot be
finalised is solved for ever: nothing about it changes between two attempts.

* **`NotPoisoned`** — the finalisation of an outcome gets through, unless something outside it
  interferes.
* **`Persistable`** — the problem, its solution and the snapshot that make such an outcome.
* **`no_poison_job_iff`** — an outcome is not poisoned exactly if it is persistable; every other
  comes back, whatever the database holds.
-/

namespace ShiftMind.Engine

open CandidateMetrics HardConstraints Relational Transactional ScheduleRunRepository

/-! ## Finalisations that get through -/

/-- **No poison job.** The finalisation reaches the repository with a terminal status; only the
lease fence, a lost compare-and-set or a constraint of other rows can stop it there; and where the
lease stands and the run can be finalised, it is. -/
structure NotPoisoned (env : Ambient) (snapshot : RunSnapshotV1) (outcome : SolverOutcomeV1) :
    Prop where
  reaches : ReachesFinalizeRun env snapshot outcome
  escapes : ∀ fencingEpoch requestId siteId db e db',
    (finalizeScheduleRun env fencingEpoch requestId snapshot outcome siteId).run db =
      (.error e, db') → e.external = true
  settles : ∀ fencingEpoch requestId siteId db,
    Finalisable snapshot.scheduleRunId siteId fencingEpoch (env.uuid4 0) db →
    ∃ f db', (finalizeScheduleRun env fencingEpoch requestId snapshot outcome siteId).run db =
      (.ok f, db') ∧ f.status.terminal = true

/-- A run that can be finalised is not hard to come by. -/
theorem exists_finalisable (runId siteId scheduleVersionId : Uuid) :
    ∃ db, Finalisable runId siteId 1 scheduleVersionId db := by
  let run : ScheduleRunRow :=
    { id := runId, siteId := siteId, runSnapshotId := 0, status := .solverRunning }
  let job : JobLeaseV1 :=
    { jobId := 0, status := .leased, siteId := siteId, actorId := 0, capabilityVersion := "1",
      scheduleRunId := runId, idempotencyKey := "", fencingEpoch := 1, createdAt := 0 }
  have hruns : ∃ t, (Table.empty : Table ScheduleRunRow).insert? run = some t :=
    Table.insert?_of_free rfl fun other hother => absurd hother (Table.not_mem_empty other)
  have hjobs : ∃ t, (Table.empty : Table JobLeaseV1).insert? job = some t :=
    Table.insert?_of_free rfl fun other hother => absurd hother (Table.not_mem_empty other)
  obtain ⟨runs, hruns⟩ := hruns
  obtain ⟨jobs, hjobs⟩ := hjobs
  refine ⟨{ scheduleRun := runs, jobQueue := jobs }, ?_, ?_, ?_, ?_⟩
  · refine List.any_eq_true.mpr ⟨job, (Table.mem_of_insert? hjobs).mpr (.inr rfl), ?_⟩
    simp [leasedAtEpoch, isJobOf, job]
  · exact ⟨run, (Table.mem_of_insert? hruns).mpr (.inr rfl), by simp [isRun, run], .inl rfl⟩
  · exact fun v hv => absurd hv (Table.not_mem_empty v)
  · exact fun row hrow => absurd hrow (Table.not_mem_empty row)

/-! ## The candidate of a solution -/

namespace CpSatBuilder

/-- **The data of a candidate that can be written**: its demand converts to minutes, its numbers
fit, and its assignments fit their columns under distinct record identifiers. -/
structure Persistable (b : CpSatBuilder) (digest : DigestInput → String) (values : Var → Int)
    (snapshot : RunSnapshotV1) : Prop where
  convertible : b.DemandConvertible
  numbers : NumbersFit (b.assignments digest values) (b.validationFacts digest (some values))
    snapshot.constraints snapshot.inputEvidenceRefs
  columns : ∀ a ∈ b.assignments digest values, a.FitsColumns
  distinct : ((b.assignments digest values).map AssignmentV1.recordId).Nodup

variable {b : CpSatBuilder} {digest : DigestInput → String} (env : Ambient)
  {snapshot : RunSnapshotV1} {status : SolverStatus} {values : Var → Int}

/-- A rule that is satisfied has measured nothing, against a limit of nothing. -/
theorem numbers_of_valid {assignments : List AssignmentV1} {facts : ValidationFactsV1}
    {preservedLocks : List LockV1} (hvalid : Valid assignments facts preservedLocks)
    {result : ConstraintResultV1}
    (hmem : result ∈ validateHardConstraints assignments facts preservedLocks) :
    result.measuredValue = 0 ∧ result.limit = 0 := by
  have hsatisfied := hvalid result hmem
  simp only [validateHardConstraints, List.mem_append, List.mem_cons, List.not_mem_nil, or_false]
    at hmem
  rcases hmem with hrule | hlocks
  · -- each rule measures a list or a count, and is satisfied when there is nothing in it
    rcases hrule with rfl | rfl | rfl | rfl | rfl | rfl | rfl <;> simp_all [HardConstraints.result]
  · split at hlocks
    · cases hlocks
    · rw [List.mem_singleton] at hlocks
      subst hlocks
      simp_all [HardConstraints.result]

/-- On convertible demand the finalisation has a candidate for the repository, which can be written
exactly if the data is persistable. -/
theorem finalized_candidate (hstatus : status.hasSolution = true)
    (hvalid : Valid (b.assignments digest values) (b.validationFacts digest (some values))
      snapshot.preservedLocks)
    (hdemand : b.DemandConvertible) :
    ∃ candidate, finalized env snapshot
        (b.outcome digest { status := status, values := some values }) =
        .ok ⟨.solverCompleted, none, some candidate⟩ ∧
      candidate.scheduleVersionId = env.uuid4 0 ∧ candidate.feasibleSolverStatus = status ∧
      (candidate.Writable ↔ b.Persistable digest values snapshot) := by
  -- on convertible demand the metrics return
  obtain ⟨⟨metrics, soft⟩, hcalc⟩ := (metricsOf_isOk_iff hvalid).mpr hdemand
  rw [finalized_outcome env hstatus hvalid, hcalc]
  let candidate := candidateOf env snapshot
    (b.outcome digest { status := status, values := some values }) metrics
    (validateHardConstraints (b.assignments digest values)
      (b.validationFacts digest (some values)) snapshot.preservedLocks ++ soft)
  -- what they return has closed forms in the assignments and the facts
  have hclosed : metrics = closedMetrics (b.assignments digest values)
        (b.validationFacts digest (some values)) ∧
      soft.map (fun result => (result.measuredValue, result.limit)) =
        snapshot.constraints.map (softNumbers (b.assignments digest values)
          (b.validationFacts digest (some values))) := calculate_closed hcalc
  -- naming the producing run in a reference changes none of its numbers
  have hreferences : candidate.evidenceRefs.flatMap EvidenceRefV1.numbers =
      snapshot.inputEvidenceRefs.flatMap EvidenceRefV1.numbers := by
    show (snapshot.inputEvidenceRefs.map fun reference =>
      { reference with producingRunVersion := some (toString (env.uuid4 0)) }).flatMap
        EvidenceRefV1.numbers = _
    rw [List.flatMap_map]
    rfl
  have hnumbers : (∀ x ∈ candidate.numbers, x.canonical = true) ↔
      NumbersFit (b.assignments digest values) (b.validationFacts digest (some values))
        snapshot.constraints snapshot.inputEvidenceRefs :=
    numbers_canonical_iff hclosed.1 rfl (fun result hresult => numbers_of_valid hvalid hresult)
      hclosed.2 hreferences
  refine ⟨candidate, rfl, rfl, rfl, ?_⟩
  constructor
  · intro h
    exact ⟨hdemand, hnumbers.mp h.digest, h.columns, h.distinct⟩
  · intro h
    exact ⟨hnumbers.mpr h.numbers, h.columns, h.distinct⟩

end CpSatBuilder

/-! ## When a job is not poisoned

Every step behind the solver is total on what the condition admits: the metrics, the digest, the
inserts. -/

section PoisonJob

variable (b : CpSatBuilder) (digest : DigestInput → String) (env : Ambient)
  (snapshot : RunSnapshotV1)

/-- Data that is not persistable is refused by every database, with an exception that the worker
retries. -/
theorem solved_again {status : SolverStatus} {values : Var → Int}
    (hstatus : status.hasSolution = true)
    (hvalid : Valid (b.assignments digest values) (b.validationFacts digest (some values))
      snapshot.preservedLocks)
    (hunpersistable : ¬ b.Persistable digest values snapshot) (fencingEpoch : Int)
    (requestId : Option Uuid) (siteId : Uuid) (db : Db) :
    ∃ e db', (finalizeScheduleRun env fencingEpoch requestId snapshot
        (b.outcome digest { status := status, values := some values }) siteId).run db =
          (.error e, db') ∧ fatalExecutionError e = false := by
  unfold finalizeScheduleRun
  by_cases hdemand : b.DemandConvertible
  · obtain ⟨candidate, hfinalized, -, -, hwritable⟩ :=
      CpSatBuilder.finalized_candidate env hstatus hvalid hdemand
    obtain ⟨e, db', hrun, hretried⟩ := finalizeRun_unwritable env (mt hwritable.mp hunpersistable)
      none (some env.clock) requestId db
    refine ⟨e, db', ?_, hretried⟩
    rw [hfinalized]
    exact (Tx.run_bind_of_ok (Tx.run_lift ..)).trans (Tx.run_bind_of_error hrun)
  · obtain ⟨e, hretried, herror⟩ := CpSatBuilder.finalized_error env hstatus hvalid hdemand
    refine ⟨e, db, ?_, hretried⟩
    rw [herror]
    exact Tx.run_bind_of_error (Tx.run_lift ..)

theorem poisoned_of_not_persistable {status : SolverStatus} {values : Var → Int}
    (hstatus : status.hasSolution = true)
    (hvalid : Valid (b.assignments digest values) (b.validationFacts digest (some values))
      snapshot.preservedLocks)
    (hunpersistable : ¬ b.Persistable digest values snapshot) :
    ¬ NotPoisoned env snapshot (b.outcome digest { status := status, values := some values }) := by
  intro h
  obtain ⟨db, hready⟩ := exists_finalisable snapshot.scheduleRunId 0 (env.uuid4 0)
  obtain ⟨f, db', hrun, -⟩ := h.settles 1 none 0 db hready
  obtain ⟨e, db'', hraised, -⟩ := solved_again b digest env snapshot hstatus hvalid
    hunpersistable 1 none 0 db
  rw [hrun] at hraised
  cases hraised

/-- **When a job is not poisoned**: for a solution that passes the hard-constraint check, exactly
when its data is persistable. Otherwise every attempt to finalise it raises an exception that the
worker retries. -/
theorem no_poison_job_iff {status : SolverStatus} {values : Var → Int}
    (hstatus : status.hasSolution = true)
    (hvalid : Valid (b.assignments digest values) (b.validationFacts digest (some values))
      snapshot.preservedLocks) :
    (NotPoisoned env snapshot (b.outcome digest { status := status, values := some values }) ↔
        b.Persistable digest values snapshot) ∧
      (¬ b.Persistable digest values snapshot →
        ∀ fencingEpoch requestId siteId (db : Db), ∃ e db',
          (finalizeScheduleRun env fencingEpoch requestId snapshot
            (b.outcome digest { status := status, values := some values }) siteId).run db =
              (.error e, db') ∧ fatalExecutionError e = false) := by
  refine ⟨⟨fun h => ?_, fun h => ?_⟩, fun hunpersistable fencingEpoch requestId siteId db =>
    solved_again b digest env snapshot hstatus hvalid hunpersistable fencingEpoch requestId siteId
      db⟩
  · -- data that cannot be persisted would poison the job
    by_contra hunpersistable
    exact poisoned_of_not_persistable b digest env snapshot hstatus hvalid hunpersistable h
  · obtain ⟨candidate, hfinalized, hversion, hsolver, hwritable⟩ :=
      CpSatBuilder.finalized_candidate env hstatus hvalid h.convertible
    have hcandidate := hwritable.mpr h
    refine ⟨⟨_, hfinalized, rfl⟩, fun fencingEpoch requestId siteId db e db' hrun => ?_,
      fun fencingEpoch requestId siteId db hready => ?_⟩
    · -- what leaves comes from the insert, since the calculation returned
      unfold finalizeScheduleRun at hrun
      rw [hfinalized, Tx.run_bind_of_ok (Tx.run_lift ..)] at hrun
      rcases Tx.bind_error.mp hrun with hraised | ⟨_, db₁, -, hreturned⟩
      · exact external_of_writable hcandidate hraised
      · cases hreturned
    · have hsolved : candidate.feasibleSolverStatus = .optimal ∨
          candidate.feasibleSolverStatus = .feasible := by
        rw [hsolver]
        cases status with
        | optimal => exact .inl rfl
        | feasible => exact .inr rfl
        | infeasible => cases hstatus
        | modelInvalid => cases hstatus
        | unknown => cases hstatus
      -- the lease stands and the run is open, so the insert goes through
      rw [← hversion] at hready
      obtain ⟨u, db', hrun⟩ := finalizeRun_returns env hcandidate hsolved hready none
        (some env.clock) requestId
      refine ⟨⟨.solverCompleted, none, some candidate⟩, db', ?_, rfl⟩
      unfold finalizeScheduleRun
      rw [hfinalized]
      exact (Tx.run_bind_of_ok (Tx.run_lift ..)).trans (Tx.run_bind_of_ok hrun)

end PoisonJob

/-! ## Poison jobs -/

namespace Floor

/-- An hour of receiving, and ten units to pick, which nobody is qualified for. -/
def unqualified : CpSatBuilder :=
  ⟨{ problem [⟨"receive", .inbound, 0, 1, 50, "IB0"⟩, ⟨"pick", .outbound, 0, 1, 10, "OB0"⟩] with
      tasks := [⟨"receive", "Receiving", "Receiving", "dock", none⟩,
        ⟨"pick", "Picking", "Picking", "floor", none⟩] }, []⟩

/-- Ana receives a day long, with a break that ends eighteen seconds before the day does. -/
def lateBreak : CpSatBuilder :=
  ⟨{ problem [⟨"receive", .inbound, 7, 8, 50, "IB0"⟩] with
      members := [{ ana with windows := [⟨"ava0", 0, 8, .availability⟩] }]
      templates := [⟨"day", "Day", 8, [⟨15 / 2, 99 / 200, false⟩]⟩] }, []⟩

/-- Ana receives a unit in a thousand hours, and more units arrive than a double has minutes for.
An indirect row of the task keeps them out of the solver's model, whose integers are bounded. -/
def flood : CpSatBuilder :=
  ⟨{ problem [⟨"receive", .inbound, 0, 1, 10 ^ 305, "IB0"⟩,
        ⟨"receive", .indirect, 0, 1, 1, "IND0"⟩] with
      members := [{ ana with qualifications := [⟨"receive", 1 / 1000⟩] }] }, []⟩

/-- The record identifiers tell the slots of a day apart. -/
def slotDigest (input : DigestInput) : String :=
  match input with
  | .assignment workerId taskId _ startMinute _ => workerId ++ taskId ++ toString startMinute
  | .demand band => band.orderId

/-- Ana works in every slot. -/
def worksThrough : Var → Int
  | .shift _ | .task _ _ => 1
  | _ => 0

end Floor

open CpSatBuilder in
theorem Floor.receiving_persistable :
    Floor.receivingOne.Persistable Floor.digest Floor.works Floor.snapshot := by
  have hby : ∀ (value : DemandIntervalV1 → ℚ) (function : String),
      FitsDouble (value (demandFact Floor.digest ⟨"receive", .inbound, 0, 1, 50, "IB0"⟩)) →
      FitsDouble (((Floor.receivingOne.validationFacts Floor.digest
        (some Floor.works)).demandIntervals.filter fun row =>
          functionName (Floor.receivingOne.validationFacts Floor.digest
            (some Floor.works)).tasks row.taskId = function).map value).sum := by
    intro value function hfits
    -- there is one row, so a function has its number or none
    show FitsDouble ((([demandFact Floor.digest ⟨"receive", .inbound, 0, 1, 50, "IB0"⟩].filter
      _).map value).sum)
    rw [List.filter_cons]
    split
    · simpa using hfits
    · exact fitsDouble_zero
  refine ⟨by decide +kernel, ?_, ?_, by decide +kernel⟩
  · exact
      { minutes := by decide +kernel
        rates := by decide +kernel
        references := by decide +kernel
        demanded := by decide +kernel
        served := by decide +kernel
        demandedBy := fun function => hby _ function (by decide +kernel)
        servedBy := fun function => hby _ function (by decide +kernel)
        unmet := by decide +kernel
        overtime := by decide +kernel
        cost := by decide +kernel
        soft := by decide +kernel }
  · exact fun a ha => ⟨by revert a; decide +kernel, by revert a; decide +kernel,
      by revert a; decide +kernel, by revert a; decide +kernel⟩

open CpSatBuilder in
/-- The hour of receiving gets through. -/
theorem no_poison_job_receiving :
    NotPoisoned Floor.env Floor.snapshot
      (Floor.receivingOne.outcome Floor.digest
        { status := .optimal, values := some Floor.works }) := by
  refine (no_poison_job_iff Floor.receivingOne Floor.digest Floor.env Floor.snapshot rfl ?_).1.mpr
    Floor.receiving_persistable
  unfold Valid
  decide +kernel

open CpSatBuilder in
/-- **Poison jobs**: three solutions that pass the check, and that no lease will ever finish. -/
theorem poison_jobs :
    (Valid (Floor.unqualified.assignments Floor.digest Floor.works)
        (Floor.unqualified.validationFacts Floor.digest (some Floor.works))
        Floor.snapshot.preservedLocks ∧
      ¬ NotPoisoned Floor.env Floor.snapshot (Floor.unqualified.outcome Floor.digest
        { status := .optimal, values := some Floor.works })) ∧
    (Valid (Floor.lateBreak.assignments Floor.slotDigest Floor.worksThrough)
        (Floor.lateBreak.validationFacts Floor.slotDigest (some Floor.worksThrough))
        Floor.snapshot.preservedLocks ∧
      ¬ NotPoisoned Floor.env Floor.snapshot (Floor.lateBreak.outcome Floor.slotDigest
        { status := .optimal, values := some Floor.worksThrough })) ∧
    (Valid (Floor.flood.assignments Floor.digest Floor.works)
        (Floor.flood.validationFacts Floor.digest (some Floor.works))
        Floor.snapshot.preservedLocks ∧
      ¬ NotPoisoned Floor.env Floor.snapshot (Floor.flood.outcome Floor.digest
        { status := .optimal, values := some Floor.works })) := by
  refine ⟨⟨?_, ?_⟩, ⟨?_, ?_⟩, ?_, ?_⟩
  · unfold Valid
    decide +kernel
  · apply poisoned_of_not_persistable _ _ _ _ rfl
    · unfold Valid
      decide +kernel
    · exact fun h => absurd h.convertible (by decide +kernel)
  · unfold Valid
    decide +kernel
  · apply poisoned_of_not_persistable _ _ _ _ rfl
    · unfold Valid
      decide +kernel
    · intro h
      -- the second slot starts and ends in minute 480
      have hintervals : ∀ a ∈ Floor.lateBreak.assignments Floor.slotDigest Floor.worksThrough,
          a.startMinute < a.endMinute := fun a ha => (h.columns a ha).interval
      exact absurd hintervals (by decide +kernel)
  · unfold Valid
    decide +kernel
  · apply poisoned_of_not_persistable _ _ _ _ rfl
    · unfold Valid
      decide +kernel
    · exact fun h => absurd h.numbers.demanded (by decide +kernel)

end ShiftMind.Engine
