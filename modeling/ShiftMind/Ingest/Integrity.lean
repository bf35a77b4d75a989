import ShiftMind.Engine.Finalisation
import ShiftMind.Ingest.SameWorkers
import ShiftMind.Scheduling.Agreement

/-!
# ShiftMind — a finalised candidate compares

A run is solved on one reading of a fixture and compared on another. The metrics of a finalised
candidate come from the facts the engine reports; a comparison computes them again from the pages of
the projection and is refused where the two disagree. The projection reads the latest version of a
scenario, so a candidate of an earlier one is refused as well.

* **`projectionRow`** — the latest version of a scenario.
* **`fixtureReader`** — the projection of a scenario, from the payload of that version.
* **`PersistedFrom`** — the versions that governed runs on a scenario version persist.
* **`comparisons_accept_finalised`** — where the two readings are alike, no comparison of such
  versions is refused.
-/

namespace ShiftMind.Ingest

open CandidateMetrics Engine Projection
open Comparison (Overview Reader Request)

/-! ## The projection of a fixture

The reader answers for the latest version of a scenario. -/

/-- A scenario version: its ids, its label, its checksum, its payload, and the baseline of its
site. -/
structure PinnedFixture where
  row : ProjectionRow
  fixtureVersion : String
  checksumAlgorithm : String
  checksumSchemaVersion : String
  checksumDigest : String
  baselineScheduleVersion : Option String
  fixture : Fixture

/-- `_VERSION_ORDINAL`: the number that the digits of a label make. -/
def versionOrdinal (version : String) : Option Nat :=
  match version.toList.filterMap DateTime.digitValue with
  | [] => none
  | digits => some (Binary64.ofDigits digits)

/-- The order of versions, the later one first; labels with the same number go by the collation of
the database. -/
def PinnedFixture.orderedBefore (collate : String → String → Ordering) (a b : PinnedFixture) :
    Bool :=
  ((compare (versionOrdinal b.fixtureVersion) (versionOrdinal a.fixtureVersion)).then
    ((collate b.fixtureVersion a.fixtureVersion).then
      (compare b.row.scenarioVersionId a.row.scenarioVersionId))) != .gt

/-- `_projection_row`. -/
def projectionRow (collate : String → String → Ordering) (versions : List PinnedFixture)
    (scenarioId : Uuid) : Option PinnedFixture :=
  ((versions.filter fun version => version.row.scenarioId = scenarioId).insertionSort fun a b =>
    a.orderedBefore collate b = true).head?

section

variable (zone : SiteZone) (casefold : String → String) (raised : PyError → String)
  (pinned : PinnedFixture)

/-- What a reader makes of the payload once `_horizon` has read its start. -/
def PinnedFixture.normalised {β : Type} (read : Int → Except PyError β) : Except PyError β := do
  let (horizonStart, _) ← horizon zone pinned.fixture
  read horizonStart

/-- A group whose times are offsets from the start of the horizon. -/
def PinnedFixture.timedGetter {T : Type} (recordId : T → String)
    (read : Int → Except PyError (List T)) (sorts : SortTable T) (filters : FilterTable T) :
    Getter T :=
  match pinned.normalised zone read with
  | .error e => fun _ _ => .error (raised e)
  | .ok items => groupGetter (some pinned.row) recordId items sorts filters

/-- `get_overview`, with the columns a comparison reads; workers and demand are counted there
too. -/
def PinnedFixture.overview : Except PyError Overview := do
  let (horizonStart, horizonMinutes) ← horizon zone pinned.fixture
  let _ ← normalizeWorkers zone horizonStart pinned.fixture
  let _ ← normalizeDemand zone horizonStart pinned.fixture
  pure
    { scenarioVersionId := pinned.row.scenarioVersionId
      siteId := pinned.row.siteId
      horizonMinutes := horizonMinutes
      checksumAlgorithm := pinned.checksumAlgorithm
      checksumSchemaVersion := pinned.checksumSchemaVersion
      checksumDigest := pinned.checksumDigest
      baselineScheduleVersion := pinned.baselineScheduleVersion }

/-- The projection of a version. -/
def PinnedFixture.reader : Reader where
  getOverview := (pinned.overview zone).mapError raised |>.map some
  getTasks := groupGetter (some pinned.row) TaskV1.recordId (normalizeTasks pinned.fixture)
    taskSorts (taskFilters casefold)
  getDemand := pinned.timedGetter zone raised DemandIntervalV1.recordId
    (fun horizonStart => normalizeDemand zone horizonStart pinned.fixture) demandSorts demandFilters
  getWorkers := pinned.timedGetter zone raised WorkerV1.recordId
    (fun horizonStart => normalizeWorkers zone horizonStart pinned.fixture) workerSorts
    (workerFilters casefold)

/-- `PostgresScenarioProjectionReader`, asked about a scenario. -/
def fixtureReader (collate : String → String → Ordering) (versions : List PinnedFixture)
    (scenarioId : Uuid) : Reader :=
  match projectionRow collate versions scenarioId with
  | some pinned => pinned.reader zone casefold raised
  | none =>
    { getOverview := .ok none
      getTasks := groupGetter none TaskV1.recordId [] taskSorts (taskFilters casefold)
      getDemand := groupGetter none DemandIntervalV1.recordId [] demandSorts demandFilters
      getWorkers := groupGetter none WorkerV1.recordId [] workerSorts (workerFilters casefold) }

end

/-! ## What a comparison drains -/

/-- A query without filters keeps everything. -/
theorem filterItems_nil {T : Type} (filters : FilterTable T) (items : List T) :
    filterItems filters [] items = .ok items := by
  induction items with
  | nil => rfl
  | cons item items ih =>
    unfold filterItems
    rw [ih]
    rfl

/-- Up to two thousand rows are drained whole. -/
theorem drained_group {T : Type} {row : ProjectionRow} {recordId : T → String} {items : List T}
    {sorts : SortTable T} {filters : FilterTable T} {request : Request}
    (hversion : row.scenarioVersionId = request.scenarioVersionId)
    (hsite : row.siteId = request.siteId) (hrows : items.length ≤ 2000) :
    Comparison.drained (groupGetter (some row) recordId items sorts filters) request =
      .ok items := by
  have hwhole : (drainProjectionGroup (groupGetter (some row) recordId items sorts filters)
      request.drain).1 = .ok items := by
    apply drain_whole hversion hsite (filterItems_nil filters items)
    · show (1 : Int) ≤ 200
      omega
    · show (1 : Int) ≤ 2000
      omega
    · show (items.length : Int) ≤ 2000
      omega
    · show (items.length : Int) ≤ 512 * 200
      omega
  unfold Comparison.drained
  rw [hwhole]

/-- The horizon of a scenario whose start is read. -/
theorem horizon_ok (zone : SiteZone) {fixture : Fixture} {start : Nat} {horizonH : ℚ}
    (h : scenarioRange fixture = .ok (start, horizonH)) (hsettled : zoneSettled ≤ start)
    (hforward : 0 ≤ horizonH) :
    ∃ minutes, horizon zone fixture = .ok ((start : Int) - 25200, minutes) := by
  unfold scenarioRange at h
  unfold horizon
  cases hrange : fixture.scenarioRange with
  | nil =>
    rw [hrange] at h
    cases h
  | cons rng rest =>
    rw [hrange] at h
    obtain ⟨startText, hstartText, h⟩ := Fallible.bind_ok h
    obtain ⟨start', hstart', h⟩ := Fallible.bind_ok h
    obtain ⟨stopText, hstopText, h⟩ := Fallible.bind_ok h
    obtain ⟨stop, hstop, h⟩ := Fallible.bind_ok h
    cases h
    -- a horizon that is not negative ends at or behind its start
    have hlater : start ≤ stop := by
      by_contra hearlier
      have hback : hoursFrom start stop < hoursFrom start start :=
        hoursFrom_lt (not_le.mp hearlier)
      have hzero : hoursFrom start start = 0 := by
        unfold hoursFrom
        simp
      linarith
    -- both ends are behind the settled start, where the offset is seven hours
    have hutc : ∀ text t, parseDt text = .ok t → start ≤ t →
        asUtc zone text = .ok ((t : Int) - 25200) := by
      intro text t hparse ht
      have hday : secondDay ≤ zoneSettled := by decide
      unfold asUtc
      rw [hparse]
      show toUtc zone t = _
      rw [toUtc_ok zone (hday.trans (hsettled.trans ht)) (parseDt_lt hparse),
        utcoffset_settled zone (hsettled.trans ht)]
    simp only [hstartText, hstopText, hutc _ _ hstart' le_rfl, hutc _ _ hstop hlater, bind,
      Except.bind, pure, Except.pure]
    exact ⟨_, rfl⟩

section

variable {zone : SiteZone} {raised : PyError → String} {pinned : PinnedFixture}
  {horizonStart minutes : Int}

/-- The groups with times are read from the start of the horizon. -/
theorem PinnedFixture.timedGetter_eq {T : Type} (recordId : T → String)
    {read : Int → Except PyError (List T)} {items : List T} (sorts : SortTable T)
    (filters : FilterTable T)
    (hhorizon : horizon zone pinned.fixture = .ok (horizonStart, minutes))
    (hread : read horizonStart = .ok items) :
    pinned.timedGetter zone raised recordId read sorts filters =
      groupGetter (some pinned.row) recordId items sorts filters := by
  have hnormalised : pinned.normalised zone read = .ok items := by
    unfold PinnedFixture.normalised
    rw [hhorizon]
    exact hread
  unfold PinnedFixture.timedGetter
  rw [hnormalised]

/-- The request for a comparison on a scenario version. -/
def PinnedFixture.request (pinned : PinnedFixture) : Request :=
  ⟨pinned.row.scenarioId, pinned.row.scenarioVersionId, pinned.row.siteId⟩

theorem PinnedFixture.boundOverview_ok (casefold : String → String) {demand : List DemandIntervalV1}
    {workers : List WorkerV1}
    (hhorizon : horizon zone pinned.fixture = .ok (horizonStart, minutes))
    (hworkers : normalizeWorkers zone horizonStart pinned.fixture = .ok workers)
    (hdemand : normalizeDemand zone horizonStart pinned.fixture = .ok demand) :
    ∃ overview, Comparison.boundOverview (pinned.reader zone casefold raised) pinned.request =
      .ok overview := by
  have hoverview : pinned.overview zone = .ok
      ⟨pinned.row.scenarioVersionId, pinned.row.siteId, minutes, pinned.checksumAlgorithm,
        pinned.checksumSchemaVersion, pinned.checksumDigest, pinned.baselineScheduleVersion⟩ := by
    unfold PinnedFixture.overview
    rw [hhorizon]
    show (normalizeWorkers zone horizonStart pinned.fixture >>= _) = _
    rw [hworkers]
    show (normalizeDemand zone horizonStart pinned.fixture >>= _) = _
    rw [hdemand]
    rfl
  unfold Comparison.boundOverview PinnedFixture.reader PinnedFixture.request
  simp [hoverview, Except.mapError, Except.map]

end

/-! ## Finalised versions -/

/-- **A version that a governed run on a scenario version persisted**: its builder holds the problem
of the fixture, its snapshot pins the version, and it is the candidate of its finalisation. -/
def PersistedFrom (digest : DigestInput → String) (problem : SchedulingProblem)
    (pinned : PinnedFixture) (version : ScheduleVersionV1) : Prop :=
  ∃ (b : CpSatBuilder) (result : GovernedLexResult) (env : Ambient) (snapshot : RunSnapshotV1)
    (f : FinalizedScheduleRunV1), b.p = wireEmploymentCaps problem pinned.fixture ∧
    snapshot.scenarioVersionId = pinned.row.scenarioVersionId ∧
    finalized env snapshot (b.outcome digest result) = .ok f ∧ f.candidate = some version

/-- It is of that scenario version, and its metrics are computed from the facts the engine
reports. -/
theorem PersistedFrom.calculated {digest : DigestInput → String} {problem : SchedulingProblem}
    {pinned : PinnedFixture} {version : ScheduleVersionV1}
    (h : PersistedFrom digest problem pinned version) :
    version.scenarioVersionId = pinned.row.scenarioVersionId ∧
      ∃ (b : CpSatBuilder) (values : Option (Var → Int)) (constraints : List DraftConstraintV1)
        (soft : List ConstraintResultV1), b.p = wireEmploymentCaps problem pinned.fixture ∧
        calculateCandidateMetrics version.assignments (b.validationFacts digest values).tasks
          (b.validationFacts digest values).demandIntervals (b.validationFacts digest values)
          constraints = .ok (version.metrics, soft) := by
  obtain ⟨b, result, env, snapshot, f, hb, hpinned, hfinal, hcandidate⟩ := h
  have hfacts : (b.outcome digest result).validationFacts =
      some (b.validationFacts digest result.values) := rfl
  unfold finalized at hfinal
  simp only [hfacts] at hfinal
  -- only a completed run has a candidate
  split at hfinal
  · cases hfinal
    cases hcandidate
  · split at hfinal
    · cases hfinal
      cases hcandidate
    · split at hfinal
      · cases hfinal
        cases hcandidate
      · cases hfinal
      · rename_i metrics soft hcalculated
        cases hfinal
        cases hcandidate
        exact ⟨hpinned, b, result.values, snapshot.constraints, soft, hb, hcalculated⟩

/-! ## The two readings meet

The metrics of a run are computed from the engine's reading, and a comparison computes them again
from the projection's. -/

section

variable {zone : SiteZone} {digest : DigestInput → String} {pinned : PinnedFixture} {start : Nat}
  {horizonH : ℚ} {problem : SchedulingProblem}

/-- The metrics of a finalised version are computed again. -/
theorem PersistedFrom.recomputes (halike : ReadAlike pinned.fixture start horizonH)
    (hrange : scenarioRange pinned.fixture = .ok (start, horizonH))
    (hproblem : buildProblem pinned.fixture = .ok problem) {version : ScheduleVersionV1}
    (h : PersistedFrom digest problem pinned version) {demand : List DemandIntervalV1}
    {workers : List WorkerV1}
    (hdemand : normalizeDemand zone (start - 25200) pinned.fixture = .ok demand)
    (hworkers : normalizeWorkers zone (start - 25200) pinned.fixture = .ok workers)
    (horizonMinutes : Int) :
    Comparison.Recomputes version.assignments (normalizeTasks pinned.fixture) demand
      (Comparison.factsOf workers (normalizeTasks pinned.fixture) demand horizonMinutes)
      version.metrics := by
  obtain ⟨-, b, values, constraints, soft, hb, hcalculated⟩ := h.calculated
  obtain ⟨demand', workers', hdemand', hworkers', hsame⟩ :=
    sameFacts_of_readAlike zone digest halike hrange hproblem hb values
  rw [hdemand] at hdemand'
  rw [hworkers] at hworkers'
  cases hdemand'
  cases hworkers'
  exact calculate_of_sameFacts (hsame horizonMinutes) hcalculated

/-- **No comparison of finalised candidates is refused.** Where the two readings of a fixture are
alike and its version is the latest of its scenario, a candidate that a governed run persisted
compares, alone or with a baseline of the same scenario version, and the comparison reports the
persisted metrics of both. -/
theorem comparisons_accept_finalised (casefold : String → String) (raised : PyError → String)
    (collate : String → String → Ordering) {versions : List PinnedFixture}
    (hlatest : projectionRow collate versions pinned.row.scenarioId = some pinned)
    (halike : ReadAlike pinned.fixture start horizonH)
    (hrange : scenarioRange pinned.fixture = .ok (start, horizonH))
    (hproblem : buildProblem pinned.fixture = .ok problem)
    (htasks : (normalizeTasks pinned.fixture).length ≤ 2000)
    (hrows : ∀ demand, normalizeDemand zone (start - 25200) pinned.fixture = .ok demand →
      demand.length ≤ 2000)
    (hmembers : ∀ workers, normalizeWorkers zone (start - 25200) pinned.fixture = .ok workers →
      workers.length ≤ 2000)
    {candidate : ScheduleVersionV1} (hcandidate : PersistedFrom digest problem pinned candidate)
    {baseline : Option (String × ScheduleVersionV1)}
    (hbaseline : ∀ b ∈ baseline, PersistedFrom digest problem pinned b.2) :
    ∃ comparison, Comparison.calculateComparison
        (fixtureReader zone casefold raised collate versions pinned.row.scenarioId)
        pinned.request (Comparison.stored candidate) (baseline.map Prod.fst)
        (baseline.map fun b => Comparison.stored b.2) = .ok comparison ∧
      SameMetrics comparison.candidateMetrics candidate.metrics ∧
      comparison.candidateMetrics.totalCost = candidate.metrics.totalCost ∧
      ∀ b ∈ baseline, ∃ metrics, comparison.baselineMetrics = some metrics ∧
        SameMetrics metrics b.2.metrics ∧ metrics.totalCost = b.2.metrics.totalCost := by
  have hreader : fixtureReader zone casefold raised collate versions pinned.row.scenarioId =
      pinned.reader zone casefold raised := by
    unfold fixtureReader
    rw [hlatest]
  rw [hreader]
  obtain ⟨demand, hdemand, -⟩ := demand_alike zone digest halike.settled halike.demand
  obtain ⟨windows, hworkers⟩ := halike.normalizeWorkers_ok zone (start - 25200)
  obtain ⟨minutes, hhorizon⟩ := horizon_ok zone hrange halike.settled halike.forward
  obtain ⟨overview, hoverview⟩ :=
    PinnedFixture.boundOverview_ok casefold hhorizon hworkers hdemand
  have hdrained : Comparison.drained (pinned.reader zone casefold raised).getDemand
      pinned.request = .ok demand := by
    show Comparison.drained (pinned.timedGetter zone raised DemandIntervalV1.recordId _ _ _) _ = _
    rw [PinnedFixture.timedGetter_eq _ _ _ hhorizon hdemand]
    exact drained_group rfl rfl (hrows demand hdemand)
  have hdrained' : ∃ workers, normalizeWorkers zone (start - 25200) pinned.fixture = .ok workers ∧
      Comparison.drained (pinned.reader zone casefold raised).getWorkers pinned.request =
        .ok workers := by
    refine ⟨_, hworkers, ?_⟩
    show Comparison.drained (pinned.timedGetter zone raised WorkerV1.recordId _ _ _) _ = _
    rw [PinnedFixture.timedGetter_eq _ _ _ hhorizon hworkers]
    exact drained_group rfl rfl (hmembers _ hworkers)
  obtain ⟨workers, hworkers, hdrained'⟩ := hdrained'
  -- the horizon is in the facts, but no metric reads it
  apply Comparison.calculateComparison_of_same hoverview (drained_group rfl rfl htasks) hdrained
    hdrained'
    (hcandidate.recomputes halike hrange hproblem hdemand hworkers overview.horizonMinutes)
  intro b hb
  have hpersisted := hbaseline b hb
  exact ⟨hpersisted.calculated.1,
    hpersisted.recomputes halike hrange hproblem hdemand hworkers overview.horizonMinutes⟩

end

/-! ## A morning -/

namespace Morning

/-- Ana receives from her roster and Ben picks when he is available; Cy has no window that can be
read. A row of demand has no start, and another one asks for a head. -/
def fixture : Fixture where
  scenarioRange := [⟨some "2026-01-05T00:00:00", some "2026-01-06T00:00:00"⟩]
  functions := [⟨some "f1", some "Receiving"⟩, ⟨some "f2", some "Picking"⟩]
  areas := [⟨some "dock", some "Dock"⟩]
  tasks := [⟨some "receive", some "Receiving", some "f1", some "dock", none⟩,
    ⟨some "pick", some "Picking", some "f2", none, none⟩,
    ⟨some "sweep", some "Sweeping", none, none, none⟩]
  rosterProfile := [⟨some "ana", some "2026-01-05T00:00:00", some "2026-01-05T08:00:00"⟩]
  availability := [⟨some "ben", some "2026-01-05T00:00:00", some "2026-01-05T06:00:00"⟩,
    ⟨some "cy", some "tomorrow", some "2026-01-05T06:00:00"⟩]
  qualifications := [⟨some "ana", some "receive", .null, .int 50⟩,
    ⟨some "ben", some "pick", .int 60, .int 40⟩, ⟨some "cy", some "drive", .null, .int 10⟩]
  members := [⟨some "ana", some "Ana", some "Casual", none, none, none, none, .int 38⟩,
    ⟨some "ben", some "Ben", some "Permanent", none, none, none, none, .int 38⟩,
    ⟨some "cy", some "Cy", some "Casual", none, none, none, none, .string "20"⟩]
  outbound := [⟨some "pick", none, some "2026-01-05T00:00:00", some "2026-01-05T02:00:00", .int 90⟩,
    ⟨some "pick", none, none, some "2026-01-05T02:00:00", .int 10⟩]
  inbound := [⟨some "dock", some "2026-01-05T00:00:00", some "2026-01-05T01:00:00",
    [⟨some "receive", .int 50⟩]⟩]
  indirect := [⟨some "sweep", none, some "2026-01-05T00:00:00", some "02:00:00", some "03:00:00",
    .int 1⟩]
  templates := [⟨some "hour", some "One hour", .int 1⟩]
  constraints := [⟨some "Maximum Hours a Week", some "Casual", .int 20⟩]

def pinned : PinnedFixture := ⟨⟨3, 4, 5⟩, "v10", "sha256", "rfc8785-v1", "digest", none, fixture⟩

/-- The version before it, without a horizon. -/
def earlier : PinnedFixture :=
  ⟨⟨3, 6, 5⟩, "v9", "sha256", "rfc8785-v1", "before", none, { scenarioRange := [] }⟩

def collate (a b : String) : Ordering := compare a b

theorem latest : projectionRow collate [earlier, pinned] 3 = some pinned := by rfl

def problem : SchedulingProblem where
  horizonH := 24
  members := [⟨"ana", "Ana", "Casual", "", "", 38, 40, [⟨"ros0", 0, 8, .roster⟩],
      [⟨"receive", 50⟩]⟩,
    ⟨"ben", "Ben", "Permanent", "", "", 38, 40, [⟨"ava0", 0, 6, .availability⟩], [⟨"pick", 60⟩]⟩]
  tasks := [⟨"receive", "Receiving", "Receiving", "dock", none⟩,
    ⟨"pick", "Picking", "Picking", "", none⟩, ⟨"sweep", "Sweeping", "Unknown", "", none⟩]
  templates := [⟨"hour", "One hour", 1, []⟩]
  demand := [⟨"pick", .outbound, 0, 2, 90, "OB0"⟩, ⟨"receive", .inbound, 0, 1, 50, "IB0"⟩,
    ⟨"sweep", .indirect, 2, 3, 1, "IND0"⟩]

/-- 2026-01-05T00:00:00. -/
def start : Nat := Calendar.seconds 2026 1 5 0 0 0

theorem scenarioRange_eq : scenarioRange fixture = .ok (start, 24) := by decide +kernel

theorem buildProblem_eq : buildProblem fixture = .ok problem := by decide +kernel

theorem readAlike : ReadAlike fixture start 24 where
  settled := by decide +kernel
  forward := by decide +kernel
  functions := by decide +kernel
  contacts := by decide +kernel
  distinct := by decide +kernel
  rates := by decide +kernel
  windows := by decide +kernel
  rostered := by decide +kernel
  demand := ⟨by decide +kernel, by decide +kernel, by decide +kernel, by decide +kernel,
    by decide +kernel⟩

/-- The zone before 1975, at seven hours and more. -/
def zone : SiteZone := ⟨fun _ => 25600, fun _ => by omega⟩

theorem normalizeDemand_length : ∀ demand,
    normalizeDemand zone (start - 25200) fixture = .ok demand → demand.length ≤ 2000 := by
  have hlength : (normalizeDemand zone (start - 25200) fixture).map List.length = .ok 3 := by
    decide +kernel
  intro demand hdemand
  rw [hdemand] at hlength
  have hthree : demand.length = 3 := Except.ok.inj hlength
  omega

theorem normalizeWorkers_length : ∀ workers,
    normalizeWorkers zone (start - 25200) fixture = .ok workers → workers.length ≤ 2000 := by
  have hlength : (normalizeWorkers zone (start - 25200) fixture).map List.length = .ok 3 := by
    decide +kernel
  intro workers hworkers
  rw [hworkers] at hlength
  have hthree : workers.length = 3 := Except.ok.inj hlength
  omega

def builder : CpSatBuilder := ⟨wireEmploymentCaps problem fixture, []⟩

/-- Ana receives in the first hour, and Ben picks in the second. -/
def bothWork : Var → Int
  | .shift 0 | .task 0 0 | .shift 2 | .task 2 0 => 1
  | _ => 0

open CpSatBuilder in
theorem persisted (values : Var → Int)
    (hvalid : HardConstraints.Valid (builder.assignments Floor.digest values)
      (builder.validationFacts Floor.digest (some values)) Floor.snapshot.preservedLocks) :
    ∃ candidate, PersistedFrom Floor.digest problem pinned candidate ∧
      candidate.assignments = builder.assignments Floor.digest values := by
  have hconvertible : builder.DemandConvertible := by decide +kernel
  have hoptimal : SolverStatus.optimal.hasSolution = true := rfl
  obtain ⟨candidate, hassigned, hfinal⟩ :=
    finalized_completed Floor.env hoptimal hvalid hconvertible
  exact ⟨candidate, ⟨builder, _, Floor.env, Floor.snapshot, _, rfl, rfl, hfinal, rfl⟩, hassigned⟩

end Morning

/-- A run in which both work compares with a baseline in which only Ana does. -/
theorem comparisons_accept_finalised_morning :
    ∃ candidate baseline, PersistedFrom Floor.digest Morning.problem Morning.pinned candidate ∧
      PersistedFrom Floor.digest Morning.problem Morning.pinned baseline ∧
      candidate.assignments.length = 2 ∧ baseline.assignments.length = 1 ∧
      ∃ comparison metrics, Comparison.calculateComparison
          (fixtureReader Morning.zone id (fun _ => "raised") Morning.collate
            [Morning.earlier, Morning.pinned] 3) ⟨3, 4, 5⟩
          (Comparison.stored candidate) (some "baseline") (some (Comparison.stored baseline)) =
            .ok comparison ∧
        SameMetrics comparison.candidateMetrics candidate.metrics ∧
        comparison.baselineMetrics = some metrics ∧ SameMetrics metrics baseline.metrics := by
  obtain ⟨candidate, hcandidate, hassigned⟩ := Morning.persisted Morning.bothWork (by
    unfold HardConstraints.Valid
    decide +kernel)
  obtain ⟨baseline, hbaseline, hassigned'⟩ := Morning.persisted Floor.works (by
    unfold HardConstraints.Valid
    decide +kernel)
  have hpersisted : ∀ b ∈ some ("baseline", baseline),
      PersistedFrom Floor.digest Morning.problem Morning.pinned b.2 := by
    intro b hb
    rw [← Option.some.inj hb]
    exact hbaseline
  obtain ⟨comparison, hcomparison, hsame, -, hmetrics⟩ := comparisons_accept_finalised id
    (fun _ => "raised") Morning.collate Morning.latest Morning.readAlike Morning.scenarioRange_eq
    Morning.buildProblem_eq (by decide +kernel) Morning.normalizeDemand_length
    Morning.normalizeWorkers_length hcandidate hpersisted
  obtain ⟨metrics, hbase, hsame', -⟩ := hmetrics _ rfl
  refine ⟨candidate, baseline, hcandidate, hbaseline, ?_, ?_, comparison, metrics, hcomparison,
    hsame, hbase, hsame'⟩
  · rw [hassigned]
    decide +kernel
  · rw [hassigned']
    decide +kernel

end ShiftMind.Ingest
