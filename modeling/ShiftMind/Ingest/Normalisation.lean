import ShiftMind.Contracts.Scenario
import ShiftMind.Ingest.Fixture
import ShiftMind.Ingest.ScenarioTime
import ShiftMind.Library.Dict

/-!
# ShiftMind — the normalised records of a fixture

The normalisers of `adapters/postgres/scenario_projection.py`: the second reading of a fixture, on
its own, from the rows that `ingest/input_adapter.py` reads. Nothing is clipped, nobody is left out,
and times are whole minutes from the start of the horizon in UTC.

* **`normalizeTasks`**, **`normalizeWorkers`**, **`normalizeDemand`** — `_normalize_tasks`,
  `_normalize_workers` and `_normalize_demand`.
-/

namespace ShiftMind.Ingest

/-! ## The horizon -/

/-- What an `except (KeyError, TypeError, ValueError)` lets through. -/
def passedOver : PyError → Bool
  | .valueError _ | .keyError _ => true
  | _ => false

/-- `_horizon`. -/
def horizon (zone : SiteZone) (fixture : Fixture) : Except PyError (Int × Int) :=
  match fixture.scenarioRange with
  | [] => .error (.valueError "Scenario Range must contain one row")
  | row :: _ => do
    let start ← asUtc zone (← column "PeriodStartDate" row.periodStartDate)
    let stop ← asUtc zone (← column "PeriodEndDate" row.periodEndDate)
    pure (start, Int.tdiv (stop - start) 60)

/-! ## Tasks -/

/-- The pairs whose id is neither absent nor empty. -/
def namedPairs {α : Type} (id : α → Option String) (name : α → String) (rows : List α) :
    List (String × String) :=
  Dict.ofPairs (rows.filterMap fun row => ((id row).filter fun key => key ≠ "").map fun key =>
    (key, name row))

/-- `names.get(key, "Unknown")`. -/
def nameIn (names : List (String × String)) (key : Option String) : String :=
  (key.bind (Dict.get? names)).getD "Unknown"

/-- `_normalize_tasks`. -/
def normalizeTasks (fixture : Fixture) : List TaskV1 :=
  let areaNames := namedPairs AreaRow.areaId (fun row => row.name.getD "") fixture.areas
  let functionNames :=
    namedPairs FunctionRow.functionId (fun row => row.name.getD "Unknown") fixture.functions
  (firstOf TaskRow.taskId [] fixture.tasks).map fun (taskId, row) =>
    { recordId := taskId
      taskId := taskId
      name := row.task.getD ""
      function := nameIn functionNames row.functionId
      areaId := row.areaId.getD ""
      areaName := nameIn areaNames row.areaId
      unitTypeId := row.unitTypeId }

/-! ## Workers -/

/-- The rate of a qualification; only an override of null gives way to the default. -/
def projectedRate (q : QualificationRow) : ℚ :=
  toFloat (if isNone q.teamMemberTaskRateOverride then q.defaultTaskRate
    else q.teamMemberTaskRateOverride) 0

def normalizeQualification (taskIds : List String) (q : QualificationRow) :
    Option (String × QualificationRefV1) :=
  (knownTask taskIds q.taskId).bind fun tid =>
    (q.contactId.filter fun cid => cid ≠ "").bind fun cid =>
      if projectedRate q ≤ 0 then none else some (cid, ⟨tid, projectedRate q⟩)

/-- Two columns with times, in minutes. -/
def offsetsOfColumns (zone : SiteZone) (horizonStart : Int) (startKey endKey : String)
    (startValue endValue : Option String) : Except PyError (Int × Int) := do
  let start ← minuteOffset zone horizonStart (← column startKey startValue)
  let stop ← minuteOffset zone horizonStart (← column endKey endValue)
  pure (start, stop)

def normalizeWindow (zone : SiteZone) (horizonStart : Int) (kind : WindowKind) (row : WindowRow) :
    Except PyError (Option (String × AvailabilityWindowV1)) :=
  match row.contactId.filter fun cid => cid ≠ "" with
  | none => .ok none
  | some cid =>
    match offsetsOfColumns zone horizonStart "StartDateTime" "EndDateTime" row.startDateTime
      row.endDateTime with
    | .error e => if passedOver e then .ok none else .error e
    | .ok (start, stop) => .ok (some (cid, ⟨kind, start, stop⟩))

/-- `by_contact.get(contact_id, ())`. -/
def recordsOf {β : Type} (records : List (String × β)) (contactId : String) : List β :=
  ((Dict.get? (Dict.groupBy Prod.fst records) contactId).getD []).map Prod.snd

def normalizeWorker (qualifications : List (String × QualificationRefV1))
    (windows : List (String × AvailabilityWindowV1)) (entry : String × MemberRow) : WorkerV1 where
  recordId := entry.1
  contactId := entry.1
  name := entry.2.teamMember.getD "Unknown"
  employmentType := entry.2.employmentType.getD "Unknown"
  grade := entry.2.grade.getD ""
  eba := entry.2.eba.getD ""
  contractedHours := toFloat entry.2.contractedHours 38
  qualifications := recordsOf qualifications entry.1
  availabilityWindows := recordsOf windows entry.1

/-- `_normalize_workers`. -/
def normalizeWorkers (zone : SiteZone) (horizonStart : Int) (fixture : Fixture) :
    Except PyError (List WorkerV1) := do
  let qualifications := fixture.qualifications.filterMap (normalizeQualification fixture.taskIds)
  let roster ← fixture.rosterProfile.mapM (normalizeWindow zone horizonStart .roster)
  let availability ←
    fixture.availability.mapM (normalizeWindow zone horizonStart .availability)
  let windows := roster.reduceOption ++ availability.reduceOption
  pure ((firstOf MemberRow.contactId [] fixture.members).map
    (normalizeWorker qualifications windows))

/-! ## Demand -/

/-- The interval of a row, unless its times are passed over. -/
def interval (family : DemandFamily) (unit : DemandUnit) (times : Except PyError (Int × Int))
    (taskId : String) (areaId : Option String) (amount : ℚ) (recordId : String) :
    Except PyError (Option DemandIntervalV1) :=
  match times with
  | .ok (start, stop) =>
    .ok (some
      ⟨recordId, family, taskId, areaId.filter fun id => id ≠ "", start, stop, amount, unit⟩)
  | .error e => if passedOver e then .ok none else .error e

section

variable (zone : SiteZone) (horizonStart : Int) (taskIds : List String)

def normalizeOutbound (entry : OutboundRow × Nat) : Except PyError (Option DemandIntervalV1) :=
  match knownTask taskIds entry.1.taskId with
  | none => .ok none
  | some tid =>
    interval .outbound .volume
      (offsetsOfColumns zone horizonStart "StartDateTime" "EndDateTime" entry.1.startDateTime
        entry.1.endDateTime)
      tid entry.1.areaId (toFloat entry.1.volume 0) s!"outbound:{entry.2}"

/-- An entry of `Tasks`; the times are those of its row. -/
def normalizeInboundTask (times : Except PyError (Int × Int)) (row : InboundRow) (index : Nat)
    (entry : InboundTaskRow × Nat) : Except PyError (Option DemandIntervalV1) :=
  match knownTask taskIds entry.1.taskId with
  | none => .ok none
  | some tid =>
    interval .inbound .volume times tid row.areaId (toFloat entry.1.volume 0)
      s!"inbound:{index}:{entry.2}"

def normalizeInbound (entry : InboundRow × Nat) : Except PyError (List DemandIntervalV1) :=
  let times := offsetsOfColumns zone horizonStart "WindowStartDateTime" "WindowEndDateTime"
    entry.1.windowStartDateTime entry.1.windowEndDateTime
  match times with
  | .error e => if passedOver e then .ok [] else .error e
  | .ok _ => (entry.1.tasks.zipIdx.mapM
      (normalizeInboundTask taskIds times entry.1 entry.2)).map List.reduceOption

def indirectOffsets (row : IndirectRow) : Except PyError (Int × Int) := do
  let date ← column "Date" row.date
  let windowStart ← column "WindowStartDateTime" row.windowStartDateTime
  let windowEnd ← column "WindowEndDateTime" row.windowEndDateTime
  dayWindowOffsets zone horizonStart date windowStart windowEnd

def normalizeIndirect (entry : IndirectRow × Nat) : Except PyError (Option DemandIntervalV1) :=
  match knownTask taskIds entry.1.taskId with
  | none => .ok none
  | some tid =>
    interval .indirect .headcount
      (indirectOffsets zone horizonStart entry.1) tid entry.1.areaId
      (toFloat entry.1.requiredHeadcount 0) s!"indirect:{entry.2}"

end

/-- `_normalize_demand`. -/
def normalizeDemand (zone : SiteZone) (horizonStart : Int) (fixture : Fixture) :
    Except PyError (List DemandIntervalV1) := do
  let outbound ← fixture.outbound.zipIdx.mapM
    (normalizeOutbound zone horizonStart fixture.taskIds)
  let inbound ← fixture.inbound.zipIdx.mapM (normalizeInbound zone horizonStart fixture.taskIds)
  let indirect ← fixture.indirect.zipIdx.mapM
    (normalizeIndirect zone horizonStart fixture.taskIds)
  pure (outbound.reduceOption ++ inbound.flatten ++ indirect.reduceOption)

end ShiftMind.Ingest
