import ShiftMind.Domain.Problem
import ShiftMind.Ingest.Fixture
import ShiftMind.Ingest.ScenarioTime
import ShiftMind.Library.Dict
import ShiftMind.Library.Log

/-!
# ShiftMind — from a fixture to a scheduling problem

`ingest/input_adapter.py`, and `_wire_employment_caps` of `engine/governed_adapter.py`: the problem
the engine solves. Everything is clipped to the horizon; a member without a window or without a
qualification is left out.

* **`buildProblem`** — `build_problem`.
* **`wireEmploymentCaps`** — the weekly caps by type of employment.
-/

namespace ShiftMind.Ingest

/-- `_clip`. -/
def clip (s e lo hi : ℚ) : Option (ℚ × ℚ) :=
  if max s lo < min e hi then some (max s lo, min e hi) else none

/-! ## Tasks and wages -/

/-- `func_name`. -/
def functionNames (fixture : Fixture) : Except PyError (List (String × String)) := do
  let pairs ← fixture.functions.mapM fun f => do
    let functionId ← column "FunctionID" f.functionId
    pure (functionId, f.name.getD "Unknown")
  pure (Dict.ofPairs pairs)

/-- The function of a task. -/
def functionOf (names : List (String × String)) (functionId : Option String) : String :=
  (functionId.bind (Dict.get? names)).getD "Unknown"

def ingestTask (names : List (String × String)) (entry : String × TaskRow) : Task where
  taskId := entry.1
  name := entry.2.task.getD ""
  function := functionOf names entry.2.functionId
  areaId := entry.2.areaId.getD ""
  unitId := entry.2.unitTypeId

/-- `text.strip().lower() == "base rate"`. -/
def isBaseRate (rateType : Option String) : Bool :=
  (Binary64.strip (rateType.getD "").toList).map Char.toLower = "base rate".toList

/-- `wage_by_eba_grade` and `default_wage`. -/
def wages (fixture : Fixture) : List ((Option String × Option String) × ℚ) × ℚ :=
  let rates := (fixture.gradeRates.filter fun r => isBaseRate r.rateType).map fun r =>
    ((r.ebaId, r.gradeId), toFloat r.amount 0)
  (Dict.ofPairs rates,
    if rates = [] then 40 else (rates.map Prod.snd).sum / rates.length)

/-! ## Members

A member without a window or without a usable qualification is left out of the problem. -/

/-- `kind.value[:3]`. -/
def windowTag : WindowKind → String
  | .roster => "ros"
  | .availability => "ava"

/-- Two columns with times. -/
def timesOfColumns (startKey endKey : String) (startValue endValue : Option String) :
    Except PyError (Nat × Nat) := do
  let s ← parseDt (← column startKey startValue)
  let e ← parseDt (← column endKey endValue)
  pure (s, e)

/-- Two times, in hours. -/
def inHours (start : Nat) (times : Nat × Nat) : ℚ × ℚ :=
  (hoursFrom start times.1, hoursFrom start times.2)

/-- Two columns with times, in hours. -/
def hoursOfColumns (start : Nat) (startKey endKey : String) (startValue endValue : Option String) :
    Except PyError (ℚ × ℚ) :=
  (timesOfColumns startKey endKey startValue endValue).map (inHours start)

/-- A row of `windows_for`: its window under the contact id, unless its times cannot be read or lie
outside the horizon. -/
def ingestWindow (start : Nat) (horizonH : ℚ) (kind : WindowKind) (entry : WindowRow × Nat) :
    Except PyError (Option (String × Window)) :=
  match hoursOfColumns start "StartDateTime" "EndDateTime" entry.1.startDateTime
    entry.1.endDateTime with
  | .error _ => pure none
  | .ok (s, e) =>
    match clip s e 0 horizonH with
    | none => pure none
    | some (startH, endH) => do
      let cid ← column "ContactID" entry.1.contactId
      pure (some (cid, ⟨windowTag kind ++ toString entry.2, startH, endH, kind⟩))

/-- `windows_for`. -/
def windowsFor (start : Nat) (horizonH : ℚ) (rows : List WindowRow) (kind : WindowKind) :
    Except PyError (List (String × List (String × Window))) := do
  let windows ← rows.zipIdx.mapM (ingestWindow start horizonH kind)
  pure (Dict.groupBy Prod.fst windows.reduceOption)

/-- `by_cid.get(cid, [])`. -/
def grouped {β : Type} (groups : List (String × List (String × β))) (cid : String) : List β :=
  ((Dict.get? groups cid).getD []).map Prod.snd

/-- The rate of a qualification; an override of zero gives way to the default. -/
def ingestRate (q : QualificationRow) : ℚ :=
  toFloat (if truthy q.teamMemberTaskRateOverride then q.teamMemberTaskRateOverride
    else q.defaultTaskRate) 0

def ingestQualification (taskIds : List String) (q : QualificationRow) :
    Except PyError (Option (String × Qualification)) :=
  match q.taskId with
  | none => pure none
  | some tid =>
    if tid ∉ taskIds then pure none
    else if ingestRate q ≤ 0 then pure none
    else do
      let cid ← column "ContactID" q.contactId
      pure (some (cid, ⟨tid, ingestRate q⟩))

/-- `quals_by_cid`. -/
def qualificationsFor (fixture : Fixture) :
    Except PyError (List (String × List (String × Qualification))) := do
  let qualifications ← fixture.qualifications.mapM (ingestQualification fixture.taskIds)
  pure (Dict.groupBy Prod.fst qualifications.reduceOption)

def ingestMember (fixture : Fixture)
    (rosters avails : List (String × List (String × Window)))
    (quals : List (String × List (String × Qualification))) (m : MemberRow) :
    Except PyError (Option Member) := do
  let cid ← column "ContactID" m.contactId
  let windows := grouped rosters cid ++ grouped avails cid
  let qualifications := grouped quals cid
  if windows = [] ∨ qualifications = [] then pure none
  else pure (some
    { contactId := cid
      name := m.teamMember.getD "Unknown"
      empType := m.employmentType.getD "Unknown"
      gradeId := m.gradeId.getD ""
      ebaId := m.ebaId.getD ""
      contractedHours := toFloat m.contractedHours 38
      wagePerHour := (Dict.get? (wages fixture).1 (m.ebaId, m.gradeId)).getD (wages fixture).2
      windows := windows
      qualifications := qualifications })

/-! ## Demand -/

/-- A band inside the horizon. -/
def band (family : DemandFamily) (horizonH : ℚ) (times : Except PyError (ℚ × ℚ)) (taskId : String)
    (amount : ℚ) (orderId : String) : Option DemandBand :=
  match times with
  | .error _ => none
  | .ok (s, e) => (clip s e 0 horizonH).map fun (startH, endH) =>
      ⟨taskId, family, startH, endH, amount, orderId⟩

def ingestOutbound (start : Nat) (horizonH : ℚ) (taskIds : List String)
    (entry : OutboundRow × Nat) : Option DemandBand :=
  (knownTask taskIds entry.1.taskId).bind fun tid =>
    if toFloat entry.1.volume 0 ≤ 0 then none
    else band .outbound horizonH
      (hoursOfColumns start "StartDateTime" "EndDateTime" entry.1.startDateTime entry.1.endDateTime)
      tid (toFloat entry.1.volume 0) s!"OB{entry.2}"

def ingestInbound (start : Nat) (horizonH : ℚ) (taskIds : List String)
    (entry : InboundRow × Nat) : List DemandBand :=
  entry.1.tasks.filterMap fun tk =>
    (knownTask taskIds tk.taskId).bind fun tid =>
      if toFloat tk.volume 0 ≤ 0 then none
      else band .inbound horizonH
        (hoursOfColumns start "WindowStartDateTime" "WindowEndDateTime"
          entry.1.windowStartDateTime entry.1.windowEndDateTime)
        tid (toFloat tk.volume 0) s!"IB{entry.2}"

/-- The two times of an indirect requirement. -/
def indirectWindow (row : IndirectRow) : Except PyError (Nat × Nat) := do
  let date ← column "Date" row.date
  let windowStart ← column "WindowStartDateTime" row.windowStartDateTime
  let windowEnd ← column "WindowEndDateTime" row.windowEndDateTime
  dayWindow date windowStart windowEnd

def ingestIndirect (start : Nat) (horizonH : ℚ) (taskIds : List String)
    (entry : IndirectRow × Nat) : Option DemandBand :=
  (knownTask taskIds entry.1.taskId).bind fun tid =>
    if toFloat entry.1.requiredHeadcount 0 ≤ 0 then none
    else band .indirect horizonH
      ((indirectWindow entry.1).map (inHours start)) tid (toFloat entry.1.requiredHeadcount 0)
      s!"IND{entry.2}"

def ingestDemand (start : Nat) (horizonH : ℚ) (fixture : Fixture) : List DemandBand :=
  fixture.outbound.zipIdx.filterMap (ingestOutbound start horizonH fixture.taskIds) ++
    fixture.inbound.zipIdx.flatMap (ingestInbound start horizonH fixture.taskIds) ++
    fixture.indirect.zipIdx.filterMap (ingestIndirect start horizonH fixture.taskIds)

/-! ## Shift templates -/

def ingestBreak (b : BreakRow) : Except PyError (Option String × Break) := do
  let startOffsetH ← parseTimeOfDay (b.startHour.getD "00:00:00")
  pure (b.shiftScheduleTemplateId, ⟨startOffsetH, toFloat b.minutes 0 / 60, truthy b.isPaid⟩)

/-- `templates`: the first row of each id, among those with a length. -/
def ingestTemplates (fixture : Fixture) (breaks : List (Option String × Break)) :
    List ShiftTemplate :=
  (firstOf TemplateRow.shiftScheduleTemplateId []
    (fixture.templates.filter fun t => 0 < toFloat t.totalShiftHours 0)).map fun (tpl, t) =>
      { id := tpl
        name := t.name.getD (String.ofList (tpl.toList.take 8))
        lengthH := toFloat t.totalShiftHours 0
        breaks := Log.sort Break.startOffsetH
          ((breaks.filter fun b => b.1 = some tpl).map Prod.snd) }

/-! ## `build_problem` -/

/-- The start of the scenario and its length in hours. -/
def scenarioRange (fixture : Fixture) : Except PyError (Nat × ℚ) :=
  match fixture.scenarioRange with
  | [] => .error (.keyError "Scenario Range")
  | rng :: _ => do
    let start ← parseDt (← column "PeriodStartDate" rng.periodStartDate)
    let stop ← parseDt (← column "PeriodEndDate" rng.periodEndDate)
    pure (start, hoursFrom start stop)

def buildProblem (fixture : Fixture) : Except PyError SchedulingProblem := do
  let (start, horizonH) ← scenarioRange fixture
  let names ← functionNames fixture
  let rosters ← windowsFor start horizonH fixture.rosterProfile .roster
  let avails ← windowsFor start horizonH fixture.availability .availability
  let quals ← qualificationsFor fixture
  let members ← fixture.members.mapM (ingestMember fixture rosters avails quals)
  let breaks ← fixture.templateBreaks.mapM ingestBreak
  pure
    { horizonH := horizonH
      members := members.reduceOption
      tasks := (firstOf TaskRow.taskId [] fixture.tasks).map (ingestTask names)
      templates := ingestTemplates fixture breaks
      demand := ingestDemand start horizonH fixture }

/-- `_wire_employment_caps`. -/
def wireEmploymentCaps (problem : SchedulingProblem) (fixture : Fixture) : SchedulingProblem :=
  { problem with
    maxHoursPerWeek := fixture.constraints.foldl (fun caps row =>
      if row.constraintType ≠ some "Maximum Hours a Week" then caps
      else
        let employmentType :=
          String.ofList (Binary64.strip (row.valueType.getD "").toList)
        -- a value that `float` refuses is passed over like one that is not positive
        let limit := toFloat row.value 0
        if employmentType ≠ "" ∧ 0 < limit then
          Dict.upsert (fun _ => limit) employmentType caps
        else caps) problem.maxHoursPerWeek }

end ShiftMind.Ingest
