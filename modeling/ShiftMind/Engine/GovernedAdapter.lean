import ShiftMind.Engine.Builder
import ShiftMind.UseCases.FinalizeScheduleRun

/-!
# ShiftMind — the governed adapter

`engine/governed_adapter.py`: draft constraints become override calls, the two rounds of the
lexicographic solve run under one budget, and what the solver chose is translated from hours to the
integer minutes of the contracts. CP-SAT itself is an oracle: each round ends in any status, with
any assignment.

* **`constraintToOverride`** — `_constraints_to_overrides`.
* **`solveLexicographicGoverned`** — the driver of the two rounds.
* **`CpSatBuilder.outcome`** — the `SolverOutcomeV1` of a governed solve.
-/

namespace ShiftMind

/-- A status that comes with a solution. -/
def SolverStatus.hasSolution : SolverStatus → Bool
  | .optimal | .feasible => true
  | _ => false

namespace Engine

open Rounding Constants LinearModel

/-! ## Draft constraints -/

/-- `_record_id`. -/
def recordIdOf (entities : List ResolvedEntityV1) (group : EvidenceGroup) (name : String) :
    Except PyError String :=
  match (entities.filter fun entity => entity.group = group).map ResolvedEntityV1.recordId with
  | [recordId] => .ok recordId
  | _ => .error (.valueError s!"constraint requires exactly one {name} entity")

/-- `_constraint_args`, as the override call it is wrapped into. An argument that is absent only
raises once the builder converts it; the call fails all the same. -/
def constraintToOverride (constraint : DraftConstraintV1) : Except PyError OverrideCall :=
  let task := recordIdOf constraint.resolvedEntities .workAreasAndTasks "work-areas-and-tasks"
  let worker := recordIdOf constraint.resolvedEntities .workers "workers"
  match constraint.kind with
  | .setMinWorkersPerTask => do
    let taskId ← task
    match constraint.n with
    | some n => pure (.setMinWorkersPerTask taskId n)
    | none => throw (.valueError "int() argument must be a number")
  | .scaleDemand => do
    let taskId ← task
    match constraint.factor with
    | some factor => pure (.scaleDemand taskId factor)
    | none => throw (.valueError "float() argument must be a number")
  | .lockWorkerShift =>
    match constraint.startMinute with
    | none => throw (.valueError "lock_worker_shift requires start_minute")
    | some startMinute => do
      let memberId ← worker
      pure (.lockWorkerShift memberId (startMinute / 1440))
  | .excludeWorkerFromTask => do
    let memberId ← worker
    let taskId ← task
    pure (.excludeWorkerFromTask memberId taskId)
  | .setMaxHours => do
    let memberId ← worker
    match constraint.maxHours with
    | some maxHours => pure (.setMaxHours memberId maxHours)
    | none => throw (.valueError "float() argument must be a number")

/-! ## The lexicographic driver -/

/-- What `apply_remaining_budget` returns: a budget was applied, or a ceiling is exhausted. -/
inductive Budget where
  | applied
  | wall
  | deterministic
  deriving DecidableEq, Repr

/-- The answer to one `Solve` call. -/
structure SolveAnswer where
  status : SolverStatus
  solution : Var → Int

/-- What the solver and the clocks do in one governed solve. -/
structure SolverOracle where
  firstBudget : Budget := .applied
  first : SolveAnswer
  secondBudget : Budget := .applied
  second : SolveAnswer

/-- `_GovernedLexResult`: the assignment `value` reads, if round 1 found one. -/
structure GovernedLexResult where
  status : SolverStatus
  values : Option (Var → Int) := none
  reason : Option String := none

/-- The reason an exhausted ceiling is reported with. -/
def Budget.reason : Budget → Option String
  | .deterministic => some "deterministic_budget_exhausted"
  | _ => none

/-- `_solve_lexicographic_governed`. A second round that ends without a solution leaves the values
of the first, under the status the second ended in. -/
def solveLexicographicGoverned (oracle : SolverOracle) : GovernedLexResult :=
  if oracle.firstBudget ≠ .applied then
    { status := .unknown, reason := oracle.firstBudget.reason }
  else if !oracle.first.status.hasSolution then { status := oracle.first.status }
  else if oracle.secondBudget ≠ .applied then
    { status := .unknown
      values := some oracle.first.solution
      reason := oracle.secondBudget.reason }
  else if !oracle.second.status.hasSolution then
    { status := oracle.second.status, values := some oracle.first.solution }
  else { status := oracle.second.status, values := some oracle.second.solution }

/-! ## Minutes -/

/-- `_hours_to_minutes`. -/
def hoursToMinutes (hours : ℚ) : Int := roundHalfEven (hours * 60)

/-- What a record id is a digest of. -/
inductive DigestInput where
  | assignment (workerId taskId shiftId : String) (startMinute endMinute : Int)
  | demand (band : DemandBand)
  deriving DecidableEq, Repr

/-- `digest[:24]` under a prefix. -/
def recordIdFor (kind : String) (digest : DigestInput → String) (input : DigestInput) : String :=
  kind ++ String.ofList ((digest input).toList.take 24)

/-- `ScheduleRow`, the columns that `_assignment` reads. -/
structure ScheduleRow where
  contactId : String
  taskId : String
  shiftId : String
  startH : ℚ
  endH : ℚ
  deriving DecidableEq, Repr

/-- The order `rows.sort` uses. -/
def rowLe (a b : ScheduleRow) : Prop :=
  a.contactId < b.contactId ∨ (a.contactId = b.contactId ∧
    (a.startH < b.startH ∨ (a.startH = b.startH ∧ a.taskId ≤ b.taskId)))

instance : DecidableRel rowLe := fun _ _ => inferInstanceAs (Decidable (_ ∨ _))

namespace CpSatBuilder

variable (b : CpSatBuilder) (digest : DigestInput → String)

/-- The rows of the selected tasks, in the order they are reported. -/
def rows (values : Var → Int) : List ScheduleRow :=
  (b.indexed.flatMap fun c =>
    ((taskVarsOf c).filter fun task => values task.2 = 1).map fun task =>
      { contactId := c.1.shift.member.contactId
        taskId := task.1.taskId
        shiftId := c.1.shift.name
        startH := task.1.startH
        endH := task.1.endH : ScheduleRow }).insertionSort rowLe

/-- `members_by_id[contact_id]`: the last member under an id. -/
def memberById (contactId : String) : Option Member :=
  Dict.get? (Dict.indexBy Member.contactId b.p.members) contactId

/-- `_assignment`. -/
def assignment (row : ScheduleRow) : AssignmentV1 where
  recordId := recordIdFor "asg_" digest (.assignment row.contactId row.taskId row.shiftId
    (hoursToMinutes row.startH) (hoursToMinutes row.endH))
  workerId := row.contactId
  taskId := row.taskId
  shiftId := some row.shiftId
  startMinute := hoursToMinutes row.startH
  endMinute := hoursToMinutes row.endH
  qualificationRefs :=
    match (b.memberById row.contactId).bind fun member => member.rateFor row.taskId with
    | none => []
    | some rate => [⟨row.taskId, rate⟩]
  source := "solver"

def assignments (values : Var → Int) : List AssignmentV1 :=
  (b.rows values).map (b.assignment digest)

/-- The selected shifts. -/
def selected (values : Var → Int) : List (Candidate × Nat) :=
  b.indexed.filter fun c => values (.shift c.2) = 1

def selectedShiftFact (sv : ShiftVar) : SelectedShiftFactV1 where
  shiftId := sv.name
  workerId := sv.member.contactId
  windowId := sv.window.id
  windowKind := sv.window.kind
  startMinute := hoursToMinutes sv.startH
  endMinute := hoursToMinutes sv.endH
  effectiveMinutes := hoursToMinutes sv.effH

def workerFact (member : Member) : WorkerSchedulingFactV1 where
  workerId := member.contactId
  employmentType := member.empType
  contractedHours := member.contractedHours
  wagePerHour := member.wagePerHour
  qualifications := member.qualifications.map fun q => ⟨q.taskId, q.rate⟩
  availabilityWindows := member.windows.map fun w =>
    ⟨w.kind, hoursToMinutes w.startH, hoursToMinutes w.endH⟩

def taskFact (task : Task) : TaskV1 where
  recordId := task.taskId
  taskId := task.taskId
  name := task.name
  function := task.function
  areaId := task.areaId
  areaName := task.areaId
  unitTypeId := task.unitId

def demandFact (band : DemandBand) : DemandIntervalV1 where
  recordId := recordIdFor "dem_" digest (.demand band)
  family := band.family
  taskId := band.taskId
  areaId := none
  startMinute := hoursToMinutes band.startH
  endMinute := hoursToMinutes band.endH
  amount := band.amount
  unit := if band.family = .indirect then .headcount else .volume

/-- `sorted({member.emp_type for member in problem.members})`. -/
def employmentTypes : List String :=
  ((b.p.members.map Member.empType).dedup).insertionSort (· ≤ ·)

/-- `validation_facts`; without a solution no shift is selected. -/
def validationFacts (values : Option (Var → Int)) : ValidationFactsV1 where
  horizonMinutes := hoursToMinutes b.p.horizonH
  workers := b.p.members.map workerFact
  selectedShifts :=
    match values with
    | none => []
    | some values => (b.selected values).map fun c => selectedShiftFact c.1.shift
  maxHoursPerWeek := b.employmentTypes.map fun empType => (empType, b.maxHoursOf empType)
  maxShiftsPerDay := b.employmentTypes.map fun empType => (empType, b.maxShiftsOf empType)
  minimumGapMinutes := hoursToMinutes defaultMinGapHours
  tasks := b.p.tasks.map taskFact
  demandIntervals := b.p.demand.map (demandFact digest)

/-- What `GovernedSchedulerAdapter.solve` returns for a result of the driver. -/
def outcome (result : GovernedLexResult) : SolverOutcomeV1 where
  solverStatus := result.status
  assignments :=
    match result.values with
    | none => []
    | some values => b.assignments digest values
  validationFacts := some (b.validationFacts digest result.values)
  reason := result.reason

end CpSatBuilder

end Engine

end ShiftMind
