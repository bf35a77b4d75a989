import ShiftMind.Contracts.Workflow
import ShiftMind.Library.Binary64
import ShiftMind.Library.Json
import Mathlib.Data.Rat.Defs

/-!
# ShiftMind — the rows of a fixture

The tables of a weekly fixture that `ingest/input_adapter.py` and
`adapters/postgres/scenario_projection.py` read, each row with the columns they read. A column that
is read as an id is a string or absent; one that goes through `str` holds the text `str` gives; one
that goes through `float` holds any JSON value. A table that is no list reads as an empty one.

* **`toFloat`** — `_to_float`, which both readers have.
* **`firstOf`** — the first row of each id.
-/

namespace ShiftMind.Ingest

/-! ## Cells -/

/-- `_to_float`. A text that denotes no finite number reads as the default. -/
def toFloat (value : Json ℚ) (default : ℚ) : ℚ :=
  match value with
  | .float x => x
  | .int n => n
  | .bool b => if b then 1 else 0
  | .string text => ((Binary64.ofText text.toList).bind Binary64.toRat?).getD default
  | _ => default

/-- `bool(value)`. -/
def truthy : Json ℚ → Bool
  | .null => false
  | .bool b => b
  | .int n => n ≠ 0
  | .float x => x ≠ 0
  | .string text => text ≠ ""
  | .list items => !items.isEmpty
  | .object members => !members.isEmpty

/-- `value is None`. -/
def isNone : Json ℚ → Bool
  | .null => true
  | _ => false

/-- `row[key]`: the value, or the `KeyError`. -/
def column (key : String) : Option String → Except PyError String
  | some value => .ok value
  | none => .error (.keyError key)

/-! ## Tables -/

/-- `Scenario Range`. -/
structure RangeRow where
  periodStartDate : Option String
  periodEndDate : Option String

/-- `Function`. -/
structure FunctionRow where
  functionId : Option String
  name : Option String

/-- `Area`. -/
structure AreaRow where
  areaId : Option String
  name : Option String

/-- `Task`. -/
structure TaskRow where
  taskId : Option String
  task : Option String
  functionId : Option String
  areaId : Option String
  unitTypeId : Option String

/-- `EBA Grade Rate`. -/
structure GradeRateRow where
  ebaId : Option String
  gradeId : Option String
  rateType : Option String
  amount : Json ℚ

/-- `Roster Profile` and `Availability`. -/
structure WindowRow where
  contactId : Option String
  startDateTime : Option String
  endDateTime : Option String

/-- `Team Member Qualification and Performance`. -/
structure QualificationRow where
  contactId : Option String
  taskId : Option String
  teamMemberTaskRateOverride : Json ℚ
  defaultTaskRate : Json ℚ

/-- `Team Member`. -/
structure MemberRow where
  contactId : Option String
  teamMember : Option String
  employmentType : Option String
  gradeId : Option String
  grade : Option String
  ebaId : Option String
  eba : Option String
  contractedHours : Json ℚ

/-- `Outbound Workload`. -/
structure OutboundRow where
  taskId : Option String
  areaId : Option String
  startDateTime : Option String
  endDateTime : Option String
  volume : Json ℚ

/-- An entry of `Tasks` in `Inbound Workload`. -/
structure InboundTaskRow where
  taskId : Option String
  volume : Json ℚ

/-- `Inbound Workload`. -/
structure InboundRow where
  areaId : Option String
  windowStartDateTime : Option String
  windowEndDateTime : Option String
  tasks : List InboundTaskRow

/-- `Indirect Workforce Requirement`. -/
structure IndirectRow where
  taskId : Option String
  areaId : Option String
  date : Option String
  windowStartDateTime : Option String
  windowEndDateTime : Option String
  requiredHeadcount : Json ℚ

/-- `Shift Schedule Template Break`. -/
structure BreakRow where
  shiftScheduleTemplateId : Option String
  startHour : Option String
  minutes : Json ℚ
  isPaid : Json ℚ

/-- `Shift Schedule Template`. -/
structure TemplateRow where
  shiftScheduleTemplateId : Option String
  name : Option String
  totalShiftHours : Json ℚ

/-- `Shift Constraint`. -/
structure ConstraintRow where
  constraintType : Option String
  valueType : Option String
  value : Json ℚ

/-- A fixture. -/
structure Fixture where
  scenarioRange : List RangeRow
  functions : List FunctionRow := []
  areas : List AreaRow := []
  tasks : List TaskRow := []
  gradeRates : List GradeRateRow := []
  rosterProfile : List WindowRow := []
  availability : List WindowRow := []
  qualifications : List QualificationRow := []
  members : List MemberRow := []
  outbound : List OutboundRow := []
  inbound : List InboundRow := []
  indirect : List IndirectRow := []
  templateBreaks : List BreakRow := []
  templates : List TemplateRow := []
  constraints : List ConstraintRow := []

/-! ## The first row of each id -/

variable {α : Type}

/-- The rows whose id is neither absent, nor empty, nor seen before, each with its id. -/
def firstOf (id : α → Option String) : List String → List α → List (String × α)
  | _, [] => []
  | seen, row :: rows =>
    match id row with
    | none => firstOf id seen rows
    | some key =>
      if key = "" ∨ key ∈ seen then firstOf id seen rows
      else (key, row) :: firstOf id (key :: seen) rows

/-- The ids of the tasks. -/
def Fixture.taskIds (fixture : Fixture) : List String :=
  (firstOf TaskRow.taskId [] fixture.tasks).map Prod.fst

/-- A task id among the known ones. -/
def knownTask (taskIds : List String) (taskId : Option String) : Option String :=
  taskId.filter fun tid => tid ∈ taskIds

end ShiftMind.Ingest
