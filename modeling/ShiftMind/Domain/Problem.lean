import ShiftMind.Contracts.Scenario
import Mathlib.Algebra.Order.Ring.Unbundled.Rat
import Mathlib.Algebra.Ring.Rat

/-!
# ShiftMind — the scheduling problem

`domain/types.py`, `domain/problem.py`, `domain/overrides.py` and `config/constants.py`: the pure
input of the engine. All times are hours from the start of the scenario, as exact rationals.
-/

namespace ShiftMind

/-! ## `domain/types.py` -/

/-- A member's roster or availability window. -/
structure Window where
  id : String
  startH : ℚ
  endH : ℚ
  kind : WindowKind
  deriving DecidableEq, Repr

def Window.lengthH (w : Window) : ℚ := w.endH - w.startH

/-- A break inside a shift template, offset from the start of the shift. -/
structure Break where
  startOffsetH : ℚ
  durationH : ℚ
  paid : Bool
  deriving DecidableEq, Repr

structure ShiftTemplate where
  id : String
  name : String
  lengthH : ℚ
  breaks : List Break := []
  deriving DecidableEq, Repr

def ShiftTemplate.unpaidBreakH (t : ShiftTemplate) : ℚ :=
  ((t.breaks.filter fun b => !b.paid).map Break.durationH).sum

/-- Worked hours: gross minus unpaid breaks. -/
def ShiftTemplate.effectiveH (t : ShiftTemplate) : ℚ := max 0 (t.lengthH - t.unpaidBreakH)

structure Qualification where
  taskId : String
  rate : ℚ
  deriving DecidableEq, Repr

structure Member where
  contactId : String
  name : String
  empType : String
  gradeId : String
  ebaId : String
  contractedHours : ℚ
  wagePerHour : ℚ
  windows : List Window := []
  qualifications : List Qualification := []
  deriving DecidableEq, Repr

/-- `rate_for`: the rate of the first qualification for a task. -/
def Member.rateFor (m : Member) (taskId : String) : Option ℚ :=
  (m.qualifications.find? fun q => q.taskId = taskId).map Qualification.rate

structure Task where
  taskId : String
  name : String
  function : String
  areaId : String
  unitId : Option String := none
  deriving DecidableEq, Repr

/-- A demand requirement over a time window: a volume, or for `indirect` a headcount. -/
structure DemandBand where
  taskId : String
  family : DemandFamily
  startH : ℚ
  endH : ℚ
  amount : ℚ
  orderId : String := ""
  deriving DecidableEq, Repr

def DemandBand.durationH (b : DemandBand) : ℚ := b.endH - b.startH

/-! ## `domain/problem.py` -/

structure SchedulingProblem where
  horizonH : ℚ
  members : List Member
  tasks : List Task
  templates : List ShiftTemplate
  demand : List DemandBand
  maxHoursPerWeek : List (String × ℚ) := []
  maxShiftsPerDay : List (String × Int) := []
  deriving DecidableEq, Repr

/-! ## `domain/overrides.py` -/

/-- `OverrideCall`: the five tools, each with its arguments. -/
inductive OverrideCall where
  | setMinWorkersPerTask (taskId : String) (n : Int)
  | scaleDemand (taskId : String) (factor : ℚ)
  | lockWorkerShift (memberId : String) (day : Int)
  | excludeWorkerFromTask (memberId taskId : String)
  | setMaxHours (memberId : String) (maxHours : ℚ)
  deriving DecidableEq, Repr

/-! ## `config/constants.py` -/

namespace Constants

def defaultMaxHoursPerWeek : ℚ := 56
def defaultMaxShiftsPerDay : Int := 2
def defaultMinGapHours : ℚ := 2
def defaultTaskRate : ℚ := 10
/-- a flat haircut of about ten percent on supply -/
def absenteeismFactor : ℚ := 100 / 110
/-- one task slot up to six hours of gross length, two beyond -/
def taskSlotCount (shiftLengthH : ℚ) : Nat := if shiftLengthH ≤ 6 then 1 else 2
def shiftStartGridH : ℚ := 1
def maxStartsPerTemplate : Nat := 6
def volScale : Int := 100
def hourScale : Int := 100000
def costScale : Int := 100
def minWorkersPenalty : Int := 100000
def lockShiftPenalty : Int := 100000
def excludeWorkerPenalty : Int := 50000
def maxHoursPenalty : Int := 100000

/-- the tolerance of the engine's comparisons of hours -/
def epsilon : ℚ := 1 / 1000000000

end Constants

end ShiftMind
