import ShiftMind.Engine.Shifts
import ShiftMind.Library.Dict
import ShiftMind.Library.LinearModel

/-!
# ShiftMind — the CP-SAT model

`CpSatBuilder` of `engine/cpsat/builder.py`: the integer model of a scheduling problem. Its
variables are the shifts a member could work, the tasks each of these could carry, and the slacks
that make coverage, roster fill and the overrides soft; a candidate shift that can do no demanded
work is dropped, and the variable the source drew for it stands in no constraint.

* **`CpSatBuilder.candidates`** — `shift_vars`, each with its `task_vars`.
* **`CpSatBuilder.model`** — the bounds and constraints of the built model.
* **`CpSatBuilder.round1Unmet`**, **`CpSatBuilder.round2Cost`** — the two objectives.
-/

namespace ShiftMind.Engine

open Rounding Constants LinearModel

/-- The variables of the model: each `NewBoolVar` and `NewIntVar` call draws its own. -/
inductive Var where
  /-- the shift at a position of `shift_vars` -/
  | shift (index : Nat)
  /-- the task at a position among those of a shift -/
  | task (index : Nat) (position : Nat)
  | unfilled (windowId : String)
  | unmetVol (taskId : String) (hour : Int)
  | unmetHc (taskId : String) (hour : Int)
  /-- the slacks of the override at a position of the list -/
  | short (override : Nat) (hour : Int)
  | absent (override : Nat)
  | over (override : Nat)
  deriving DecidableEq, Repr

structure CpSatBuilder where
  p : SchedulingProblem
  overrides : List OverrideCall := []
  deriving DecidableEq, Repr

/-! ## Demand aggregation

The builder adds up the rows of a task hour by hour before it has any variable for them. -/

/-- `range(floor(a), ceil(b))`. -/
def hoursOf (a : Interval) : List Int :=
  (List.range (⌈a.2⌉ - ⌊a.1⌋).toNat).map fun k => ⌊a.1⌋ + k

/-- The hours an interval overlaps, each with the length of the overlap. -/
def hourSplit (a : Interval) : List (Int × ℚ) :=
  (hoursOf a).filterMap fun (h : Int) =>
    if 0 < overlap a (h, h + 1) then some (h, overlap a (h, h + 1)) else none

namespace CpSatBuilder

variable (b : CpSatBuilder)

/-- The factors of the `scale_demand` overrides, the last one given for a task. -/
def scale : List (String × ℚ) :=
  Dict.ofPairs (b.overrides.filterMap fun o =>
    match o with
    | .scaleDemand taskId factor => some (taskId, factor)
    | _ => none)

def factorOf (taskId : String) : ℚ := (Dict.get? b.scale taskId).getD 1

/-- `vol`: the volume demanded per task and hour, each band spread over its hours. -/
def volDemand : List ((String × Int) × ℚ) :=
  Dict.tally (b.p.demand.flatMap fun band =>
    if band.family = .indirect then []
    else (hourSplit (band.startH, band.endH)).map fun (h, ov) =>
      ((band.taskId, h), band.amount * b.factorOf band.taskId * ov / max band.durationH epsilon))

/-- `hc`: the headcount demanded per task and hour, in full in every hour a band touches. -/
def hcDemand : List ((String × Int) × ℚ) :=
  Dict.tally (b.p.demand.flatMap fun band =>
    if band.family = .indirect then
      (hourSplit (band.startH, band.endH)).map fun (h, _) =>
        ((band.taskId, h), band.amount * b.factorOf band.taskId)
    else [])

/-- `is_ind.get(task_id)`: some demand row of the task is indirect. -/
def isInd (taskId : String) : Bool :=
  b.p.demand.any fun band => band.taskId = taskId && band.family = .indirect

/-- `task_id in demanded_tasks`. -/
def isDemanded (taskId : String) : Bool :=
  (b.volDemand.any fun entry => entry.1.1 = taskId) ||
    b.hcDemand.any fun entry => entry.1.1 = taskId

/-- The task has a nonzero demand in an hour. -/
def hasDemand (taskId : String) (hour : Int) : Bool :=
  (Dict.get? b.volDemand (taskId, hour)).getD 0 ≠ 0 ||
    (Dict.get? b.hcDemand (taskId, hour)).getD 0 ≠ 0

/-- `_compute_ref_rates`, then `_ref_rate.get(task_id, DEFAULT_TASK_RATE)`: the mean rate over all
qualifications for a task. -/
def refRate (taskId : String) : ℚ :=
  let rates := (b.p.members.flatMap Member.qualifications).filter fun q => q.taskId = taskId
  if rates = [] then defaultTaskRate else (rates.map Qualification.rate).sum / rates.length

end CpSatBuilder

/-! ## Candidates

The shifts that a member may be given: for each window and template, the starts that are tried. -/

structure TaskVar where
  taskId : String
  slotIdx : Nat
  startH : ℚ
  endH : ℚ
  /-- worked hours on the task, by hour -/
  hourOverlap : List (Int × ℚ)
  deriving DecidableEq, Repr

/-- A shift variable with the task variables drawn for it. -/
structure Candidate where
  shift : ShiftVar
  tasks : List TaskVar
  deriving DecidableEq, Repr

/-- The worked hours of a slot, by hour. -/
def slotHours (slot : List Interval) : List (Int × ℚ) := Dict.tally (slot.flatMap hourSplit)

namespace CpSatBuilder

variable (b : CpSatBuilder)

/-- The task variables of a shift: a slot may carry a task that has demand in one of its hours. -/
def taskVars (qualIds : List String) (sv : ShiftVar) : List TaskVar :=
  sv.slots.zipIdx.flatMap fun (slot, slotIdx) =>
    qualIds.filterMap fun taskId =>
      let hours := slotHours slot
      if (Dict.keys hours).any (b.hasDemand taskId) then
        some
          { taskId := taskId
            slotIdx := slotIdx
            startH := (slot.headD (0, 0)).1
            endH := (slot.getLastD (0, 0)).2
            hourOverlap := hours }
      else none

/-- `{q.task_id for q in member.qualifications} & demanded_tasks`. -/
def qualIds (member : Member) : List String :=
  ((member.qualifications.map Qualification.taskId).filter b.isDemanded).dedup

/-- `shift_vars`, each with its task variables. -/
def candidates : List Candidate :=
  b.p.members.flatMap fun member =>
    member.windows.flatMap fun window =>
      b.p.templates.flatMap fun tpl =>
        (candidateStarts window tpl).filterMap fun start =>
          let sv := makeShift member window tpl start
          let tasks := b.taskVars (b.qualIds member) sv
          -- a shift that can do no demanded work is no candidate
          if tasks = [] then none else some ⟨sv, tasks⟩

/-- The candidates with their positions, which name their variables. -/
def indexed : List (Candidate × Nat) := b.candidates.zipIdx

/-- `coverage_terms[(task_id, hour)]`: what each task variable supplies, a head for a task with
indirect demand and a volume otherwise. -/
def coverageTerms (taskId : String) (hour : Int) : List (Var × ℚ) :=
  b.indexed.flatMap fun (c, i) =>
    c.tasks.zipIdx.filterMap fun (task, k) =>
      if task.taskId = taskId then
        (Dict.get? task.hourOverlap hour).map fun ov =>
          if b.isInd taskId then (.task i k, 1)
          else
            -- `member.rate_for(tid) or C.DEFAULT_TASK_RATE`
            let rate := match c.shift.member.rateFor taskId with
              | some rate => if rate = 0 then defaultTaskRate else rate
              | none => defaultTaskRate
            (.task i k, rate * ov * absenteeismFactor)
      else none

/-! ## Hard constraints -/

/-- The task variables of one candidate. -/
def taskVarsOf (c : Candidate × Nat) : List (TaskVar × Var) :=
  c.1.tasks.zipIdx.map fun (task, k) => (task, .task c.2 k)

/-- The constraints of one candidate: tasks only in a selected shift, at most one in a slot, and
no selected shift without a task. -/
def linkConstraints (c : Candidate × Nat) : List (LinearConstraint Var) :=
  let tasks := taskVarsOf c
  (tasks.map fun task => ⟨[(1, task.2), (-1, .shift c.2)], .le, 0⟩) ++
    ((Dict.groupBy (fun task => task.1.slotIdx) tasks).map fun (_, group) =>
      ⟨sumOf (group.map Prod.snd) ++ [(-1, .shift c.2)], .le, 0⟩) ++
    [⟨sumOf (tasks.map Prod.snd) ++ [(-1, .shift c.2)], .ge, 0⟩]

/-- `seen_windows`: the last window seen under each id. -/
def seenWindows : List (String × Window) :=
  Dict.indexBy Window.id (b.candidates.map fun c => c.shift.window)

/-- The variables of the shifts in a window. -/
def windowVars (windowId : String) : List Var :=
  (b.indexed.filter fun c => c.1.shift.window.id = windowId).map fun c => .shift c.2

/-- `unfilled_roster`: the roster windows. -/
def rosterWindows : List String :=
  (b.seenWindows.filter fun entry => entry.2.kind = .roster).map Prod.fst

/-- Roster fill is soft; any other window takes at most one shift. -/
def windowConstraints : List (LinearConstraint Var) :=
  b.seenWindows.map fun (windowId, window) =>
    if window.kind = .roster then
      ⟨sumOf (b.windowVars windowId) ++ [(1, .unfilled windowId)], .eq, 1⟩
    else ⟨sumOf (b.windowVars windowId), .le, 1⟩

/-- `pairs[i], pairs[j]` for `i < j`. -/
def pairsOf {α : Type} : List α → List (α × α)
  | [] => []
  | a :: rest => rest.map (fun other => (a, other)) ++ pairsOf rest

/-- The gap between two shifts, negative where they overlap. -/
def gapH (a a' : ShiftVar) : ℚ := max a.startH a'.startH - min a.endH a'.endH

/-- `int(round(sv.eff_h * VOL_SCALE))`. -/
def scaledHours (hours : ℚ) : Int := roundHalfEven (hours * volScale)

def maxHoursOf (empType : String) : ℚ :=
  (Dict.get? b.p.maxHoursPerWeek empType).getD defaultMaxHoursPerWeek

def maxShiftsOf (empType : String) : Int :=
  (Dict.get? b.p.maxShiftsPerDay empType).getD defaultMaxShiftsPerDay

/-- `shifts_by_member`. -/
def shiftsByMember : List (String × List (Candidate × Nat)) :=
  Dict.groupBy (fun c => c.1.shift.member.contactId) b.indexed

/-- `svs[0].member.emp_type`. -/
def groupEmpType (svs : List (Candidate × Nat)) : String :=
  (svs.head?.map fun c => c.1.shift.member.empType).getD ""

/-- The caps of one member: shifts per day, effective hours a week, and the minimum gap. -/
def memberConstraints (svs : List (Candidate × Nat)) : List (LinearConstraint Var) :=
  let empType := groupEmpType svs
  ((Dict.groupBy (fun c => c.1.shift.day) svs).map fun (_, group) =>
      ⟨sumOf (group.map fun c => .shift c.2), .le, b.maxShiftsOf empType⟩) ++
    [⟨svs.map fun c => (scaledHours c.1.shift.effH, .shift c.2), .le,
      scaledHours (b.maxHoursOf empType)⟩] ++
    ((pairsOf svs).filter fun (c, c') =>
        gapH c.1.shift c'.1.shift < defaultMinGapHours - epsilon).map fun (c, c') =>
      ⟨[(1, .shift c.2), (1, .shift c'.2)], .le, 1⟩

/-! ## Coverage

A slack for each hour and task stands for what the assigned shifts do not supply. -/

/-- `unmet_vol`: the requirement of each task and hour whose volume has a slack. A task with
indirect demand has none. -/
def unmetVol : List ((String × Int) × Int) :=
  b.volDemand.filterMap fun ((taskId, hour), volume) =>
    if b.isInd taskId then none
    else if volume ≤ epsilon then none
    else some ((taskId, hour), roundHalfEven (volume * volScale))

/-- `unmet_hc`: the requirement of each task and hour whose headcount has a slack. -/
def unmetHc : List ((String × Int) × Int) :=
  b.hcDemand.filterMap fun (key, headcount) =>
    if roundHalfEven headcount ≤ 0 then none else some (key, roundHalfEven headcount)

/-- The scaled supply of volume to a task in an hour. -/
def volSupply (taskId : String) (hour : Int) : LinExpr Var :=
  (b.coverageTerms taskId hour).map fun (var, coeff) => (roundHalfEven (coeff * volScale), var)

/-- The heads supplied to a task in an hour. -/
def hcSupply (taskId : String) (hour : Int) : LinExpr Var :=
  sumOf ((b.coverageTerms taskId hour).map Prod.fst)

def coverageConstraints : List (LinearConstraint Var) :=
  (b.unmetVol.map fun ((taskId, hour), required) =>
      ⟨b.volSupply taskId hour ++ [(1, .unmetVol taskId hour)], .ge, required⟩) ++
    b.unmetHc.map fun ((taskId, hour), required) =>
      ⟨b.hcSupply taskId hour ++ [(1, .unmetHc taskId hour)], .ge, required⟩

/-! ## Overrides -/

/-- The hours in which a task has demand entries. -/
def demandHours (taskId : String) : List Int :=
  (((b.volDemand ++ b.hcDemand).filter fun entry => entry.1.1 = taskId).map
    fun entry => entry.1.2).dedup

/-- The shifts of a member. -/
def memberShifts (memberId : String) : List (Candidate × Nat) :=
  b.indexed.filter fun c => c.1.shift.member.contactId = memberId

/-- The slack bound and the scaled soft cap of a `set_max_hours` override. -/
def maxHoursSlack (memberId : String) (maxHours : ℚ) : Int :=
  max 0 (scaledHours (b.maxHoursOf (groupEmpType (b.memberShifts memberId))) -
    scaledHours maxHours)

/-- The slack variables an override draws. -/
def overrideVars (i : Nat) : OverrideCall → List (Bounded Var)
  | .setMinWorkersPerTask taskId n => (b.demandHours taskId).map fun h => ⟨.short i h, 0, n⟩
  | .lockWorkerShift _ _ => [⟨.absent i, 0, 1⟩]
  | .setMaxHours memberId maxHours =>
    if b.memberShifts memberId = [] then []
    else [⟨.over i, 0, b.maxHoursSlack memberId maxHours⟩]
  | .scaleDemand _ _ | .excludeWorkerFromTask _ _ => []

/-- The soft constraints an override adds. -/
def overrideConstraints (i : Nat) : OverrideCall → List (LinearConstraint Var)
  | .setMinWorkersPerTask taskId n =>
    (b.demandHours taskId).map fun h => ⟨b.hcSupply taskId h ++ [(1, .short i h)], .ge, n⟩
  | .lockWorkerShift memberId day =>
    [⟨sumOf ((b.indexed.filter fun c => c.1.shift.member.contactId = memberId &&
        decide (c.1.shift.day = day)).map fun c => .shift c.2) ++ [(1, .absent i)], .ge, 1⟩]
  | .setMaxHours memberId maxHours =>
    if b.memberShifts memberId = [] then []
    else
      [⟨((b.memberShifts memberId).map fun c => (scaledHours c.1.shift.effH, .shift c.2)) ++
        [(-1, .over i)], .le, scaledHours maxHours⟩]
  | .scaleDemand _ _ | .excludeWorkerFromTask _ _ => []

/-- The penalty terms an override adds to the cost. -/
def overridePenalty (i : Nat) : OverrideCall → LinExpr Var
  | .setMinWorkersPerTask taskId _ =>
    (b.demandHours taskId).map fun h => (minWorkersPenalty, .short i h)
  | .lockWorkerShift _ _ => [(lockShiftPenalty, .absent i)]
  | .excludeWorkerFromTask memberId taskId =>
    b.indexed.flatMap fun c =>
      if c.1.shift.member.contactId = memberId then
        ((taskVarsOf c).filter fun task => task.1.taskId = taskId).map fun task =>
          (excludeWorkerPenalty, task.2)
      else []
  | .setMaxHours memberId _ =>
    if b.memberShifts memberId = [] then [] else [(maxHoursPenalty / volScale, .over i)]
  | .scaleDemand _ _ => []

/-! ## The model and its objectives -/

def boolVar (v : Var) : Bounded Var := ⟨v, 0, 1⟩

/-- `build`: the model `self.m`. -/
def model : Model Var where
  domains :=
    b.indexed.map (fun c => boolVar (.shift c.2)) ++
      (b.indexed.flatMap fun c => (taskVarsOf c).map fun task => boolVar task.2) ++
      b.rosterWindows.map (fun windowId => boolVar (.unfilled windowId)) ++
      b.unmetVol.map (fun ((taskId, hour), required) => ⟨.unmetVol taskId hour, 0, required⟩) ++
      b.unmetHc.map (fun ((taskId, hour), required) => ⟨.unmetHc taskId hour, 0, required⟩) ++
      b.overrides.zipIdx.flatMap fun (o, i) => b.overrideVars i o
  constraints :=
    b.indexed.flatMap linkConstraints ++ b.windowConstraints ++
      (b.shiftsByMember.flatMap fun entry => b.memberConstraints entry.2) ++
      b.coverageConstraints ++
      b.overrides.zipIdx.flatMap fun (o, i) => b.overrideConstraints i o

/-- The scaled labour-hours of one unit of unmet scaled volume. -/
def volWeight (taskId : String) : Int :=
  max 1 (roundHalfEven (hourScale / (volScale * max (b.refRate taskId) epsilon)))

/-- The first window seen under an id. -/
def firstWindow (windowId : String) : Option Window :=
  (b.candidates.map fun c => c.shift.window).find? fun w => w.id = windowId

/-- The weight of a roster window left unfilled. -/
def rosterWeight (windowId : String) : Int :=
  max 1 (roundHalfEven (((b.firstWindow windowId).map Window.lengthH).getD 0 * hourScale))

/-- `round1_unmet`. -/
def round1Unmet : LinExpr Var :=
  b.unmetVol.map (fun ((taskId, hour), _) => (b.volWeight taskId, .unmetVol taskId hour)) ++
    b.unmetHc.map (fun ((taskId, hour), _) => (hourScale, .unmetHc taskId hour)) ++
    b.rosterWindows.map fun windowId => (b.rosterWeight windowId, .unfilled windowId)

/-- `round2_cost`. -/
def round2Cost : LinExpr Var :=
  b.indexed.map (fun c =>
      (roundHalfEven (c.1.shift.effH * c.1.shift.member.wagePerHour * costScale), .shift c.2)) ++
    b.overrides.zipIdx.flatMap fun (o, i) => b.overridePenalty i o

end CpSatBuilder

end ShiftMind.Engine
