import ShiftMind.Contracts.Workflow
import ShiftMind.Library.Dict
import Mathlib.Algebra.GroupWithZero.Nat
import Mathlib.Algebra.Order.Ring.Unbundled.Rat
import Mathlib.Algebra.Ring.Int.Defs
import Mathlib.Algebra.Ring.Rat
import Mathlib.Data.List.Sort
import Mathlib.Data.List.Dedup

/-!
# ShiftMind — the independent hard-constraint checker

`application/scheduling/hard_constraints.py`: minute-based re-checks over solver assignments. Each
rule is the offending data the source collects (`outside`, `overlaps`, `empty`, …), and the rule's
result is satisfied exactly when that data is empty or zero. No solver object is involved, so a
candidate is never trusted on the solver's own word.
-/

namespace ShiftMind.HardConstraints

/-- `_result`. -/
def result (name : String) (satisfied : Bool) (measured limit : ℚ) (unit : String)
    (ids : List String := []) : ConstraintResultV1 where
  constraintId := s!"hard:{name}"
  constraintType := name
  constraintClass := .hard
  satisfied := satisfied
  measuredValue := measured
  limit := limit
  unit := unit
  contributingAssignmentIds := ids

/-- `{worker.worker_id: worker for worker in facts.workers}`. -/
def workersById (facts : ValidationFactsV1) : List (String × WorkerSchedulingFactV1) :=
  Dict.indexBy WorkerSchedulingFactV1.workerId facts.workers

/-- `{shift.shift_id: shift for shift in facts.selected_shifts}`. -/
def shiftsById (facts : ValidationFactsV1) : List (String × SelectedShiftFactV1) :=
  Dict.indexBy SelectedShiftFactV1.shiftId facts.selectedShifts

/-! ## The assignment rules -/

/-- The assignment lies inside a selected shift of its own worker. -/
def insideSelectedShift (facts : ValidationFactsV1) (a : AssignmentV1) : Bool :=
  match a.shiftId.bind (Dict.get? (shiftsById facts)) with
  | none => false
  | some shift =>
    shift.workerId = a.workerId && decide (shift.startMinute ≤ a.startMinute) &&
      decide (a.endMinute ≤ shift.endMinute)

/-- Record ids of the assignments outside their worker's selected shift. -/
def outside (assignments : List AssignmentV1) (facts : ValidationFactsV1) : List String :=
  (assignments.filter fun a => !insideSelectedShift facts a).map AssignmentV1.recordId

/-- The order `sorted(values, key=lambda value: (value.start_minute, value.end_minute))` uses. -/
def startEndLe (a b : AssignmentV1) : Prop :=
  a.startMinute < b.startMinute ∨
    (a.startMinute = b.startMinute ∧ a.endMinute ≤ b.endMinute)

instance : DecidableRel startEndLe := fun _ _ => inferInstanceAs (Decidable (_ ∨ _))

/-- Record ids of the neighbours of one worker's ordered assignments that overlap. -/
def overlapsOf (values : List AssignmentV1) : List String :=
  let ordered := values.insertionSort startEndLe
  (ordered.zip ordered.tail).flatMap fun (left, right) =>
    if right.startMinute < left.endMinute then [left.recordId, right.recordId] else []

def overlaps (assignments : List AssignmentV1) : List String :=
  (Dict.groupBy AssignmentV1.workerId assignments).flatMap fun entry => overlapsOf entry.2

/-- Ids of the selected shifts that no assignment names. -/
def empty (assignments : List AssignmentV1) (facts : ValidationFactsV1) : List String :=
  let byShift := Dict.groupBy Prod.fst
    (assignments.filterMap fun a => a.shiftId.map fun shiftId => (shiftId, a))
  (facts.selectedShifts.filter fun shift =>
    ((Dict.get? byShift shift.shiftId).getD []).isEmpty).map SelectedShiftFactV1.shiftId

/-! ## The shift rules -/

/-- Shifts beyond the first of one worker in one window. -/
def extraWindows (facts : ValidationFactsV1) : Nat :=
  ((Dict.counter (facts.selectedShifts.map fun shift => (shift.workerId, shift.windowId))).map
    fun entry => entry.2 - 1).sum

/-- Shifts beyond a worker's daily cap, summed over worker-days. -/
def dayExcess (facts : ValidationFactsV1) : Int :=
  let caps := Dict.ofPairs facts.maxShiftsPerDay
  ((Dict.counter (facts.selectedShifts.map fun shift =>
      (shift.workerId, shift.startMinute / 1440))).map fun ((workerId, _), count) =>
    let cap := match Dict.get? (workersById facts) workerId with
      | none => 0
      | some worker => (Dict.get? caps worker.employmentType).getD 0
    max 0 ((count : Int) - cap)).sum

/-- The weekly cap, in minutes, of the worker a shift names: the exact product, where the source
multiplies floats. -/
def capMinutes (facts : ValidationFactsV1) (workerId : String) : ℚ :=
  match Dict.get? (workersById facts) workerId with
  | none => 0
  | some worker =>
    (Dict.get? (Dict.ofPairs facts.maxHoursPerWeek) worker.employmentType).getD 0 * 60

/-- Effective minutes beyond the weekly caps, summed over workers. -/
def excessMinutes (facts : ValidationFactsV1) : ℚ :=
  ((Dict.groupBy SelectedShiftFactV1.workerId facts.selectedShifts).map fun (workerId, values) =>
    max 0 ((((values.map SelectedShiftFactV1.effectiveMinutes).sum : Int) : ℚ)
      - capMinutes facts workerId)).sum

/-- `sorted(values, key=lambda value: value.start_minute)`. -/
def byStart (values : List SelectedShiftFactV1) : List SelectedShiftFactV1 :=
  values.insertionSort fun a b => a.startMinute ≤ b.startMinute

/-- Consecutive shifts of one worker with less than the minimum gap between them. -/
def gapViolations (facts : ValidationFactsV1) : Nat :=
  ((Dict.groupBy SelectedShiftFactV1.workerId facts.selectedShifts).map fun (_, values) =>
    let ordered := byStart values
    (ordered.zip ordered.tail).countP fun (left, right) =>
      decide (right.startMinute - left.endMinute < facts.minimumGapMinutes)).sum

/-- Record ids of the assignments whose worker lacks the task's qualification. -/
def unqualified (assignments : List AssignmentV1) (facts : ValidationFactsV1) : List String :=
  (assignments.filter fun a =>
    let qualified := match Dict.get? (workersById facts) a.workerId with
      | none => []
      | some worker => worker.qualifications.map QualificationRefV1.taskId
    !qualified.contains a.taskId).map AssignmentV1.recordId

/-! ## Preserved locks -/

/-- `text.partition(":")`, without the separator. -/
def partitionColon (text : String) : String × String :=
  let before := text.toList.takeWhile (· ≠ ':')
  (String.ofList before, String.ofList ((text.toList.drop before.length).drop 1))

def lockSatisfied (assignments : List AssignmentV1) (lock : LockV1) : Bool :=
  if lock.targetType = "worker_shift" then
    let (workerId, shiftId) := partitionColon lock.targetRef
    assignments.any fun a => a.workerId = workerId && a.shiftId = some shiftId
  else
    assignments.any fun a => a.lockRef = some lock.recordId

def missing (assignments : List AssignmentV1) (preservedLocks : List LockV1) : List String :=
  (preservedLocks.filter fun lock => !lockSatisfied assignments lock).map LockV1.recordId

/-! ## The checker -/

def validateHardConstraints (assignments : List AssignmentV1) (facts : ValidationFactsV1)
    (preservedLocks : List LockV1 := []) : List ConstraintResultV1 :=
  let outside := outside assignments facts
  let overlaps := overlaps assignments
  let empty := empty assignments facts
  let extraWindows := extraWindows facts
  let dayExcess := dayExcess facts
  -- one rule for the week and the gaps: minutes and violations are added up
  let combined := excessMinutes facts + gapViolations facts
  let unqualified := unqualified assignments facts
  let missing := missing assignments preservedLocks
  [ result "assignment_inside_selected_shift" outside.isEmpty outside.length 0 "assignments"
      outside,
    result "one_task_per_working_slot" overlaps.isEmpty overlaps.dedup.length 0 "assignments"
      overlaps,
    result "selected_shift_nonempty" empty.isEmpty empty.length 0 "shifts",
    result "one_shift_per_window" (extraWindows = 0) extraWindows 0 "shifts",
    result "max_shifts_per_day" (dayExcess = 0) dayExcess 0 "shifts",
    result "weekly_hours_and_minimum_gap" (combined = 0) combined 0 "minutes_or_gaps",
    result "worker_qualification" unqualified.isEmpty unqualified.length 0 "assignments"
      unqualified ] ++
  if preservedLocks.isEmpty then []
  else [result "preserved_lock" missing.isEmpty missing.length 0 "locks" missing]

/-- `require_hard_constraints`: the results, or the violation naming every failed rule. -/
def requireHardConstraints (assignments : List AssignmentV1) (facts : ValidationFactsV1)
    (preservedLocks : List LockV1 := []) : Except PyError (List ConstraintResultV1) :=
  let results := validateHardConstraints assignments facts preservedLocks
  let failed := (results.filter fun r => !r.satisfied).map ConstraintResultV1.constraintType
  if failed.isEmpty then .ok results
  else .error (.hardConstraintViolation ("hard_constraint_violated: " ++ ", ".intercalate failed))

/-! ## What passing says -/

/-- Every rule of the checker is satisfied. -/
def Valid (assignments : List AssignmentV1) (facts : ValidationFactsV1)
    (preservedLocks : List LockV1 := []) : Prop :=
  ∀ r ∈ validateHardConstraints assignments facts preservedLocks, r.satisfied = true

theorem requireHardConstraints_eq_ok {assignments : List AssignmentV1}
    {facts : ValidationFactsV1} {preservedLocks : List LockV1} :
    Valid assignments facts preservedLocks ↔
      requireHardConstraints assignments facts preservedLocks =
        .ok (validateHardConstraints assignments facts preservedLocks) := by
  unfold requireHardConstraints Valid
  simp only
  split
  · rename_i hfailed
    simp only [List.isEmpty_iff, List.map_eq_nil_iff, List.filter_eq_nil_iff] at hfailed
    simpa using hfailed
  · rename_i hfailed
    simp only [List.isEmpty_iff, List.map_eq_nil_iff, List.filter_eq_nil_iff] at hfailed
    simpa using hfailed

/-- **A qualified assignment has a worker.** The qualification rule finds every assigned worker
among the facts, so a later lookup by worker id cannot miss. -/
theorem worker_of_valid {assignments : List AssignmentV1} {facts : ValidationFactsV1}
    {preservedLocks : List LockV1} (hvalid : Valid assignments facts preservedLocks)
    {a : AssignmentV1} (ha : a ∈ assignments) :
    ∃ worker, Dict.get? (workersById facts) a.workerId = some worker ∧
      a.taskId ∈ worker.qualifications.map QualificationRefV1.taskId := by
  have hrule := hvalid
    (result "worker_qualification" (unqualified assignments facts).isEmpty
      (unqualified assignments facts).length 0 "assignments" (unqualified assignments facts))
    (by simp [validateHardConstraints])
  have hempty : unqualified assignments facts = [] := by simpa [result] using hrule
  unfold unqualified at hempty
  rw [List.map_eq_nil_iff, List.filter_eq_nil_iff] at hempty
  have hqualified := hempty a ha
  cases hget : Dict.get? (workersById facts) a.workerId with
  | none => simp [hget] at hqualified
  | some worker => exact ⟨worker, rfl, by simpa [hget] using hqualified⟩

end ShiftMind.HardConstraints
