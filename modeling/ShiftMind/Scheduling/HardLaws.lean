import Mathlib.Algebra.Order.BigOperators.Group.List
import Mathlib.Algebra.Order.Field.Rat
import Mathlib.Algebra.Order.Ring.Int
import Mathlib.Data.Rat.Cast.Order
import ShiftMind.Library.Intervals
import ShiftMind.Scheduling.HardConstraints

/-!
# ShiftMind — what the hard-constraint checker decides

The checker of `application/scheduling/hard_constraints.py` groups assignments and shifts by their
worker, sorts every group and compares neighbours. What a planner relies on is about all pairs.

* **`HardLaws`** — the laws of a schedule, over all assignments and all pairs of them.
* **rule by rule** — the offending data of a rule is empty or zero exactly when its law holds.
* **`validateHardConstraints_iff`** — every result is satisfied exactly when every law holds.
-/

namespace ShiftMind.HardConstraints

open Intervals

/-! ## The laws

What each rule of the checker is about, without its code. -/

/-- The daily cap of the worker a shift names. -/
def dayCap (facts : ValidationFactsV1) (workerId : String) : Int :=
  match Dict.get? (workersById facts) workerId with
  | none => 0
  | some worker => (Dict.get? (Dict.ofPairs facts.maxShiftsPerDay) worker.employmentType).getD 0

/-- The tasks a worker is qualified for. -/
def qualifiedTasks (facts : ValidationFactsV1) (workerId : String) : List String :=
  match Dict.get? (workersById facts) workerId with
  | none => []
  | some worker => worker.qualifications.map QualificationRefV1.taskId

/-- The selected shifts of a worker. -/
def shiftsOf (facts : ValidationFactsV1) (workerId : String) : List SelectedShiftFactV1 :=
  facts.selectedShifts.filter fun shift => shift.workerId = workerId

/-- Two assignments that share no minute. -/
abbrev Disjoint : AssignmentV1 → AssignmentV1 → Prop :=
  Apart AssignmentV1.startMinute AssignmentV1.endMinute 0

/-- Two shifts with at least the minimum gap between them. -/
abbrev Separated (facts : ValidationFactsV1) : SelectedShiftFactV1 → SelectedShiftFactV1 → Prop :=
  Apart SelectedShiftFactV1.startMinute SelectedShiftFactV1.endMinute facts.minimumGapMinutes

/-- The laws that are not about the place of an assignment. Two members of a list are two positions
of it, so that an assignment that stands in it twice overlaps itself. -/
structure ScheduleLaws (assignments : List AssignmentV1) (facts : ValidationFactsV1) : Prop where
  disjoint : assignments.Pairwise fun a b => a.workerId = b.workerId → Disjoint a b
  nonempty : ∀ shift ∈ facts.selectedShifts, ∃ a ∈ assignments, a.shiftId = some shift.shiftId
  window : facts.selectedShifts.Pairwise fun shift shift' =>
    shift.workerId = shift'.workerId → shift.windowId ≠ shift'.windowId
  day : ∀ shift ∈ facts.selectedShifts,
    ((shiftsOf facts shift.workerId).countP fun shift' =>
      shift'.startMinute / 1440 = shift.startMinute / 1440 : Int) ≤ dayCap facts shift.workerId
  gap : facts.selectedShifts.Pairwise fun shift shift' =>
    shift.workerId = shift'.workerId → Separated facts shift shift'
  week : ∀ shift ∈ facts.selectedShifts,
    ((((shiftsOf facts shift.workerId).map SelectedShiftFactV1.effectiveMinutes).sum : Int) : ℚ) ≤
      capMinutes facts shift.workerId
  qualified : ∀ a ∈ assignments, a.taskId ∈ qualifiedTasks facts a.workerId

/-- **The laws of a schedule.** Each assignment names a selected shift of its own worker, and lies
inside it. -/
structure HardLaws (assignments : List AssignmentV1) (facts : ValidationFactsV1) : Prop
    extends ScheduleLaws assignments facts where
  inside : ∀ a ∈ assignments, ∃ shift ∈ facts.selectedShifts, a.shiftId = some shift.shiftId ∧
    shift.workerId = a.workerId ∧ shift.startMinute ≤ a.startMinute ∧
      a.endMinute ≤ shift.endMinute

section Rules

variable {assignments : List AssignmentV1} {facts : ValidationFactsV1}

/-! ## The rules over assignments -/

/-- With distinct ids, a selected shift is what its id looks up. -/
theorem get?_shiftsById (hids : (facts.selectedShifts.map SelectedShiftFactV1.shiftId).Nodup)
    {shiftId : String} {shift : SelectedShiftFactV1} :
    Dict.get? (shiftsById facts) shiftId = some shift ↔
      shift ∈ facts.selectedShifts ∧ shift.shiftId = shiftId := by
  constructor
  · exact Dict.get?_indexBy_eq_some
  · intro h
    have hget : ∃ other, Dict.get? (shiftsById facts) shift.shiftId = some other :=
      Dict.get?_indexBy_isSome h.1
    obtain ⟨other, hother⟩ := hget
    have hmem := Dict.get?_indexBy_eq_some hother
    have heq : other = shift := List.inj_on_of_nodup_map hids hmem.1 h.1 hmem.2
    rw [h.2, heq] at hother
    exact hother

theorem outside_iff (hids : (facts.selectedShifts.map SelectedShiftFactV1.shiftId).Nodup) :
    outside assignments facts = [] ↔
      ∀ a ∈ assignments, ∃ shift ∈ facts.selectedShifts, a.shiftId = some shift.shiftId ∧
        shift.workerId = a.workerId ∧ shift.startMinute ≤ a.startMinute ∧
          a.endMinute ≤ shift.endMinute := by
  unfold outside
  rw [List.map_eq_nil_iff, List.filter_eq_nil_iff]
  apply forall₂_congr
  intro a _
  rw [Bool.not_eq_true', Bool.not_eq_false]
  unfold insideSelectedShift
  cases hid : a.shiftId with
  | none => simp
  | some shiftId =>
    rw [Option.bind_some]
    -- the dictionary finds the one shift of the name
    cases hget : Dict.get? (shiftsById facts) shiftId with
    | none =>
      have hnone : ∀ shift ∈ facts.selectedShifts, shiftId ≠ shift.shiftId := by
        intro shift hmem heq
        have hsome := (get?_shiftsById hids).mpr ⟨hmem, heq.symm⟩
        rw [hget] at hsome
        cases hsome
      simp only [Bool.false_eq_true, false_iff]
      intro h
      obtain ⟨shift, hmem, hshift, -⟩ := h
      exact hnone shift hmem (Option.some.inj hshift)
    | some shift =>
      have hmem := (get?_shiftsById hids).mp hget
      simp only [Bool.and_eq_true, decide_eq_true_eq]
      constructor
      · intro h
        exact ⟨shift, hmem.1, by rw [hmem.2], h.1.1, h.1.2, h.2⟩
      · intro h
        obtain ⟨other, hother, hshift, hworker, hstart, hstop⟩ := h
        have heq : other = shift := by
          have hsome := (get?_shiftsById hids).mpr ⟨hother, (Option.some.inj hshift).symm⟩
          rw [hget] at hsome
          exact (Option.some.inj hsome).symm
        rw [← heq]
        exact ⟨⟨hworker, hstart⟩, hstop⟩

/-- The order of `overlaps` is one by the start. -/
theorem pairwise_startEndLe (values : List AssignmentV1) :
    (values.insertionSort startEndLe).Pairwise fun a b => a.startMinute ≤ b.startMinute := by
  have htotal : Std.Total startEndLe := ⟨fun a b => by unfold startEndLe; omega⟩
  have htrans : IsTrans AssignmentV1 startEndLe := ⟨fun a b c => by unfold startEndLe; omega⟩
  refine (List.pairwise_insertionSort startEndLe values).imp fun {a b} h => ?_
  unfold startEndLe at h
  omega

/-- Two neighbours that overlap, in one worker's assignments. -/
theorem overlapsOf_iff {values : List AssignmentV1}
    (hpos : ∀ a ∈ values, a.startMinute < a.endMinute) :
    overlapsOf values = [] ↔ values.Pairwise Disjoint := by
  rw [← neighbours_iff_apart (List.perm_insertionSort startEndLe values)
    (pairwise_startEndLe values) hpos (le_refl 0)]
  unfold overlapsOf
  rw [List.flatMap_eq_nil_iff]
  apply forall₂_congr
  intro p _
  show (if p.2.startMinute < p.1.endMinute then [p.1.recordId, p.2.recordId] else []) = [] ↔
    p.1.endMinute + 0 ≤ p.2.startMinute
  rw [add_zero]
  split
  · simp only [reduceCtorEq, false_iff]
    omega
  · simp only [true_iff]
    omega

/-- A statement about every group of a grouping is one about every filtered list. -/
theorem forall_groupBy {κ α : Type} [DecidableEq κ] {key : α → κ} {items : List α}
    {P : κ → List α → Prop} (hnil : ∀ k, P k []) :
    (∀ entry ∈ Dict.groupBy key items, P entry.1 entry.2) ↔
      ∀ k, P k (items.filter fun a => key a = k) := by
  constructor
  · intro h k
    by_cases hempty : items.filter (fun a => key a = k) = []
    · rw [hempty]
      exact hnil k
    · exact h (k, _) (Dict.mem_groupBy.mpr ⟨rfl, hempty⟩)
  · intro h entry hmem
    obtain ⟨k, group⟩ := entry
    rw [(Dict.mem_groupBy.mp hmem).1]
    exact h k

/-- A counter, whatever way its keys are compared. -/
theorem mem_counter_iff_countP {κ : Type} [DecidableEq κ] {items : List κ} {k : κ} {n : Nat} :
    (k, n) ∈ Dict.counter items ↔ n = items.countP (fun k' => k' = k) ∧ n ≠ 0 := by
  rw [Dict.mem_counter, List.count]
  rfl

theorem overlaps_iff (hpos : ∀ a ∈ assignments, a.startMinute < a.endMinute) :
    overlaps assignments = [] ↔
      assignments.Pairwise fun a b => a.workerId = b.workerId → Disjoint a b := by
  unfold overlaps
  rw [List.flatMap_eq_nil_iff,
    forall_groupBy (P := fun _ group => overlapsOf group = []) (fun _ => rfl),
    ← pairwise_filter_iff]
  apply forall_congr'
  intro worker
  exact overlapsOf_iff fun a ha => hpos a (List.mem_of_mem_filter ha)

theorem empty_iff : empty assignments facts = [] ↔
    ∀ shift ∈ facts.selectedShifts, ∃ a ∈ assignments, a.shiftId = some shift.shiftId := by
  unfold empty
  simp only
  rw [List.map_eq_nil_iff, List.filter_eq_nil_iff]
  apply forall₂_congr
  intro shift _
  -- a shift is empty if its group has no assignment
  rw [Dict.getD_groupBy, Bool.not_eq_true, List.isEmpty_eq_false_iff, ne_eq,
    List.filter_eq_nil_iff, not_forall]
  constructor
  · intro h
    obtain ⟨pair, hpair⟩ := h
    rw [Classical.not_imp, decide_eq_true_eq, not_not] at hpair
    obtain ⟨a, ha, hid⟩ := List.mem_filterMap.mp hpair.1
    cases hshift : a.shiftId with
    | none => rw [hshift] at hid; cases hid
    | some shiftId =>
      rw [hshift] at hid
      cases hid
      exact ⟨a, ha, by rw [hshift]; exact congrArg some hpair.2⟩
  · intro h
    obtain ⟨a, ha, hid⟩ := h
    refine ⟨(shift.shiftId, a), ?_⟩
    rw [Classical.not_imp, decide_eq_true_eq, not_not]
    exact ⟨List.mem_filterMap.mpr ⟨a, ha, by rw [hid]; rfl⟩, rfl⟩

theorem unqualified_iff : unqualified assignments facts = [] ↔
    ∀ a ∈ assignments, a.taskId ∈ qualifiedTasks facts a.workerId := by
  unfold unqualified
  rw [List.map_eq_nil_iff, List.filter_eq_nil_iff]
  apply forall₂_congr
  intro a _
  have hcontains : ∀ tasks : List String,
      ¬(!tasks.contains a.taskId) = true ↔ a.taskId ∈ tasks := by
    intro tasks
    rw [Bool.not_eq_true', Bool.not_eq_false, List.contains_iff_mem]
  exact hcontains _

/-! ## The rules over shifts -/

theorem extraWindows_iff : extraWindows facts = 0 ↔
    facts.selectedShifts.Pairwise fun shift shift' =>
      shift.workerId = shift'.workerId → shift.windowId ≠ shift'.windowId := by
  -- one shift a window means that no pair of worker and window comes twice
  have hpairs : (facts.selectedShifts.map fun shift => (shift.workerId, shift.windowId)).Nodup ↔
      facts.selectedShifts.Pairwise fun shift shift' =>
        shift.workerId = shift'.workerId → shift.windowId ≠ shift'.windowId := by
    unfold List.Nodup
    rw [List.pairwise_map]
    -- the excess of a count over one is zero exactly when the count is at most one
    constructor
    · intro h
      exact h.imp fun hne hworker hwindow => hne (Prod.ext hworker hwindow)
    · intro h
      exact h.imp fun hne heq => hne (congrArg Prod.fst heq) (congrArg Prod.snd heq)
  have hcount : (facts.selectedShifts.map fun shift => (shift.workerId, shift.windowId)).Nodup ↔
      ∀ key, (facts.selectedShifts.map fun shift => (shift.workerId, shift.windowId)).countP
        (fun k => k = key) ≤ 1 := by
    rw [List.nodup_iff_count_le_one]
    apply forall_congr'
    intro key
    have heq : (facts.selectedShifts.map fun shift => (shift.workerId, shift.windowId)).count key =
        (facts.selectedShifts.map fun shift => (shift.workerId, shift.windowId)).countP
          fun k => k = key := List.countP_congr fun k _ => by simp
    rw [heq]
  rw [← hpairs, hcount]
  unfold extraWindows
  rw [Dict.sum_map_eq_zero_iff fun _ _ => Nat.zero_le _]
  constructor
  · intro h key
    by_cases hzero : (facts.selectedShifts.map fun shift =>
        (shift.workerId, shift.windowId)).countP (fun k => k = key) = 0
    · omega
    · have hentry := h (key, _) (mem_counter_iff_countP.mpr ⟨rfl, hzero⟩)
      simp only at hentry
      omega
  · intro h entry hmem
    have hle := h entry.1
    rw [← (mem_counter_iff_countP.mp hmem).1] at hle
    omega

/-- The counter of the day rule: how many shifts of a worker start on a day. -/
theorem mem_counter_workerDay {workerId : String} {day : Int} {count : Nat} :
    ((workerId, day), count) ∈ Dict.counter
        (facts.selectedShifts.map fun shift => (shift.workerId, shift.startMinute / 1440)) ↔
      count = (shiftsOf facts workerId).countP (fun shift => shift.startMinute / 1440 = day) ∧
        count ≠ 0 := by
  have hcount : (facts.selectedShifts.map fun shift =>
      (shift.workerId, shift.startMinute / 1440)).countP (fun key => key = (workerId, day)) =
        (shiftsOf facts workerId).countP fun shift => shift.startMinute / 1440 = day := by
    unfold shiftsOf
    rw [List.countP_map, List.countP_filter]
    apply List.countP_congr
    intro shift _
    simp only [Function.comp_apply, Prod.mk.injEq, Bool.and_eq_true, decide_eq_true_eq]
    exact and_comm
  rw [mem_counter_iff_countP, hcount]

theorem dayExcess_iff : dayExcess facts = 0 ↔ ∀ shift ∈ facts.selectedShifts,
    ((shiftsOf facts shift.workerId).countP fun shift' =>
      shift'.startMinute / 1440 = shift.startMinute / 1440 : Int) ≤
      dayCap facts shift.workerId := by
  have hterm : dayExcess facts = ((Dict.counter (facts.selectedShifts.map fun shift =>
      (shift.workerId, shift.startMinute / 1440))).map fun entry =>
        max 0 ((entry.2 : Int) - dayCap facts entry.1.1)).sum := rfl
  -- no term is negative, so the sum is zero where each is
  rw [hterm, Dict.sum_map_eq_zero_iff fun _ _ => le_max_left 0 _]
  constructor
  · intro h shift hshift
    have hmem : shift ∈ shiftsOf facts shift.workerId :=
      List.mem_filter.mpr ⟨hshift, decide_eq_true rfl⟩
    -- the shift itself is counted, so its worker and day have an entry
    have hpos : 0 < (shiftsOf facts shift.workerId).countP fun shift' =>
        shift'.startMinute / 1440 = shift.startMinute / 1440 :=
      List.countP_pos_iff.mpr ⟨shift, hmem, decide_eq_true rfl⟩
    have hzero := h ((shift.workerId, shift.startMinute / 1440), _)
      (mem_counter_workerDay.mpr ⟨rfl, Nat.pos_iff_ne_zero.mp hpos⟩)
    have hle := max_eq_left_iff.mp hzero
    simp only at hle
    omega
  · intro h entry hmem
    obtain ⟨⟨workerId, day⟩, count⟩ := entry
    have hentry := mem_counter_workerDay.mp hmem
    have hpos :
        0 < (shiftsOf facts workerId).countP fun shift => shift.startMinute / 1440 = day := by
      omega
    -- an entry counts some shift, whose cap bounds it
    obtain ⟨shift, hshift, hday⟩ := List.countP_pos_iff.mp hpos
    have hshift := List.mem_filter.mp hshift
    have hworker : shift.workerId = workerId := by simpa using hshift.2
    have hle := h shift hshift.1
    rw [hworker, of_decide_eq_true hday, ← hentry.1] at hle
    show max 0 ((count : Int) - dayCap facts workerId) = 0
    omega

/-- The order of `byStart` is one by the start. -/
theorem pairwise_byStart (values : List SelectedShiftFactV1) :
    (byStart values).Pairwise fun a b => a.startMinute ≤ b.startMinute := by
  have htotal : Std.Total fun a b : SelectedShiftFactV1 => a.startMinute ≤ b.startMinute :=
    ⟨fun a b => le_total _ _⟩
  have htrans : IsTrans SelectedShiftFactV1 fun a b => a.startMinute ≤ b.startMinute :=
    ⟨fun a b c => le_trans⟩
  exact List.pairwise_insertionSort _ values

theorem gapViolations_iff
    (hpos : ∀ shift ∈ facts.selectedShifts, shift.startMinute < shift.endMinute)
    (hgap : 0 ≤ facts.minimumGapMinutes) :
    gapViolations facts = 0 ↔ facts.selectedShifts.Pairwise fun shift shift' =>
        shift.workerId = shift'.workerId → Separated facts shift shift' := by
  unfold gapViolations
  rw [Dict.sum_map_eq_zero_iff fun _ _ => Nat.zero_le _,
    forall_groupBy
      (P := fun _ values => ((byStart values).zip (byStart values).tail).countP (fun p =>
      decide (p.2.startMinute - p.1.endMinute < facts.minimumGapMinutes)) = 0) (fun _ => rfl),
    ← pairwise_filter_iff]
  apply forall_congr'
  intro worker
  rw [← neighbours_iff_apart (List.perm_insertionSort _ _) (pairwise_byStart _)
    (fun shift hshift => hpos shift (List.mem_of_mem_filter hshift)) hgap, List.countP_eq_zero]
  apply forall₂_congr
  intro p _
  rw [decide_eq_true_eq]
  show ¬ (p.2.startMinute - p.1.endMinute < facts.minimumGapMinutes) ↔
    p.1.endMinute + facts.minimumGapMinutes ≤ p.2.startMinute
  omega

/-- What one worker's shifts exceed the weekly cap by. -/
def weekExcess (facts : ValidationFactsV1) (workerId : String)
    (values : List SelectedShiftFactV1) : ℚ :=
  max 0 ((((values.map SelectedShiftFactV1.effectiveMinutes).sum : Int) : ℚ) -
    capMinutes facts workerId)

theorem excessMinutes_eq : excessMinutes facts =
    ((Dict.groupBy SelectedShiftFactV1.workerId facts.selectedShifts).map fun entry =>
      weekExcess facts entry.1 entry.2).sum := rfl

theorem excessMinutes_nonneg : 0 ≤ excessMinutes facts := by
  rw [excessMinutes_eq]
  apply List.sum_nonneg
  intro excess hmem
  obtain ⟨entry, -, rfl⟩ := List.mem_map.mp hmem
  exact le_max_left _ _

theorem excessMinutes_iff : excessMinutes facts = 0 ↔ ∀ shift ∈ facts.selectedShifts,
    ((((shiftsOf facts shift.workerId).map SelectedShiftFactV1.effectiveMinutes).sum : Int) : ℚ) ≤
      capMinutes facts shift.workerId := by
  have hzero : ∀ workerId values, weekExcess facts workerId values = 0 ↔
      (((values.map SelectedShiftFactV1.effectiveMinutes).sum : Int) : ℚ) ≤
        capMinutes facts workerId := by
    intro workerId values
    unfold weekExcess
    exact max_eq_left_iff.trans sub_nonpos
  have hnonneg : ∀ workerId values, 0 ≤ weekExcess facts workerId values :=
    fun workerId values => le_max_left _ _
  rw [excessMinutes_eq, Dict.sum_map_eq_zero_iff fun entry _ => hnonneg entry.1 entry.2]
  constructor
  · intro h shift hshift
    have hmem : shift ∈ shiftsOf facts shift.workerId :=
      List.mem_filter.mpr ⟨hshift, decide_eq_true rfl⟩
    have hentry := h (shift.workerId, shiftsOf facts shift.workerId)
      (Dict.mem_groupBy.mpr ⟨rfl, List.ne_nil_of_mem hmem⟩)
    exact (hzero ..).mp hentry
  · intro h entry hmem
    obtain ⟨workerId, values⟩ := entry
    have hentry := Dict.mem_groupBy.mp hmem
    obtain ⟨shift, hshift⟩ := List.exists_mem_of_ne_nil _ hentry.2
    have hshift' := List.mem_filter.mp (hentry.1 ▸ hshift)
    have hworker : shift.workerId = workerId := by simpa using hshift'.2
    have hle := h shift hshift'.1
    rw [hworker] at hle
    rw [hzero, hentry.1]
    exact hle

end Rules

/-! ## The checker -/

/-- **The checker is sound and complete.** Where the ids of the selected shifts differ, shifts and
assignments have a positive length and the minimum gap is not negative, every result is satisfied
exactly when every law of a schedule holds: neighbours in sorted order decide all pairs, and the sum
of the minutes beyond the weekly caps and the violated gaps is zero exactly when there are none. -/
theorem validateHardConstraints_iff {assignments : List AssignmentV1} {facts : ValidationFactsV1}
    (hids : (facts.selectedShifts.map SelectedShiftFactV1.shiftId).Nodup)
    (hshifts : ∀ shift ∈ facts.selectedShifts, shift.startMinute < shift.endMinute)
    (hgap : 0 ≤ facts.minimumGapMinutes)
    (hassignments : ∀ a ∈ assignments, a.startMinute < a.endMinute) :
    (∀ r ∈ validateHardConstraints assignments facts, r.satisfied = true) ↔
      HardLaws assignments facts := by
  have hrules : (∀ r ∈ validateHardConstraints assignments facts, r.satisfied = true) ↔
      outside assignments facts = [] ∧ overlaps assignments = [] ∧ empty assignments facts = [] ∧
        extraWindows facts = 0 ∧ dayExcess facts = 0 ∧
        excessMinutes facts + gapViolations facts = 0 ∧ unqualified assignments facts = [] := by
    simp [validateHardConstraints, result]
  have hcombined : excessMinutes facts + gapViolations facts = 0 ↔
      excessMinutes facts = 0 ∧ gapViolations facts = 0 := by
    rw [add_eq_zero_iff_of_nonneg excessMinutes_nonneg (Nat.cast_nonneg _), Nat.cast_eq_zero]
  rw [hrules, hcombined, outside_iff hids, overlaps_iff hassignments, empty_iff, extraWindows_iff,
    dayExcess_iff, excessMinutes_iff, gapViolations_iff hshifts hgap, unqualified_iff]
  constructor
  · intro h
    obtain ⟨hinside, hdisjoint, hnonempty, hwindow, hday, ⟨hweek, hapart⟩, hqualified⟩ := h
    exact ⟨⟨hdisjoint, hnonempty, hwindow, hday, hapart, hweek, hqualified⟩, hinside⟩
  · intro h
    exact ⟨h.inside, h.disjoint, h.nonempty, h.window, h.day, ⟨h.week, h.gap⟩, h.qualified⟩

namespace Depot

/-- Ana may work one shift a day and eight hours a week, with half an hour between two shifts. -/
def facts : ValidationFactsV1 where
  horizonMinutes := 10080
  workers := [⟨"w1", "casual", 8, 30, [⟨"receive", 10⟩], []⟩]
  selectedShifts := [⟨"s1", "w1", "win1", .availability, 0, 480, 450⟩]
  maxHoursPerWeek := [("casual", 8)]
  maxShiftsPerDay := [("casual", 1)]
  minimumGapMinutes := 30

/-- Ana receives in the first half of the shift, and goes on under a given shift id. -/
def receiving (shiftId : Option String) : List AssignmentV1 :=
  [ { recordId := "a1", workerId := "w1", taskId := "receive", shiftId := some "s1"
      startMinute := 0, endMinute := 240 },
    { recordId := "a2", workerId := "w1", taskId := "receive", shiftId := shiftId
      startMinute := 240, endMinute := 480 } ]

theorem scheduleLaws_receiving (shiftId : Option String) :
    ScheduleLaws (receiving shiftId) facts where
  disjoint := by simp [receiving, Apart, Before]
  nonempty := by simp [receiving, facts]
  window := by simp [facts]
  day := by decide
  gap := by simp [facts]
  week := by decide +kernel
  qualified := by
    intro a ha
    have htask : a.taskId = "receive" ∧ a.workerId = "w1" := by
      rcases List.mem_pair.mp ha with rfl | rfl <;> exact ⟨rfl, rfl⟩
    rw [htask.1, htask.2]
    decide

end Depot

/-- Ana's two assignments pass. -/
theorem validateHardConstraints_iff_receiving :
    (∀ r ∈ validateHardConstraints (Depot.receiving (some "s1")) Depot.facts,
      r.satisfied = true) ↔ HardLaws (Depot.receiving (some "s1")) Depot.facts :=
  validateHardConstraints_iff (by decide) (by decide) (by decide) (by decide)

/-- **An assignment has to name its shift.** The second assignment lies inside the selected shift of
its own worker and keeps every other law, and is refused because it does not name the shift. -/
theorem unnamed_shift_refused :
    (Depot.facts.selectedShifts.map SelectedShiftFactV1.shiftId).Nodup ∧
    (∀ shift ∈ Depot.facts.selectedShifts, shift.startMinute < shift.endMinute) ∧
    0 ≤ Depot.facts.minimumGapMinutes ∧
    (∀ a ∈ Depot.receiving none, a.startMinute < a.endMinute) ∧
    ScheduleLaws (Depot.receiving none) Depot.facts ∧
    (∀ a ∈ Depot.receiving none, ∃ shift ∈ Depot.facts.selectedShifts,
      shift.workerId = a.workerId ∧ shift.startMinute ≤ a.startMinute ∧
        a.endMinute ≤ shift.endMinute) ∧
    ¬ ∀ r ∈ validateHardConstraints (Depot.receiving none) Depot.facts, r.satisfied = true :=
  ⟨by decide, by decide, by decide, by decide, Depot.scheduleLaws_receiving none, by decide,
    by decide +kernel⟩

end ShiftMind.HardConstraints
