import ShiftMind.Engine.Minutes
import ShiftMind.Scheduling.HardLaws

/-!
# ShiftMind — the model and the hard-constraint checker

The hard rules are written twice: as constraints of the CP-SAT model, over hours scaled to
hundredths on candidate shifts, and in the independent checker, over the minutes of what was chosen.
Law by law, a solution of the model keeps what the checker asks for.

* **the laws** — `disjoint_law`, `nonempty_law`, `window_law`, `day_law`, `gap_law`, `week_near`,
  `qualified_law`, `inside_law`.
* **`hard_rules_of_solves`** — every rule is kept exactly when no two selected shifts have one name,
  but for the weekly cap, which a roster may exceed by what scaling rounds away.
-/

namespace ShiftMind.Engine

open Rounding Constants LinearModel Intervals HardConstraints

namespace CpSatBuilder

/-- Scaling to hundredths of an hour rounds no effective length down and no weekly cap up. -/
structure ScaledSafely (b : CpSatBuilder) : Prop where
  lengths : ∀ tpl ∈ b.p.templates, tpl.effectiveH * volScale ≤ scaledHours tpl.effectiveH
  caps : ∀ member ∈ b.p.members,
    (scaledHours (b.maxHoursOf member.empType) : ℚ) ≤ b.maxHoursOf member.empType * volScale

variable {b : CpSatBuilder} {x : Var → Int} {digest : DigestInput → String}

/-! ## Selected shifts and assignments -/

theorem mem_selected {c : Candidate × Nat} :
    c ∈ b.selected x ↔ c ∈ b.indexed ∧ x (.shift c.2) = 1 := by
  unfold selected
  rw [List.mem_filter, decide_eq_true_eq]

theorem nodup_selected : (b.selected x).Nodup := nodup_indexed.filter _

theorem selectedShifts_eq : (b.validationFacts digest (some x)).selectedShifts =
    (b.selected x).map fun c => selectedShiftFact c.1.shift := rfl

/-- The rows before they are sorted. -/
theorem rows_perm : (b.rows x).Perm (b.indexed.flatMap fun c =>
    ((taskVarsOf c).filter fun task => x task.2 = 1).map (rowOf c)) :=
  List.perm_insertionSort rowLe _

/-- **An assignment is a chosen task of a selected shift.** -/
theorem mem_assignments (hx : b.Admissible x) {a : AssignmentV1} :
    a ∈ b.assignments digest x ↔ ∃ c ∈ b.selected x, ∃ task ∈ taskVarsOf c, x task.2 = 1 ∧
      a = b.assignment digest (rowOf c task) := by
  unfold assignments
  rw [List.mem_map]
  simp only [rows_perm.mem_iff, List.mem_flatMap, List.mem_map, List.mem_filter,
    decide_eq_true_eq]
  constructor
  · intro h
    obtain ⟨row, ⟨c, hc, task, ⟨htask, hchosen⟩, rfl⟩, rfl⟩ := h
    exact ⟨c, mem_selected.mpr ⟨hc, selected_of_chosen hx hc htask hchosen⟩, task, htask, hchosen,
      rfl⟩
  · intro h
    obtain ⟨c, hc, task, htask, hchosen, rfl⟩ := h
    exact ⟨_, ⟨c, (mem_selected.mp hc).1, task, ⟨htask, hchosen⟩, rfl⟩, rfl⟩

/-- The member of a candidate is one of the problem's. -/
theorem member_of_indexed {c : Candidate × Nat} (hc : c ∈ b.indexed) :
    c.1.shift.member ∈ b.p.members := by
  obtain ⟨member, hmember, _, -, _, -, _, -, hshift, -⟩ := exists_makeShift hc
  rw [hshift]
  exact hmember

/-- Members have different ids. -/
theorem member_eq (hp : b.p.InMinutes) {member member' : Member} (h : member ∈ b.p.members)
    (h' : member' ∈ b.p.members) (hid : member.contactId = member'.contactId) : member = member' :=
  List.inj_on_of_nodup_map hp.workers h h' hid

/-- The worker that the checker finds under a member's id. -/
theorem worker_found (hp : b.p.InMinutes) {member : Member} (hmember : member ∈ b.p.members) :
    Dict.get? (workersById (b.validationFacts digest (some x))) member.contactId =
      some (workerFact member) := by
  have hmem : workerFact member ∈ (b.validationFacts digest (some x)).workers :=
    List.mem_map.mpr ⟨member, hmember, rfl⟩
  have hfound : ∃ worker, Dict.get? (workersById (b.validationFacts digest (some x)))
      (workerFact member).workerId = some worker := Dict.get?_indexBy_isSome hmem
  obtain ⟨worker, hget⟩ := hfound
  obtain ⟨hworker, hid⟩ := Dict.get?_indexBy_eq_some hget
  obtain ⟨member', hmember', rfl⟩ := List.mem_map.mp hworker
  have hsame : member' = member := member_eq hp hmember' hmember hid
  rw [← hsame]
  rw [← hsame] at hget
  exact hget

/-- What the facts list for an employment type in use. -/
theorem get?_employmentTypes {ν : Type} (f : String → ν) {member : Member}
    (hmember : member ∈ b.p.members) :
    Dict.get? (Dict.ofPairs (b.employmentTypes.map fun empType => (empType, f empType)))
      member.empType = some (f member.empType) := by
  apply Dict.get?_ofPairs_of_unique
  · apply List.mem_map.mpr
    refine ⟨member.empType, ?_, rfl⟩
    unfold employmentTypes
    rw [(List.perm_insertionSort _ _).mem_iff, List.mem_dedup]
    exact List.mem_map.mpr ⟨member, hmember, rfl⟩
  · intro w hw
    obtain ⟨empType, -, heq⟩ := List.mem_map.mp hw
    cases heq
    rfl

theorem dayCap_eq (hp : b.p.InMinutes) {member : Member} (hmember : member ∈ b.p.members) :
    dayCap (b.validationFacts digest (some x)) member.contactId = b.maxShiftsOf member.empType := by
  unfold dayCap
  rw [worker_found hp hmember]
  show (Dict.get? (Dict.ofPairs (b.employmentTypes.map fun empType =>
    (empType, b.maxShiftsOf empType))) member.empType).getD 0 = _
  rw [get?_employmentTypes _ hmember]
  rfl

theorem capMinutes_eq (hp : b.p.InMinutes) {member : Member} (hmember : member ∈ b.p.members) :
    capMinutes (b.validationFacts digest (some x)) member.contactId =
      b.maxHoursOf member.empType * 60 := by
  unfold capMinutes
  rw [worker_found hp hmember]
  show (Dict.get? (Dict.ofPairs (b.employmentTypes.map fun empType =>
    (empType, b.maxHoursOf empType))) member.empType).getD 0 * 60 = _
  rw [get?_employmentTypes _ hmember]
  rfl

/-- The candidates of a worker, which `shifts_by_member` groups. -/
theorem group_of_worker (hp : b.p.InMinutes) {c : Candidate × Nat} (hc : c ∈ b.indexed) :
    (c.1.shift.member.contactId, b.memberShifts c.1.shift.member.contactId) ∈ b.shiftsByMember ∧
      groupEmpType (b.memberShifts c.1.shift.member.contactId) = c.1.shift.member.empType := by
  have hmem : c ∈ b.memberShifts c.1.shift.member.contactId :=
    List.mem_filter.mpr ⟨hc, decide_eq_true rfl⟩
  refine ⟨Dict.mem_groupBy.mpr ⟨rfl, List.ne_nil_of_mem hmem⟩, ?_⟩
  -- the first of the group is a shift of the same member
  cases hgroup : b.memberShifts c.1.shift.member.contactId with
  | nil =>
    rw [hgroup] at hmem
    cases hmem
  | cons first rest =>
    have hfirst : first ∈ b.memberShifts c.1.shift.member.contactId := by
      rw [hgroup]
      exact List.mem_cons_self
    obtain ⟨hindexed, hid⟩ := List.mem_filter.mp hfirst
    have hsame := member_eq hp (member_of_indexed hindexed) (member_of_indexed hc)
      (of_decide_eq_true hid)
    show first.1.shift.member.empType = _
    rw [hsame]

/-- What a sum over the shifts of some candidates adds up: the selected ones. -/
theorem eval_shifts (hx : b.Admissible x) (weight : Candidate × Nat → Int)
    {svs : List (Candidate × Nat)} (hsvs : ∀ c ∈ svs, c ∈ b.indexed) :
    eval x (svs.map fun c => (weight c, Var.shift c.2)) =
      ((svs.filter fun c => x (.shift c.2) = 1).map weight).sum := by
  induction svs with
  | nil => rfl
  | cons c svs ih =>
    have hbound := hx.shifts c (hsvs c List.mem_cons_self)
    rw [List.map_cons, eval_cons, ih fun c' hc' => hsvs c' (List.mem_cons_of_mem _ hc')]
    by_cases hone : x (.shift c.2) = 1
    · rw [List.filter_cons_of_pos (by simp [hone]), List.map_cons, List.sum_cons, hone, mul_one]
    · have hzero : x (.shift c.2) = 0 := by omega
      rw [List.filter_cons_of_neg (by simp [hone]), hzero, mul_zero, zero_add]

/-- The selected shifts of a worker are its candidates that are selected. -/
theorem shiftsOf_eq (worker : String) :
    b.shiftsOf x worker = (b.memberShifts worker).filter fun c => x (.shift c.2) = 1 := by
  unfold shiftsOf selected memberShifts
  rw [List.filter_filter, List.filter_filter]
  congr 1
  funext c
  exact Bool.and_comm _ _

/-- The checker's shifts of a worker are the builder's, translated. -/
theorem factsOf_eq (worker : String) :
    HardConstraints.shiftsOf (b.validationFacts digest (some x)) worker =
      (b.shiftsOf x worker).map fun c => selectedShiftFact c.1.shift := by
  unfold HardConstraints.shiftsOf
  rw [selectedShifts_eq, List.filter_map]
  rfl

/-! ## Shifts of one worker -/

/-- A candidate ends after it starts, since it carries some task. -/
theorem start_lt_end (hp : b.p.InMinutes) {c : Candidate × Nat} (hc : c ∈ b.indexed) :
    c.1.shift.startH < c.1.shift.endH := by
  obtain ⟨_, -, _, -, _, -, _, -, -, -, htasks⟩ := exists_makeShift hc
  have hsome : taskVarsOf c ≠ [] := by
    unfold taskVarsOf
    simp [htasks]
  obtain ⟨task, htask⟩ := List.exists_mem_of_ne_nil _ hsome
  have hinside := span_inside hp.forward hc htask
  have hlt := task_on_minutes hp hc htask
  by_contra hle
  have hback : task.1.endH ≤ task.1.startH :=
    hinside.2.2.trans ((not_lt.mp hle).trans hinside.1)
  have hround := hoursToMinutes_mono hback
  omega

/-- **Two selected shifts of a worker are two hours apart**, in minutes too. -/
theorem separated (hx : b.Admissible x) (hp : b.p.InMinutes) {c c' : Candidate × Nat}
    (hc : c ∈ b.selected x) (hc' : c' ∈ b.selected x) (hne : c ≠ c')
    (hworker : c.1.shift.member.contactId = c'.1.shift.member.contactId) :
    hoursToMinutes c.1.shift.endH + 120 ≤ hoursToMinutes c'.1.shift.startH ∨
      hoursToMinutes c'.1.shift.endH + 120 ≤ hoursToMinutes c.1.shift.startH := by
  obtain ⟨hindexed, hselected⟩ := mem_selected.mp hc
  obtain ⟨hindexed', hselected'⟩ := mem_selected.mp hc'
  have hgap := gap_of_selected hx hindexed hindexed' hworker hne hselected hselected'
  have hlt := start_lt_end hp hindexed
  have hlt' := start_lt_end hp hindexed'
  have hpos : (0 : ℚ) < defaultMinGapHours - epsilon := by norm_num [defaultMinGapHours, epsilon]
  -- the end and the start of a shift are near the minutes they are reported as
  have hnear : ∀ d ∈ b.indexed, NearMinute d.1.shift.endH (hoursToMinutes d.1.shift.endH) ∧
      NearMinute d.1.shift.startH (hoursToMinutes d.1.shift.startH) := by
    intro d hd
    obtain ⟨minute, hminutes⟩ := onMinutes hp hd
    have hzero : WholeMinutes (d.1.shift.startH - d.1.shift.startH) := by
      rw [sub_self]
      exact WholeMinutes.zero
    exact ⟨hminutes.near hminutes.stop, hminutes.near hzero⟩
  have hends := hnear c hindexed
  have hends' := hnear c' hindexed'
  unfold gapH at hgap
  -- the shift that starts first ends first, for the other one has a length
  rcases le_total c.1.shift.startH c'.1.shift.startH with hfirst | hfirst
  · rw [max_eq_right hfirst] at hgap
    rcases min_choice c.1.shift.endH c'.1.shift.endH with hmin | hmin
    · rw [hmin] at hgap
      exact .inl (minutes_gap hends.1 hends'.2 hgap)
    · rw [hmin] at hgap
      linarith
  · rw [max_eq_left hfirst] at hgap
    rcases min_choice c.1.shift.endH c'.1.shift.endH with hmin | hmin
    · rw [hmin] at hgap
      linarith
    · rw [hmin] at hgap
      exact .inr (minutes_gap hends'.1 hends.2 hgap)

/-- Two selected shifts in one window are one. -/
theorem same_window (hx : b.Admissible x) {c c' : Candidate × Nat} (hc : c ∈ b.selected x)
    (hc' : c' ∈ b.selected x) (hwindow : c.1.shift.window.id = c'.1.shift.window.id) : c = c' := by
  obtain ⟨hindexed, hselected⟩ := mem_selected.mp hc
  obtain ⟨hindexed', hselected'⟩ := mem_selected.mp hc'
  have hmem : c.1.shift.window ∈ b.candidates.map fun d => d.shift.window :=
    List.mem_map.mpr ⟨c.1, List.fst_mem_of_mem_zipIdx hindexed, rfl⟩
  have hfound : ∃ window, Dict.get? (Dict.indexBy Window.id
      (b.candidates.map fun d => d.shift.window)) c.1.shift.window.id = some window :=
    Dict.get?_indexBy_isSome hmem
  obtain ⟨window, hget⟩ := hfound
  have hle := hx.windows (c.1.shift.window.id, window) (Dict.mem_of_get? hget)
  -- the shifts of the window add up to the number of selected ones
  unfold windowVars at hle
  rw [List.map_map, Function.comp_def, sum_eq_length_filter fun d hd =>
    hx.shifts d (List.mem_of_mem_filter hd)] at hle
  have hin : c ∈ (b.indexed.filter fun d => d.1.shift.window.id = c.1.shift.window.id).filter
      fun d => decide (x (.shift d.2) = 1) :=
    List.mem_filter.mpr ⟨List.mem_filter.mpr ⟨hindexed, decide_eq_true rfl⟩,
      decide_eq_true hselected⟩
  have hin' : c' ∈ (b.indexed.filter fun d => d.1.shift.window.id = c.1.shift.window.id).filter
      fun d => decide (x (.shift d.2) = 1) :=
    List.mem_filter.mpr ⟨List.mem_filter.mpr ⟨hindexed', decide_eq_true hwindow.symm⟩,
      decide_eq_true hselected'⟩
  have hone := Nat.le_antisymm (Int.ofNat_le.mp hle) (List.length_pos_of_mem hin)
  obtain ⟨only, honly⟩ := List.length_eq_one_iff.mp hone
  rw [honly, List.mem_singleton] at hin hin'
  rw [hin, hin']

/-- A selected shift carries a chosen task. -/
theorem exists_chosen (hx : b.Admissible x) {c : Candidate × Nat} (hc : c ∈ b.selected x) :
    ∃ task ∈ taskVarsOf c, x task.2 = 1 := by
  obtain ⟨hindexed, hselected⟩ := mem_selected.mp hc
  have hrule := hx.linked c hindexed
    ⟨sumOf ((taskVarsOf c).map Prod.snd) ++ [(-1, .shift c.2)], .ge, 0⟩ (by
      simp only [linkConstraints, List.mem_append, List.mem_singleton]
      exact .inr trivial)
  simp only [holds_ge, eval_append, eval_sumOf, eval_cons, eval_nil, List.map_map,
    Function.comp_def] at hrule
  rw [sum_eq_length_filter fun task htask => hx.tasks c hindexed task htask, hselected] at hrule
  obtain ⟨task, htask⟩ := List.exists_mem_of_length_pos (l := (taskVarsOf c).filter fun task =>
    decide (x task.2 = 1)) (by omega)
  exact ⟨task, List.mem_of_mem_filter htask, of_decide_eq_true (List.mem_filter.mp htask).2⟩

/-! ## The laws over shifts

The constraints of the model are about candidate shifts; the laws of the checker are about minutes.
-/

/-- What holds of any two different selected shifts holds of any two that are reported. -/
theorem pairwise_selected {R : SelectedShiftFactV1 → SelectedShiftFactV1 → Prop}
    (h : ∀ c ∈ b.selected x, ∀ c' ∈ b.selected x, c ≠ c' →
      R (selectedShiftFact c.1.shift) (selectedShiftFact c'.1.shift)) :
    (b.validationFacts digest (some x)).selectedShifts.Pairwise R := by
  rw [selectedShifts_eq, List.pairwise_map]
  have hnodup : (b.selected x).Nodup := nodup_selected
  exact hnodup.imp_of_mem fun {c c'} hc hc' hne => h c hc c' hc' hne

theorem window_law (hx : b.Admissible x) :
    (b.validationFacts digest (some x)).selectedShifts.Pairwise fun shift shift' =>
      shift.workerId = shift'.workerId → shift.windowId ≠ shift'.windowId := by
  apply pairwise_selected
  intro c hc c' hc' hne _ hwindow
  exact hne (same_window hx hc hc' hwindow)

theorem minimumGap_eq : (b.validationFacts digest (some x)).minimumGapMinutes = 120 := by
  show roundHalfEven (defaultMinGapHours * 60) = 120
  have hhours : defaultMinGapHours * 60 = ((120 : ℤ) : ℚ) := by norm_num [defaultMinGapHours]
  rw [hhours, roundHalfEven_intCast]

theorem gap_law (hx : b.Admissible x) (hp : b.p.InMinutes) :
    (b.validationFacts digest (some x)).selectedShifts.Pairwise fun shift shift' =>
      shift.workerId = shift'.workerId →
        Separated (b.validationFacts digest (some x)) shift shift' := by
  apply pairwise_selected
  intro c hc c' hc' hne hworker
  unfold Separated Apart Before
  rw [minimumGap_eq]
  exact separated hx hp hc hc' hne hworker

/-- The day of a shift is the day of the minute it is reported to start at. -/
theorem day_eq (hp : b.p.InMinutes) {c : Candidate × Nat} (hc : c ∈ b.indexed) :
    hoursToMinutes c.1.shift.startH / 1440 = c.1.shift.day := by
  obtain ⟨minute, hminutes⟩ := onMinutes hp hc
  rw [hminutes.start.hoursToMinutes_eq, hminutes.day]

theorem day_law (hx : b.Admissible x) (hp : b.p.InMinutes) :
    ∀ shift ∈ (b.validationFacts digest (some x)).selectedShifts,
      ((HardConstraints.shiftsOf (b.validationFacts digest (some x)) shift.workerId).countP
        fun shift' => shift'.startMinute / 1440 = shift.startMinute / 1440 : Int) ≤
          dayCap (b.validationFacts digest (some x)) shift.workerId := by
  intro shift hshift
  rw [selectedShifts_eq] at hshift
  obtain ⟨c, hc, rfl⟩ := List.mem_map.mp hshift
  obtain ⟨hindexed, -⟩ := mem_selected.mp hc
  obtain ⟨hgroup, hemp⟩ := group_of_worker hp hindexed
  show _ ≤ dayCap _ c.1.shift.member.contactId
  rw [dayCap_eq hp (member_of_indexed hindexed), ← hemp]
  -- the shifts of the day, as the model groups them
  have hmine : c ∈ (b.memberShifts c.1.shift.member.contactId).filter fun d =>
      d.1.shift.day = c.1.shift.day :=
    List.mem_filter.mpr ⟨List.mem_filter.mpr ⟨hindexed, decide_eq_true rfl⟩, decide_eq_true rfl⟩
  have hentry := Dict.mem_groupBy.mpr ⟨rfl, List.ne_nil_of_mem hmine⟩
  have hrule := hx.members _ hgroup ⟨sumOf (((b.memberShifts c.1.shift.member.contactId).filter
      fun d => d.1.shift.day = c.1.shift.day).map fun d => .shift d.2), .le,
        b.maxShiftsOf (groupEmpType (b.memberShifts c.1.shift.member.contactId))⟩ (by
    simp only [memberConstraints, List.mem_append, List.mem_map]
    exact .inl (.inl ⟨_, hentry, rfl⟩))
  simp only [holds_le, eval_sumOf, List.map_map, Function.comp_def] at hrule
  have hbound : ∀ d ∈ (b.memberShifts c.1.shift.member.contactId).filter fun d =>
      d.1.shift.day = c.1.shift.day, 0 ≤ x (.shift d.2) ∧ x (.shift d.2) ≤ 1 := fun d hd =>
    hx.shifts d (List.mem_of_mem_filter (List.mem_of_mem_filter hd))
  rw [sum_eq_length_filter hbound] at hrule
  -- and as the checker counts them
  have hcount : (HardConstraints.shiftsOf (b.validationFacts digest (some x))
      c.1.shift.member.contactId).countP (fun shift' =>
        shift'.startMinute / 1440 = hoursToMinutes c.1.shift.startH / 1440) =
      (((b.memberShifts c.1.shift.member.contactId).filter fun d =>
        d.1.shift.day = c.1.shift.day).filter fun d => x (.shift d.2) = 1).length := by
    rw [factsOf_eq, List.countP_map, shiftsOf_eq, List.filter_comm, List.countP_eq_length_filter]
    congr 1
    apply List.filter_congr
    intro d hd
    have hd : d ∈ b.indexed := List.mem_of_mem_filter (List.mem_of_mem_filter hd)
    show decide (hoursToMinutes d.1.shift.startH / 1440 = _) = _
    rw [day_eq hp hd, day_eq hp hindexed]
  show ((HardConstraints.shiftsOf _ c.1.shift.member.contactId).countP fun shift' =>
    shift'.startMinute / 1440 = hoursToMinutes c.1.shift.startH / 1440 : Int) ≤ _
  rw [hcount]
  exact hrule

/-! ## The weekly cap

The model compares hundredths of an hour, the checker minutes, so the two may part by the rounding.
-/

/-- The model's cap of a worker: the selected shifts, in hundredths of an hour. -/
theorem scaled_week (hx : b.Admissible x) (hp : b.p.InMinutes) {c : Candidate × Nat}
    (hc : c ∈ b.indexed) :
    ((b.shiftsOf x c.1.shift.member.contactId).map fun d => scaledHours d.1.shift.effH).sum ≤
      scaledHours (b.maxHoursOf c.1.shift.member.empType) := by
  obtain ⟨hgroup, hemp⟩ := group_of_worker hp hc
  have hrule := hx.members _ hgroup
    ⟨(b.memberShifts c.1.shift.member.contactId).map fun d => (scaledHours d.1.shift.effH,
      .shift d.2), .le, scaledHours (b.maxHoursOf (groupEmpType
        (b.memberShifts c.1.shift.member.contactId)))⟩ (by
    simp only [memberConstraints, List.mem_append, List.mem_singleton]
    exact .inl (.inr trivial))
  have hindexed : ∀ d ∈ b.memberShifts c.1.shift.member.contactId, d ∈ b.indexed :=
    fun d hd => List.mem_of_mem_filter hd
  rw [holds_le, eval_shifts hx _ hindexed, hemp, ← shiftsOf_eq] at hrule
  exact hrule

/-- Lengths that scaling shortens by at most a given number of minutes, added up. -/
theorem sum_scaled_le {shifts : List (Candidate × Nat)} {slack : ℚ}
    (h : ∀ c ∈ shifts, c.1.shift.effH * 60 ≤ 3 / 5 * scaledHours c.1.shift.effH + slack) :
    (shifts.map fun c => c.1.shift.effH * 60).sum ≤
      3 / 5 * ((shifts.map fun c => scaledHours c.1.shift.effH).sum : Int) +
        slack * shifts.length := by
  induction shifts with
  | nil => simp
  | cons c shifts ih =>
    have hc := h c List.mem_cons_self
    have hrest := ih fun c' hc' => h c' (List.mem_cons_of_mem _ hc')
    simp only [List.map_cons, List.sum_cons, List.length_cons]
    push_cast at hrest ⊢
    linarith

variable (digest) in
/-- **The week of a worker**, as the checker adds it up: it exceeds the cap by no more than scaling
takes from each length and gives to the cap. -/
theorem week_bound (hx : b.Admissible x) (hp : b.p.InMinutes) {c : Candidate × Nat}
    (hc : c ∈ b.selected x) {slack slack' : ℚ}
    (hlengths : ∀ d ∈ b.shiftsOf x c.1.shift.member.contactId,
      d.1.shift.effH * 60 ≤ 3 / 5 * scaledHours d.1.shift.effH + slack)
    (hcap : 3 / 5 * (scaledHours (b.maxHoursOf c.1.shift.member.empType) : ℚ) ≤
      b.maxHoursOf c.1.shift.member.empType * 60 + slack') :
    (b.effectiveMinutes x c.1.shift.member.contactId digest : ℚ) ≤
      capMinutes (b.validationFacts digest (some x)) c.1.shift.member.contactId +
        slack * (b.shiftsOf x c.1.shift.member.contactId).length + slack' := by
  have hindexed := (mem_selected.mp hc).1
  have hscaled : ((((b.shiftsOf x c.1.shift.member.contactId).map fun d =>
      scaledHours d.1.shift.effH).sum : Int) : ℚ) ≤
        scaledHours (b.maxHoursOf c.1.shift.member.empType) :=
    Int.cast_le.mpr (scaled_week hx hp hindexed)
  have hsum := sum_scaled_le hlengths
  -- the effective minutes are exact
  have hexact : (b.effectiveMinutes x c.1.shift.member.contactId digest : ℚ) =
      ((b.shiftsOf x c.1.shift.member.contactId).map fun d => d.1.shift.effH * 60).sum := by
    rw [effectiveMinutes_eq, Int.cast_list_sum, List.map_map]
    congr 1
    apply List.map_congr_left
    intro d hd
    have hd : d ∈ b.indexed := List.mem_of_mem_filter (List.mem_of_mem_filter hd)
    obtain ⟨minute, hminutes⟩ := onMinutes hp hd
    exact hoursToMinutes_of_whole hminutes.effective
  rw [hexact, capMinutes_eq hp (member_of_indexed hindexed)]
  linarith

theorem scaledHours_near (hours : ℚ) :
    hours * 60 ≤ 3 / 5 * scaledHours hours + 3 / 10 ∧
      3 / 5 * (scaledHours hours : ℚ) ≤ hours * 60 + 3 / 10 := by
  have hround := roundHalfEven_le (hours * volScale)
  have hround' := le_roundHalfEven (hours * volScale)
  unfold scaledHours
  norm_num [volScale] at hround hround' ⊢
  constructor
  · linarith
  · linarith

/-- Whatever is scaled, the week exceeds the cap by at most `0.3` minutes a shift, and `0.3`. -/
theorem week_near (hx : b.Admissible x) (hp : b.p.InMinutes) {c : Candidate × Nat}
    (hc : c ∈ b.selected x) :
    (b.effectiveMinutes x c.1.shift.member.contactId digest : ℚ) ≤
      capMinutes (b.validationFacts digest (some x)) c.1.shift.member.contactId +
        3 / 10 * ((b.shiftsOf x c.1.shift.member.contactId).length + 1) := by
  have hbound := week_bound digest hx hp hc (fun d _ => (scaledHours_near _).1)
    (scaledHours_near _).2
  linarith

/-- Where nothing is rounded the wrong way, the week is within the cap. -/
theorem week_law (hx : b.Admissible x) (hp : b.p.InMinutes) (hscaled : b.ScaledSafely) :
    ∀ shift ∈ (b.validationFacts digest (some x)).selectedShifts,
      ((((HardConstraints.shiftsOf (b.validationFacts digest (some x)) shift.workerId).map
        SelectedShiftFactV1.effectiveMinutes).sum : Int) : ℚ) ≤
          capMinutes (b.validationFacts digest (some x)) shift.workerId := by
  intro shift hshift
  rw [selectedShifts_eq] at hshift
  obtain ⟨c, hc, rfl⟩ := List.mem_map.mp hshift
  have hindexed := (mem_selected.mp hc).1
  have hlengths : ∀ d ∈ b.shiftsOf x c.1.shift.member.contactId,
      d.1.shift.effH * 60 ≤ 3 / 5 * scaledHours d.1.shift.effH + 0 := by
    intro d hd
    obtain ⟨htpl, -, heff⟩ := template_of_shift
      (List.mem_of_mem_filter (List.mem_of_mem_filter hd) : d ∈ b.indexed)
    have hup := hscaled.lengths _ htpl
    norm_num [volScale] at hup
    rw [heff]
    linarith
  have hcap : 3 / 5 * (scaledHours (b.maxHoursOf c.1.shift.member.empType) : ℚ) ≤
      b.maxHoursOf c.1.shift.member.empType * 60 + 0 := by
    have hdown := hscaled.caps _ (member_of_indexed hindexed)
    norm_num [volScale] at hdown
    linarith
  have hbound := week_bound digest hx hp hc hlengths hcap
  rw [zero_mul, add_zero, add_zero] at hbound
  exact hbound

/-! ## The laws over assignments -/

/-- The task of a task variable is one its member is qualified for. -/
theorem qualified_of_task {c : Candidate × Nat} (hc : c ∈ b.indexed) {task : TaskVar × Var}
    (htask : task ∈ taskVarsOf c) :
    task.1.taskId ∈ c.1.shift.member.qualifications.map Qualification.taskId := by
  obtain ⟨member, -, window, -, tpl, -, start, -, hshift, htasks, -⟩ := exists_makeShift hc
  obtain ⟨entry, hentry, rfl⟩ := List.mem_map.mp htask
  have hmem : entry.1 ∈ c.1.tasks := List.fst_mem_of_mem_zipIdx hentry
  rw [htasks] at hmem
  obtain ⟨⟨slot, slotIdx⟩, -, hmem⟩ := List.mem_flatMap.mp hmem
  obtain ⟨qualId, hqual, hsome⟩ := List.mem_filterMap.mp hmem
  simp only [Option.ite_none_right_eq_some, Option.some.injEq] at hsome
  have hqual := List.mem_of_mem_filter (List.mem_dedup.mp hqual)
  rw [hshift]
  show entry.1.taskId ∈ member.qualifications.map Qualification.taskId
  rw [← hsome.2]
  exact hqual

theorem qualified_law (hx : b.Admissible x) (hp : b.p.InMinutes) :
    ∀ a ∈ b.assignments digest x,
      a.taskId ∈ qualifiedTasks (b.validationFacts digest (some x)) a.workerId := by
  intro a ha
  obtain ⟨c, hc, task, htask, -, rfl⟩ := (mem_assignments hx).mp ha
  have hindexed := (mem_selected.mp hc).1
  show task.1.taskId ∈ qualifiedTasks _ c.1.shift.member.contactId
  unfold qualifiedTasks
  rw [worker_found hp (member_of_indexed hindexed)]
  show task.1.taskId ∈ (c.1.shift.member.qualifications.map fun q =>
    (⟨q.taskId, q.rate⟩ : QualificationRefV1)).map QualificationRefV1.taskId
  rw [List.map_map]
  exact qualified_of_task hindexed htask

/-- An assignment lies in the minutes of its shift. -/
theorem assignment_inside (hp : b.p.InMinutes) {c : Candidate × Nat} (hc : c ∈ b.indexed)
    {task : TaskVar × Var} (htask : task ∈ taskVarsOf c) :
    hoursToMinutes c.1.shift.startH ≤ hoursToMinutes task.1.startH ∧
      hoursToMinutes task.1.endH ≤ hoursToMinutes c.1.shift.endH := by
  have hinside := span_inside hp.forward hc htask
  exact ⟨hoursToMinutes_mono hinside.1, hoursToMinutes_mono hinside.2.2⟩

theorem nonempty_law (hx : b.Admissible x) :
    ∀ shift ∈ (b.validationFacts digest (some x)).selectedShifts,
      ∃ a ∈ b.assignments digest x, a.shiftId = some shift.shiftId := by
  intro shift hshift
  rw [selectedShifts_eq] at hshift
  obtain ⟨c, hc, rfl⟩ := List.mem_map.mp hshift
  obtain ⟨task, htask, hchosen⟩ := exists_chosen hx hc
  exact ⟨_, (mem_assignments hx).mpr ⟨c, hc, task, htask, hchosen, rfl⟩, rfl⟩

theorem inside_law (hx : b.Admissible x) (hp : b.p.InMinutes) :
    ∀ a ∈ b.assignments digest x,
      ∃ shift ∈ (b.validationFacts digest (some x)).selectedShifts,
        a.shiftId = some shift.shiftId ∧ shift.workerId = a.workerId ∧
          shift.startMinute ≤ a.startMinute ∧ a.endMinute ≤ shift.endMinute := by
  intro a ha
  obtain ⟨c, hc, task, htask, -, rfl⟩ := (mem_assignments hx).mp ha
  have hinside := assignment_inside hp (mem_selected.mp hc).1 htask
  refine ⟨selectedShiftFact c.1.shift, ?_, rfl, rfl, hinside.1, hinside.2⟩
  rw [selectedShifts_eq]
  exact List.mem_map.mpr ⟨c, hc, rfl⟩

variable (digest) in
theorem positive_assignments (hx : b.Admissible x) (hp : b.p.InMinutes) :
    ∀ a ∈ b.assignments digest x, a.startMinute < a.endMinute := by
  intro a ha
  obtain ⟨c, hc, task, htask, -, rfl⟩ := (mem_assignments hx).mp ha
  exact task_on_minutes hp (mem_selected.mp hc).1 htask

variable (x digest) in
theorem positive_shifts (hp : b.p.InMinutes) :
    ∀ shift ∈ (b.validationFacts digest (some x)).selectedShifts,
      shift.startMinute < shift.endMinute := by
  intro shift hshift
  rw [selectedShifts_eq] at hshift
  obtain ⟨c, hc, rfl⟩ := List.mem_map.mp hshift
  have hindexed := (mem_selected.mp hc).1
  obtain ⟨minute, hminutes⟩ := onMinutes hp hindexed
  have hzero : WholeMinutes (c.1.shift.startH - c.1.shift.startH) := by
    rw [sub_self]
    exact WholeMinutes.zero
  exact hminutes.minutes_lt hzero hminutes.stop (start_lt_end hp hindexed)

/-- Two rows of one worker share no minute. -/
def RowsApart (row row' : ScheduleRow) : Prop :=
  row.contactId = row'.contactId →
    hoursToMinutes row.endH ≤ hoursToMinutes row'.startH ∨
      hoursToMinutes row'.endH ≤ hoursToMinutes row.startH

theorem RowsApart.symm {row row' : ScheduleRow} (h : RowsApart row row') : RowsApart row' row :=
  fun hid => (h hid.symm).symm

theorem rows_apart (hx : b.Admissible x) (hp : b.p.InMinutes) : (b.rows x).Pairwise RowsApart := by
  rw [rows_perm.pairwise_iff fun h => RowsApart.symm h]
  apply List.pairwise_flatMap.mpr
  constructor
  · -- in one shift, they are in different slots
    intro c hc
    rw [List.pairwise_map]
    apply (chosen_slots hx hc).imp_of_mem
    intro task task' htask htask' hne _
    have hapart := span_disjoint hp.forward hc (List.mem_of_mem_filter htask)
      (List.mem_of_mem_filter htask') hne
    exact hapart.imp hoursToMinutes_mono hoursToMinutes_mono
  · -- in two shifts of one worker, these are a gap apart
    have hnodup : b.indexed.Nodup := nodup_indexed
    apply hnodup.imp_of_mem
    intro c c' hc hc' hne row hrow row' hrow' hid
    obtain ⟨task, htask, rfl⟩ := List.mem_map.mp hrow
    obtain ⟨task', htask', rfl⟩ := List.mem_map.mp hrow'
    obtain ⟨htask, hchosen⟩ := List.mem_filter.mp htask
    obtain ⟨htask', hchosen'⟩ := List.mem_filter.mp htask'
    have hselected := selected_of_chosen hx hc htask (of_decide_eq_true hchosen)
    have hselected' := selected_of_chosen hx hc' htask' (of_decide_eq_true hchosen')
    have hgap := separated hx hp (mem_selected.mpr ⟨hc, hselected⟩)
      (mem_selected.mpr ⟨hc', hselected'⟩) hne hid
    have hinside := assignment_inside hp hc htask
    have hinside' := assignment_inside hp hc' htask'
    show hoursToMinutes task.1.endH ≤ hoursToMinutes task'.1.startH ∨
      hoursToMinutes task'.1.endH ≤ hoursToMinutes task.1.startH
    omega

theorem disjoint_law (hx : b.Admissible x) (hp : b.p.InMinutes) :
    (b.assignments digest x).Pairwise fun a a' =>
      a.workerId = a'.workerId → HardConstraints.Disjoint a a' := by
  unfold assignments
  rw [List.pairwise_map]
  apply (rows_apart hx hp).imp
  intro row row' h hid
  have hapart := h hid
  show hoursToMinutes row.endH + 0 ≤ hoursToMinutes row'.startH ∨
    hoursToMinutes row'.endH + 0 ≤ hoursToMinutes row.startH
  omega

/-! ## Names -/

/-- **One name for two shifts is seen**: the checker looks a shift up under its name, and an
assignment of the other shift lies outside the one that is found. -/
theorem names_of_outside (hx : b.Admissible x) (hp : b.p.InMinutes)
    (h : outside (b.assignments digest x) (b.validationFacts digest (some x)) = []) :
    ((b.selected x).map fun c => c.1.shift.name).Nodup := by
  apply (List.nodup_map_iff_inj_on nodup_selected).mpr
  intro c hc c' hc' hname
  -- the shift that is found under the name
  have hmem : selectedShiftFact c.1.shift ∈ (b.validationFacts digest (some x)).selectedShifts := by
    rw [selectedShifts_eq]
    exact List.mem_map.mpr ⟨c, hc, rfl⟩
  have hsome : ∃ fact, Dict.get? (Dict.indexBy SelectedShiftFactV1.shiftId
      (b.validationFacts digest (some x)).selectedShifts) (selectedShiftFact c.1.shift).shiftId =
        some fact := Dict.get?_indexBy_isSome hmem
  obtain ⟨fact, hget⟩ := hsome
  have hfound := (Dict.get?_indexBy_eq_some hget).1
  rw [selectedShifts_eq] at hfound
  obtain ⟨d, hd, rfl⟩ := List.mem_map.mp hfound
  -- every selected shift of this name is that one
  have hone : ∀ e ∈ b.selected x, e.1.shift.name = c.1.shift.name → e = d := by
    intro e he hsame
    by_contra hne
    obtain ⟨task, htask, hchosen⟩ := exists_chosen hx he
    have hassigned : b.assignment digest (rowOf e task) ∈ b.assignments digest x :=
      (mem_assignments hx).mpr ⟨e, he, task, htask, hchosen, rfl⟩
    unfold outside at h
    rw [List.map_eq_nil_iff, List.filter_eq_nil_iff] at h
    have hinside := h _ hassigned
    have hlook : Dict.get? (shiftsById (b.validationFacts digest (some x))) e.1.shift.name =
        some (selectedShiftFact d.1.shift) := by
      rw [hsame]
      exact hget
    rw [Bool.not_eq_true', Bool.not_eq_false] at hinside
    unfold insideSelectedShift at hinside
    simp only [assignment, rowOf, Option.bind_some, hlook, Bool.and_eq_true] at hinside
    obtain ⟨⟨hworker, hlow⟩, hhigh⟩ := hinside
    have hindexed := (mem_selected.mp he).1
    have hspan := assignment_inside hp hindexed htask
    have hpositive := task_on_minutes hp hindexed htask
    have hworker : d.1.shift.member.contactId = e.1.shift.member.contactId :=
      of_decide_eq_true hworker
    have hlow : hoursToMinutes d.1.shift.startH ≤ hoursToMinutes task.1.startH :=
      of_decide_eq_true hlow
    have hhigh : hoursToMinutes task.1.endH ≤ hoursToMinutes d.1.shift.endH :=
      of_decide_eq_true hhigh
    have hgap := separated hx hp he hd hne hworker.symm
    omega
  rw [hone c hc rfl, hone c' hc' hname.symm]

/-! ## Every rule

The laws together, over the schedule of a solution. -/

/-- The name of the rule over weeks and gaps. -/
def weeklyRule : String := "weekly_hours_and_minimum_gap"

/-- The rules other than the weekly one, as their data. -/
theorem other_rules_iff {assignments : List AssignmentV1} {facts : ValidationFactsV1} :
    (∀ r ∈ validateHardConstraints assignments facts, r.constraintType ≠ weeklyRule →
      r.satisfied = true) ↔
      outside assignments facts = [] ∧ overlaps assignments = [] ∧ empty assignments facts = [] ∧
        extraWindows facts = 0 ∧ dayExcess facts = 0 ∧ unqualified assignments facts = [] := by
  simp [validateHardConstraints, result, weeklyRule]

/-- **The model is sound for the checker.** In a problem in whole minutes, the translation of a
solution keeps every rule other than the weekly one exactly when the selected shifts have different
names; the least gaps are kept; no worker exceeds the weekly cap by more than `0.3` minutes for each
selected shift and `0.3` more; and where scaling rounds nothing the wrong way, every rule is kept
exactly when the names differ. -/
theorem hard_rules_of_solves (hx : b.model.Solves x) (hp : b.p.InMinutes)
    (digest : DigestInput → String) :
    ((∀ r ∈ validateHardConstraints (b.assignments digest x) (b.validationFacts digest (some x)),
        r.constraintType ≠ weeklyRule → r.satisfied = true) ↔
      ((b.selected x).map fun c => c.1.shift.name).Nodup) ∧
    gapViolations (b.validationFacts digest (some x)) = 0 ∧
    (∀ c ∈ b.selected x, (b.effectiveMinutes x c.1.shift.member.contactId digest : ℚ) ≤
      capMinutes (b.validationFacts digest (some x)) c.1.shift.member.contactId +
        3 / 10 * ((b.shiftsOf x c.1.shift.member.contactId).length + 1)) ∧
    (b.ScaledSafely →
      (Valid (b.assignments digest x) (b.validationFacts digest (some x)) ↔
        ((b.selected x).map fun c => c.1.shift.name).Nodup)) := by
  have hx := admissible_of_solves hx
  have hshifts := positive_shifts x digest hp
  have hgapMinutes : 0 ≤ (b.validationFacts digest (some x)).minimumGapMinutes := by
    rw [minimumGap_eq]
    decide
  have hassignments := positive_assignments digest hx hp
  -- the checker finds shifts by their names
  have hids : ((b.selected x).map fun c => c.1.shift.name).Nodup →
      ((b.validationFacts digest (some x)).selectedShifts.map
        SelectedShiftFactV1.shiftId).Nodup := by
    intro hnames
    rw [selectedShifts_eq, List.map_map]
    exact hnames
  -- each rule other than the weekly one, by its own law
  have hothers : (∀ r ∈ validateHardConstraints (b.assignments digest x)
      (b.validationFacts digest (some x)), r.constraintType ≠ weeklyRule → r.satisfied = true) ↔
        ((b.selected x).map fun c => c.1.shift.name).Nodup := by
    rw [other_rules_iff]
    constructor
    · intro h
      exact names_of_outside hx hp h.1
    · intro hnames
      exact ⟨(outside_iff (hids hnames)).mpr (inside_law hx hp),
        (overlaps_iff hassignments).mpr (disjoint_law hx hp), empty_iff.mpr (nonempty_law hx),
        extraWindows_iff.mpr (window_law hx), dayExcess_iff.mpr (day_law hx hp),
        unqualified_iff.mpr (qualified_law hx hp)⟩
  refine ⟨hothers, (gapViolations_iff hshifts hgapMinutes).mpr (gap_law hx hp),
    fun c hc => week_near hx hp hc, ?_⟩
  intro hscaled
  constructor
  · intro hvalid
    exact hothers.mp fun r hr _ => hvalid r hr
  · intro hnames
    -- with safe scaling the weekly law holds too, and then all of them do
    have hlaws : HardLaws (b.assignments digest x) (b.validationFacts digest (some x)) :=
      ⟨⟨disjoint_law hx hp, nonempty_law hx, window_law hx, day_law hx hp, gap_law hx hp,
        week_law hx hp hscaled, qualified_law hx hp⟩, inside_law hx hp⟩
    exact (validateHardConstraints_iff (hids hnames) hshifts hgapMinutes hassignments).mpr hlaws

/-- A solution whose translation breaks some rule. -/
def Refused (b : CpSatBuilder) (x : Var → Int) : Prop :=
  b.model.Solves x ∧ ¬ ∀ r ∈ validateHardConstraints (b.assignments (fun _ => "") x)
    (b.validationFacts (fun _ => "") (some x)), r.satisfied = true

instance (b : CpSatBuilder) (x : Var → Int) : Decidable (Refused b x) :=
  inferInstanceAs (Decidable (_ ∧ _))

end CpSatBuilder

/-! ## Rules that a solution breaks -/

namespace Hall

theorem day_inMinutes : day.p.InMinutes where
  workers := by decide
  windows := by
    intro member hmember window hwindow
    rw [List.mem_singleton.mp hmember] at hwindow
    rw [List.mem_singleton.mp hwindow]
    exact ⟨⟨0, by norm_num⟩, ⟨480, by norm_num⟩⟩
  lengths := by
    intro tpl htpl
    rw [List.mem_singleton.mp htpl]
    exact ⟨480, by norm_num⟩
  breaks := by
    intro tpl htpl br hbr
    rw [List.mem_singleton.mp htpl] at hbr
    rw [List.mem_singleton.mp hbr]
    exact ⟨⟨255, by norm_num⟩, ⟨30, by norm_num⟩⟩
  forward := fun tpl htpl => (day_fit tpl htpl).forward

theorem day_scaledSafely : day.ScaledSafely := ⟨by decide +kernel, by decide +kernel⟩

/-- The hall asks for one head in hour 4, of workers who each have one window. -/
def staffed (members : List Member) (template : ShiftTemplate) : CpSatBuilder where
  p :=
    { horizonH := 24
      members := members
      tasks := [⟨"receive", "Receiving", "Receiving", "dock", none⟩]
      templates := [template]
      demand := [⟨"receive", .indirect, 4, 5, 1, "IND0"⟩] }

/-- A shift of 455 minutes is 758 hundredths of an hour, as is a cap of 454.8 minutes. -/
def capped : CpSatBuilder where
  p := { (staffed [ana] ⟨"day", "Day", 91 / 12, []⟩).p with
    maxHoursPerWeek := [("Casual", 379 / 50)] }

/-- Two workers whose shifts are both called `shift_ana_w_1_day_0`. -/
def namesakes : CpSatBuilder :=
  staffed [{ ana with windows := [⟨"w_1", 0, 6, .availability⟩] },
    { ana with contactId := "ana_w", windows := [⟨"1", 0, 6, .availability⟩] }]
    ⟨"day", "Day", 6, []⟩

/-- Ana stands twice among the members, and has no qualification the second time. -/
def doubled : CpSatBuilder :=
  staffed [ana, { ana with windows := [], qualifications := [] }] ⟨"day", "Day", 8, []⟩

/-- A shift that starts 0.006 minutes before midnight, and one on the next day. -/
def midnight : CpSatBuilder where
  p :=
    { horizonH := 48
      members := [{ ana with windows := [⟨"late", 239999 / 10000, 279999 / 10000, .availability⟩,
        ⟨"noon", 36, 40, .availability⟩] }]
      tasks := [⟨"receive", "Receiving", "Receiving", "dock", none⟩]
      templates := [⟨"short", "Short", 4, []⟩]
      demand :=
        [⟨"receive", .indirect, 25, 26, 1, "IND0"⟩, ⟨"receive", .indirect, 36, 37, 1, "IND1"⟩]
      maxShiftsPerDay := [("Casual", 1)] }

/-- A break of minus two hours, whose removal leaves two segments that overlap. -/
def reversed : CpSatBuilder := staffed [ana] ⟨"day", "Day", 8, [⟨5, -2, false⟩]⟩

end Hall

open CpSatBuilder in
/-- The day of one shift passes every rule. -/
theorem hard_rules_of_solves_all_day :
    Valid (Hall.day.assignments (fun _ => "") Hall.allDay)
      (Hall.day.validationFacts (fun _ => "") (some Hall.allDay)) := by
  have hx : Hall.day.model.Solves Hall.allDay := by decide +kernel
  have hone : (Hall.day.selected Hall.allDay).length = 1 := by decide +kernel
  refine ((hard_rules_of_solves hx Hall.day_inMinutes fun _ => "").2.2.2
    Hall.day_scaledSafely).mpr ?_
  obtain ⟨only, honly⟩ := List.length_eq_one_iff.mp hone
  rw [honly]
  exact List.nodup_singleton _

open CpSatBuilder in
/-- **Solutions that the checker refuses**: over the weekly cap by what scaling rounds away, with
one name for two shifts, with two members of one id, off the whole minute, and with a break of
negative length. -/
theorem solutions_refused :
    Refused Hall.capped Hall.allDay ∧ Refused Hall.namesakes Hall.allDay ∧
      Refused Hall.doubled Hall.allDay ∧ Refused Hall.midnight Hall.allDay ∧
        Refused Hall.reversed Hall.allDay :=
  ⟨by decide +kernel, by decide +kernel, by decide +kernel, by decide +kernel, by decide +kernel⟩

end ShiftMind.Engine
