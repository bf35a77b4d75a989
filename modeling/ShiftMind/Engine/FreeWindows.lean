import ShiftMind.Engine.CountedDemand
import ShiftMind.Engine.Headcount

/-!
# ShiftMind — roster windows that are free to fill

Filling a roster window can only cost coverage where the hours, the shifts or the gaps it takes are
missing elsewhere. Where the caps of everyone with a shift in the window are so loose that whichever
one shift is taken in each of their windows keeps them, the window can be filled on top of any
roster.

* **`CapsLoose`** — the caps of one member never bind.
* **`Free`** — a window that only members with loose caps have a shift in.
* **`fill_admissible`** — taking a shift in an open free window keeps a roster admissible;
* **`unmetHours_fill`** — and leaves no more labour-hours unmet.
* **`exists_filled`** — so any roster extends to one that fills all free roster windows.
-/

namespace ShiftMind.Engine

open Rounding Constants LinearModel

namespace CpSatBuilder

/-! ## Caps that never bind -/

/-- Shifts by the window they are in. -/
def byWindow (svs : List (Candidate × Nat)) : List (String × List (Candidate × Nat)) :=
  Dict.groupBy (fun c => c.1.shift.window.id) svs

/-- The scaled hours of the longest of some shifts. -/
def longest (group : List (Candidate × Nat)) : Int :=
  (group.map fun c => scaledHours c.1.shift.effH).foldr max 0

variable (b : CpSatBuilder)

/-- **Caps that never bind**: whichever one shift a member takes in each window, the shifts of a
day, the hours of the week and the gaps between shifts are within bounds. -/
structure CapsLoose (svs : List (Candidate × Nat)) : Prop where
  days : ∀ entry ∈ Dict.groupBy (fun c => c.1.shift.day) svs,
    ((byWindow entry.2).length : Int) ≤ b.maxShiftsOf (groupEmpType svs)
  hours : ((byWindow svs).map fun entry => longest entry.2).sum ≤
    scaledHours (b.maxHoursOf (groupEmpType svs))
  gaps : ∀ pair ∈ pairsOf svs, pair.1.1.shift.window.id ≠ pair.2.1.shift.window.id →
    defaultMinGapHours - epsilon ≤ gapH pair.1.1.shift pair.2.1.shift

instance (svs : List (Candidate × Nat)) : Decidable (b.CapsLoose svs) :=
  decidable_of_iff
    ((∀ entry ∈ Dict.groupBy (fun c => c.1.shift.day) svs,
        ((byWindow entry.2).length : Int) ≤ b.maxShiftsOf (groupEmpType svs)) ∧
      ((byWindow svs).map fun entry => longest entry.2).sum ≤
        scaledHours (b.maxHoursOf (groupEmpType svs)) ∧
      ∀ pair ∈ pairsOf svs, pair.1.1.shift.window.id ≠ pair.2.1.shift.window.id →
        defaultMinGapHours - epsilon ≤ gapH pair.1.1.shift pair.2.1.shift)
    ⟨fun h => ⟨h.1, h.2.1, h.2.2⟩, fun h => ⟨h.days, h.hours, h.gaps⟩⟩

/-- **A free window**: everyone with a shift in it has caps that never bind and works at no negative
rate. -/
structure Free (windowId : String) : Prop where
  caps : ∀ entry ∈ b.shiftsByMember, (∃ c ∈ entry.2, c.1.shift.window.id = windowId) →
    b.CapsLoose entry.2
  rates : ∀ c ∈ b.indexed, c.1.shift.window.id = windowId →
    ∀ q ∈ c.1.shift.member.qualifications, 0 ≤ q.rate

instance (windowId : String) : Decidable (b.Free windowId) :=
  decidable_of_iff
    ((∀ entry ∈ b.shiftsByMember, (∃ c ∈ entry.2, c.1.shift.window.id = windowId) →
        b.CapsLoose entry.2) ∧
      ∀ c ∈ b.indexed, c.1.shift.window.id = windowId →
        ∀ q ∈ c.1.shift.member.qualifications, 0 ≤ q.rate)
    ⟨fun h => ⟨h.1, h.2⟩, fun h => ⟨h.caps, h.rates⟩⟩

/-- **One shift in each window**, at most. -/
structure OneEach (a : Var → Int) : Prop where
  shifts : ∀ c ∈ b.indexed, 0 ≤ a (.shift c.2)
  windows : ∀ windowId, ((b.windowVars windowId).map a).sum ≤ 1

variable {b}

theorem le_longest {c : Candidate × Nat} {group : List (Candidate × Nat)} (hc : c ∈ group) :
    scaledHours c.1.shift.effH ≤ longest group := by
  unfold longest
  induction group with
  | nil => cases hc
  | cons first group ih =>
    rw [List.map_cons, List.foldr_cons]
    rcases List.mem_cons.mp hc with rfl | hc
    · exact le_max_left _ _
    · exact (ih hc).trans (le_max_right _ _)

theorem longest_nonneg (group : List (Candidate × Nat)) : 0 ≤ longest group := by
  unfold longest
  induction group with
  | nil => exact le_refl 0
  | cons first group ih => exact ih.trans (le_max_right _ _)

/-- A roster takes at most one shift in any window. -/
theorem Admissible.oneEach {a : Var → Int} (ha : b.Admissible a) : b.OneEach a where
  shifts c hc := (ha.shifts c hc).1
  windows windowId := by
    by_cases hseen : ∃ c ∈ b.candidates, c.shift.window.id = windowId
    · obtain ⟨c, hc, rfl⟩ := hseen
      have hmem : c.shift.window ∈ b.candidates.map fun d => d.shift.window :=
        List.mem_map.mpr ⟨c, hc, rfl⟩
      have hfound : ∃ window, Dict.get? b.seenWindows c.shift.window.id = some window :=
        Dict.get?_indexBy_isSome hmem
      obtain ⟨window, hget⟩ := hfound
      exact ha.windows (c.shift.window.id, window) (Dict.mem_of_get? hget)
    · -- no shift is in the window
      have hnone : b.windowVars windowId = [] := by
        unfold windowVars
        rw [List.map_eq_nil_iff, List.filter_eq_nil_iff]
        intro c hc hwindow
        exact hseen ⟨c.1, List.fst_mem_of_mem_zipIdx hc, of_decide_eq_true hwindow⟩
      rw [hnone]
      exact zero_le_one

section Loose

variable {a : Var → Int} {svs : List (Candidate × Nat)}

/-- Shifts in one window add up to at most one. -/
theorem OneEach.group (h : b.OneEach a) {group : List (Candidate × Nat)}
    (hsub : group.Sublist b.indexed) {windowId : String}
    (hwindow : ∀ c ∈ group, c.1.shift.window.id = windowId) :
    (group.map fun c => a (.shift c.2)).sum ≤ 1 := by
  have hin : group.Sublist (b.indexed.filter fun c => c.1.shift.window.id = windowId) := by
    have hfilter := hsub.filter fun c => decide (c.1.shift.window.id = windowId)
    rwa [List.filter_eq_self.mpr fun c hc => decide_eq_true (hwindow c hc)] at hfilter
  have hle := (hin.map fun c => a (.shift c.2)).sum_le_sum fun value hvalue => by
    obtain ⟨c, hc, rfl⟩ := List.mem_map.mp hvalue
    exact h.shifts c (List.mem_of_mem_filter hc)
  have hone := h.windows windowId
  unfold windowVars at hone
  rw [List.map_map] at hone
  exact hle.trans hone

/-- The shifts of a group lie in one window of the list it is made from. -/
theorem window_of_byWindow {entry : String × List (Candidate × Nat)} (h : entry ∈ byWindow svs) :
    entry.2.Sublist svs ∧ ∀ c ∈ entry.2, c.1.shift.window.id = entry.1 := by
  have hgroup := (Dict.mem_groupBy.mp h).1
  constructor
  · rw [hgroup]
    exact List.filter_sublist
  · intro c hc
    rw [hgroup] at hc
    exact of_decide_eq_true (List.mem_filter.mp hc).2

/-- At most one shift in each window makes at most as many shifts as windows. -/
theorem OneEach.count (h : b.OneEach a) (hsub : svs.Sublist b.indexed) :
    (svs.map fun c => a (.shift c.2)).sum ≤ (byWindow svs).length := by
  rw [← Dict.sum_groupBy (fun c => c.1.shift.window.id)]
  calc ((byWindow svs).map fun entry => (entry.2.map fun c => a (.shift c.2)).sum).sum
      ≤ ((byWindow svs).map fun _ => (1 : Int)).sum := by
        apply List.sum_le_sum
        intro entry hentry
        obtain ⟨hin, hwindow⟩ := window_of_byWindow hentry
        exact h.group (hin.trans hsub) hwindow
    _ = (byWindow svs).length := by
        rw [List.map_const', List.sum_replicate, nsmul_eq_mul, mul_one]

/-- At most one shift in each window takes at most the hours of the longest ones. -/
theorem OneEach.hours (h : b.OneEach a) (hsub : svs.Sublist b.indexed) :
    (svs.map fun c => scaledHours c.1.shift.effH * a (.shift c.2)).sum ≤
      ((byWindow svs).map fun entry => longest entry.2).sum := by
  rw [← Dict.sum_groupBy (fun c => c.1.shift.window.id)]
  apply List.sum_le_sum
  intro entry hentry
  obtain ⟨hin, hwindow⟩ := window_of_byWindow hentry
  calc (entry.2.map fun c => scaledHours c.1.shift.effH * a (.shift c.2)).sum
      ≤ (entry.2.map fun c => longest entry.2 * a (.shift c.2)).sum := by
        apply List.sum_le_sum
        intro c hc
        exact mul_le_mul_of_nonneg_right (le_longest hc)
          (h.shifts c (hsub.subset (hin.subset hc)))
    _ = longest entry.2 * (entry.2.map fun c => a (.shift c.2)).sum := List.sum_map_mul_left ..
    _ ≤ longest entry.2 * 1 :=
        mul_le_mul_of_nonneg_left (h.group (hin.trans hsub) hwindow) (longest_nonneg _)
    _ = longest entry.2 := mul_one _

/-- The items of a pair stand in the list in that order. -/
theorem sublist_of_pair {α : Type} {pair : α × α} {items : List α} (h : pair ∈ pairsOf items) :
    [pair.1, pair.2].Sublist items := by
  induction items with
  | nil => cases h
  | cons first rest ih =>
    rcases List.mem_append.mp h with h | h
    · obtain ⟨other, hother, rfl⟩ := List.mem_map.mp h
      exact (List.singleton_sublist.mpr hother).cons_cons first
    · exact (ih h).cons first

/-- **Loose caps are kept** by any choice of at most one shift in each window. -/
theorem CapsLoose.holds (hloose : b.CapsLoose svs) (hsub : svs.Sublist b.indexed)
    (h : b.OneEach a) {rule : LinearConstraint Var} (hrule : rule ∈ b.memberConstraints svs) :
    rule.Holds a := by
  unfold memberConstraints at hrule
  simp only [List.mem_append, List.mem_map, List.mem_singleton] at hrule
  rcases hrule with (⟨entry, hentry, rfl⟩ | rfl) | ⟨pair, hpair, rfl⟩
  · -- the shifts of a day
    have hin : entry.2.Sublist svs := by
      rw [(Dict.mem_groupBy.mp hentry).1]
      exact List.filter_sublist
    rw [holds_le, eval_sumOf, List.map_map]
    exact (h.count (hin.trans hsub)).trans (hloose.days entry hentry)
  · -- the hours of the week
    have hhours := h.hours hsub
    rw [holds_le]
    unfold eval
    rw [List.map_map]
    exact hhours.trans hloose.hours
  · -- two shifts that are too close are in one window
    obtain ⟨hpair, hclose⟩ := List.mem_filter.mp hpair
    have hsame : pair.1.1.shift.window.id = pair.2.1.shift.window.id := by
      by_contra hne
      exact absurd (hloose.gaps pair hpair hne) (not_le.mpr (of_decide_eq_true hclose))
    have hwindow : ∀ c ∈ [pair.1, pair.2], c.1.shift.window.id = pair.1.1.shift.window.id := by
      intro c hc
      rcases List.mem_cons.mp hc with rfl | hc
      · rfl
      · rw [List.mem_singleton.mp hc]
        exact hsame.symm
    have hgroup := h.group ((sublist_of_pair hpair).trans hsub) hwindow
    simp only [List.map_cons, List.map_nil, List.sum_cons, List.sum_nil] at hgroup
    simp only [holds_le, eval_cons, eval_nil]
    omega

end Loose

/-! ## Taking one more shift

Where no cap binds, one more shift in an open window keeps every constraint. -/

/-- A shift and its first task. -/
def mark (c : Candidate × Nat) (v : Var) : Int :=
  if v = .shift c.2 ∨ v = .task c.2 0 then 1 else 0

/-- A roster with one more shift, on its first task. -/
def fill (a : Var → Int) (c : Candidate × Nat) : Var → Int := fun v => a v + mark c v

theorem mark_bounds (c : Candidate × Nat) (v : Var) : 0 ≤ mark c v ∧ mark c v ≤ 1 := by
  unfold mark
  split
  · exact ⟨zero_le_one, le_refl 1⟩
  · exact ⟨le_refl 0, zero_le_one⟩

/-- What a shift adds to a sum of variables: how often its own variables stand there. -/
theorem sum_mark (c : Candidate × Nat) (vars : List Var) :
    (vars.map (mark c)).sum =
      ((vars.count (.shift c.2) + vars.count (.task c.2 0) : Nat) : Int) := by
  induction vars with
  | nil => rfl
  | cons v vars ih =>
    rw [List.map_cons, List.sum_cons, ih, List.count_cons, List.count_cons]
    unfold mark
    by_cases hshift : v = .shift c.2
    · simp [hshift]
      omega
    · by_cases htask : v = .task c.2 0
      · simp [htask]
        omega
      · simp [hshift, htask]

/-- Different candidates have different positions. -/
theorem eq_of_position {c c' : Candidate × Nat} (hc : c ∈ b.indexed) (hc' : c' ∈ b.indexed)
    (h : c.2 = c'.2) : c = c' := by
  have hget := List.mem_zipIdx_iff_getElem?.mp hc
  have hget' := List.mem_zipIdx_iff_getElem?.mp hc'
  rw [h, hget'] at hget
  exact Prod.ext (Option.some.inj hget).symm h

theorem nodup_windowVars (windowId : String) : (b.windowVars windowId).Nodup := by
  unfold windowVars
  refine List.Nodup.map_on (fun c hc c' hc' heq => ?_) (nodup_indexed.filter _)
  exact eq_of_position (List.mem_of_mem_filter hc) (List.mem_of_mem_filter hc') (Var.shift.inj heq)

/-- The task variables of a candidate, the first one first. -/
theorem taskVarsOf_eq {c : Candidate × Nat} (hc : c ∈ b.indexed) :
    ∃ first rest, taskVarsOf c = (first, .task c.2 0) :: rest ∧
      ((taskVarsOf c).map Prod.snd).Nodup := by
  obtain ⟨_, -, _, -, _, -, _, -, -, -, hsome⟩ := exists_makeShift hc
  have hnodup : ((taskVarsOf c).map Prod.snd).Nodup := by
    unfold taskVarsOf
    rw [List.map_map]
    have hpositions : (c.1.tasks.zipIdx.map Prod.snd).Nodup := by
      rw [List.zipIdx_map_snd]
      exact List.nodup_range'
    have hmap : c.1.tasks.zipIdx.map (Prod.snd ∘ fun entry : TaskVar × Nat =>
        (entry.1, Var.task c.2 entry.2)) = (c.1.tasks.zipIdx.map Prod.snd).map (Var.task c.2) := by
      rw [List.map_map]
      rfl
    refine hmap ▸ hpositions.map fun k k' heq => ?_
    exact (Var.task.inj heq).2
  cases htasks : c.1.tasks with
  | nil => exact absurd htasks hsome
  | cons first rest =>
    refine ⟨first, (rest.zipIdx 1).map fun entry => (entry.1, Var.task c.2 entry.2), ?_, hnodup⟩
    unfold taskVarsOf
    rw [htasks, List.zipIdx_cons]
    rfl

/-- A shift with its first task keeps the rules that tie tasks to shifts. -/
theorem mark_linked {c c' : Candidate × Nat} (hc : c ∈ b.indexed) (hc' : c' ∈ b.indexed)
    {rule : LinearConstraint Var} (hrule : rule ∈ linkConstraints c') : rule.Holds (mark c) := by
  have hshift : mark c (.shift c'.2) = if c' = c then 1 else 0 := by
    unfold mark
    by_cases hsame : c' = c
    · rw [if_pos (.inl (by rw [hsame])), if_pos hsame]
    · rw [if_neg, if_neg hsame]
      rintro (heq | heq)
      · exact hsame (eq_of_position hc' hc (Var.shift.inj heq))
      · cases heq
  -- a list of the tasks of a candidate adds up to at most the shift
  have htasks : ∀ group : List (TaskVar × Var), group.Sublist (taskVarsOf c') →
      ((group.map Prod.snd).map (mark c)).sum ≤ mark c (.shift c'.2) := by
    intro group hsub
    obtain ⟨-, -, -, hnodup⟩ := taskVarsOf_eq hc'
    have hgroup := hnodup.sublist (hsub.map Prod.snd)
    have hvars : ∀ v ∈ group.map Prod.snd, ∃ k, v = .task c'.2 k := by
      intro v hv
      obtain ⟨task, htask, rfl⟩ := List.mem_map.mp hv
      obtain ⟨entry, -, rfl⟩ := List.mem_map.mp (hsub.subset htask)
      exact ⟨entry.2, rfl⟩
    have hno : (group.map Prod.snd).count (.shift c.2) = 0 := by
      rw [List.count_eq_zero]
      intro hmem
      obtain ⟨k, hk⟩ := hvars _ hmem
      cases hk
    rw [sum_mark, hno, hshift]
    split
    · have hone := List.nodup_iff_count_le_one.mp hgroup (.task c.2 0)
      omega
    · rename_i hother
      have hnone : (group.map Prod.snd).count (.task c.2 0) = 0 := by
        rw [List.count_eq_zero]
        intro hmem
        obtain ⟨k, hk⟩ := hvars _ hmem
        exact hother (eq_of_position hc' hc (Var.task.inj hk).1.symm)
      omega
  unfold linkConstraints at hrule
  simp only [List.mem_append, List.mem_map, List.mem_singleton] at hrule
  rcases hrule with (⟨task, htask, rfl⟩ | ⟨group, hgroup, rfl⟩) | rfl
  · have hle := htasks [task] (List.singleton_sublist.mpr htask)
    simp only [List.map_cons, List.map_nil, List.sum_cons, List.sum_nil] at hle
    simp only [holds_le, eval_cons, eval_nil]
    omega
  · have hle := htasks group.2 (by
      rw [(Dict.mem_groupBy.mp hgroup).1]
      exact List.filter_sublist)
    simp only [holds_le, eval_append, eval_sumOf, eval_cons, eval_nil]
    omega
  · -- a shift that is taken carries its first task
    have hge : mark c (.shift c'.2) ≤ (((taskVarsOf c').map Prod.snd).map (mark c)).sum := by
      rw [hshift]
      split
      · rename_i hsame
        obtain ⟨first, rest, hlist, -⟩ := taskVarsOf_eq hc'
        rw [sum_mark, hlist, List.map_cons, List.count_cons, List.count_cons, hsame]
        simp
        omega
      · exact List.sum_nonneg fun value hvalue => by
          obtain ⟨v, -, rfl⟩ := List.mem_map.mp hvalue
          exact (mark_bounds c v).1
    simp only [holds_ge, eval_append, eval_sumOf, eval_cons, eval_nil]
    omega

theorem bound_linkConstraints {c : Candidate × Nat} {rule : LinearConstraint Var}
    (h : rule ∈ linkConstraints c) : rule.bound = 0 := by
  unfold linkConstraints at h
  simp only [List.mem_append, List.mem_map, List.mem_singleton] at h
  rcases h with (⟨task, -, rfl⟩ | ⟨group, -, rfl⟩) | rfl
  all_goals rfl

/-- The rules of a member are about that member's shifts. -/
theorem shift_of_memberConstraints {svs : List (Candidate × Nat)} {rule : LinearConstraint Var}
    (h : rule ∈ b.memberConstraints svs) {term : Int × Var} (hterm : term ∈ rule.terms) :
    ∃ c ∈ svs, term.2 = .shift c.2 := by
  unfold memberConstraints at h
  simp only [List.mem_append, List.mem_map, List.mem_singleton] at h
  rcases h with (⟨entry, hentry, rfl⟩ | rfl) | ⟨pair, hpair, rfl⟩
  · obtain ⟨v, hv, rfl⟩ := List.mem_map.mp hterm
    obtain ⟨c, hc, rfl⟩ := List.mem_map.mp hv
    rw [(Dict.mem_groupBy.mp hentry).1] at hc
    exact ⟨c, List.mem_of_mem_filter hc, rfl⟩
  · obtain ⟨c, hc, rfl⟩ := List.mem_map.mp hterm
    exact ⟨c, hc, rfl⟩
  · have hsub := (sublist_of_pair (List.mem_of_mem_filter hpair)).subset
    rcases List.mem_cons.mp hterm with rfl | hterm
    · exact ⟨pair.1, hsub List.mem_cons_self, rfl⟩
    · rw [List.mem_singleton.mp hterm]
      exact ⟨pair.2, hsub (List.mem_cons_of_mem _ List.mem_cons_self), rfl⟩

/-! ## What a shift supplies -/

/-- The worked hours of a slot are not negative. -/
theorem slotHours_nonneg {slot : List Interval} {hour : Int} {ov : ℚ}
    (h : Dict.get? (slotHours slot) hour = some ov) : 0 ≤ ov := by
  have hsum := Dict.getD_tally (slot.flatMap hourSplit) hour
  unfold slotHours at h
  rw [h, Option.getD_some] at hsum
  rw [hsum]
  apply List.sum_nonneg
  intro value hvalue
  obtain ⟨entry, hentry, rfl⟩ := List.mem_map.mp hvalue
  obtain ⟨seg, -, hentry⟩ := List.mem_flatMap.mp (List.mem_of_mem_filter hentry)
  obtain ⟨hour', -, hsome⟩ := List.mem_filterMap.mp hentry
  split at hsome
  · rename_i hpos
    cases hsome
    exact hpos.le
  · cases hsome

/-- A rate that stands in for a missing one is no negative rate. -/
theorem rate_nonneg {member : Member} (hrates : ∀ q ∈ member.qualifications, 0 ≤ q.rate)
    (taskId : String) :
    0 ≤ match member.rateFor taskId with
      | some rate => if rate = 0 then defaultTaskRate else rate
      | none => defaultTaskRate := by
  have hdefault : (0 : ℚ) ≤ defaultTaskRate := by norm_num [defaultTaskRate]
  cases hrate : member.rateFor taskId with
  | none => exact hdefault
  | some rate =>
    unfold Member.rateFor at hrate
    obtain ⟨q, hq, rfl⟩ := Option.map_eq_some_iff.mp hrate
    simp only
    split
    · exact hdefault
    · exact hrates q (List.mem_of_find?_eq_some hq)

/-- A task supplies no negative volume where no rate is negative. -/
theorem coverage_nonneg {c : Candidate × Nat} (hc : c ∈ b.indexed)
    (hrates : ∀ q ∈ c.1.shift.member.qualifications, 0 ≤ q.rate) {taskId : String} {hour : Int}
    {term : Var × ℚ} (hterm : term ∈ b.coverageTerms taskId hour) {k : Nat}
    (hvar : term.1 = .task c.2 k) : 0 ≤ term.2 := by
  obtain ⟨⟨c', i⟩, hc', hterm⟩ := List.mem_flatMap.mp hterm
  obtain ⟨⟨task, k'⟩, htask, hsome⟩ := List.mem_filterMap.mp hterm
  simp only [Option.ite_none_right_eq_some, Option.map_eq_some_iff] at hsome
  obtain ⟨-, ov, hov, hterm⟩ := hsome
  have hposition : i = c.2 := by
    split at hterm
    all_goals
      rw [← hterm] at hvar
      exact (Var.task.inj hvar).1
  have hsame : (c', i) = c := eq_of_position hc' hc hposition
  -- the hours of a task are those of its slot
  obtain ⟨_, -, _, -, _, -, _, -, -, htasks, -⟩ := exists_makeShift hc'
  have hmem : task ∈ c'.tasks := List.fst_mem_of_mem_zipIdx htask
  rw [htasks] at hmem
  obtain ⟨⟨slot, slotIdx⟩, -, hmem⟩ := List.mem_flatMap.mp hmem
  obtain ⟨qualId, -, hdrawn⟩ := List.mem_filterMap.mp hmem
  simp only [Option.ite_none_right_eq_some, Option.some.injEq] at hdrawn
  rw [← hdrawn.2] at hov
  have hhours := slotHours_nonneg hov
  rw [← hsame] at hrates
  have hrate := rate_nonneg hrates taskId
  split at hterm
  · rw [← hterm]
    exact zero_le_one
  · rw [← hterm]
    exact mul_nonneg (mul_nonneg hrate hhours) (by norm_num [absenteeismFactor])

theorem volSupply_mark_nonneg {c : Candidate × Nat} (hc : c ∈ b.indexed)
    (hrates : ∀ q ∈ c.1.shift.member.qualifications, 0 ≤ q.rate) (taskId : String) (hour : Int) :
    0 ≤ eval (mark c) (b.volSupply taskId hour) := by
  apply List.sum_nonneg
  intro value hvalue
  obtain ⟨scaled, hscaled, rfl⟩ := List.mem_map.mp hvalue
  obtain ⟨term, hterm, rfl⟩ := List.mem_map.mp hscaled
  show 0 ≤ roundHalfEven (term.2 * volScale) * mark c term.1
  by_cases hmarked : term.1 = .shift c.2 ∨ term.1 = .task c.2 0
  · rcases hmarked with hshift | htask
    · -- a shift variable supplies nothing
      obtain ⟨c', -, task, htask', hsame⟩ := task_of_coverageTerms hterm
      obtain ⟨entry, -, rfl⟩ := List.mem_map.mp htask'
      rw [← hsame] at hshift
      cases hshift
    · have hcoeff := coverage_nonneg hc hrates hterm htask
      have hround := roundHalfEven_mono
        (mul_nonneg hcoeff (by norm_num [volScale] : (0 : ℚ) ≤ volScale))
      rw [roundHalfEven_zero] at hround
      exact mul_nonneg hround (mark_bounds c term.1).1
  · have hnone : mark c term.1 = 0 := if_neg hmarked
    rw [hnone, mul_zero]

theorem hcSupply_mark_nonneg (c : Candidate × Nat) (taskId : String) (hour : Int) :
    0 ≤ eval (mark c) (b.hcSupply taskId hour) := by
  unfold hcSupply
  rw [eval_sumOf]
  apply List.sum_nonneg
  intro value hvalue
  obtain ⟨v, -, rfl⟩ := List.mem_map.mp hvalue
  exact (mark_bounds c v).1

/-- The more a roster supplies, the fewer labour-hours it leaves unmet. -/
theorem unmetHours_anti {a a' : Var → Int}
    (hvol : ∀ taskId hour, eval a (b.volSupply taskId hour) ≤ eval a' (b.volSupply taskId hour))
    (hhc : ∀ taskId hour, eval a (b.hcSupply taskId hour) ≤ eval a' (b.hcSupply taskId hour)) :
    b.unmetHours a' ≤ b.unmetHours a := by
  have hshort : ∀ required supplied supplied' : Int, supplied ≤ supplied' →
      (shortfall required supplied' : ℚ) ≤ shortfall required supplied := by
    intro required supplied supplied' hle
    have hshort : shortfall required supplied' ≤ shortfall required supplied := by
      unfold shortfall
      omega
    exact_mod_cast hshort
  refine add_le_add (List.sum_le_sum fun need _ => ?_) (List.sum_le_sum fun need _ => ?_)
  · have href : (0 : ℚ) < b.reference need.1.1 := lt_max_of_lt_right (by norm_num [epsilon])
    have hscale : (0 : ℚ) < volScale := by norm_num [volScale]
    exact div_le_div_of_nonneg_right (div_le_div_of_nonneg_right
      (hshort _ _ _ (hvol need.1.1 need.1.2)) hscale.le) href.le
  · exact hshort _ _ _ (hhc need.1.1 need.1.2)

/-! ## Filling an open window

A roster window nobody works in is filled by the longest shift that fits it. -/

section Fill

variable {a : Var → Int} {c : Candidate × Nat}

/-- The variables of a shift in an open window are zero. -/
theorem zero_of_open (ha : b.Admissible a) (hc : c ∈ b.indexed)
    (hopen : ((b.windowVars c.1.shift.window.id).map a).sum = 0) {v : Var}
    (hv : v = .shift c.2 ∨ v = .task c.2 0) : a v = 0 := by
  have hmem : Var.shift c.2 ∈ b.windowVars c.1.shift.window.id :=
    List.mem_map.mpr ⟨c, List.mem_filter.mpr ⟨hc, decide_eq_true rfl⟩, rfl⟩
  have hshift : a (.shift c.2) = 0 := by
    have hle : a (.shift c.2) ≤ ((b.windowVars c.1.shift.window.id).map a).sum := by
      apply List.single_le_sum
      · intro value hvalue
        obtain ⟨v, hv, rfl⟩ := List.mem_map.mp hvalue
        obtain ⟨c', hc', rfl⟩ := List.mem_map.mp hv
        exact (ha.shifts c' (List.mem_of_mem_filter hc')).1
      · exact List.mem_map.mpr ⟨_, hmem, rfl⟩
    have hnonneg := (ha.shifts c hc).1
    omega
  rcases hv with rfl | rfl
  · exact hshift
  · -- a task is carried only by a selected shift
    obtain ⟨first, rest, hlist, -⟩ := taskVarsOf_eq hc
    have htask : (first, Var.task c.2 0) ∈ taskVarsOf c := by
      rw [hlist]
      exact List.mem_cons_self
    have hbound := ha.tasks c hc _ htask
    by_contra hne
    have hchosen := selected_of_chosen ha hc htask (by simp only at hbound ⊢; omega)
    omega

theorem fill_bounds (ha : b.Admissible a) (hc : c ∈ b.indexed)
    (hopen : ((b.windowVars c.1.shift.window.id).map a).sum = 0) {v : Var}
    (hv : 0 ≤ a v ∧ a v ≤ 1) : 0 ≤ fill a c v ∧ fill a c v ≤ 1 := by
  have hmark := mark_bounds c v
  unfold fill
  by_cases hmarked : v = .shift c.2 ∨ v = .task c.2 0
  · have hzero := zero_of_open ha hc hopen hmarked
    omega
  · have hnone : mark c v = 0 := if_neg hmarked
    omega

/-- What a shift adds to a window: one to its own, nothing to another. -/
theorem sum_mark_window (hc : c ∈ b.indexed) (windowId : String) :
    ((b.windowVars windowId).map (mark c)).sum =
      if c.1.shift.window.id = windowId then 1 else 0 := by
  have htask : (b.windowVars windowId).count (.task c.2 0) = 0 := by
    rw [List.count_eq_zero]
    intro hmem
    obtain ⟨c', -, heq⟩ := List.mem_map.mp hmem
    cases heq
  rw [sum_mark, htask]
  split
  · rename_i hwindow
    have hmem : Var.shift c.2 ∈ b.windowVars windowId :=
      List.mem_map.mpr ⟨c, List.mem_filter.mpr ⟨hc, decide_eq_true hwindow⟩, rfl⟩
    rw [List.count_eq_one_of_mem (nodup_windowVars windowId) hmem]
    rfl
  · rename_i hwindow
    have hnone : (b.windowVars windowId).count (.shift c.2) = 0 := by
      rw [List.count_eq_zero]
      intro hmem
      obtain ⟨c', hc', heq⟩ := List.mem_map.mp hmem
      obtain ⟨hc', hin⟩ := List.mem_filter.mp hc'
      rw [eq_of_position hc' hc (Var.shift.inj heq)] at hin
      exact hwindow (of_decide_eq_true hin)
    rw [hnone]
    rfl

theorem sum_fill_window (hc : c ∈ b.indexed) (windowId : String) :
    ((b.windowVars windowId).map (fill a c)).sum = ((b.windowVars windowId).map a).sum +
      if c.1.shift.window.id = windowId then 1 else 0 := by
  rw [← sum_mark_window hc, ← List.sum_map_add]
  rfl

theorem oneEach_fill (ha : b.Admissible a) (hc : c ∈ b.indexed)
    (hopen : ((b.windowVars c.1.shift.window.id).map a).sum = 0) : b.OneEach (fill a c) where
  shifts c' hc' := (fill_bounds ha hc hopen (ha.shifts c' hc')).1
  windows windowId := by
    rw [sum_fill_window hc]
    split
    · rename_i hwindow
      rw [← hwindow, hopen]
      omega
    · have hone := ha.oneEach.windows windowId
      omega

/-- **A shift in an open free window** may be added to any roster. -/
theorem fill_admissible (ha : b.Admissible a) (hc : c ∈ b.indexed)
    (hfree : b.Free c.1.shift.window.id)
    (hopen : ((b.windowVars c.1.shift.window.id).map a).sum = 0) :
    b.Admissible (fill a c) where
  shifts c' hc' := fill_bounds ha hc hopen (ha.shifts c' hc')
  tasks c' hc' task htask := fill_bounds ha hc hopen (ha.tasks c' hc' task htask)
  linked c' hc' rule hrule := LinearConstraint.holds_add (bound_linkConstraints hrule)
    (ha.linked c' hc' rule hrule) (mark_linked hc hc' hrule)
  windows entry _ := (oneEach_fill ha hc hopen).windows entry.1
  members entry hentry rule hrule := by
    have hgroup := (Dict.mem_groupBy.mp hentry).1
    by_cases hin : ∃ c' ∈ entry.2, c'.1.shift.window.id = c.1.shift.window.id
    · -- the caps of whoever has a shift in the window are loose
      have hsub : entry.2.Sublist b.indexed := by
        rw [hgroup]
        exact List.filter_sublist
      exact (hfree.caps entry hentry hin).holds hsub (oneEach_fill ha hc hopen) hrule
    · -- nobody else takes a shift more
      refine (LinearConstraint.holds_congr fun term hterm => ?_).mpr
        (ha.members entry hentry rule hrule)
      obtain ⟨c', hc', hvar⟩ := shift_of_memberConstraints hrule hterm
      have hindexed : c' ∈ b.indexed := by
        rw [hgroup] at hc'
        exact List.mem_of_mem_filter hc'
      have hother : ¬ (term.2 = .shift c.2 ∨ term.2 = .task c.2 0) := by
        rw [hvar]
        rintro (heq | heq)
        · exact hin ⟨c', hc', by rw [eq_of_position hindexed hc (Var.shift.inj heq)]⟩
        · cases heq
      show a term.2 + mark c term.2 = a term.2
      rw [show mark c term.2 = 0 from if_neg hother, add_zero]
  supplied need hneed := by
    have hmark := volSupply_mark_nonneg hc (hfree.rates c hc rfl) need.1.1 need.1.2
    have hsupplied := ha.supplied need hneed
    show 0 ≤ eval (fun v => a v + mark c v) _
    rw [eval_add]
    omega
  requests := ha.requests

/-- **It costs no coverage.** -/
theorem unmetHours_fill (hc : c ∈ b.indexed) (hfree : b.Free c.1.shift.window.id) :
    b.unmetHours (fill a c) ≤ b.unmetHours a := by
  apply unmetHours_anti
  · intro taskId hour
    have hmark := volSupply_mark_nonneg hc (hfree.rates c hc rfl) taskId hour
    show _ ≤ eval (fun v => a v + mark c v) _
    rw [eval_add]
    omega
  · intro taskId hour
    have hmark := hcSupply_mark_nonneg (b := b) c taskId hour
    show _ ≤ eval (fun v => a v + mark c v) _
    rw [eval_add]
    omega

end Fill

/-- Every roster window has a shift. -/
theorem exists_shift {windowId : String} (h : windowId ∈ b.rosterWindows) :
    ∃ c ∈ b.indexed, c.1.shift.window.id = windowId := by
  obtain ⟨entry, hentry, rfl⟩ := List.mem_map.mp h
  have hget : Dict.get? b.seenWindows entry.1 = some entry.2 :=
    Dict.get?_of_mem (Dict.nodup_keys_accumulate ..) (List.mem_of_mem_filter hentry)
  obtain ⟨hmem, hid⟩ := Dict.get?_indexBy_eq_some hget
  obtain ⟨c, hc, hwindow⟩ := List.mem_map.mp hmem
  obtain ⟨i, hi, rfl⟩ := List.getElem_of_mem hc
  refine ⟨(b.candidates[i], i), List.mem_zipIdx_iff_getElem?.mpr (List.getElem?_eq_getElem hi), ?_⟩
  show b.candidates[i].shift.window.id = entry.1
  rw [hwindow, hid]

/-- **Any roster extends to one that fills free roster windows**, at no cost in coverage or in
roster windows. -/
theorem exists_filled {a : Var → Int} (ha : b.Admissible a) {windows : List String}
    (hwindows : ∀ windowId ∈ windows, windowId ∈ b.rosterWindows ∧ b.Free windowId) :
    ∃ a', b.Admissible a' ∧ b.unmetHours a' ≤ b.unmetHours a ∧
      ∀ windowId ∈ windows, b.unfilled a' windowId = 0 := by
  induction windows with
  | nil => exact ⟨a, ha, le_refl _, fun _ hmem => absurd hmem List.not_mem_nil⟩
  | cons windowId windows ih =>
    obtain ⟨a₁, ha₁, hunmet, hfilled⟩ := ih fun other hother =>
      hwindows other (List.mem_cons_of_mem _ hother)
    obtain ⟨hroster, hfree⟩ := hwindows windowId List.mem_cons_self
    have hbounds := unfilled_bounds ha₁ hroster
    by_cases hzero : b.unfilled a₁ windowId = 0
    · refine ⟨a₁, ha₁, hunmet, fun other hother => ?_⟩
      rcases List.mem_cons.mp hother with rfl | hother
      · exact hzero
      · exact hfilled other hother
    · -- the window is open: take a shift in it
      obtain ⟨c, hc, rfl⟩ := exists_shift hroster
      have hopen : ((b.windowVars c.1.shift.window.id).map a₁).sum = 0 := by
        unfold unfilled at hbounds hzero
        omega
      refine ⟨fill a₁ c, fill_admissible ha₁ hc hfree hopen,
        (unmetHours_fill hc hfree).trans hunmet,
        fun other hother => ?_⟩
      unfold unfilled
      rw [sum_fill_window hc]
      by_cases hsame : c.1.shift.window.id = other
      · rw [← hsame, hopen, if_pos rfl]
        rfl
      · rcases List.mem_cons.mp hother with heq | hother
        · exact absurd heq.symm hsame
        · have hother := hfilled other hother
          unfold unfilled at hother
          rw [if_neg hsame, add_zero]
          exact hother

end CpSatBuilder

end ShiftMind.Engine
