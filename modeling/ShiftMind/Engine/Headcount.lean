import Mathlib.Algebra.BigOperators.Ring.Finset
import ShiftMind.Engine.Roster

/-!
# ShiftMind — how many bodies a solution supplies

The headcount of a task and an hour adds up the task variables that touch the hour, one for each
slot. A member has at most one shift that touches an hour, and each slot carries at most one task;
but the two slots of one shift may touch the same hour, on either side of a break inside it.

* **`hcSupply_eq`** — the supply is the number of chosen task variables, over all shifts.
* **`one_shift_touches`** — no two chosen shifts of one member touch one hour.
* **`person_counted_once_iff`** — the supply is at most the number of members exactly when no shift
  carries the task in two slots that both touch the hour.
-/

namespace ShiftMind.Engine

open Rounding Constants LinearModel

/-- The task variable supplies the task in the hour. -/
def TaskVar.touches (task : TaskVar) (taskId : String) (hour : Int) : Bool :=
  task.taskId = taskId && (Dict.get? task.hourOverlap hour).isSome

namespace CpSatBuilder

section Chosen

variable (x : Var → Int) (taskId : String) (hour : Int)

/-- The chosen task variables of a shift that supply the task in the hour. -/
def chosenOf (c : Candidate × Nat) : List (TaskVar × Var) :=
  (taskVarsOf c).filter fun task => task.1.touches taskId hour && decide (x task.2 = 1)

/-- The shifts with such a task variable. -/
def shiftsOn (b : CpSatBuilder) : List (Candidate × Nat) :=
  b.indexed.filter fun c => !(chosenOf x taskId hour c).isEmpty

/-- The distinct members of these shifts. -/
def crew (b : CpSatBuilder) : List String :=
  ((b.shiftsOn x taskId hour).map fun c => c.1.shift.member.contactId).dedup

end Chosen

variable {b : CpSatBuilder} {x : Var → Int} {taskId : String} {hour : Int}

/-! ## The supply counts task variables -/

/-- The variables that supply a task in an hour, shift by shift. -/
theorem coverageTerms_vars (taskId : String) (hour : Int) :
    (b.coverageTerms taskId hour).map Prod.fst = b.indexed.flatMap fun c =>
      ((taskVarsOf c).filter fun task => task.1.touches taskId hour).map Prod.snd := by
  unfold coverageTerms taskVarsOf
  rw [List.map_flatMap]
  -- shift by shift, along its task variables
  refine List.flatMap_congr fun c _ => ?_
  obtain ⟨c, i⟩ := c
  simp only
  induction c.tasks.zipIdx with
  | nil => rfl
  | cons entry entries ih =>
    obtain ⟨task, k⟩ := entry
    rw [List.filterMap_cons, List.map_cons, List.filter_cons]
    by_cases htask : task.taskId = taskId
    · cases hhour : Dict.get? task.hourOverlap hour with
      | none =>
        simp only [htask, hhour, if_true, Option.map_none, TaskVar.touches, Option.isSome_none,
          Bool.and_false, Bool.false_eq_true, if_false]
        exact ih
      | some ov =>
        -- whatever the coefficient, the variable is the same
        have hvar : ∀ rate : ℚ, (if b.isInd taskId then (Var.task i k, (1 : ℚ)) else
            (Var.task i k, rate * ov * absenteeismFactor)).1 = Var.task i k := by
          intro rate
          split
          · rfl
          · rfl
        simp only [htask, hhour, if_true, Option.map_some, TaskVar.touches, Option.isSome_some,
          decide_true, Bool.and_true, List.map_cons, hvar, List.cons.injEq, true_and]
        exact ih
    · simp only [htask, if_false, TaskVar.touches, decide_false, Bool.false_and,
        Bool.false_eq_true]
      exact ih

/-- Over variables that are zero or one, a sum counts the ones. -/
theorem sum_eq_length_filter {α : Type} {value : α → Int} {items : List α}
    (h : ∀ a ∈ items, 0 ≤ value a ∧ value a ≤ 1) :
    (items.map value).sum = ((items.filter fun a => decide (value a = 1)).length : Int) := by
  induction items with
  | nil => rfl
  | cons a items ih =>
    have ha := h a List.mem_cons_self
    have hrest := ih fun a' ha' => h a' (List.mem_cons_of_mem _ ha')
    rw [List.map_cons, List.sum_cons, hrest]
    by_cases hone : value a = 1
    · rw [List.filter_cons_of_pos (by simp [hone]), List.length_cons]
      push_cast
      omega
    · rw [List.filter_cons_of_neg (by simp [hone])]
      omega

/-- **The supply of heads** is the number of chosen task variables. -/
theorem hcSupply_eq (hx : b.model.Solves x) :
    eval x (b.hcSupply taskId hour) =
      ((b.indexed.map fun c => (chosenOf x taskId hour c).length).sum : Nat) := by
  have hadmissible := admissible_of_solves hx
  unfold hcSupply
  rw [eval_sumOf, coverageTerms_vars, List.map_flatMap]
  have hshift : ∀ c ∈ b.indexed, (((((taskVarsOf c).filter fun task =>
      task.1.touches taskId hour).map Prod.snd).map x).sum : Int) =
        ((chosenOf x taskId hour c).length : Int) := by
    intro c hc
    rw [List.map_map, sum_eq_length_filter, List.filter_filter]
    · unfold chosenOf
      congr 3
      funext task
      exact Bool.and_comm _ _
    · intro task htask
      exact hadmissible.tasks c hc task (List.mem_of_mem_filter htask)
  rw [List.flatMap_def, List.sum_flatten, List.map_map, Function.comp_def,
    List.map_congr_left hshift, Nat.cast_list_sum, List.map_map]
  rfl

/-! ## A shift that touches an hour -/

/-- A shift of the model is the one built for a window of its member, at a start tried there. -/
theorem exists_makeShift {c : Candidate × Nat} (hc : c ∈ b.indexed) :
    ∃ member ∈ b.p.members, ∃ window ∈ member.windows, ∃ tpl ∈ b.p.templates,
      ∃ start ∈ candidateStarts window tpl, c.1.shift = makeShift member window tpl start ∧
        c.1.tasks = b.taskVars (b.qualIds member) c.1.shift ∧ c.1.tasks ≠ [] := by
  have hmem : c.1 ∈ b.candidates := List.fst_mem_of_mem_zipIdx hc
  obtain ⟨member, hmember, hmem⟩ := List.mem_flatMap.mp hmem
  obtain ⟨window, hwindow, hmem⟩ := List.mem_flatMap.mp hmem
  obtain ⟨tpl, htpl, hmem⟩ := List.mem_flatMap.mp hmem
  obtain ⟨start, hstart, hsome⟩ := List.mem_filterMap.mp hmem
  simp only [Option.ite_none_left_eq_some, Option.some.injEq] at hsome
  rw [← hsome.2]
  exact ⟨member, hmember, window, hwindow, tpl, htpl, start, hstart, rfl, rfl, hsome.1⟩

/-- The hours of a slot overlap one of its segments. -/
theorem exists_segment_of_slotHours {slot : List Interval} {hour : Int}
    (h : (Dict.get? (slotHours slot) hour).isSome = true) :
    ∃ seg ∈ slot, 0 < overlap seg (hour, hour + 1) := by
  unfold slotHours Dict.tally at h
  rw [Dict.get?_accumulate] at h
  -- some segment was split into the hour, for otherwise nothing was added under it
  have hentry : (slot.flatMap hourSplit).filter (fun entry => entry.1 = hour) ≠ [] := by
    intro hnil
    rw [hnil] at h
    cases h
  obtain ⟨entry, hentry⟩ := List.exists_mem_of_ne_nil _ hentry
  obtain ⟨hentry, hhour⟩ := List.mem_filter.mp hentry
  have hhour : entry.1 = hour := of_decide_eq_true hhour
  obtain ⟨seg, hseg, hsplit⟩ := List.mem_flatMap.mp hentry
  obtain ⟨hour', -, hsome⟩ := List.mem_filterMap.mp hsplit
  split at hsome
  · rename_i hpos
    cases hsome
    rw [← hhour]
    exact ⟨seg, hseg, hpos⟩
  · cases hsome

/-- **A shift touches an hour only from inside itself.** -/
theorem within_of_touches {c : Candidate × Nat} (hc : c ∈ b.indexed) {task : TaskVar × Var}
    (htask : task ∈ taskVarsOf c) (htouches : task.1.touches taskId hour = true) :
    c.1.shift.startH < hour + 1 ∧ (hour : ℚ) < c.1.shift.endH := by
  obtain ⟨member, -, window, -, tpl, -, start, -, hshift, htasks, -⟩ := exists_makeShift hc
  obtain ⟨entry, hentry, rfl⟩ := List.mem_map.mp htask
  have hmem : entry.1 ∈ c.1.tasks := List.fst_mem_of_mem_zipIdx hentry
  rw [htasks] at hmem
  obtain ⟨⟨slot, slotIdx⟩, hslot, hmem⟩ := List.mem_flatMap.mp hmem
  obtain ⟨qualId, -, hsome⟩ := List.mem_filterMap.mp hmem
  simp only [Option.ite_none_right_eq_some, Option.some.injEq] at hsome
  obtain ⟨-, hhour⟩ := Bool.and_eq_true_iff.mp htouches
  have hhour : (Dict.get? (slotHours slot) hour).isSome = true := by
    rw [← hsome.2] at hhour
    exact hhour
  obtain ⟨seg, hseg, hoverlap⟩ := exists_segment_of_slotHours hhour
  -- the hour is one of a slot's, the slot is of the shift, and the shift holds its segments
  have hslots : slot ∈ c.1.shift.slots := List.fst_mem_of_mem_zipIdx hslot
  have hworking : seg ∈ c.1.shift.working := by
    rw [hshift] at hslots ⊢
    have hflat := flatten_splitIntoSlots (makeShift member window tpl start).working
      (taskSlotCount tpl.lengthH)
    rw [← hflat]
    exact List.mem_flatten.mpr ⟨slot, hslots, hseg⟩
  have hinside : c.1.shift.startH ≤ seg.1 ∧ seg.2 ≤ c.1.shift.endH := by
    rw [hshift] at hworking ⊢
    exact inside_subtract hworking
  unfold overlap at hoverlap
  -- so the hour and the shift overlap
  have hpos : 0 < min seg.2 ((hour : ℚ) + 1) - max seg.1 hour := by
    by_contra hneg
    rw [max_eq_left (not_lt.mp hneg)] at hoverlap
    exact absurd hoverlap (lt_irrefl 0)
  have hstart := le_max_left seg.1 (hour : ℚ)
  have hstart' := le_max_right seg.1 (hour : ℚ)
  have hend := min_le_left seg.2 ((hour : ℚ) + 1)
  have hend' := min_le_right seg.2 ((hour : ℚ) + 1)
  constructor
  · linarith [hinside.1]
  · linarith [hinside.2]

/-! ## One shift of a member for each hour -/

/-- A shift that carries a chosen task is selected. -/
theorem selected_of_chosen (hadmissible : b.Admissible x) {c : Candidate × Nat}
    (hc : c ∈ b.indexed) {task : TaskVar × Var} (htask : task ∈ taskVarsOf c)
    (hchosen : x task.2 = 1) : x (.shift c.2) = 1 := by
  have hrule := hadmissible.linked c hc ⟨[(1, task.2), (-1, .shift c.2)], .le, 0⟩ (by
    simp only [linkConstraints, List.mem_append, List.mem_map]
    exact .inl (.inl ⟨task, htask, rfl⟩))
  have hbound := (hadmissible.shifts c hc).2
  simp only [holds_le, eval_cons, eval_nil] at hrule
  omega

/-- Two different items of a list are a pair of it, one way round or the other. -/
theorem pair_mem {α : Type} {a a' : α} {items : List α} (ha : a ∈ items) (ha' : a' ∈ items)
    (hne : a ≠ a') : (a, a') ∈ pairsOf items ∨ (a', a) ∈ pairsOf items := by
  induction items with
  | nil => cases ha
  | cons first rest ih =>
    simp only [pairsOf, List.mem_append, List.mem_map]
    cases List.mem_cons.mp ha with
    | inl hfirst =>
      cases List.mem_cons.mp ha' with
      | inl hfirst' => exact absurd (hfirst.trans hfirst'.symm) hne
      | inr hrest' => exact .inl (.inl ⟨a', hrest', by rw [hfirst]⟩)
    | inr hrest =>
      cases List.mem_cons.mp ha' with
      | inl hfirst' => exact .inr (.inl ⟨a, hrest, by rw [hfirst']⟩)
      | inr hrest' => exact (ih hrest hrest').imp .inr .inr

/-- The gap between two shifts is the same from either side. -/
theorem gapH_comm (a a' : ShiftVar) : gapH a a' = gapH a' a := by
  unfold gapH
  rw [max_comm, min_comm]

/-- **Two selected shifts of one member keep the least gap**, up to the tolerance. -/
theorem gap_of_selected (hadmissible : b.Admissible x) {c c' : Candidate × Nat}
    (hc : c ∈ b.indexed) (hc' : c' ∈ b.indexed)
    (hmember : c.1.shift.member.contactId = c'.1.shift.member.contactId) (hne : c ≠ c')
    (hselected : x (.shift c.2) = 1) (hselected' : x (.shift c'.2) = 1) :
    defaultMinGapHours - epsilon ≤ gapH c.1.shift c'.1.shift := by
  by_contra hgap
  rw [not_le] at hgap
  -- the two shifts stand in the group of one member
  have hgroup : c ∈ b.indexed.filter fun d =>
      d.1.shift.member.contactId = c.1.shift.member.contactId :=
    List.mem_filter.mpr ⟨hc, decide_eq_true rfl⟩
  have hgroup' : c' ∈ b.indexed.filter fun d =>
      d.1.shift.member.contactId = c.1.shift.member.contactId :=
    List.mem_filter.mpr ⟨hc', decide_eq_true hmember.symm⟩
  have hentry := Dict.mem_groupBy.mpr ⟨rfl, List.ne_nil_of_mem hgroup⟩
  -- so the model forbids selecting both
  have hforbidden : ∀ d d' : Candidate × Nat, (d, d') ∈ pairsOf (b.indexed.filter fun d =>
      d.1.shift.member.contactId = c.1.shift.member.contactId) →
      gapH d.1.shift d'.1.shift < defaultMinGapHours - epsilon →
      x (.shift d.2) + x (.shift d'.2) ≤ 1 := by
    intro d d' hpair hclose
    have hrule := hadmissible.members _ hentry ⟨[(1, .shift d.2), (1, .shift d'.2)], .le, 1⟩ (by
      simp only [memberConstraints, List.mem_append, List.mem_map]
      exact .inr ⟨(d, d'), List.mem_filter.mpr ⟨hpair, decide_eq_true hclose⟩, rfl⟩)
    simp only [holds_le, eval_cons, eval_nil] at hrule
    omega
  cases pair_mem hgroup hgroup' hne with
  | inl hpair =>
    have hrule := hforbidden c c' hpair hgap
    omega
  | inr hpair =>
    rw [gapH_comm] at hgap
    have hrule := hforbidden c' c hpair hgap
    omega

/-- **No two chosen shifts of one member touch one hour**: they would lie closer than the least
gap. -/
theorem one_shift_touches (hadmissible : b.Admissible x) {c c' : Candidate × Nat}
    (hc : c ∈ b.shiftsOn x taskId hour) (hc' : c' ∈ b.shiftsOn x taskId hour)
    (hmember : c.1.shift.member.contactId = c'.1.shift.member.contactId) : c = c' := by
  by_contra hne
  -- a shift that supplies the hour was chosen, and overlaps it
  have htouch : ∀ d ∈ b.shiftsOn x taskId hour, d ∈ b.indexed ∧ x (.shift d.2) = 1 ∧
      d.1.shift.startH < hour + 1 ∧ (hour : ℚ) < d.1.shift.endH := by
    intro d hd
    obtain ⟨hindexed, hchosen⟩ := List.mem_filter.mp hd
    have hchosen : chosenOf x taskId hour d ≠ [] := by
      intro hnil
      rw [hnil] at hchosen
      cases hchosen
    obtain ⟨task, htask⟩ := List.exists_mem_of_ne_nil _ hchosen
    obtain ⟨htask, hboth⟩ := List.mem_filter.mp htask
    obtain ⟨htouches, hone⟩ := Bool.and_eq_true_iff.mp hboth
    exact ⟨hindexed, selected_of_chosen hadmissible hindexed htask (of_decide_eq_true hone),
      within_of_touches hindexed htask htouches⟩
  have hshift := htouch c hc
  have hshift' := htouch c' hc'
  -- so the gap between the two is less than one hour
  have hgap := gap_of_selected hadmissible hshift.1 hshift'.1 hmember hne hshift.2.1 hshift'.2.1
  have hstart : max c.1.shift.startH c'.1.shift.startH < hour + 1 :=
    max_lt hshift.2.2.1 hshift'.2.2.1
  have hend : (hour : ℚ) < min c.1.shift.endH c'.1.shift.endH :=
    lt_min hshift.2.2.2 hshift'.2.2.2
  unfold gapH at hgap
  norm_num [defaultMinGapHours, epsilon] at hgap
  linarith

/-- The candidates stand at different positions. -/
theorem nodup_indexed : b.indexed.Nodup := by
  apply List.Nodup.of_map Prod.snd
  unfold indexed
  rw [List.zipIdx_map_snd]
  exact List.nodup_range'

/-- **The crew of an hour** has one member for each shift that carries the task in it. -/
theorem length_crew (hadmissible : b.Admissible x) :
    (b.crew x taskId hour).length = (b.shiftsOn x taskId hour).length := by
  have hmembers : ((b.shiftsOn x taskId hour).map fun c => c.1.shift.member.contactId).Nodup :=
    List.Nodup.map_on (fun c hc c' hc' => one_shift_touches hadmissible hc hc')
      (nodup_indexed.filter _)
  unfold crew
  rw [hmembers.dedup, List.length_map]

/-! ## One slot of a shift for each hour -/

/-- **A slot carries one task** at most. -/
theorem one_task_in_slot (hadmissible : b.Admissible x) {c : Candidate × Nat} (hc : c ∈ b.indexed)
    (slotIdx : Nat) : (((taskVarsOf c).filter fun task =>
      decide (task.1.slotIdx = slotIdx)).filter fun task => decide (x task.2 = 1)).length ≤ 1 := by
  by_cases hnone : ((taskVarsOf c).filter fun task => decide (task.1.slotIdx = slotIdx)) = []
  · rw [hnone]
    exact Nat.zero_le 1
  · -- the tasks of the slot add up to at most the shift
    have hgroup := Dict.mem_groupBy.mpr ⟨rfl, hnone⟩
    have hrule := hadmissible.linked c hc ⟨sumOf (((taskVarsOf c).filter fun task =>
        task.1.slotIdx = slotIdx).map Prod.snd) ++ [(-1, .shift c.2)], .le, 0⟩ (by
      simp only [linkConstraints, List.mem_append, List.mem_map]
      exact .inl (.inr ⟨_, hgroup, rfl⟩))
    have hbound := (hadmissible.shifts c hc).2
    simp only [holds_le, eval_append, eval_sumOf, eval_cons, eval_nil, List.map_map,
      Function.comp_def] at hrule
    rw [sum_eq_length_filter fun task htask =>
      hadmissible.tasks c hc task (List.mem_of_mem_filter htask)] at hrule
    omega

/-- A shift carries a task at most once in an hour exactly if it carries it in one slot. -/
theorem chosenOf_le_one_iff (hadmissible : b.Admissible x) {c : Candidate × Nat}
    (hc : c ∈ b.indexed) :
    (chosenOf x taskId hour c).length ≤ 1 ↔
      ∀ task ∈ chosenOf x taskId hour c, ∀ task' ∈ chosenOf x taskId hour c,
        task.1.slotIdx = task'.1.slotIdx := by
  constructor
  · intro hle task htask task' htask'
    have hlength := List.length_pos_of_mem htask
    obtain ⟨only, honly⟩ := List.length_eq_one_iff.mp (Nat.le_antisymm hle hlength)
    rw [honly, List.mem_singleton] at htask htask'
    rw [htask, htask']
  · intro hslot
    cases hchosen : chosenOf x taskId hour c with
    | nil => exact Nat.zero_le 1
    | cons task rest =>
      have htask : task ∈ chosenOf x taskId hour c := by
        rw [hchosen]
        exact List.mem_cons_self
      -- every chosen task is among the ones of that slot
      have hle : (chosenOf x taskId hour c).length ≤ (((taskVarsOf c).filter fun entry =>
          decide (entry.1.slotIdx = task.1.slotIdx)).filter fun entry =>
            decide (x entry.2 = 1)).length := by
        unfold chosenOf
        rw [List.filter_filter, ← List.countP_eq_length_filter, ← List.countP_eq_length_filter]
        apply List.countP_mono_left
        intro entry hentry hboth
        have hsame := hslot entry (List.mem_filter.mpr ⟨hentry, hboth⟩) task htask
        obtain ⟨-, hone⟩ := Bool.and_eq_true_iff.mp hboth
        simp only [Bool.and_eq_true_iff, hone, hsame, decide_true, and_self]
      rw [← hchosen]
      exact hle.trans (one_task_in_slot hadmissible hc task.1.slotIdx)

/-! ## A person is counted once

One slot of one shift for each hour: then nobody is two heads. -/

/-- Numbers add up to at most the count of the positive ones exactly if none exceeds one. -/
theorem sum_le_length_filter_iff {α : Type} {amount : α → Nat} {items : List α} :
    (items.map amount).sum ≤ (items.filter fun a => amount a != 0).length ↔
      ∀ a ∈ items, amount a ≤ 1 := by
  -- the positive numbers add up to their count at least
  have hle : ∀ items : List α, (items.filter fun a => amount a != 0).length ≤
      (items.map amount).sum := by
    intro items
    induction items with
    | nil => exact Nat.le_refl 0
    | cons a items ih =>
      rw [List.map_cons, List.sum_cons, List.filter_cons]
      by_cases hzero : amount a = 0
      · simp only [hzero, bne_self_eq_false, Bool.false_eq_true, if_false]
        omega
      · simp only [bne_iff_ne, ne_eq, hzero, not_false_eq_true, if_true, List.length_cons]
        omega
  induction items with
  | nil => simp
  | cons a items ih =>
    have hrest := hle items
    rw [List.map_cons, List.sum_cons, List.filter_cons, List.forall_mem_cons]
    have ih : (items.map amount).sum ≤ (items.filter fun a => amount a != 0).length ↔
        ∀ a ∈ items, amount a ≤ 1 := ih
    rw [← ih]
    by_cases hzero : amount a = 0
    · simp only [hzero, bne_self_eq_false, Bool.false_eq_true, if_false]
      omega
    · simp only [bne_iff_ne, ne_eq, hzero, not_false_eq_true, if_true, List.length_cons]
      omega

/-- **A person is counted once in an hour, exactly when** no shift carries the task in two slots
that both touch the hour. -/
theorem person_counted_once_iff (hx : b.model.Solves x) (taskId : String) (hour : Int) :
    eval x (b.hcSupply taskId hour) ≤ (b.crew x taskId hour).length ↔
      ∀ c ∈ b.indexed, ∀ task ∈ chosenOf x taskId hour c, ∀ task' ∈ chosenOf x taskId hour c,
        task.1.slotIdx = task'.1.slotIdx := by
  have hadmissible := admissible_of_solves hx
  have hshifts : b.shiftsOn x taskId hour =
      b.indexed.filter fun c => (chosenOf x taskId hour c).length != 0 := by
    unfold shiftsOn
    apply List.filter_congr
    intro c hc
    cases chosenOf x taskId hour c with
    | nil => rfl
    | cons task rest => rfl
  rw [hcSupply_eq hx, length_crew hadmissible, hshifts, Int.ofNat_le, sum_le_length_filter_iff]
  exact forall₂_congr fun c hc => chosenOf_le_one_iff hadmissible hc

end CpSatBuilder

/-! ## An hour on both sides of a break -/

namespace Hall

/-- Ana works a day with a break from a quarter past four, and hour 4 asks for two heads. -/
def ana : Member where
  contactId := "ana"
  name := "Ana"
  empType := "Casual"
  gradeId := "G1"
  ebaId := "E1"
  contractedHours := 38
  wagePerHour := 30
  windows := [⟨"ava0", 0, 8, .availability⟩]
  qualifications := [⟨"receive", 50⟩]

def day : CpSatBuilder where
  p :=
    { horizonH := 24
      members := [ana]
      tasks := [⟨"receive", "Receiving", "Receiving", "dock", none⟩]
      templates := [⟨"day", "Day", 8, [⟨17 / 4, 1 / 2, false⟩]⟩]
      demand := [⟨"receive", .indirect, 4, 5, 2, "IND0"⟩] }

/-- Ana receives before the break only, and a head is left unmet. -/
def beforeBreak : Var → Int
  | .shift _ | .task _ 0 | .unmetHc _ _ => 1
  | _ => 0

/-- Ana receives before and after the break. -/
def allDay : Var → Int
  | .shift _ | .task _ _ => 1
  | _ => 0

end Hall

open CpSatBuilder in
/-- Before the break, Ana is one head. -/
theorem person_counted_once_before_break :
    eval Hall.beforeBreak (Hall.day.hcSupply "receive" 4) ≤
      (Hall.day.crew Hall.beforeBreak "receive" 4).length := by
  have hx : Hall.day.model.Solves Hall.beforeBreak := by decide +kernel
  exact (person_counted_once_iff hx "receive" 4).mpr (by decide +kernel)

open CpSatBuilder in
/-- On both sides of the break, Ana alone meets the demand for two heads. -/
theorem person_counted_twice :
    Hall.day.model.Solves Hall.allDay ∧ Hall.day.crew Hall.allDay "receive" 4 = ["ana"] ∧
      ¬ eval Hall.allDay (Hall.day.hcSupply "receive" 4) ≤
        (Hall.day.crew Hall.allDay "receive" 4).length := by
  decide +kernel

end ShiftMind.Engine
