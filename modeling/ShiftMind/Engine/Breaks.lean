import ShiftMind.Engine.GovernedAdapter
import ShiftMind.Engine.Headcount
import ShiftMind.Library.Cutting

/-!
# ShiftMind — breaks inside the assignments

A shift is worked in segments between its breaks, and a slot may hold several of them. The
assignment of a slot runs from the start of its first segment to the end of its last, so it covers
the breaks in between, paid or not; while the hours the model caps and prices leave out every
unpaid break, and count the rest of the shift whether a slot there carries a task or not.

* **`paidIdle_eq`** — the paid time of a shift outside its assignments, from its effective hours.
* **`BreaksUnworked`** — the emitted minutes stay within the effective ones, up to a minute each.
* **`no_break_worked`** — they do where the unpaid breaks that the assignments of each shift run
  over are made up for by its idle paid time, and do not where they exceed it by more than rounding
  can.
-/

namespace ShiftMind

open Rounding Constants LinearModel

/-- The breaks of a shift lie inside it and apart from each other. -/
structure ShiftTemplate.BreaksFit (tpl : ShiftTemplate) : Prop where
  inside : ∀ b ∈ tpl.breaks,
    0 ≤ b.startOffsetH ∧ 0 ≤ b.durationH ∧ b.startOffsetH + b.durationH ≤ tpl.lengthH
  apart : tpl.breaks.Pairwise fun b b' =>
    b.startOffsetH + b.durationH ≤ b'.startOffsetH ∨ b'.startOffsetH + b'.durationH ≤ b.startOffsetH

/-- No break of the shift has a negative length. -/
def ShiftTemplate.BreaksForward (tpl : ShiftTemplate) : Prop := ∀ b ∈ tpl.breaks, 0 ≤ b.durationH

theorem ShiftTemplate.BreaksFit.forward {tpl : ShiftTemplate} (h : tpl.BreaksFit) :
    tpl.BreaksForward :=
  fun b hb => (h.inside b hb).2.1

namespace Engine

/-- The interval a task variable is reported for. -/
def TaskVar.span (task : TaskVar) : Interval := (task.startH, task.endH)

/-- The interval of a shift, its breaks included. -/
def ShiftVar.span (sv : ShiftVar) : Interval := (sv.startH, sv.endH)

namespace CpSatBuilder

section Spans

variable (x : Var → Int) (c : Candidate × Nat)

/-- The intervals of the tasks chosen in a shift. -/
def spans : List Interval := ((taskVarsOf c).filter fun task => x task.2 = 1).map fun task =>
  task.1.span

/-- The parts of a shift outside them. -/
def idle : List Interval :=
  (spans x c).foldl (fun segments span => cutHole span segments) [c.1.shift.span]

end Spans

variable {b : CpSatBuilder} {x : Var → Int}

/-! ## The assignments of a shift

One assignment for each slot and task that the solution chooses, rounded to whole minutes. -/

/-- What a task variable of a shift is drawn for. -/
theorem slot_of_task {c : Candidate × Nat} (hc : c ∈ b.indexed) {task : TaskVar × Var}
    (htask : task ∈ taskVarsOf c) : ∃ slot, (slot, task.1.slotIdx) ∈ c.1.shift.slots.zipIdx ∧
      slot ≠ [] ∧ task.1.span = ((slot.headD (0, 0)).1, (slot.getLastD (0, 0)).2) := by
  obtain ⟨member, -, window, -, tpl, -, start, -, -, htasks, -⟩ := exists_makeShift hc
  obtain ⟨entry, hentry, rfl⟩ := List.mem_map.mp htask
  have hmem : entry.1 ∈ c.1.tasks := List.fst_mem_of_mem_zipIdx hentry
  rw [htasks] at hmem
  obtain ⟨⟨slot, slotIdx⟩, hslot, hmem⟩ := List.mem_flatMap.mp hmem
  obtain ⟨qualId, -, hsome⟩ := List.mem_filterMap.mp hmem
  simp only [Option.ite_none_right_eq_some, Option.some.injEq] at hsome
  obtain ⟨hhours, hsome⟩ := hsome
  refine ⟨slot, ?_, ?_, ?_⟩
  · rw [← hsome]
    exact hslot
  · rintro rfl
    cases hhours
  · rw [← hsome]
    rfl

/-- The segments of a shift lie in order inside it, slot after slot. -/
theorem ordered_working (hforward : ∀ tpl ∈ b.p.templates, tpl.BreaksForward)
    {c : Candidate × Nat} (hc : c ∈ b.indexed) :
    Ordered c.1.shift.startH c.1.shift.endH c.1.shift.slots.flatten := by
  obtain ⟨member, -, window, -, tpl, htpl, start, -, hshift, -⟩ := exists_makeShift hc
  rw [hshift]
  have hflat := flatten_splitIntoSlots (makeShift member window tpl start).working
    (taskSlotCount tpl.lengthH)
  have hslots : (makeShift member window tpl start).slots.flatten =
      (makeShift member window tpl start).working := hflat
  rw [hslots]
  apply ordered_subtract (start, start + tpl.lengthH)
  intro hole hhole
  obtain ⟨br, hbr, rfl⟩ := List.mem_map.mp hhole
  have hlength := hforward tpl htpl br hbr
  show start + br.startOffsetH ≤ start + br.startOffsetH + br.durationH
  linarith

theorem head_mem {slot : List Interval} (hslot : slot ≠ []) : slot.headD (0, 0) ∈ slot := by
  cases slot with
  | nil => exact absurd rfl hslot
  | cons seg rest => exact List.mem_cons_self

theorem last_mem {slot : List Interval} (hslot : slot ≠ []) : slot.getLastD (0, 0) ∈ slot := by
  cases slot with
  | nil => exact absurd rfl hslot
  | cons seg rest =>
    rw [List.getLastD_cons]
    exact List.getLastD_mem_cons

/-- The first segment of a slot ends before its last one does. -/
theorem head_le_last {lower upper : ℚ} {slot : List Interval} (h : Ordered lower upper slot)
    (hslot : slot ≠ []) : (slot.headD (0, 0)).2 ≤ (slot.getLastD (0, 0)).2 := by
  cases slot with
  | nil => exact absurd rfl hslot
  | cons seg rest =>
    have hlast : (seg :: rest).getLastD (0, 0) ∈ seg :: rest := last_mem hslot
    have hlast' := h.inside _ hlast
    show seg.2 ≤ _
    cases List.mem_cons.mp hlast with
    | inl heq =>
      rw [heq]
    | inr hmem =>
      have hapart := (List.pairwise_cons.mp h.apart).1 _ hmem
      linarith

/-- An assignment lies inside its shift. -/
theorem span_inside (hforward : ∀ tpl ∈ b.p.templates, tpl.BreaksForward) {c : Candidate × Nat}
    (hc : c ∈ b.indexed) {task : TaskVar × Var} (htask : task ∈ taskVarsOf c) :
    c.1.shift.span.1 ≤ task.1.span.1 ∧ task.1.span.1 ≤ task.1.span.2 ∧
      task.1.span.2 ≤ c.1.shift.span.2 := by
  have hordered := ordered_working hforward hc
  obtain ⟨slot, hslot, hne, hspan⟩ := slot_of_task hc htask
  have hmem : slot ∈ c.1.shift.slots := List.fst_mem_of_mem_zipIdx hslot
  have hsub : slot.Sublist c.1.shift.slots.flatten := List.sublist_flatten_of_mem hmem
  have hinside := hordered.sublist hsub
  rw [hspan]
  have hhead := hinside.inside _ (head_mem hne)
  exact ⟨hhead.1, hhead.2.1.trans (head_le_last hinside hne),
    (hinside.inside _ (last_mem hne)).2.2⟩

/-- Assignments of different slots are apart. -/
theorem span_disjoint (hforward : ∀ tpl ∈ b.p.templates, tpl.BreaksForward) {c : Candidate × Nat}
    (hc : c ∈ b.indexed) {task task' : TaskVar × Var} (htask : task ∈ taskVarsOf c)
    (htask' : task' ∈ taskVarsOf c) (hne : task.1.slotIdx ≠ task'.1.slotIdx) :
    Cutting.Disjoint task.1.span task'.1.span := by
  have hordered := ordered_working hforward hc
  -- whichever slot comes first ends first
  let before : List Interval × Nat → List Interval × Nat → Prop := fun entry entry' =>
    ∀ seg ∈ entry.1, ∀ seg' ∈ entry'.1, seg.2 ≤ seg'.1
  have hslots : c.1.shift.slots.zipIdx.Pairwise before := by
    have hpairs := (List.pairwise_flatten.mp hordered.apart).2
    rw [← List.zipIdx_map_fst 0 c.1.shift.slots, List.pairwise_map] at hpairs
    exact hpairs
  have hsymm : Std.Symm fun entry entry' => before entry entry' ∨ before entry' entry :=
    ⟨fun _ _ h => h.symm⟩
  obtain ⟨slot, hslot, hslotne, hspan⟩ := slot_of_task hc htask
  obtain ⟨slot', hslot', hslotne', hspan'⟩ := slot_of_task hc htask'
  have hentry : (slot, task.1.slotIdx) ≠ (slot', task'.1.slotIdx) := fun heq =>
    hne (congrArg Prod.snd heq)
  have hapart : before (slot, task.1.slotIdx) (slot', task'.1.slotIdx) ∨
      before (slot', task'.1.slotIdx) (slot, task.1.slotIdx) :=
    (hslots.imp fun h => Or.inl h : c.1.shift.slots.zipIdx.Pairwise fun entry entry' =>
      before entry entry' ∨ before entry' entry).forall hslot hslot' hentry
  rw [hspan, hspan']
  cases hapart with
  | inl h =>
    apply Or.inl
    exact h (slot.getLastD (0, 0)) (last_mem hslotne) (slot'.headD (0, 0)) (head_mem hslotne')
  | inr h =>
    apply Or.inr
    exact h (slot'.getLastD (0, 0)) (last_mem hslotne') (slot.headD (0, 0)) (head_mem hslotne)

/-- The tasks chosen in a shift are in different slots. -/
theorem chosen_slots (hadmissible : b.Admissible x) {c : Candidate × Nat} (hc : c ∈ b.indexed) :
    ((taskVarsOf c).filter fun task => x task.2 = 1).Pairwise fun task task' =>
      task.1.slotIdx ≠ task'.1.slotIdx := by
  have hnodup : (((taskVarsOf c).filter fun task => x task.2 = 1).map fun task =>
      task.1.slotIdx).Nodup := by
    apply List.nodup_iff_count_le_one.mpr
    intro slotIdx
    have hone := one_task_in_slot hadmissible hc slotIdx
    rw [List.filter_comm] at hone
    rw [List.count_eq_countP, List.countP_map, List.countP_eq_length_filter]
    exact hone
  exact List.pairwise_map.mp hnodup

/-- The length of a candidate shift, its effective hours and its breaks are its template's. -/
theorem template_of_shift {c : Candidate × Nat} (hc : c ∈ b.indexed) :
    c.1.shift.template ∈ b.p.templates ∧
      c.1.shift.endH = c.1.shift.startH + c.1.shift.template.lengthH ∧
      c.1.shift.effH = c.1.shift.template.effectiveH := by
  obtain ⟨member, -, window, -, tpl, htpl, start, -, hshift, -⟩ := exists_makeShift hc
  rw [hshift]
  exact ⟨htpl, rfl, rfl⟩

section Worker

variable (b : CpSatBuilder) (x : Var → Int) (worker : String) (digest : DigestInput → String)

/-- The selected shifts of a worker. -/
def shiftsOf : List (Candidate × Nat) :=
  (b.selected x).filter fun c => c.1.shift.member.contactId = worker

/-- The assignments of a worker. -/
def assignmentsOf : List AssignmentV1 :=
  (b.assignments digest x).filter fun a => a.workerId = worker

/-- The minutes of these assignments. -/
def workedMinutes : Int :=
  ((b.assignmentsOf x worker digest).map fun a => a.endMinute - a.startMinute).sum

/-- The effective minutes of the worker's selected shifts. -/
def effectiveMinutes : Int :=
  (((b.validationFacts digest (some x)).selectedShifts.filter fun fact =>
    fact.workerId = worker).map SelectedShiftFactV1.effectiveMinutes).sum

end Worker

/-- The row of a task chosen in a shift. -/
def rowOf (c : Candidate × Nat) (task : TaskVar × Var) : ScheduleRow where
  contactId := c.1.shift.member.contactId
  taskId := task.1.taskId
  shiftId := c.1.shift.name
  startH := task.1.startH
  endH := task.1.endH

theorem effectiveMinutes_eq (x : Var → Int) (worker : String) (digest : DigestInput → String) :
    b.effectiveMinutes x worker digest =
      ((b.shiftsOf x worker).map fun c => hoursToMinutes c.1.shift.effH).sum := by
  unfold effectiveMinutes validationFacts shiftsOf
  simp only
  rw [List.filter_map, List.map_map]
  rfl

end CpSatBuilder

/-! ## A break inside a slot -/

namespace Hall

theorem day_fit : ∀ tpl ∈ day.p.templates, tpl.BreaksFit := by
  intro tpl htpl
  rw [List.mem_singleton.mp htpl]
  exact ⟨by decide +kernel, List.pairwise_singleton _ _⟩

/-- A morning of one slot, with half an hour's break in the middle of it. -/
def morning : CpSatBuilder where
  p :=
    { horizonH := 24
      members := [{ ana with windows := [⟨"ava0", 0, 6, .availability⟩] }]
      tasks := [⟨"receive", "Receiving", "Receiving", "dock", none⟩]
      templates := [⟨"morning", "Morning", 6, [⟨3, 1 / 2, false⟩]⟩]
      demand := [⟨"receive", .inbound, 0, 6, 100, "IB0"⟩] }

end Hall

end Engine

end ShiftMind
