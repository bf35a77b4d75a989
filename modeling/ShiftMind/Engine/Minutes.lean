import ShiftMind.Engine.Breaks
import ShiftMind.Engine.Starts

/-!
# ShiftMind — candidate shifts on whole minutes

The engine counts in hours and the contracts count in minutes. Where every window and template is
given in whole minutes, a candidate starts on a minute but for the rounding to four places, which
moves it by at most `0.003` of one; and everything in a shift lies whole minutes after its start. So
the minutes that are reported are the ones that were meant, and keep the order of the hours.

* **`SchedulingProblem.InMinutes`** — the problems whose times are whole minutes.
* **`OnMinutes`** — what that makes of a candidate shift.
* **`minutes_lt`**, **`minutes_gap`**, **`minutes_day`** — an order, a gap and a day survive the
  rounding.
-/

namespace ShiftMind

open Rounding Constants

/-- A time, or a length, of whole minutes. -/
def WholeMinutes (hours : ℚ) : Prop := ∃ minutes : ℤ, hours * 60 = minutes

theorem WholeMinutes.intCast (n : ℤ) : WholeMinutes n := ⟨n * 60, by push_cast; rfl⟩

theorem WholeMinutes.zero : WholeMinutes 0 := ⟨0, by norm_num⟩

theorem WholeMinutes.add {a b : ℚ} (ha : WholeMinutes a) (hb : WholeMinutes b) :
    WholeMinutes (a + b) := by
  obtain ⟨m, hm⟩ := ha
  obtain ⟨n, hn⟩ := hb
  exact ⟨m + n, by rw [add_mul, hm, hn]; push_cast; rfl⟩

theorem WholeMinutes.sub {a b : ℚ} (ha : WholeMinutes a) (hb : WholeMinutes b) :
    WholeMinutes (a - b) := by
  obtain ⟨m, hm⟩ := ha
  obtain ⟨n, hn⟩ := hb
  exact ⟨m - n, by rw [sub_mul, hm, hn]; push_cast; rfl⟩

theorem WholeMinutes.sum {lengths : List ℚ} (h : ∀ a ∈ lengths, WholeMinutes a) :
    WholeMinutes lengths.sum := by
  induction lengths with
  | nil => exact WholeMinutes.zero
  | cons a lengths ih =>
    rw [List.sum_cons]
    exact (h a List.mem_cons_self).add (ih fun a' ha' => h a' (List.mem_cons_of_mem _ ha'))

/-- **A problem in whole minutes**: its workers have different ids, its windows, templates and
breaks are whole minutes, and no break has a negative length. -/
structure SchedulingProblem.InMinutes (p : SchedulingProblem) : Prop where
  workers : (p.members.map Member.contactId).Nodup
  windows : ∀ member ∈ p.members, ∀ window ∈ member.windows,
    WholeMinutes window.startH ∧ WholeMinutes window.endH
  lengths : ∀ tpl ∈ p.templates, WholeMinutes tpl.lengthH
  breaks : ∀ tpl ∈ p.templates, ∀ br ∈ tpl.breaks,
    WholeMinutes br.startOffsetH ∧ WholeMinutes br.durationH
  forward : ∀ tpl ∈ p.templates, tpl.BreaksForward

namespace Engine

/-! ## Rounding to a minute -/

theorem hoursToMinutes_mono {t t' : ℚ} (h : t ≤ t') : hoursToMinutes t ≤ hoursToMinutes t' :=
  roundHalfEven_mono (by linarith)

/-- A time within `0.003` of a minute. -/
def NearMinute (hours : ℚ) (minute : ℤ) : Prop := |hours * 60 - minute| ≤ 3 / 1000

/-- It is reported as this minute. -/
theorem NearMinute.hoursToMinutes_eq {hours : ℚ} {minute : ℤ} (h : NearMinute hours minute) :
    hoursToMinutes hours = minute := by
  obtain ⟨hlow, hhigh⟩ := abs_le.mp h
  have hround := roundHalfEven_le (hours * 60)
  have hround' := le_roundHalfEven (hours * 60)
  have hlt : ((minute - 1 : ℤ) : ℚ) < (roundHalfEven (hours * 60) : ℤ) := by
    push_cast
    linarith
  have hlt' : ((roundHalfEven (hours * 60) : ℤ) : ℚ) < (minute + 1 : ℤ) := by
    push_cast
    linarith
  have hlt := Int.cast_lt.mp hlt
  have hlt' := Int.cast_lt.mp hlt'
  unfold hoursToMinutes
  omega

/-- Whole minutes later, it is as near. -/
theorem NearMinute.add {hours length : ℚ} {minute count : ℤ} (h : NearMinute hours minute)
    (hlength : length * 60 = count) : NearMinute (hours + length) (minute + count) := by
  have hsame : (hours + length) * 60 - ((minute + count : ℤ) : ℚ) = hours * 60 - minute := by
    push_cast
    linarith
  unfold NearMinute
  rw [hsame]
  exact h

theorem nearMinute_round4 {hours : ℚ} {minute : ℤ} (h : hours * 60 = minute) :
    NearMinute (round4 hours) minute := by
  have hround := round4_le hours
  have hround' := le_round4 hours
  apply abs_le.mpr
  constructor
  · linarith
  · linarith

theorem hoursToMinutes_of_whole {hours : ℚ} (h : WholeMinutes hours) :
    (hoursToMinutes hours : ℚ) = hours * 60 := by
  obtain ⟨minutes, hminutes⟩ := h
  unfold hoursToMinutes
  rw [hminutes, roundHalfEven_intCast]

/-- **A gap of two hours stays one of 120 minutes**, though it may be short by the tolerance. -/
theorem minutes_gap {stop start : ℚ} {m n : ℤ} (hstop : NearMinute stop m)
    (hstart : NearMinute start n) (hgap : defaultMinGapHours - epsilon ≤ start - stop) :
    m + 120 ≤ n := by
  have hstop := abs_le.mp hstop
  have hstart := abs_le.mp hstart
  norm_num [defaultMinGapHours, epsilon] at hgap
  have hlt : ((m + 119 : ℤ) : ℚ) < n := by
    push_cast
    linarith [hstop.1, hstart.2]
  have hlt := Int.cast_lt.mp hlt
  omega

/-- **The day a shift starts on** is that of the minute it starts on: midnight is a whole hour,
which no rounding crosses. -/
theorem minutes_day {hours : ℚ} {minute : ℤ} (h : hours * 60 = minute) :
    ⌊round4 hours / 24⌋ = minute / 1440 := by
  have hround := round4_le hours
  -- the first minute of the day is a fixed point, the last one is a minute before the next
  have hfirst : ((minute / 1440 * 24 : ℤ) : ℚ) ≤ hours := by
    have hle : ((minute / 1440 * 24 * 60 : ℤ) : ℚ) ≤ minute := Int.cast_le.mpr (by omega)
    push_cast at hle ⊢
    linarith
  have hlast : hours * 60 ≤ ((minute / 1440 * 1440 + 1439 : ℤ) : ℚ) := by
    rw [h]
    exact Int.cast_le.mpr (by omega)
  have hmidnight := round4_mono hfirst
  rw [round4_intCast] at hmidnight
  apply Int.floor_eq_iff.mpr
  push_cast at hmidnight hlast ⊢
  constructor
  · linarith
  · linarith

/-! ## Candidate shifts -/

/-- A candidate start is a whole minute, rounded to four places. -/
theorem start_of_candidateStarts {window : Window} {tpl : ShiftTemplate} {start : ℚ}
    (hstart : WholeMinutes window.startH) (hend : WholeMinutes window.endH)
    (hlength : WholeMinutes tpl.lengthH) (h : start ∈ candidateStarts window tpl) :
    ∃ hours, WholeMinutes hours ∧ start = round4 hours := by
  have hfits : window.startH - epsilon ≤ window.endH - tpl.lengthH := by
    by_contra hlate
    unfold candidateStarts at h
    simp only at h
    rw [if_pos (not_le.mp hlate)] at h
    cases h
  rcases (mem_uncutStarts hfits).mp ((mem_candidateStarts hfits).mp h).1 with
    hfirst | ⟨n, hwhole, -⟩ | ⟨hlatest, -⟩
  · exact ⟨window.startH, hstart, hfirst⟩
  · exact ⟨n, WholeMinutes.intCast n, by rw [hwhole, round4_intCast]⟩
  · exact ⟨_, hend.sub hlength, hlatest⟩

/-- The ends of what is left of a shift are its own or those of its breaks. -/
theorem ends_subtract {P : ℚ → Prop} {base : Interval} {holes : List Interval}
    (hbase : P base.1 ∧ P base.2) (hholes : ∀ hole ∈ holes, P hole.1 ∧ P hole.2) :
    ∀ seg ∈ subtract base holes, P seg.1 ∧ P seg.2 := by
  have hloop : ∀ (cuts segments : List Interval), (∀ hole ∈ cuts, P hole.1 ∧ P hole.2) →
      (∀ seg ∈ segments, P seg.1 ∧ P seg.2) →
      ∀ seg ∈ cuts.foldl (fun segments hole => cutHole hole segments) segments,
        P seg.1 ∧ P seg.2 := by
    intro cuts
    induction cuts with
    | nil => exact fun segments _ h => h
    | cons hole cuts ih =>
      intro segments hcuts h
      have hhole := hcuts hole List.mem_cons_self
      apply ih _ (fun hole' hmem => hcuts hole' (List.mem_cons_of_mem _ hmem))
      intro piece hpiece
      obtain ⟨seg, hseg, hpiece⟩ := List.mem_flatMap.mp hpiece
      have hends := h seg hseg
      split at hpiece
      · rw [List.mem_singleton.mp hpiece]
        exact hends
      · -- a piece runs up to the hole, or on from it
        rcases List.mem_append.mp hpiece with hpiece | hpiece
        · split at hpiece
          · rw [List.mem_singleton.mp hpiece]
            exact ⟨hends.1, hhole.1⟩
          · cases hpiece
        · split at hpiece
          · rw [List.mem_singleton.mp hpiece]
            exact ⟨hhole.2, hends.2⟩
          · cases hpiece
  have hsorted : ∀ hole ∈ holes.insertionSort intervalLe, P hole.1 ∧ P hole.2 := fun hole hmem =>
    hholes hole ((List.perm_insertionSort intervalLe holes).mem_iff.mp hmem)
  intro seg hseg
  have hone : ∀ seg ∈ [base], P seg.1 ∧ P seg.2 := by
    intro seg hmem
    rw [List.mem_singleton.mp hmem]
    exact hbase
  exact hloop _ [base] hsorted hone seg (List.mem_of_mem_filter hseg)

/-- **A shift on minutes**: it starts on a minute but for the rounding to four places, ends whole
minutes later, and works in segments of whole minutes. -/
structure OnMinutes (sv : ShiftVar) (minute : ℤ) : Prop where
  start : NearMinute sv.startH minute
  day : sv.day = minute / 1440
  stop : WholeMinutes (sv.endH - sv.startH)
  segments : ∀ seg ∈ sv.slots.flatten, seg.1 < seg.2 ∧
    WholeMinutes (seg.1 - sv.startH) ∧ WholeMinutes (seg.2 - sv.startH)
  effective : WholeMinutes sv.effH

/-- A time whole minutes after the start of such a shift is near the minute it is reported as. -/
theorem OnMinutes.near {sv : ShiftVar} {minute : ℤ} (h : OnMinutes sv minute) {t : ℚ}
    (ht : WholeMinutes (t - sv.startH)) : NearMinute t (hoursToMinutes t) := by
  obtain ⟨count, hcount⟩ := ht
  have hnear := h.start.add hcount
  rw [add_sub_cancel] at hnear
  rw [hnear.hoursToMinutes_eq]
  exact hnear

/-- **Times of one shift stay in their order**: they are at least a minute apart. -/
theorem OnMinutes.minutes_lt {sv : ShiftVar} {minute : ℤ} (h : OnMinutes sv minute) {t t' : ℚ}
    (ht : WholeMinutes (t - sv.startH)) (ht' : WholeMinutes (t' - sv.startH)) (hlt : t < t') :
    hoursToMinutes t < hoursToMinutes t' := by
  obtain ⟨count, hcount⟩ := ht
  obtain ⟨count', hcount'⟩ := ht'
  have hnear := h.start.add hcount
  have hnear' := h.start.add hcount'
  rw [add_sub_cancel] at hnear hnear'
  have hcounts : (count : ℚ) < count' := by linarith
  have hcounts := Int.cast_lt.mp hcounts
  rw [hnear.hoursToMinutes_eq, hnear'.hoursToMinutes_eq]
  omega

namespace CpSatBuilder

variable {b : CpSatBuilder}

/-- **Every candidate of a problem in whole minutes is on minutes.** -/
theorem onMinutes (hp : b.p.InMinutes) {c : Candidate × Nat} (hc : c ∈ b.indexed) :
    ∃ minute, OnMinutes c.1.shift minute := by
  obtain ⟨member, hmember, window, hwindow, tpl, htpl, start, hstart, hshift, -⟩ :=
    exists_makeShift hc
  have hends := hp.windows member hmember window hwindow
  have hlength := hp.lengths tpl htpl
  obtain ⟨hours, ⟨minute, hminute⟩, rfl⟩ :=
    start_of_candidateStarts hends.1 hends.2 hlength hstart
  rw [hshift]
  refine ⟨minute, nearMinute_round4 hminute, minutes_day hminute, ?_, ?_, ?_⟩
  · show WholeMinutes (round4 hours + tpl.lengthH - round4 hours)
    rw [add_sub_cancel_left]
    exact hlength
  · have hflat : (makeShift member window tpl (round4 hours)).slots.flatten =
        (makeShift member window tpl (round4 hours)).working :=
      flatten_splitIntoSlots _ (taskSlotCount tpl.lengthH)
    rw [hflat]
    intro seg hseg
    have hlong := of_decide_eq_true (List.mem_filter.mp hseg).2
    have hpos := epsilon_pos
    refine ⟨by linarith, ?_⟩
    -- the ends of the segments are those of the shift and of its breaks
    apply ends_subtract (P := fun t => WholeMinutes (t - round4 hours)) _ _ seg hseg
    · show WholeMinutes (round4 hours - round4 hours) ∧
        WholeMinutes (round4 hours + tpl.lengthH - round4 hours)
      rw [sub_self, add_sub_cancel_left]
      exact ⟨WholeMinutes.zero, hlength⟩
    · intro hole hhole
      obtain ⟨br, hbr, rfl⟩ := List.mem_map.mp hhole
      have hbreak := hp.breaks tpl htpl br hbr
      show WholeMinutes (round4 hours + br.startOffsetH - round4 hours) ∧
        WholeMinutes (round4 hours + br.startOffsetH + br.durationH - round4 hours)
      rw [add_assoc, add_sub_cancel_left, add_sub_cancel_left]
      exact ⟨hbreak.1, hbreak.1.add hbreak.2⟩
  · -- an effective length is the template's, less the unpaid breaks
    show WholeMinutes (max 0 (tpl.lengthH - tpl.unpaidBreakH))
    rcases max_choice (0 : ℚ) (tpl.lengthH - tpl.unpaidBreakH) with hmax | hmax
    · rw [hmax]
      exact WholeMinutes.zero
    · rw [hmax]
      apply hlength.sub
      apply WholeMinutes.sum
      intro length hmem
      obtain ⟨br, hbr, rfl⟩ := List.mem_map.mp hmem
      exact (hp.breaks tpl htpl br (List.mem_of_mem_filter hbr)).2

/-- What a task variable is reported for lies whole minutes after the start of its shift, and is
not empty. -/
theorem task_on_minutes (hp : b.p.InMinutes) {c : Candidate × Nat} (hc : c ∈ b.indexed)
    {task : TaskVar × Var} (htask : task ∈ taskVarsOf c) :
    hoursToMinutes task.1.startH < hoursToMinutes task.1.endH := by
  obtain ⟨minute, hminutes⟩ := onMinutes hp hc
  obtain ⟨slot, hslot, hne, hspan⟩ := slot_of_task hc htask
  have hsub : slot.Sublist c.1.shift.slots.flatten :=
    List.sublist_flatten_of_mem (List.fst_mem_of_mem_zipIdx hslot)
  have hordered := (ordered_working hp.forward hc).sublist hsub
  have hhead := hminutes.segments _ (hsub.subset (head_mem hne))
  have hlast := hminutes.segments _ (hsub.subset (last_mem hne))
  have hlt : (slot.headD (0, 0)).1 < (slot.getLastD (0, 0)).2 :=
    hhead.1.trans_le (head_le_last hordered hne)
  have hstart : task.1.startH = (slot.headD (0, 0)).1 := congrArg Prod.fst hspan
  have hend : task.1.endH = (slot.getLastD (0, 0)).2 := congrArg Prod.snd hspan
  rw [hstart, hend]
  exact hminutes.minutes_lt hhead.2.1 hlast.2.2 hlt

end CpSatBuilder

end Engine

end ShiftMind
