import ShiftMind.Domain.Problem
import ShiftMind.Library.Cutting
import ShiftMind.Library.Rounding
import Mathlib.Order.CompletePartialOrder
import Mathlib.Data.List.Sort
import Mathlib.Data.List.Dedup

/-!
# ShiftMind — candidate shifts

The generation half of `engine/cpsat/builder.py`: the interval helpers, the start times tried in a
window, and the shift a member could work there — its worked intervals, with the breaks cut out,
split into the slots that carry one task each.

* **`subtract`** — what is left of a shift once its breaks are cut out.
* **`splitIntoSlots`** — the worked intervals, grouped into slots; nothing is lost or reordered.
* **`makeShift`** — the candidate itself, under the name it is reported by.
-/

namespace ShiftMind.Engine

open Rounding Constants

abbrev Interval := ℚ × ℚ

/-! ## Interval helpers -/

/-- `_overlap`. -/
def overlap (a b : Interval) : ℚ := max 0 (min a.2 b.2 - max a.1 b.1)

/-- The order `sorted` puts intervals in. -/
def intervalLe (a b : Interval) : Prop := a.1 < b.1 ∨ (a.1 = b.1 ∧ a.2 ≤ b.2)

instance : DecidableRel intervalLe := fun _ _ => inferInstanceAs (Decidable (_ ∨ _))

/-- One pass of the loop of `_subtract`: the segments without one hole. -/
def cutHole (hole : Interval) (segments : List Interval) : List Interval :=
  segments.flatMap fun seg =>
    if hole.2 ≤ seg.1 ∨ seg.2 ≤ hole.1 then [seg]
    else
      (if seg.1 < hole.1 then [(seg.1, hole.1)] else []) ++
        (if hole.2 < seg.2 then [(hole.2, seg.2)] else [])

/-- `_subtract`. -/
def subtract (base : Interval) (holes : List Interval) : List Interval :=
  ((holes.insertionSort intervalLe).foldl (fun segments hole => cutHole hole segments)
    [base]).filter
    fun seg => epsilon < seg.2 - seg.1

/-- One pass of the loop of `_split_into_slots`, on `(groups, cur, acc)`. -/
def splitStep (target : ℚ) (nSlots : Nat) (state : List (List Interval) × List Interval × ℚ)
    (seg : Interval) : List (List Interval) × List Interval × ℚ :=
  let (groups, cur, acc) := state
  let cur := cur ++ [seg]
  let acc := acc + (seg.2 - seg.1)
  if target - epsilon ≤ acc ∧ groups.length + 1 < nSlots then (groups ++ [cur], [], 0)
  else (groups, cur, acc)

/-- `_split_into_slots`. -/
def splitIntoSlots (working : List Interval) (nSlots : Nat) : List (List Interval) :=
  if nSlots ≤ 1 ∨ working.length ≤ 1 then [working]
  else
    let target := (working.map fun seg => seg.2 - seg.1).sum / nSlots
    let (groups, cur, _) := working.foldl (splitStep target nSlots) ([], [], 0)
    if cur = [] then groups else groups ++ [cur]

/-! ## Start times -/

/-- `round(x, 4)`. -/
def round4 (x : ℚ) : ℚ := roundHalfEven (x * 10000) / 10000

/-- The grid points `g`, from the first one not before the window's start, while
`g <= latest + 1e-9`. -/
def gridPoints (window : Window) (latest : ℚ) : List ℚ :=
  let first := ⌈window.startH / shiftStartGridH⌉ * shiftStartGridH
  (List.range (⌊(latest + epsilon - first) / shiftStartGridH⌋ + 1).toNat).map fun k =>
    first + k * shiftStartGridH

/-- `_candidate_starts`. -/
def candidateStarts (window : Window) (tpl : ShiftTemplate) : List ℚ :=
  let latest := window.endH - tpl.lengthH
  if latest < window.startH - epsilon then []
  else
    let onGrid :=
      ((gridPoints window latest).filter fun g => window.startH + epsilon < g).map round4
    let starts := window.startH :: onGrid
    let starts :=
      if starts.getLastD window.startH < latest - epsilon then starts ++ [round4 latest] else starts
    let uniq := (((starts.filter fun s => window.startH - epsilon ≤ s ∧ s ≤ latest + epsilon).map
      round4).dedup).insertionSort (· ≤ ·)
    uniq.take maxStartsPerTemplate

/-! ## The candidate shift -/

structure ShiftVar where
  member : Member
  window : Window
  template : ShiftTemplate
  startH : ℚ
  endH : ℚ
  /-- gross length minus unpaid breaks -/
  effH : ℚ
  /-- worked intervals, breaks removed -/
  working : List Interval
  slots : List (List Interval)
  deriving DecidableEq, Repr

/-- `_make_shift`. -/
def makeShift (member : Member) (window : Window) (tpl : ShiftTemplate) (start : ℚ) : ShiftVar :=
  let stop := start + tpl.lengthH
  let holes := tpl.breaks.map fun b =>
    (start + b.startOffsetH, start + b.startOffsetH + b.durationH)
  let working := subtract (start, stop) holes
  { member := member
    window := window
    template := tpl
    startH := start
    endH := stop
    effH := tpl.effectiveH
    working := working
    slots := splitIntoSlots working (taskSlotCount tpl.lengthH) }

/-- `text[:6]`. -/
def take6 (text : String) : String := String.ofList (text.toList.take 6)

/-- `int(x)`: towards zero. -/
def truncate (x : ℚ) : Int := x.num.tdiv x.den

/-- The name of the shift's variable, which is also the id it is reported under. -/
def ShiftVar.name (sv : ShiftVar) : String :=
  "shift_" ++ take6 sv.member.contactId ++ "_" ++ sv.window.id ++ "_" ++ take6 sv.template.id ++
    "_" ++ toString (truncate (sv.startH * 10))

/-- The day a shift starts on. -/
def ShiftVar.day (sv : ShiftVar) : Int := ⌊sv.startH / 24⌋

/-! ## What the helpers keep

The segments of a shift lie one after another inside it as long as no break has a negative length,
and splitting them into slots neither drops nor reorders one.
-/

/-- Segments that lie in order inside an interval. -/
structure Ordered (lower upper : ℚ) (segments : List Interval) : Prop where
  inside : ∀ seg ∈ segments, lower ≤ seg.1 ∧ seg.1 ≤ seg.2 ∧ seg.2 ≤ upper
  apart : segments.Pairwise fun a b => a.2 ≤ b.1

theorem Ordered.sublist {lower upper : ℚ} {segments segments' : List Interval}
    (h : Ordered lower upper segments) (hsub : segments'.Sublist segments) :
    Ordered lower upper segments' :=
  ⟨fun seg hseg => h.inside seg (hsub.subset hseg), h.apart.sublist hsub⟩

/-- What is left of one segment once a hole is cut out lies in order inside the segment. -/
theorem ordered_cut {seg : Interval} (hseg : seg.1 ≤ seg.2) {hole : Interval}
    (hhole : hole.1 ≤ hole.2) : Ordered seg.1 seg.2 (cutHole hole [seg]) := by
  unfold cutHole
  simp only [List.flatMap_cons, List.flatMap_nil, List.append_nil]
  split
  · exact ⟨by simp [hseg], List.pairwise_singleton _ _⟩
  · rename_i hcut
    rw [not_or, not_le, not_le] at hcut
    refine ⟨?_, ?_⟩
    · intro piece hpiece
      rcases List.mem_append.mp hpiece with hpiece | hpiece
      · split at hpiece
        · rename_i hbefore
          rw [List.mem_singleton.mp hpiece]
          exact ⟨le_refl _, hbefore.le, hcut.2.le⟩
        · cases hpiece
      · split at hpiece
        · rename_i hafter
          rw [List.mem_singleton.mp hpiece]
          exact ⟨hcut.1.le, hafter.le, le_refl _⟩
        · cases hpiece
    · split <;> split <;> simp [hhole]

/-- Cutting a hole out of segments in order leaves segments in order. -/
theorem Ordered.cutHole {lower upper : ℚ} {segments : List Interval}
    (h : Ordered lower upper segments) {hole : Interval} (hhole : hole.1 ≤ hole.2) :
    Ordered lower upper (cutHole hole segments) := by
  have hcut : ∀ seg ∈ segments, Ordered seg.1 seg.2 (Engine.cutHole hole [seg]) :=
    fun seg hseg => ordered_cut (h.inside seg hseg).2.1 hhole
  have hflat : Engine.cutHole hole segments =
      segments.flatMap fun seg => Engine.cutHole hole [seg] := by
    simp [Engine.cutHole]
  rw [hflat]
  refine ⟨?_, ?_⟩
  · intro piece hpiece
    obtain ⟨seg, hseg, hpiece⟩ := List.mem_flatMap.mp hpiece
    have hpiece' := (hcut seg hseg).inside piece hpiece
    have hseg' := h.inside seg hseg
    exact ⟨by linarith [hpiece'.1, hseg'.1], hpiece'.2.1, by linarith [hpiece'.2.2, hseg'.2.2]⟩
  · refine List.pairwise_flatMap.mpr ⟨fun seg hseg => (hcut seg hseg).apart, ?_⟩
    refine h.apart.imp_of_mem fun {a b} ha hb hab piece hpiece piece' hpiece' => ?_
    have := ((hcut a ha).inside piece hpiece).2.2
    have := ((hcut b hb).inside piece' hpiece').1
    linarith

/-- The pieces that the holes leave lie in order inside the interval. -/
theorem ordered_cuts {base : Interval} (hbase : base.1 ≤ base.2) {holes : List Interval}
    (hholes : ∀ hole ∈ holes, hole.1 ≤ hole.2) :
    Ordered base.1 base.2 (Cutting.cuts holes [base]) := by
  -- the invariant of the loop over the holes
  have hloop : ∀ (cuts segments : List Interval), (∀ hole ∈ cuts, hole.1 ≤ hole.2) →
      Ordered base.1 base.2 segments → Ordered base.1 base.2 (Cutting.cuts cuts segments) := by
    intro cuts
    induction cuts with
    | nil => exact fun segments _ h => h
    | cons hole cuts ih =>
      intro segments hcuts h
      exact ih _ (fun hole' hmem => hcuts hole' (List.mem_cons_of_mem _ hmem))
        (h.cutHole (hcuts hole List.mem_cons_self))
  exact hloop holes [base] hholes ⟨by simp [hbase], List.pairwise_singleton _ _⟩

/-- The holes make at most one piece more each. -/
theorem length_cuts {base : Interval} (hbase : base.1 ≤ base.2) {holes : List Interval}
    (hholes : ∀ hole ∈ holes, hole.1 ≤ hole.2) :
    (Cutting.cuts holes [base]).length ≤ holes.length + 1 := by
  have hloop : ∀ (cuts segments : List Interval), (∀ hole ∈ cuts, hole.1 ≤ hole.2) →
      Ordered base.1 base.2 segments →
      (Cutting.cuts cuts segments).length ≤ cuts.length + segments.length := by
    intro cuts
    induction cuts with
    | nil =>
      intro segments _ _
      show segments.length ≤ 0 + segments.length
      omega
    | cons hole cuts ih =>
      intro segments hcuts h
      have hone : (Cutting.cut hole segments).length ≤ segments.length + 1 :=
        Cutting.length_cut h.apart
      have hrest : (Cutting.cuts cuts (Cutting.cut hole segments)).length ≤
          cuts.length + (Cutting.cut hole segments).length :=
        ih _ (fun hole' hmem => hcuts hole' (List.mem_cons_of_mem _ hmem))
          (h.cutHole (hcuts hole List.mem_cons_self))
      show (Cutting.cuts cuts (Cutting.cut hole segments)).length ≤ _
      rw [List.length_cons]
      omega
  exact hloop holes [base] hholes ⟨by simp [hbase], List.pairwise_singleton _ _⟩

/-- **What is left of a shift lies in order inside it**, whatever breaks of nonnegative length are
cut out. -/
theorem ordered_subtract (base : Interval) {holes : List Interval}
    (hholes : ∀ hole ∈ holes, hole.1 ≤ hole.2) :
    Ordered base.1 base.2 (subtract base holes) := by
  have hsorted : ∀ hole ∈ holes.insertionSort intervalLe, hole.1 ≤ hole.2 := fun hole hmem =>
    hholes hole ((List.perm_insertionSort intervalLe holes).mem_iff.mp hmem)
  by_cases hbase : base.1 ≤ base.2
  · exact (ordered_cuts hbase hsorted).sublist List.filter_sublist
  · -- a shift of negative length: every cut leaves it whole or nothing, and it is filtered out
    rw [not_le] at hbase
    have hloop : ∀ (cuts segments : List Interval), (∀ hole ∈ cuts, hole.1 ≤ hole.2) →
        (∀ seg ∈ segments, seg = base) →
        ∀ seg ∈ cuts.foldl (fun segments hole => cutHole hole segments) segments, seg = base := by
      intro cuts
      induction cuts with
      | nil => exact fun segments _ h => h
      | cons hole cuts ih =>
        intro segments hcuts h
        refine ih _ (fun hole' hmem => hcuts hole' (List.mem_cons_of_mem _ hmem)) ?_
        intro piece hpiece
        obtain ⟨seg, hseg, hpiece⟩ := List.mem_flatMap.mp hpiece
        rw [h seg hseg] at hpiece
        split at hpiece
        · exact List.mem_singleton.mp hpiece
        · rename_i hcut
          rw [not_or, not_le, not_le] at hcut
          rw [if_neg (by linarith), if_neg (by linarith)] at hpiece
          cases hpiece
    have hempty : subtract base holes = [] := by
      refine List.filter_eq_nil_iff.mpr fun seg hseg => ?_
      rw [hloop _ [base] hsorted (by simp) seg hseg]
      simp only [decide_eq_true_eq, not_lt]
      have hpos : (0 : ℚ) < epsilon := by norm_num [epsilon]
      linarith
    rw [hempty]
    exact ⟨by simp, .nil⟩

/-- Every cut stays inside, whatever the breaks are. -/
theorem inside_subtract {base seg : Interval} {holes : List Interval}
    (h : seg ∈ subtract base holes) : base.1 ≤ seg.1 ∧ seg.2 ≤ base.2 := by
  -- by induction on the cuts, for whatever pieces are left so far
  have hloop : ∀ (cuts segments : List Interval),
      (∀ seg ∈ segments, base.1 ≤ seg.1 ∧ seg.2 ≤ base.2) →
      ∀ seg ∈ cuts.foldl (fun segments hole => cutHole hole segments) segments,
        base.1 ≤ seg.1 ∧ seg.2 ≤ base.2 := by
    intro cuts
    induction cuts with
    | nil => exact fun segments h => h
    | cons hole cuts ih =>
      intro segments hsegments
      refine ih _ fun piece hpiece => ?_
      obtain ⟨seg, hseg, hpiece⟩ := List.mem_flatMap.mp hpiece
      have hinside := hsegments seg hseg
      split at hpiece
      · rw [List.mem_singleton.mp hpiece]
        exact hinside
      · rename_i hcut
        -- a hole that cuts leaves at most a piece before and one after it
        rw [not_or, not_le, not_le] at hcut
        rcases List.mem_append.mp hpiece with hpiece | hpiece
        · split at hpiece
          · rw [List.mem_singleton.mp hpiece]
            exact ⟨hinside.1, hcut.2.le.trans hinside.2⟩
          · cases hpiece
        · split at hpiece
          · rw [List.mem_singleton.mp hpiece]
            exact ⟨hinside.1.trans hcut.1.le, hinside.2⟩
          · cases hpiece
  exact hloop _ [base] (by simp) seg (List.mem_of_mem_filter h)

/-- Splitting neither drops nor reorders a segment. -/
theorem flatten_splitIntoSlots (working : List Interval) (nSlots : Nat) :
    (splitIntoSlots working nSlots).flatten = working := by
  unfold splitIntoSlots
  split
  · simp
  · -- along the segments: closed slots, the open one and what is left keep their order
    have hloop : ∀ (target : ℚ) (segs : List Interval)
        (state : List (List Interval) × List Interval × ℚ),
        (segs.foldl (splitStep target nSlots) state).1.flatten ++
          (segs.foldl (splitStep target nSlots) state).2.1 =
          state.1.flatten ++ state.2.1 ++ segs := by
      intro target segs
      induction segs with
      | nil => intro state; simp
      | cons seg segs ih =>
        intro state
        rw [List.foldl_cons, ih]
        unfold splitStep
        simp only
        split <;> simp
    have hfold := hloop ((working.map fun seg => seg.2 - seg.1).sum / nSlots) working ([], [], 0)
    simp only [List.flatten_nil, List.nil_append] at hfold
    simp only
    split
    · rename_i hcur
      rw [hcur, List.append_nil] at hfold
      exact hfold
    · rw [List.flatten_append]
      simpa using hfold

/-! ## Nothing but slivers is lost

What the filter drops is measured: its pieces are leftover gaps, each of at most `1e-9`, and no more
than the holes make. -/

/-- Of pieces in order, two different ones share no point. -/
theorem Ordered.disjoint_filter {lower upper : ℚ} {pieces : List Interval}
    (h : Ordered lower upper pieces) (p : Interval → Bool) :
    Disjoint (Cutting.covered (pieces.filter p))
      (Cutting.covered (pieces.filter fun q => !p q)) := by
  have hapart : pieces.Pairwise fun a b => a.2 ≤ b.1 ∨ b.2 ≤ a.1 := h.apart.imp Or.inl
  rw [Set.disjoint_left]
  intro t ⟨a, ha, hta⟩ ⟨b, hb, htb⟩
  obtain ⟨hmem, hp⟩ := List.mem_filter.mp ha
  obtain ⟨hmem', hp'⟩ := List.mem_filter.mp hb
  have hne : a ≠ b := by
    intro heq
    rw [← heq, hp] at hp'
    cases hp'
  have hsymm : Std.Symm fun a b : Interval => a.2 ≤ b.1 ∨ b.2 ≤ a.1 := ⟨fun _ _ h => h.symm⟩
  rcases hapart.forall hmem hmem' hne with hle | hle
  · exact absurd (hta.2.trans_le hle) (not_lt.mpr htb.1)
  · exact absurd (htb.2.trans_le hle) (not_lt.mpr hta.1)

/-- The pieces that a filter keeps and those that it drops cover what all of them do. -/
theorem covered_filter (pieces : List Interval) (p : Interval → Bool) :
    Cutting.covered (pieces.filter p) ∪ Cutting.covered (pieces.filter fun q => !p q) =
      Cutting.covered pieces := by
  ext t
  constructor
  · intro ht
    rcases ht with ⟨piece, hpiece, ht⟩ | ⟨piece, hpiece, ht⟩
    · exact ⟨piece, List.mem_of_mem_filter hpiece, ht⟩
    · exact ⟨piece, List.mem_of_mem_filter hpiece, ht⟩
  · intro ⟨piece, hpiece, ht⟩
    cases hp : p piece with
    | true => exact .inl ⟨piece, List.mem_filter.mpr ⟨hpiece, hp⟩, ht⟩
    | false => exact .inr ⟨piece, List.mem_filter.mpr ⟨hpiece, by rw [hp]; rfl⟩, ht⟩

/-- A gap between holes: it starts with the interval or where a hole ends, and ends with the
interval or where a hole starts. -/
structure Gap (base : Interval) (holes : List Interval) (seg : Interval) : Prop where
  starts : seg.1 = base.1 ∨ ∃ hole ∈ holes, seg.1 = hole.2
  ends : seg.2 = base.2 ∨ ∃ hole ∈ holes, seg.2 = hole.1

/-- Every piece that the holes leave is a gap between them. -/
theorem gap_of_mem_cuts {base seg : Interval} {holes : List Interval}
    (h : seg ∈ Cutting.cuts (holes.insertionSort intervalLe) [base]) : Gap base holes seg := by
  have hmem : ∀ hole, hole ∈ holes.insertionSort intervalLe → hole ∈ holes := fun hole hhole =>
    (List.perm_insertionSort intervalLe holes).mem_iff.mp hhole
  obtain ⟨hstart, hstop⟩ := Cutting.ends_cuts h
  constructor
  · rcases hstart with ⟨piece, hpiece, heq⟩ | ⟨hole, hhole, heq⟩
    · exact .inl (List.mem_singleton.mp hpiece ▸ heq)
    · exact .inr ⟨hole, hmem hole hhole, heq⟩
  · rcases hstop with ⟨piece, hpiece, heq⟩ | ⟨hole, hhole, heq⟩
    · exact .inl (List.mem_singleton.mp hpiece ▸ heq)
    · exact .inr ⟨hole, hmem hole hhole, heq⟩

/-- **What `subtract` leaves out** of the interval without its holes are gaps of at most `1e-9`,
which share no point with what it returns; the gaps, kept and left out, are at most one more than
the holes. -/
theorem covered_subtract (base : Interval) {holes : List Interval}
    (hholes : ∀ hole ∈ holes, hole.1 ≤ hole.2) :
    ∃ slivers : List Interval,
      (∀ sliver ∈ slivers, Gap base holes sliver ∧ sliver.1 ≤ sliver.2 ∧
        sliver.2 - sliver.1 ≤ epsilon) ∧
      (subtract base holes).length + slivers.length ≤ holes.length + 1 ∧
      Disjoint (Cutting.covered (subtract base holes)) (Cutting.covered slivers) ∧
      Cutting.covered (subtract base holes) ∪ Cutting.covered slivers =
        Set.Ico base.1 base.2 \ Cutting.covered holes := by
  have hperm := List.perm_insertionSort intervalLe holes
  have hsorted : ∀ hole ∈ holes.insertionSort intervalLe, hole.1 ≤ hole.2 := fun hole hmem =>
    hholes hole (hperm.mem_iff.mp hmem)
  -- cutting in sorted order leaves the same points
  have hpoints : Cutting.covered (Cutting.cuts (holes.insertionSort intervalLe) [base]) =
      Set.Ico base.1 base.2 \ Cutting.covered holes := by
    rw [Cutting.covered_cuts, Cutting.covered_singleton]
    congr 1
    ext t
    show (∃ hole ∈ holes.insertionSort intervalLe, _) ↔ ∃ hole ∈ holes, _
    simp only [hperm.mem_iff]
  by_cases hbase : base.1 ≤ base.2
  · -- the slivers are the pieces that the filter drops
    refine ⟨(Cutting.cuts (holes.insertionSort intervalLe) [base]).filter fun seg =>
      !decide (epsilon < seg.2 - seg.1), ?_, ?_, ?_, ?_⟩
    · intro sliver hsliver
      obtain ⟨hmem, hshort⟩ := List.mem_filter.mp hsliver
      exact ⟨gap_of_mem_cuts hmem, ((ordered_cuts hbase hsorted).inside sliver hmem).2.1,
        by simpa using hshort⟩
    · have hlength := length_cuts hbase hsorted
      rw [hperm.length_eq] at hlength
      -- the filter parts the pieces into those kept and those dropped
      calc (subtract base holes).length + _
          = (Cutting.cuts (holes.insertionSort intervalLe) [base]).length :=
            (List.length_eq_length_filter_add _).symm
        _ ≤ holes.length + 1 := hlength
    · exact (ordered_cuts hbase hsorted).disjoint_filter _
    · rw [← hpoints]
      exact covered_filter _ _
  · -- an interval of negative length has no points
    have hnone : Set.Ico base.1 base.2 = ∅ := Set.Ico_eq_empty fun hlt => hbase hlt.le
    have hnil : subtract base holes = [] := by
      apply List.eq_nil_iff_forall_not_mem.mpr
      intro piece hmem
      have hinside := (ordered_subtract base hholes).inside piece hmem
      exact hbase (hinside.1.trans (hinside.2.1.trans hinside.2.2))
    have hempty : Cutting.covered ([] : List Interval) = ∅ := by
      ext t
      simp [Cutting.covered]
    refine ⟨[], fun _ hmem => absurd hmem List.not_mem_nil, ?_, ?_, ?_⟩
    · rw [hnil]
      exact Nat.zero_le _
    · rw [hnil, hempty]
      exact Set.empty_disjoint _
    · rw [hnil, hempty, hnone]
      simp

/-! ## How many slots there are -/

/-- **While the slots are closed**: there is room for one more, and none is empty. -/
structure SlotsClosed (nSlots : Nat) (groups : List (List Interval)) : Prop where
  room : groups.length + 1 ≤ nSlots
  filled : ∀ group ∈ groups, group ≠ []

/-- One pass keeps that. -/
theorem SlotsClosed.splitStep {nSlots : Nat} {target : ℚ}
    {state : List (List Interval) × List Interval × ℚ} (h : SlotsClosed nSlots state.1)
    (seg : Interval) : SlotsClosed nSlots (splitStep target nSlots state seg).1 := by
  obtain ⟨groups, cur, acc⟩ := state
  unfold Engine.splitStep
  simp only
  split
  · rename_i hclose
    constructor
    · show (groups ++ [cur ++ [seg]]).length + 1 ≤ nSlots
      rw [List.length_append, List.length_singleton]
      omega
    · intro group hmem
      rcases List.mem_append.mp hmem with hold | hnew
      · exact h.filled group hold
      · rw [List.mem_singleton.mp hnew]
        simp
  · exact h

theorem SlotsClosed.foldl {nSlots : Nat} {target : ℚ} (segs : List Interval)
    {state : List (List Interval) × List Interval × ℚ} (h : SlotsClosed nSlots state.1) :
    SlotsClosed nSlots (segs.foldl (Engine.splitStep target nSlots) state).1 := by
  induction segs generalizing state with
  | nil => exact h
  | cons seg segs ih =>
    rw [List.foldl_cons]
    exact ih (h.splitStep seg)

/-- The slots are at most as many as were asked for, and there is work in each if there is any. -/
theorem slots_of_splitIntoSlots (working : List Interval) {nSlots : Nat} (hslots : 1 ≤ nSlots) :
    (splitIntoSlots working nSlots).length ≤ nSlots ∧
      (working ≠ [] → ∀ group ∈ splitIntoSlots working nSlots, group ≠ []) := by
  unfold splitIntoSlots
  split
  · refine ⟨hslots, fun hne group hmem => ?_⟩
    rw [List.mem_singleton.mp hmem]
    exact hne
  · have hnone : SlotsClosed nSlots [] := ⟨hslots, fun _ hmem => absurd hmem List.not_mem_nil⟩
    have hclosed : SlotsClosed nSlots (working.foldl
        (Engine.splitStep ((working.map fun seg => seg.2 - seg.1).sum / nSlots) nSlots)
        ([], [], 0)).1 := SlotsClosed.foldl working hnone
    simp only
    split
    · exact ⟨by have := hclosed.room; omega, fun _ => hclosed.filled⟩
    · rename_i hcur
      constructor
      · rw [List.length_append, List.length_singleton]
        exact hclosed.room
      · intro _ group hmem
        rcases List.mem_append.mp hmem with hold | hnew
        · exact hclosed.filled group hold
        · rw [List.mem_singleton.mp hnew]
          exact hcur

/-! ## Both helpers -/

/-- **Cutting and splitting are exact.** What is left of an interval without its holes lies in order
inside it, in gaps between the holes of more than `1e-9`, and misses nothing but the other gaps, all
of them at most one more than the holes; the slots of a working list are at most as many as asked
for, they make the list up, and none is empty unless the list is. -/
theorem subtract_and_split_exact (base : Interval) (holes : List Interval)
    (hholes : ∀ hole ∈ holes, hole.1 ≤ hole.2) (working : List Interval) (nSlots : Nat)
    (hslots : 1 ≤ nSlots) :
    (Ordered base.1 base.2 (subtract base holes) ∧
      (∀ seg ∈ subtract base holes, Gap base holes seg ∧ epsilon < seg.2 - seg.1) ∧
      ∃ slivers : List Interval,
        (∀ sliver ∈ slivers, Gap base holes sliver ∧ sliver.1 ≤ sliver.2 ∧
          sliver.2 - sliver.1 ≤ epsilon) ∧
        (subtract base holes).length + slivers.length ≤ holes.length + 1 ∧
        Disjoint (Cutting.covered (subtract base holes)) (Cutting.covered slivers) ∧
        Cutting.covered (subtract base holes) ∪ Cutting.covered slivers =
          Set.Ico base.1 base.2 \ Cutting.covered holes) ∧
    (splitIntoSlots working nSlots).length ≤ nSlots ∧
      (splitIntoSlots working nSlots).flatten = working ∧
      (working ≠ [] → ∀ group ∈ splitIntoSlots working nSlots, group ≠ []) := by
  have hslices := slots_of_splitIntoSlots working hslots
  refine ⟨⟨ordered_subtract base hholes, ?_, covered_subtract base hholes⟩, hslices.1,
    flatten_splitIntoSlots working nSlots, hslices.2⟩
  intro seg hseg
  obtain ⟨hmem, hlong⟩ := List.mem_filter.mp hseg
  exact ⟨gap_of_mem_cuts hmem, of_decide_eq_true hlong⟩

/-- Two overlapping holes, in reverse order, of a shift of eight hours. -/
theorem subtract_and_split_exact_overlapping :
    subtract (0, 8) [(3, 4), (2, 7 / 2)] = [(0, 2), (4, 8)] ∧
      Cutting.covered (subtract (0, 8) [(3, 4), (2, 7 / 2)]) ⊆
        Set.Ico (0 : ℚ) 8 \ Cutting.covered [(3, 4), (2, 7 / 2)] ∧
      splitIntoSlots [(0, 2), (4, 8)] 2 = [[(0, 2), (4, 8)]] ∧
      (splitIntoSlots [(0, 2), (4, 8)] 2).flatten = [(0, 2), (4, 8)] := by
  have hexact := subtract_and_split_exact (0, 8) [(3, 4), (2, 7 / 2)] (by decide +kernel)
    [(0, 2), (4, 8)] 2 (by decide)
  obtain ⟨⟨-, -, slivers, -, -, -, hunion⟩, -, hflatten, -⟩ := hexact
  refine ⟨by decide +kernel, ?_, by decide +kernel, hflatten⟩
  rw [← hunion]
  exact Set.subset_union_left

end ShiftMind.Engine
