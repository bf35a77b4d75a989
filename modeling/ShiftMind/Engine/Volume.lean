import ShiftMind.Engine.Breaks

/-!
# ShiftMind — the demanded volume is spread over the hours

`_aggregate_demand` splits a volume row over the clock hours it touches. The hours lie end to end,
so that their shares of a row add up to the row; only a row shorter than `1e-9` hours is divided by
that minimum instead of its length, and shares out less than its amount.

* **`sum_hourSplit`** — the hours of an interval add up to its length.
* **`CpSatBuilder.volume_conserved`** — what the hours of a task add up to.
-/

namespace ShiftMind.Engine

open Constants

/-! ## The hours of an interval -/

theorem hoursOf_eq (a : Interval) :
    hoursOf a = (List.range (⌈a.2⌉ - ⌊a.1⌋).toNat).map fun k : Nat => ⌊a.1⌋ + (k : Int) := by
  unfold hoursOf
  rw [List.bind_eq_flatMap, List.map_flatMap]
  simp only [List.pure_def, List.map_singleton]
  exact (List.map_eq_flatMap ..).symm

/-- Hours end to end. -/
theorem sum_common_hours (probe : Interval) (first : Int) (n : Nat) :
    ((List.range n).map fun k : Nat =>
      Cutting.common probe (((first + k : Int) : ℚ), ((first + k : Int) : ℚ) + 1)).sum =
      Cutting.common probe (first, first + n) := by
  induction n with
  | zero =>
    rw [Nat.cast_zero, add_zero, Cutting.common_comm, Cutting.common_eq_zero le_rfl]
    rfl
  | succ n ih =>
    rw [List.range_succ, List.map_append, List.sum_append, ih, List.map_singleton,
      List.sum_singleton]
    have hsplit : Cutting.common probe ((first : ℚ), (first : ℚ) + n) +
        Cutting.common probe ((first : ℚ) + n, (first : ℚ) + n + 1) =
          Cutting.common probe ((first : ℚ), (first : ℚ) + n + 1) :=
      Cutting.common_split probe (by simp) (by simp)
    push_cast
    rw [hsplit, add_assoc]

/-- Leaving out the hours without an overlap loses nothing. -/
theorem sum_hourSplit_eq (a : Interval) :
    ((hourSplit a).map Prod.snd).sum =
      ((hoursOf a).map fun h : Int => overlap a (h, (h : ℚ) + 1)).sum := by
  unfold hourSplit
  induction hoursOf a with
  | nil => rfl
  | cons h hours ih =>
    rw [List.filterMap_cons, List.map_cons, List.sum_cons, ← ih]
    by_cases hpos : 0 < overlap a (h, (h : ℚ) + 1)
    · simp only [if_pos hpos, List.map_cons, List.sum_cons]
    · have hzero : overlap a (h, (h : ℚ) + 1) = 0 :=
        le_antisymm (not_lt.mp hpos) (Cutting.common_nonneg _ _)
      simp only [if_neg hpos]
      rw [hzero, zero_add]

/-- **The hours of an interval add up to its length**; one whose ends are in reverse has none. -/
theorem sum_hourSplit (a : Interval) :
    ((hourSplit a).map Prod.snd).sum = max 0 (a.2 - a.1) := by
  rw [sum_hourSplit_eq, hoursOf_eq, List.map_map]
  have hsum := sum_common_hours a ⌊a.1⌋ (⌈a.2⌉ - ⌊a.1⌋).toNat
  have hmap : ((fun h : Int => overlap a (h, (h : ℚ) + 1)) ∘ fun k : Nat => ⌊a.1⌋ + (k : Int)) =
      fun k : Nat => Cutting.common a (((⌊a.1⌋ + k : Int) : ℚ), ((⌊a.1⌋ + k : Int) : ℚ) + 1) := rfl
  rw [hmap, hsum]
  rcases le_total a.1 a.2 with hle | hle
  · -- the hours run from the floor of the start to the ceiling of the end
    have hfloor := Int.floor_le a.1
    have hceil := Int.le_ceil a.2
    have hint : ⌊a.1⌋ ≤ ⌈a.2⌉ := by exact_mod_cast hfloor.trans (hle.trans hceil)
    have hlast : (⌊a.1⌋ : ℚ) + ((⌈a.2⌉ - ⌊a.1⌋).toNat : ℚ) = ⌈a.2⌉ := by
      have hto : (((⌈a.2⌉ - ⌊a.1⌋).toNat : Int) : ℚ) = ((⌈a.2⌉ - ⌊a.1⌋ : Int) : ℚ) := by
        rw [Int.toNat_of_nonneg (by omega)]
      rw [Int.cast_natCast] at hto
      rw [hto]
      push_cast
      ring
    rw [hlast, Cutting.common_comm, Cutting.common_of_inside hfloor hle hceil,
      max_eq_right (by linarith)]
  · rw [Cutting.common_eq_zero hle, max_eq_left (by linarith)]

theorem mem_hoursOf {a : Interval} {h : Int} : h ∈ hoursOf a ↔ ⌊a.1⌋ ≤ h ∧ h < ⌈a.2⌉ := by
  rw [hoursOf_eq, List.mem_map]
  constructor
  · rintro ⟨k, hk, rfl⟩
    rw [List.mem_range] at hk
    omega
  · rintro ⟨hlow, hhigh⟩
    refine ⟨(h - ⌊a.1⌋).toNat, List.mem_range.mpr ?_, ?_⟩ <;> omega

theorem nodup_hoursOf (a : Interval) : (hoursOf a).Nodup := by
  rw [hoursOf_eq]
  refine List.nodup_range.map fun k k' heq => ?_
  have hsame : ⌊a.1⌋ + (k : Int) = ⌊a.1⌋ + (k' : Int) := heq
  omega

/-- An hour that an interval does not reach has nothing in common with it. -/
theorem overlap_of_not_mem {a : Interval} {h : Int} (hmem : h ∉ hoursOf a) :
    overlap a (h, (h : ℚ) + 1) = 0 := by
  rw [mem_hoursOf, not_and_or, not_le, not_lt] at hmem
  apply Cutting.Disjoint.common
  rcases hmem with hbefore | hafter
  · right
    have hle : (h : ℚ) + 1 ≤ ⌊a.1⌋ := by exact_mod_cast hbefore
    exact hle.trans (Int.floor_le a.1)
  · left
    have hle : (⌈a.2⌉ : ℚ) ≤ h := by exact_mod_cast hafter
    exact (Int.le_ceil a.2).trans hle

/-- **The share of an hour** is what it overlaps. -/
theorem sum_hourSplit_at (a : Interval) (h : Int) :
    (((hourSplit a).filter fun e => e.1 = h).map Prod.snd).sum = overlap a (h, (h : ℚ) + 1) := by
  -- along distinct hours, the entries of `h` are one overlap or none
  have hshare : ∀ hours : List Int, hours.Nodup →
      ((((hours.filterMap fun (h : Int) =>
        if 0 < overlap a (h, h + 1) then some (h, overlap a (h, h + 1)) else none).filter
          fun e => e.1 = h)).map Prod.snd).sum =
        if h ∈ hours then overlap a (h, (h : ℚ) + 1) else 0 := by
    intro hours hnodup
    induction hours with
    | nil => rfl
    | cons h' hours ih =>
      rw [List.nodup_cons] at hnodup
      rw [List.filterMap_cons]
      -- an hour that is not touched has no entry, and overlaps by zero
      by_cases hpos : 0 < overlap a (h', (h' : ℚ) + 1)
      · by_cases heq : h' = h
        · subst heq
          simp only [if_pos hpos, decide_true, List.filter_cons_of_pos, List.map_cons,
            List.sum_cons, ih hnodup.2, if_neg hnodup.1, add_zero, List.mem_cons_self, if_true]
        · simp only [if_pos hpos, List.filter_cons, heq, decide_false, Bool.false_eq_true,
            if_false, ih hnodup.2, List.mem_cons, Ne.symm heq, false_or]
      · have hzero : overlap a (h', (h' : ℚ) + 1) = 0 :=
          le_antisymm (not_lt.mp hpos) (Cutting.common_nonneg _ _)
        simp only [if_neg hpos, ih hnodup.2, List.mem_cons]
        by_cases heq : h' = h
        · subst heq
          simp [hnodup.1, hzero]
        · simp [Ne.symm heq]
  unfold hourSplit
  rw [hshare _ (nodup_hoursOf a)]
  split
  · rfl
  · rename_i hmem
    exact (overlap_of_not_mem hmem).symm

/-! ## The volume of a task

Each hour has the part of a row that it has of the row's length, so the hours add up to the row. -/

namespace CpSatBuilder

variable (b : CpSatBuilder)

/-- The volume rows of a task. -/
def volumeRows (taskId : String) : List DemandBand :=
  b.p.demand.filter fun band => band.taskId = taskId && decide (band.family ≠ .indirect)

/-- A part of a row's amount, as its length is a part of the row. -/
def share (band : DemandBand) (hours : ℚ) : ℚ :=
  b.factorOf band.taskId * band.amount * (hours / max band.durationH epsilon)

/-- The entries of one row under the keys of a task that are of a kind. -/
theorem sum_entries (band : DemandBand) (taskId : String) (kind : Int → Bool)
    (hours : List (Int × ℚ)) :
    (((hours.map fun (h, ov) => ((band.taskId, h),
        band.amount * b.factorOf band.taskId * ov / max band.durationH epsilon)).filter
          fun e => decide (e.1.1 = taskId) && kind e.1.2).map Prod.snd).sum =
      if band.taskId = taskId then
        b.share band ((hours.filter fun e => kind e.1).map Prod.snd).sum
      else 0 := by
  by_cases htask : band.taskId = taskId
  · rw [if_pos htask]
    -- hour by hour, each entry is the row's share of its overlap
    induction hours with
    | nil => simp [share]
    | cons entry entries ih =>
      obtain ⟨h, ov⟩ := entry
      rw [List.map_cons]
      cases hkind : kind h with
      | false =>
        rw [List.filter_cons_of_neg (by simp [hkind]), List.filter_cons_of_neg (by simp [hkind])]
        exact ih
      | true =>
        rw [List.filter_cons_of_pos (by simp [htask, hkind]),
          List.filter_cons_of_pos (by simp [hkind]), List.map_cons, List.map_cons, List.sum_cons,
          List.sum_cons, ih, share, share]
        ring
  · rw [if_neg htask]
    -- a row of another task has no entry under this one
    have hnone : ((hours.map fun (h, ov) => ((band.taskId, h),
        band.amount * b.factorOf band.taskId * ov / max band.durationH epsilon)).filter
          fun e => decide (e.1.1 = taskId) && kind e.1.2) = [] := by
      rw [List.filter_eq_nil_iff]
      intro e he
      obtain ⟨entry, -, rfl⟩ := List.mem_map.mp he
      simp [htask]
    rw [hnone]
    rfl

/-- What the loop adds up under the keys of a task that are of a kind. -/
theorem sum_volDemand (taskId : String) (kind : Int → Bool) :
    ((b.volDemand.filter fun e => decide (e.1.1 = taskId) && kind e.1.2).map Prod.snd).sum =
      ((b.volumeRows taskId).map fun band => b.share band
        (((hourSplit (band.startH, band.endH)).filter fun e =>
          kind e.1).map Prod.snd).sum).sum := by
  have htally := Dict.sum_filter_tally
    (fun key : String × Int => decide (key.1 = taskId) && kind key.2)
    (b.p.demand.flatMap fun band =>
      if band.family = .indirect then []
      else (hourSplit (band.startH, band.endH)).map fun (h, ov) =>
        ((band.taskId, h), band.amount * b.factorOf band.taskId * ov / max band.durationH epsilon))
  unfold volDemand
  rw [htally]
  clear htally
  unfold volumeRows
  induction b.p.demand with
  | nil => rfl
  | cons band rows ih =>
    rw [List.flatMap_cons, List.filter_append, List.map_append, List.sum_append, ih]
    by_cases hfamily : band.family = .indirect
    · rw [if_pos hfamily, List.filter_cons_of_neg (by simp [hfamily])]
      simp
    · rw [if_neg hfamily, sum_entries]
      by_cases htask : band.taskId = taskId
      · rw [if_pos htask, List.filter_cons_of_pos (by simp [hfamily, htask]), List.map_cons,
          List.sum_cons]
      · rw [if_neg htask, List.filter_cons_of_neg (by simp [htask]), zero_add]

/-- The part of a row of some length that is shared out: all of it from `1e-9` hours on. -/
def sharedPart (length : ℚ) : ℚ := min 1 (length / epsilon)

theorem share_length {band : DemandBand} (hpos : 0 < band.durationH) :
    b.share band (max 0 band.durationH) =
      b.factorOf band.taskId * band.amount * sharedPart band.durationH := by
  have hepsilon : (0 : ℚ) < epsilon := by norm_num [epsilon]
  rw [share, max_eq_right hpos.le, sharedPart]
  congr 1
  rcases le_total epsilon band.durationH with hle | hle
  · rw [max_eq_left hle, div_self hpos.ne', min_eq_left ((one_le_div hepsilon).mpr hle)]
  · rw [max_eq_right hle, min_eq_right ((div_le_one hepsilon).mpr hle)]

/-- **Volume conservation.** The hours of a task add up to the amounts of its volume rows of
positive length, each with its factor, a row shorter than `1e-9` hours in proportion to its length;
and an hour receives the share of each row that overlaps it. -/
theorem volume_conserved (taskId : String) :
    ((b.volDemand.filter fun e => e.1.1 = taskId).map Prod.snd).sum =
        (((b.volumeRows taskId).filter fun band => 0 < band.durationH).map fun band =>
          b.factorOf taskId * band.amount * sharedPart band.durationH).sum ∧
      ∀ h : Int, b.volumeAt taskId h =
        ((b.volumeRows taskId).map fun band => b.factorOf taskId * band.amount *
          (overlap (band.startH, band.endH) (h, h + 1) / max band.durationH epsilon)).sum := by
  have htask : ∀ band ∈ b.volumeRows taskId, band.taskId = taskId := by
    intro band hband
    have hkind := (List.mem_filter.mp hband).2
    rw [Bool.and_eq_true, decide_eq_true_eq] at hkind
    exact hkind.1
  constructor
  · -- over all hours the shares of a row are its length
    have hall := b.sum_volDemand taskId fun _ => true
    simp only [Bool.and_true, List.filter_true, sum_hourSplit] at hall
    rw [hall]
    clear hall
    generalize b.volumeRows taskId = bands at htask ⊢
    induction bands with
    | nil => rfl
    | cons band rows ih =>
      have hrest := ih fun row hrow => htask row (List.mem_cons_of_mem _ hrow)
      rw [List.map_cons, List.sum_cons, hrest, List.filter_cons]
      show b.share band (max 0 band.durationH) + _ = _
      by_cases hpos : 0 < band.durationH
      · rw [b.share_length hpos, htask band List.mem_cons_self]
        simp only [decide_eq_true hpos, if_true, List.map_cons, List.sum_cons]
      · rw [share, max_eq_left (not_lt.mp hpos), zero_div, mul_zero, zero_add]
        simp only [decide_eq_false hpos, Bool.false_eq_true, if_false]
  · -- over one hour they are its overlap with that hour
    intro h
    have hat := b.sum_volDemand taskId fun hour => decide (hour = h)
    simp only [sum_hourSplit_at] at hat
    have hget : b.volumeAt taskId h =
        ((b.volDemand.filter fun e => decide (e.1.1 = taskId) && decide (e.1.2 = h)).map
          Prod.snd).sum := by
      have hkey : (fun e : (String × Int) × ℚ => decide (e.1.1 = taskId) && decide (e.1.2 = h)) =
          fun e => decide (e.1 = (taskId, h)) := by
        funext e
        simp [Prod.ext_iff]
      unfold volumeAt volDemand
      rw [Dict.getD_tally, hkey]
      exact (Dict.sum_filter_tally (fun key => decide (key = (taskId, h))) _).symm
    rw [hget, hat]
    refine congrArg List.sum (List.map_congr_left fun band hband => ?_)
    rw [share, htask band hband]

/-- A row of a third of a microsecond shares out a tenth of its amount. -/
theorem brief_row_loses_volume :
    ¬ ∀ (b : CpSatBuilder) (taskId : String),
      ((b.volDemand.filter fun e => e.1.1 = taskId).map Prod.snd).sum =
        (((b.volumeRows taskId).filter fun band => 0 < band.durationH).map fun band =>
          b.factorOf taskId * band.amount).sum := by
  intro hall
  have hbrief := hall
    { p :=
        { horizonH := 24
          members := []
          tasks := []
          templates := []
          demand := [⟨"pick", .outbound, 0, 1 / 10000000000, 10, ""⟩] } } "pick"
  exact absurd hbrief (by decide +kernel)

end CpSatBuilder

end ShiftMind.Engine
