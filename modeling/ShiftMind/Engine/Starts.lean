import ShiftMind.Engine.Shifts
import Mathlib.Data.Finset.Card
import Mathlib.Data.Finset.Image
import Mathlib.Data.Int.Interval
import Mathlib.Order.Interval.Finset.Defs

/-!
# ShiftMind — which start times are tried

`_candidate_starts` tries the start of the window, the whole hours after it, and the latest start
that still fits. All of them keep the shift inside the window, and the earliest is always among
them. The latest is lost where its rounding to four places goes up, since it then stands behind the
window's end, and where more than five whole hours or other starts come before it, since only the
first six are kept.

* **`StartsFeasible`** — what is asked of the candidates of a window and a template.
* **`startsFeasible_iff`** — when they are as asked.
-/

namespace ShiftMind.Engine

open Rounding Constants

/-! ## Rounding to four places -/

theorem round4_le (x : ℚ) : round4 x ≤ x + 1 / 20000 := by
  have h := roundHalfEven_le (x * 10000)
  unfold round4
  rw [div_le_iff₀ (by norm_num)]
  linarith

theorem le_round4 (x : ℚ) : x - 1 / 20000 ≤ round4 x := by
  have h := le_roundHalfEven (x * 10000)
  unfold round4
  rw [le_div_iff₀ (by norm_num)]
  linarith

theorem round4_mono {x y : ℚ} (h : x ≤ y) : round4 x ≤ round4 y := by
  have hscaled : x * 10000 ≤ y * 10000 := by linarith
  have hround : ((roundHalfEven (x * 10000) : ℤ) : ℚ) ≤ (roundHalfEven (y * 10000) : ℤ) := by
    exact_mod_cast roundHalfEven_mono hscaled
  unfold round4
  linarith [div_le_div_of_nonneg_right hround (by norm_num : (0 : ℚ) ≤ 10000)]

@[simp] theorem round4_intCast (n : ℤ) : round4 (n : ℚ) = n := by
  have h : (n : ℚ) * 10000 = ((n * 10000 : ℤ) : ℚ) := by push_cast; ring
  unfold round4
  rw [h, roundHalfEven_intCast]
  push_cast
  ring

@[simp] theorem round4_round4 (x : ℚ) : round4 (round4 x) = round4 x := by
  have h : round4 x * 10000 = (roundHalfEven (x * 10000) : ℤ) := by
    unfold round4
    ring
  show (roundHalfEven (round4 x * 10000) : ℚ) / 10000 = round4 x
  rw [h, roundHalfEven_intCast]
  rfl

/-- A time that is not before a whole hour but for the tolerance is rounded to that hour at
least. -/
theorem le_round4_of_intCast_le {n : ℤ} {x : ℚ} (h : (n : ℚ) ≤ x + epsilon) :
    (n : ℚ) ≤ round4 x := by
  have hlow := le_roundHalfEven (x * 10000)
  have hepsilon : epsilon = 1 / 1000000000 := rfl
  rw [hepsilon] at h
  have hlt : ((n * 10000 - 1 : ℤ) : ℚ) < (roundHalfEven (x * 10000) : ℤ) := by
    push_cast
    linarith
  have hle : n * 10000 ≤ roundHalfEven (x * 10000) := by
    have := Int.cast_lt.mp hlt
    omega
  have hcast : (n : ℚ) * 10000 ≤ (roundHalfEven (x * 10000) : ℤ) := by exact_mod_cast hle
  unfold round4
  rw [le_div_iff₀ (by norm_num)]
  exact hcast

/-! ## The starts before the cut -/

section Starts

variable {window : Window} {tpl : ShiftTemplate} {latest : ℚ}

theorem gridPoints_eq :
    gridPoints window latest =
      (List.range (⌊latest + epsilon - ⌈window.startH⌉⌋ + 1).toNat).map fun k : Nat =>
        (⌈window.startH⌉ : ℚ) + k := by
  unfold gridPoints
  simp only [shiftStartGridH, mul_one, div_one]
  rw [List.bind_eq_flatMap, List.map_flatMap]
  simp only [List.pure_def, List.map_singleton]
  exact (List.map_eq_flatMap ..).symm

/-- The grid points are the whole hours. -/
theorem mem_gridPoints {g : ℚ} :
    g ∈ gridPoints window latest ↔
      ∃ n : ℤ, g = n ∧ window.startH ≤ n ∧ (n : ℚ) ≤ latest + epsilon := by
  rw [gridPoints_eq]
  simp only [List.mem_map, List.mem_range]
  constructor
  · rintro ⟨k, hk, rfl⟩
    refine ⟨⌈window.startH⌉ + k, by push_cast; ring, ?_, ?_⟩
    · push_cast
      have hceil := Int.le_ceil window.startH
      have hk0 : (0 : ℚ) ≤ k := Nat.cast_nonneg k
      linarith
    · -- no grid point lies behind the latest start
      have hle : (k : ℤ) ≤ ⌊latest + epsilon - ⌈window.startH⌉⌋ := by omega
      have hfloor := Int.le_floor.mp hle
      push_cast at hfloor ⊢
      linarith
  · rintro ⟨n, rfl, hlow, hhigh⟩
    have hceil : ⌈window.startH⌉ ≤ n := Int.ceil_le.mpr hlow
    have hfloor : n - ⌈window.startH⌉ ≤ ⌊latest + epsilon - ⌈window.startH⌉⌋ := by
      apply Int.le_floor.mpr
      push_cast
      linarith
    -- a whole hour at or after the start is a natural number of steps from its ceiling
    have hto : ((n - ⌈window.startH⌉).toNat : ℤ) = n - ⌈window.startH⌉ :=
      Int.toNat_of_nonneg (by omega)
    refine ⟨(n - ⌈window.startH⌉).toNat, by omega, ?_⟩
    have hcast : (((n - ⌈window.startH⌉).toNat : ℤ) : ℚ) = ((n - ⌈window.startH⌉ : ℤ) : ℚ) := by
      rw [hto]
    rw [Int.cast_natCast] at hcast
    rw [hcast]
    push_cast
    ring

/-- The starts that are sorted and cut: `starts` of the source, in the window, and rounded. -/
def uncutStarts (window : Window) (latest : ℚ) : List ℚ :=
  let onGrid := ((gridPoints window latest).filter fun g => window.startH + epsilon < g).map round4
  let starts := window.startH :: onGrid
  let starts :=
    if starts.getLastD window.startH < latest - epsilon then starts ++ [round4 latest] else starts
  (starts.filter fun s => window.startH - epsilon ≤ s ∧ s ≤ latest + epsilon).map round4

theorem candidateStarts_eq :
    candidateStarts window tpl =
      if window.endH - tpl.lengthH < window.startH - epsilon then []
      else (((uncutStarts window (window.endH - tpl.lengthH)).dedup).insertionSort (· ≤ ·)).take
        maxStartsPerTemplate := rfl

theorem epsilon_pos : (0 : ℚ) < epsilon := by norm_num [epsilon]

/-- The starts are the window's, the whole hours after it, and the latest one that fits, where a
last start stands well before it and it is not rounded past the window's end. -/
theorem mem_uncutStarts (hfits : window.startH - epsilon ≤ latest) {s : ℚ} :
    s ∈ uncutStarts window latest ↔
      s = round4 window.startH ∨
        (∃ n : ℤ, s = n ∧ window.startH + epsilon < n ∧ (n : ℚ) ≤ latest + epsilon) ∨
        (s = round4 latest ∧ window.startH - epsilon ≤ round4 latest ∧
          round4 latest ≤ latest + epsilon ∧
          (window.startH :: ((gridPoints window latest).filter fun g =>
            window.startH + epsilon < g).map round4).getLastD window.startH <
            latest - epsilon) := by
  have hepsilon := epsilon_pos
  -- the grid points behind the window's start are the whole hours that fit
  have hgrid : ∀ x, x ∈ ((gridPoints window latest).filter fun g =>
      window.startH + epsilon < g).map round4 ↔
        ∃ n : ℤ, x = n ∧ window.startH + epsilon < n ∧ (n : ℚ) ≤ latest + epsilon := by
    intro x
    simp only [List.mem_map, List.mem_filter, decide_eq_true_eq]
    constructor
    · rintro ⟨g, ⟨hg, hlt⟩, rfl⟩
      obtain ⟨n, rfl, -, hhigh⟩ := mem_gridPoints.mp hg
      exact ⟨n, round4_intCast n, hlt, hhigh⟩
    · rintro ⟨n, rfl, hlt, hhigh⟩
      exact ⟨n, ⟨mem_gridPoints.mpr ⟨n, rfl, by linarith, hhigh⟩, hlt⟩, round4_intCast n⟩
  unfold uncutStarts
  simp only [List.mem_map, List.mem_filter, decide_eq_true_eq]
  constructor
  · -- the rounded latest start is only there where it was appended
    rintro ⟨x, ⟨hx, hlow, hhigh⟩, rfl⟩
    split at hx
    · rename_i hlast
      rcases List.mem_append.mp hx with hx | hx
      · rcases List.mem_cons.mp hx with rfl | hx
        · exact Or.inl rfl
        · obtain ⟨n, rfl, hn⟩ := (hgrid x).mp hx
          exact Or.inr (Or.inl ⟨n, round4_intCast n, hn⟩)
      · rw [List.mem_singleton] at hx
        subst hx
        exact Or.inr (Or.inr ⟨round4_round4 _, hlow, hhigh, hlast⟩)
    · rcases List.mem_cons.mp hx with rfl | hx
      · exact Or.inl rfl
      · obtain ⟨n, rfl, hn⟩ := (hgrid x).mp hx
        exact Or.inr (Or.inl ⟨n, round4_intCast n, hn⟩)
  · -- what stands in the list without the last start stands in it with it too
    have hmem : ∀ x, x ∈ (window.startH :: ((gridPoints window latest).filter fun g =>
        window.startH + epsilon < g).map round4) → x ∈ (if (window.startH ::
          ((gridPoints window latest).filter fun g => window.startH + epsilon < g).map
            round4).getLastD window.startH < latest - epsilon then
          (window.startH :: ((gridPoints window latest).filter fun g =>
            window.startH + epsilon < g).map round4) ++ [round4 latest]
          else window.startH :: ((gridPoints window latest).filter fun g =>
            window.startH + epsilon < g).map round4) := by
      intro x hx
      split
      · exact List.mem_append_left _ hx
      · exact hx
    rintro (rfl | ⟨n, rfl, hlt, hhigh⟩ | ⟨rfl, hlow, hhigh, hlast⟩)
    · exact ⟨window.startH, ⟨hmem _ List.mem_cons_self, by linarith, by linarith⟩, rfl⟩
    · refine ⟨n, ⟨hmem _ (List.mem_cons_of_mem _ ((hgrid n).mpr ⟨n, rfl, hlt, hhigh⟩)),
        by linarith, hhigh⟩, round4_intCast n⟩
    · refine ⟨round4 latest, ⟨?_, hlow, hhigh⟩, round4_round4 _⟩
      rw [if_pos hlast]
      exact List.mem_append_right _ List.mem_cons_self

/-- The last start before the latest one is the window's or a whole hour after it. -/
theorem last_cases (window : Window) (latest : ℚ) :
    (window.startH :: ((gridPoints window latest).filter fun g =>
        window.startH + epsilon < g).map round4).getLastD window.startH = window.startH ∨
      ∃ n : ℤ, (window.startH :: ((gridPoints window latest).filter fun g =>
          window.startH + epsilon < g).map round4).getLastD window.startH = n ∧
        window.startH + epsilon < n ∧ (n : ℚ) ≤ latest + epsilon := by
  have hmem : (window.startH :: ((gridPoints window latest).filter fun g =>
      window.startH + epsilon < g).map round4).getLastD window.startH ∈
      window.startH :: ((gridPoints window latest).filter fun g =>
        window.startH + epsilon < g).map round4 := List.getLast_mem _
  rcases List.mem_cons.mp hmem with heq | hgrid
  · exact Or.inl heq
  · obtain ⟨g, hg, hround⟩ := List.mem_map.mp hgrid
    obtain ⟨hpoint, hlt⟩ := List.mem_filter.mp hg
    obtain ⟨n, rfl, -, hhigh⟩ := mem_gridPoints.mp hpoint
    exact Or.inr ⟨n, hround.symm.trans (round4_intCast n), of_decide_eq_true hlt, hhigh⟩

/-! ## The cut

The starts are sorted, so the cut keeps the earliest ones: a start survives by how many stand before
it. -/

/-- The first `k` of a list in strict order are those before which fewer than `k` stand. -/
theorem mem_take_iff {l : List ℚ} (hl : l.Pairwise (· < ·)) {k : Nat} {s : ℚ} :
    s ∈ l.take k ↔ s ∈ l ∧ (l.filter (· < s)).length < k := by
  induction l generalizing k with
  | nil => simp
  | cons x l ih =>
    rw [List.pairwise_cons] at hl
    cases k with
    | zero => simp
    | succ k =>
      rw [List.take_succ_cons, List.mem_cons, ih hl.2, List.mem_cons]
      by_cases hs : s = x
      · -- nothing stands before the first
        subst hs
        have hnone : l.filter (· < s) = [] := by
          rw [List.filter_eq_nil_iff]
          intro y hy
          simpa using (hl.1 y hy).le
        simp [hnone]
      · constructor
        · rintro (h | ⟨hmem, hlen⟩)
          · exact absurd h hs
          · rw [List.filter_cons_of_pos (by simpa using hl.1 s hmem), List.length_cons]
            exact ⟨Or.inr hmem, by omega⟩
        · rintro ⟨h | hmem, hlen⟩
          · exact absurd h hs
          · rw [List.filter_cons_of_pos (by simpa using hl.1 s hmem), List.length_cons] at hlen
            exact Or.inr ⟨hmem, by omega⟩

theorem pairwise_sorted (l : List ℚ) : ((l.dedup).insertionSort (· ≤ ·)).Pairwise (· < ·) := by
  have hsorted := List.pairwise_insertionSort (· ≤ ·) l.dedup
  have hnodup : ((l.dedup).insertionSort (· ≤ ·)).Nodup :=
    (List.perm_insertionSort (· ≤ ·) l.dedup).nodup_iff.mpr l.nodup_dedup
  exact (hsorted.and hnodup).imp fun h => lt_of_le_of_ne h.1 h.2

theorem mem_candidateStarts (hfits : window.startH - epsilon ≤ window.endH - tpl.lengthH) {s : ℚ} :
    s ∈ candidateStarts window tpl ↔
      s ∈ uncutStarts window (window.endH - tpl.lengthH) ∧
        (((uncutStarts window (window.endH - tpl.lengthH)).toFinset).filter (· < s)).card <
          maxStartsPerTemplate := by
  rw [candidateStarts_eq, if_neg (not_lt.mpr hfits), mem_take_iff (pairwise_sorted _)]
  have hperm := List.perm_insertionSort (· ≤ ·)
    (uncutStarts window (window.endH - tpl.lengthH)).dedup
  rw [hperm.mem_iff, List.mem_dedup, (hperm.filter _).length_eq]
  have hcard : ((uncutStarts window (window.endH - tpl.lengthH)).dedup.filter (· < s)).length =
      (((uncutStarts window (window.endH - tpl.lengthH)).toFinset).filter (· < s)).card := by
    rw [← List.toFinset_card_of_nodup ((List.nodup_dedup _).filter _)]
    congr 1
    ext x
    simp
  rw [hcard]

/-- No whole hour that fits is after the rounded latest start. -/
theorem intCast_le_round4 {n : ℤ} (h : (n : ℚ) ≤ latest + epsilon) : (n : ℚ) ≤ round4 latest :=
  le_round4_of_intCast_le h

/-- **What stands before a start**: the rounded start of the window, and the whole hours between. -/
theorem card_before (hfits : window.startH - epsilon ≤ latest) {s : ℚ}
    (hs : s ∈ uncutStarts window latest) (hafter : round4 window.startH < s) :
    (((uncutStarts window latest).toFinset).filter (· < s)).card =
      (⌈s⌉ - ⌊round4 window.startH⌋).toNat := by
  have hepsilon := epsilon_pos
  -- a start is not behind the latest one, and a whole hour before it is a start too
  have hlast : s ≤ latest + epsilon ∧ s ≤ round4 latest := by
    rcases (mem_uncutStarts hfits).mp hs with rfl | ⟨n, rfl, -, hn⟩ | ⟨rfl, -, hn, -⟩
    · exact absurd hafter (lt_irrefl _)
    · exact ⟨hn, intCast_le_round4 hn⟩
    · exact ⟨hn, le_rfl⟩
  have hset : ((uncutStarts window latest).toFinset).filter (· < s) =
      insert (round4 window.startH)
        ((Finset.Ioo ⌊round4 window.startH⌋ ⌈s⌉).image fun n : ℤ => (n : ℚ)) := by
    ext x
    rw [Finset.mem_filter, List.mem_toFinset, mem_uncutStarts hfits, Finset.mem_insert,
      Finset.mem_image]
    constructor
    · rintro ⟨rfl | ⟨n, rfl, hlow, -⟩ | ⟨rfl, -, -, -⟩, hlt⟩
      · exact Or.inl rfl
      · have hround : round4 window.startH ≤ n := by
          have h := round4_mono (by linarith : window.startH ≤ (n : ℚ))
          rwa [round4_intCast] at h
        rcases hround.eq_or_lt with heq | hround
        · exact Or.inl heq.symm
        · exact Or.inr ⟨n, Finset.mem_Ioo.mpr ⟨Int.floor_lt.mpr hround, Int.lt_ceil.mpr hlt⟩, rfl⟩
      · exact absurd hlast.2 (not_le.mpr hlt)
    · rintro (rfl | ⟨n, hn, rfl⟩)
      · exact ⟨Or.inl rfl, hafter⟩
      · obtain ⟨hlow, hhigh⟩ := Finset.mem_Ioo.mp hn
        have hround := Int.floor_lt.mp hlow
        have hlt := Int.lt_ceil.mp hhigh
        have hstart : window.startH + epsilon < n := by
          by_contra hle
          exact absurd (le_round4_of_intCast_le (not_lt.mp hle)) (not_le.mpr hround)
        exact ⟨Or.inr (Or.inl ⟨n, rfl, hstart, (hlt.le.trans hlast.1)⟩), hlt⟩
  have hnot : round4 window.startH ∉
      (Finset.Ioo ⌊round4 window.startH⌋ ⌈s⌉).image fun n : ℤ => (n : ℚ) := by
    intro hmem
    obtain ⟨n, hn, heq⟩ := Finset.mem_image.mp hmem
    have hround := Int.floor_lt.mp (Finset.mem_Ioo.mp hn).1
    exact absurd heq hround.ne'
  have hceil : ⌊round4 window.startH⌋ < ⌈s⌉ := by
    have h := (Int.floor_le (round4 window.startH)).trans_lt (hafter.trans_le (Int.le_ceil s))
    exact_mod_cast h
  rw [hset, Finset.card_insert_of_notMem hnot,
    Finset.card_image_of_injective _ Int.cast_injective, Int.card_Ioo]
  omega

/-- The first start is always kept; a later one while no more than five hours are before it. -/
theorem mem_candidateStarts_iff (hfits : window.startH - epsilon ≤ window.endH - tpl.lengthH)
    {s : ℚ} :
    s ∈ candidateStarts window tpl ↔
      s = round4 window.startH ∨
        (s ∈ uncutStarts window (window.endH - tpl.lengthH) ∧ round4 window.startH < s ∧
          ⌈s⌉ - ⌊round4 window.startH⌋ ≤ 5) := by
  rw [mem_candidateStarts hfits]
  have hfirst : ∀ x ∈ uncutStarts window (window.endH - tpl.lengthH),
      round4 window.startH ≤ x := by
    intro x hx
    have hepsilon := epsilon_pos
    rcases (mem_uncutStarts hfits).mp hx with rfl | ⟨n, rfl, hn, -⟩ | ⟨rfl, hlow, -, hlast⟩
    · exact le_rfl
    · have h := round4_mono (by linarith : window.startH ≤ (n : ℚ))
      rwa [round4_intCast] at h
    · -- the last start is not before the window, and before the latest one
      apply round4_mono
      rcases last_cases window (window.endH - tpl.lengthH) with
        heq | ⟨n, heq, hn, -⟩
      · rw [heq] at hlast
        linarith
      · rw [heq] at hlast
        linarith
  constructor
  · rintro ⟨hmem, hcard⟩
    rcases (hfirst s hmem).eq_or_lt with heq | hlt
    · exact Or.inl heq.symm
    · rw [card_before hfits hmem hlt] at hcard
      have hbound : (⌈s⌉ - ⌊round4 window.startH⌋).toNat < 6 := hcard
      exact Or.inr ⟨hmem, hlt, by omega⟩
  · rintro (rfl | ⟨hmem, hlt, hbound⟩)
    · refine ⟨(mem_uncutStarts hfits).mpr (Or.inl rfl), ?_⟩
      have hnone : ((uncutStarts window (window.endH - tpl.lengthH)).toFinset).filter
          (· < round4 window.startH) = ∅ := by
        rw [Finset.filter_eq_empty_iff]
        intro x hx
        exact not_lt.mpr (hfirst x (List.mem_toFinset.mp hx))
      rw [hnone]
      decide
    · refine ⟨hmem, ?_⟩
      rw [card_before hfits hmem hlt]
      show (⌈s⌉ - ⌊round4 window.startH⌋).toNat < 6
      omega

end Starts

/-! ## What is asked of the candidates -/

/-- The rounding that a start may be off by. -/
def startTolerance : ℚ := 1 / 10000

/-- **Candidate starts are feasible and include both ends**: they are sorted, distinct and few, each
keeps the shift inside the window, and where the shift fits its earliest and its latest start are
among them. -/
structure StartsFeasible (window : Window) (tpl : ShiftTemplate) : Prop where
  sorted : (candidateStarts window tpl).Pairwise (· < ·)
  few : (candidateStarts window tpl).length ≤ maxStartsPerTemplate
  inside : ∀ s ∈ candidateStarts window tpl,
    window.startH - startTolerance ≤ s ∧ s + tpl.lengthH ≤ window.endH + startTolerance
  earliest : window.startH + tpl.lengthH ≤ window.endH →
    ∃ s ∈ candidateStarts window tpl, |s - window.startH| ≤ startTolerance
  latest : window.startH + tpl.lengthH ≤ window.endH →
    ∃ s ∈ candidateStarts window tpl, |s - (window.endH - tpl.lengthH)| ≤ startTolerance

/-- The latest start survives: it is the first one too; or a whole hour stands at it, no more than
five hours after the hour of the first; or it is not rounded up behind the window's end, and no more
than five hours after the hour of the first either. -/
def LatestKept (window : Window) (tpl : ShiftTemplate) : Prop :=
  let first := round4 window.startH
  let latest := window.endH - tpl.lengthH
  latest - first ≤ startTolerance ∨
    (latest - ⌊latest + epsilon⌋ ≤ startTolerance ∧ ⌊latest + epsilon⌋ - ⌊first⌋ ≤ 5) ∨
    (round4 latest ≤ latest + epsilon ∧ ⌈round4 latest⌉ - ⌊first⌋ ≤ 5)

section Feasible

variable {window : Window} {tpl : ShiftTemplate}

theorem candidateStarts_pairwise : (candidateStarts window tpl).Pairwise (· < ·) := by
  rw [candidateStarts_eq]
  split
  · exact List.Pairwise.nil
  · exact (pairwise_sorted _).sublist (List.take_sublist _ _)

theorem length_candidateStarts : (candidateStarts window tpl).length ≤ maxStartsPerTemplate := by
  rw [candidateStarts_eq]
  split
  · exact Nat.zero_le _
  · exact List.length_take_le _ _

theorem inside_of_mem {s : ℚ} (hs : s ∈ candidateStarts window tpl) :
    window.startH - startTolerance ≤ s ∧ s + tpl.lengthH ≤ window.endH + startTolerance := by
  have htolerance : startTolerance = 1 / 10000 := rfl
  have hepsilon : epsilon = 1 / 1000000000 := rfl
  by_cases hfits : window.startH - epsilon ≤ window.endH - tpl.lengthH
  · have hmem : s ∈ uncutStarts window (window.endH - tpl.lengthH) :=
      ((mem_candidateStarts hfits).mp hs).1
    rw [htolerance]
    rw [hepsilon] at hfits
    rcases (mem_uncutStarts (by rw [hepsilon]; exact hfits)).mp hmem with
      rfl | ⟨n, rfl, hlow, hhigh⟩ | ⟨rfl, hlow, hhigh, -⟩
    · have hle := round4_le window.startH
      have hge := le_round4 window.startH
      constructor <;> linarith
    · rw [hepsilon] at hlow hhigh
      constructor <;> linarith
    · rw [hepsilon] at hlow hhigh
      constructor <;> linarith
  · rw [candidateStarts_eq, if_pos (not_le.mp hfits)] at hs
    cases hs

theorem earliest_mem (hfits : window.startH + tpl.lengthH ≤ window.endH) :
    ∃ s ∈ candidateStarts window tpl, |s - window.startH| ≤ startTolerance := by
  have hepsilon := epsilon_pos
  refine ⟨round4 window.startH, (mem_candidateStarts_iff (by linarith)).mpr (Or.inl rfl), ?_⟩
  have hle := round4_le window.startH
  have hge := le_round4 window.startH
  have htolerance : startTolerance = 1 / 10000 := rfl
  rw [htolerance, abs_le]
  constructor <;> linarith

/-! ### The latest start

What is kept at the latest start is the first start, the last whole hour or the rounded latest
start itself. -/

section Latest

variable {latest : ℚ}

theorem abs_sub_le_startTolerance {s : ℚ} (hlow : latest - s ≤ 1 / 10000)
    (hhigh : s - latest ≤ 1 / 10000) : |s - latest| ≤ startTolerance := by
  rw [abs_le]
  show -(1 / 10000) ≤ s - latest ∧ s - latest ≤ 1 / 10000
  constructor <;> linarith

/-- A whole hour at the latest start is the last one that fits. -/
theorem floor_eq_of_near {n : ℤ} (hfits : (n : ℚ) ≤ latest + epsilon)
    (hnear : |(n : ℚ) - latest| ≤ startTolerance) : ⌊latest + epsilon⌋ = n := by
  have hepsilon : epsilon = 1 / 1000000000 := rfl
  have htolerance : startTolerance = 1 / 10000 := rfl
  rw [abs_le, htolerance] at hnear
  rw [Int.floor_eq_iff]
  apply And.intro hfits
  rw [hepsilon]
  linarith

/-- The last whole hour is a start of its own where it stands at the latest one. -/
theorem lastHour_mem (hfits : window.startH - epsilon ≤ latest)
    (hfar : 1 / 10000 < latest - round4 window.startH)
    (hclose : latest - ⌊latest + epsilon⌋ ≤ startTolerance) :
    (⌊latest + epsilon⌋ : ℚ) ∈ uncutStarts window latest ∧
      round4 window.startH < ⌊latest + epsilon⌋ := by
  have hclose' : latest - ⌊latest + epsilon⌋ ≤ 1 / 10000 := hclose
  have hlt : round4 window.startH < ⌊latest + epsilon⌋ := by linarith
  have hlow : window.startH + epsilon < ⌊latest + epsilon⌋ := by
    by_contra hle
    exact absurd (le_round4_of_intCast_le (not_lt.mp hle)) (not_le.mpr hlt)
  apply And.intro _ hlt
  apply (mem_uncutStarts hfits).mpr
  exact Or.inr (Or.inl ⟨_, rfl, hlow, Int.floor_le (latest + epsilon)⟩)

/-- The rounded latest start is added where the last whole hour does not stand at it. -/
theorem roundedLatest_mem (hfits : window.startH - epsilon ≤ latest)
    (hfar : 1 / 10000 < latest - round4 window.startH)
    (hhour : 1 / 10000 < latest - ⌊latest + epsilon⌋)
    (hinside : round4 latest ≤ latest + epsilon) : round4 latest ∈ uncutStarts window latest := by
  have hepsilon : epsilon = 1 / 1000000000 := rfl
  have hfirst := le_round4 window.startH
  have hafter : window.startH + epsilon < latest - epsilon := by
    rw [hepsilon]
    linarith
  -- the last of the starts before it is the window's own start or a whole hour
  have hbefore : (window.startH :: ((gridPoints window latest).filter fun g =>
      window.startH + epsilon < g).map round4).getLastD window.startH < latest - epsilon := by
    rcases last_cases window latest with heq | ⟨n, heq, -, hn⟩
    · rw [heq]
      linarith [epsilon_pos]
    · have hle : (n : ℚ) ≤ ⌊latest + epsilon⌋ := by exact_mod_cast Int.le_floor.mpr hn
      rw [heq, hepsilon]
      linarith
  have hlatest := le_round4 latest
  have hlow : window.startH - epsilon ≤ round4 latest := by linarith [epsilon_pos]
  exact (mem_uncutStarts hfits).mpr (Or.inr (Or.inr ⟨rfl, hlow, hinside, hbefore⟩))

/-- A start that is kept at the latest one is one of the three. -/
theorem latestKept_of_mem (hfits : window.startH - epsilon ≤ window.endH - tpl.lengthH) {s : ℚ}
    (hs : s ∈ candidateStarts window tpl)
    (hnear : |s - (window.endH - tpl.lengthH)| ≤ startTolerance) : LatestKept window tpl := by
  have hlow := (abs_le.mp hnear).1
  show _ ∨ _
  rcases (mem_candidateStarts_iff hfits).mp hs with rfl | ⟨hmem, hafter, hfive⟩
  · apply Or.inl
    linarith
  · rcases (mem_uncutStarts hfits).mp hmem with rfl | ⟨n, rfl, -, hhigh⟩ | ⟨rfl, -, hhigh, -⟩
    · exact absurd hafter (lt_irrefl _)
    · apply Or.inr ∘ Or.inl
      rw [floor_eq_of_near hhigh hnear]
      rw [Int.ceil_intCast] at hfive
      exact ⟨by linarith, hfive⟩
    · exact Or.inr (Or.inr ⟨hhigh, hfive⟩)

/-- The last whole hour is kept where it stands at the latest start, no more than five hours after
the first. -/
theorem lastHour_kept (hfits : window.startH - epsilon ≤ window.endH - tpl.lengthH)
    (hfar : 1 / 10000 < window.endH - tpl.lengthH - round4 window.startH)
    (hclose : window.endH - tpl.lengthH - ⌊window.endH - tpl.lengthH + epsilon⌋ ≤ startTolerance)
    (hfive : ⌊window.endH - tpl.lengthH + epsilon⌋ - ⌊round4 window.startH⌋ ≤ 5) :
    ∃ s ∈ candidateStarts window tpl, |s - (window.endH - tpl.lengthH)| ≤ startTolerance := by
  obtain ⟨hmem, hafter⟩ := lastHour_mem hfits hfar hclose
  have hfloor := Int.floor_le (window.endH - tpl.lengthH + epsilon)
  have hepsilon : epsilon ≤ 1 / 10000 := by decide +kernel
  refine ⟨_, (mem_candidateStarts_iff hfits).mpr (Or.inr ⟨hmem, hafter, ?_⟩), ?_⟩
  · rw [Int.ceil_intCast]
    exact hfive
  · exact abs_sub_le_startTolerance hclose (by linarith)

/-- The rounded latest start is kept where it ends inside the window, no more than five hours after
the first, and the last whole hour is not kept in its place. -/
theorem roundedLatest_kept (hfits : window.startH - epsilon ≤ window.endH - tpl.lengthH)
    (hfar : 1 / 10000 < window.endH - tpl.lengthH - round4 window.startH)
    (hhour : ¬(window.endH - tpl.lengthH - ⌊window.endH - tpl.lengthH + epsilon⌋ ≤ startTolerance ∧
      ⌊window.endH - tpl.lengthH + epsilon⌋ - ⌊round4 window.startH⌋ ≤ 5))
    (hinside : round4 (window.endH - tpl.lengthH) ≤ window.endH - tpl.lengthH + epsilon)
    (hfive : ⌈round4 (window.endH - tpl.lengthH)⌉ - ⌊round4 window.startH⌋ ≤ 5) :
    ∃ s ∈ candidateStarts window tpl, |s - (window.endH - tpl.lengthH)| ≤ startTolerance := by
  have hround := round4_le (window.endH - tpl.lengthH)
  have hround' := le_round4 (window.endH - tpl.lengthH)
  have hgrid : (⌊window.endH - tpl.lengthH + epsilon⌋ : ℚ) ≤ round4 (window.endH - tpl.lengthH) :=
    intCast_le_round4 (Int.floor_le _)
  -- the last whole hour is no more hours after the first than the rounded start is
  have hceil : ⌊window.endH - tpl.lengthH + epsilon⌋ ≤ ⌈round4 (window.endH - tpl.lengthH)⌉ := by
    have hle := hgrid.trans (Int.le_ceil (round4 (window.endH - tpl.lengthH)))
    exact_mod_cast hle
  have hlast : 1 / 10000 < window.endH - tpl.lengthH - ⌊window.endH - tpl.lengthH + epsilon⌋ := by
    by_contra hle
    exact hhour ⟨not_lt.mp hle, by omega⟩
  have hmem := roundedLatest_mem hfits hfar hlast hinside
  have hafter : round4 window.startH < round4 (window.endH - tpl.lengthH) := by linarith
  refine ⟨_, (mem_candidateStarts_iff hfits).mpr (Or.inr ⟨hmem, hafter, hfive⟩), ?_⟩
  exact abs_sub_le_startTolerance (by linarith) (by linarith)

/-- A start at the latest one is kept exactly where `LatestKept` says so. -/
theorem latest_mem_iff (hfits : window.startH + tpl.lengthH ≤ window.endH) :
    (∃ s ∈ candidateStarts window tpl, |s - (window.endH - tpl.lengthH)| ≤ startTolerance) ↔
      LatestKept window tpl := by
  have hfits' : window.startH - epsilon ≤ window.endH - tpl.lengthH := by
    linarith [epsilon_pos]
  constructor
  · rintro ⟨s, hs, hnear⟩
    exact latestKept_of_mem hfits' hs hnear
  · intro h
    by_cases hnear : window.endH - tpl.lengthH - round4 window.startH ≤ startTolerance
    · refine ⟨_, (mem_candidateStarts_iff hfits').mpr (Or.inl rfl), ?_⟩
      have hfirst := round4_le window.startH
      exact abs_sub_le_startTolerance hnear (by linarith)
    · by_cases hhour : window.endH - tpl.lengthH - ⌊window.endH - tpl.lengthH + epsilon⌋ ≤
          startTolerance ∧ ⌊window.endH - tpl.lengthH + epsilon⌋ - ⌊round4 window.startH⌋ ≤ 5
      · exact lastHour_kept hfits' (not_le.mp hnear) hhour.1 hhour.2
      · obtain ⟨hinside, hfive⟩ := (h.resolve_left hnear).resolve_left hhour
        exact roundedLatest_kept hfits' (not_le.mp hnear) hhour hinside hfive

end Latest

/-- **The latest start decides**: everything else that is asked of the candidates always holds. -/
theorem startsFeasible_iff (window : Window) (tpl : ShiftTemplate) :
    StartsFeasible window tpl ↔
      (window.startH + tpl.lengthH ≤ window.endH → LatestKept window tpl) := by
  constructor
  · intro h hfits
    exact (latest_mem_iff hfits).mp (h.latest hfits)
  · intro h
    exact
      { sorted := candidateStarts_pairwise
        few := length_candidateStarts
        inside := fun s hs => inside_of_mem hs
        earliest := earliest_mem
        latest := fun hfits => (latest_mem_iff hfits).mpr (h hfits) }

/-- Sixteen hours hold an eight-hour shift from 0 to 8, and only the starts from 0 to 5 are
tried. -/
theorem latest_start_lost :
    ¬ StartsFeasible ⟨"w", 0, 16, .availability⟩ { id := "t", name := "day", lengthH := 8 } := by
  intro h
  obtain ⟨s, hs, hnear⟩ := h.latest (by norm_num)
  have hstarts : candidateStarts ⟨"w", 0, 16, .availability⟩
      { id := "t", name := "day", lengthH := 8 } = [0, 1, 2, 3, 4, 5] := by decide +kernel
  rw [hstarts] at hs
  have hall : ∀ s ∈ ([0, 1, 2, 3, 4, 5] : List ℚ), ¬ |s - (16 - 8)| ≤ startTolerance := by
    decide +kernel
  exact hall s hs hnear

end Feasible

end ShiftMind.Engine
