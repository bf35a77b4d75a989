import ShiftMind.Engine.FreeWindows
import Mathlib.Algebra.BigOperators.Ring.List
import Mathlib.Tactic.FieldSimp

/-!
# ShiftMind — coverage against roster fill

Round 1 adds two kinds of terms into one objective: unmet labour-hours, and for each roster window
without a shift the hours of that window. The second was meant as a small nudge
(`ROSTER_UNFILL_WEIGHT`), but the weight in the sum is the full length of the window, so that
filling a long roster window can outweigh an hour of demand.

* **`round1_eq`** — with exact weights the objective is unmet labour-hours plus open roster hours.
* **`CoverageFirst`** — its minimisers minimise the unmet labour-hours first.
* **`coverageFirst_iff_outweighs`** — exactly where no admissible roster trades coverage for at
  least as many roster hours.
* **`coverage_first`** — what of the problem is enough for that: roster windows that are free to
  fill, but for some whose hours weigh less than the least step of unmet demand.
-/

namespace ShiftMind.Engine

open Rounding Constants LinearModel

namespace CpSatBuilder

variable (b : CpSatBuilder)

/-- The reference rates make the scaled weights exact. -/
def ExactWeights : Prop :=
  ∀ need ∈ b.unmetVol, ∃ weight : Int, 0 < weight ∧
    (hourScale : ℚ) / (volScale * b.reference need.1.1) = weight

/-- The hours of the roster windows that a solution leaves open, as the objective weighs them. -/
def openHours (x : Var → Int) : ℚ :=
  (b.rosterWindows.map fun windowId =>
    (b.rosterWeight windowId : ℚ) / hourScale * x (.unfilled windowId)).sum

/-- **Coverage is decided first**: a solution that minimises round 1 minimises the unmet
labour-hours, and filling roster windows only breaks ties among those that do. -/
structure CoverageFirst : Prop where
  coverage : ∀ x, b.model.Minimises b.round1Unmet x →
    ∀ y, b.model.Solves y → b.labourHours x ≤ b.labourHours y
  ties : ∀ x, b.model.Minimises b.round1Unmet x →
    ∀ y, b.model.Solves y → b.labourHours y = b.labourHours x → b.openHours x ≤ b.openHours y

/-- **Roster windows that yield to coverage.** The windows that are not free to fill weigh less,
together, than a step that all weights of unmet demand are multiples of. -/
structure RosterYields (step : Int) : Prop where
  volume : ∀ need ∈ b.unmetVol, step ∣ b.volWeight need.1.1
  heads : b.unmetHc ≠ [] → step ∣ hourScale
  nudge : ((b.rosterWindows.filter fun windowId => ¬ b.Free windowId).map b.rosterWeight).sum < step

/-- **Coverage outweighs roster fill**: some roster with the least unmet labour-hours is such that
every admissible roster with more of them gains fewer roster hours over it than it loses
labour-hours. -/
def CoverageOutweighs : Prop :=
  (∃ a, b.Admissible a) →
    ∃ best, b.Admissible best ∧ (∀ a, b.Admissible a → b.unmetHours best ≤ b.unmetHours a) ∧
      ∀ a, b.Admissible a → b.unmetHours best < b.unmetHours a →
        b.unfilledHours best - b.unfilledHours a < b.unmetHours a - b.unmetHours best

variable {b}

/-! ## The objective in hours -/

theorem volWeight_exact (hexact : b.ExactWeights) {need : (String × Int) × Int}
    (hneed : need ∈ b.unmetVol) :
    (b.volWeight need.1.1 : ℚ) = hourScale / (volScale * b.reference need.1.1) := by
  obtain ⟨weight, hpos, hweight⟩ := hexact need hneed
  have hround : b.volWeight need.1.1 = max 1 (roundHalfEven (weight : ℚ)) := by
    rw [← hweight]
    rfl
  rw [hround, roundHalfEven_intCast, hweight]
  congr 1
  omega

/-- The terms of the objective that count unmet demand. -/
def unmetTerms (b : CpSatBuilder) : LinExpr Var :=
  b.unmetVol.map (fun need => (b.volWeight need.1.1, Var.unmetVol need.1.1 need.1.2)) ++
    b.unmetHc.map fun need => (hourScale, Var.unmetHc need.1.1 need.1.2)

/-- The terms of the objective that count open roster windows. -/
def openTerms (b : CpSatBuilder) : LinExpr Var :=
  b.rosterWindows.map fun windowId => (b.rosterWeight windowId, Var.unfilled windowId)

theorem eval_round1 (x : Var → Int) :
    eval x b.round1Unmet = eval x b.unmetTerms + eval x b.openTerms := by
  rw [← eval_append]
  rfl

theorem unmetTerms_eq (hexact : b.ExactWeights) (x : Var → Int) :
    (eval x b.unmetTerms : ℚ) = hourScale * b.labourHours x := by
  have hvol : ((eval x (b.unmetVol.map fun need =>
      (b.volWeight need.1.1, Var.unmetVol need.1.1 need.1.2)) : Int) : ℚ) =
      hourScale * (b.unmetVol.map fun need =>
        (x (.unmetVol need.1.1 need.1.2) : ℚ) / volScale / b.reference need.1.1).sum := by
    rw [cast_eval_map, ← List.sum_map_mul_left]
    refine congrArg List.sum (List.map_congr_left fun need hneed => ?_)
    rw [volWeight_exact hexact hneed]
    ring
  have hhc : ((eval x (b.unmetHc.map fun need =>
      (hourScale, Var.unmetHc need.1.1 need.1.2)) : Int) : ℚ) =
      hourScale * (b.unmetHc.map fun need => (x (.unmetHc need.1.1 need.1.2) : ℚ)).sum := by
    rw [cast_eval_map, ← List.sum_map_mul_left]
  have hlabour : b.labourHours x =
      (b.unmetVol.map fun need =>
        (x (.unmetVol need.1.1 need.1.2) : ℚ) / volScale / b.reference need.1.1).sum +
      (b.unmetHc.map fun need => (x (.unmetHc need.1.1 need.1.2) : ℚ)).sum := rfl
  unfold unmetTerms
  rw [eval_append, Int.cast_add, hvol, hhc, hlabour]
  ring

theorem openTerms_eq (x : Var → Int) : (eval x b.openTerms : ℚ) = hourScale * b.openHours x := by
  have hscale : (hourScale : ℚ) ≠ 0 := by norm_num [hourScale]
  unfold openTerms
  rw [cast_eval_map, openHours, ← List.sum_map_mul_left]
  refine congrArg List.sum (List.map_congr_left fun windowId _ => ?_)
  field_simp

/-- **The round-1 objective**, with exact weights: the unmet labour-hours and the open roster
hours, on one scale. -/
theorem round1_eq (hexact : b.ExactWeights) (x : Var → Int) :
    (eval x b.round1Unmet : ℚ) = hourScale * (b.labourHours x + b.openHours x) := by
  rw [eval_round1, Int.cast_add, unmetTerms_eq hexact, openTerms_eq]
  ring

/-- Comparing objectives is comparing hours. -/
theorem round1_le_iff (hexact : b.ExactWeights) (x y : Var → Int) :
    eval x b.round1Unmet ≤ eval y b.round1Unmet ↔
      b.labourHours x + b.openHours x ≤ b.labourHours y + b.openHours y := by
  rw [← Int.cast_le (R := ℚ), round1_eq hexact, round1_eq hexact]
  exact mul_le_mul_iff_right₀ (by norm_num [hourScale])

theorem openHours_of_solves {x : Var → Int} (hx : b.model.Solves x) :
    b.openHours x = b.unfilledHours x := by
  unfold openHours unfilledHours
  refine congrArg List.sum (List.map_congr_left fun windowId hwindow => ?_)
  rw [unfilled_of_solves hx hwindow]

theorem openHours_extend (a : Var → Int) : b.openHours (b.extend a) = b.unfilledHours a := rfl

/-- A solution's own roster extends to one that is no worse. -/
theorem labourHours_of_minimises (hexact : b.ExactWeights) {x : Var → Int}
    (hx : b.model.Minimises b.round1Unmet x) : b.labourHours x = b.unmetHours x := by
  have hroster := admissible_of_solves hx.solves
  have hle := (round1_le_iff hexact _ _).mp (hx.least _ (solves_extend hroster))
  rw [labourHours_extend, openHours_extend, openHours_of_solves hx.solves] at hle
  refine le_antisymm ?_ (unmetHours_le_labourHours hx.solves)
  linarith

/-- The objective is nonnegative on solutions. -/
theorem round1_nonneg {x : Var → Int} (hx : b.model.Solves x) : 0 ≤ eval x b.round1Unmet := by
  refine eval_nonneg fun term hterm => ?_
  simp only [round1Unmet, List.mem_append, List.mem_map] at hterm
  rcases hterm with (⟨⟨⟨taskId, hour⟩, required⟩, hmem, rfl⟩ |
    ⟨⟨⟨taskId, hour⟩, required⟩, hmem, rfl⟩) | ⟨windowId, hmem, rfl⟩
  · exact ⟨(b.volWeight_pos taskId).le, (covers_unmetVol hmem hx).1⟩
  · exact ⟨by norm_num [hourScale], (covers_unmetHc hmem hx).1⟩
  · refine ⟨?_, ?_⟩
    · unfold rosterWeight
      omega
    · have hbounds := unfilled_bounds (admissible_of_solves hx) hmem
      rw [unfilled_of_solves hx hmem]
      exact hbounds.1

/-! ## When coverage is decided first

The objective adds unmet hours and the lengths of open windows; which of them wins is a question of
their sizes. -/

/-- Ties in coverage are broken by roster fill whatever the weights. -/
theorem ties_of_minimises (hexact : b.ExactWeights) {x y : Var → Int}
    (hx : b.model.Minimises b.round1Unmet x) (hy : b.model.Solves y)
    (htie : b.labourHours y = b.labourHours x) : b.openHours x ≤ b.openHours y := by
  have hle := (round1_le_iff hexact x y).mp (hx.least y hy)
  linarith

/-- A minimiser is the roster that outweighs every other. -/
theorem CoverageFirst.outweighs (hexact : b.ExactWeights) (h : b.CoverageFirst) :
    b.CoverageOutweighs := by
  rintro ⟨a₀, ha₀⟩
  obtain ⟨x, hx⟩ := Model.exists_minimises (solves_extend ha₀) fun y hy => round1_nonneg hy
  have hlabour := labourHours_of_minimises hexact hx
  refine ⟨x, admissible_of_solves hx.solves, fun a ha => ?_, fun a ha hmore => ?_⟩
  · have hle := h.coverage x hx _ (solves_extend ha)
    rwa [labourHours_extend, hlabour] at hle
  · -- were the trade no loss, the other roster would be a minimiser too
    by_contra hnot
    rw [not_lt] at hnot
    have hother : b.model.Minimises b.round1Unmet (b.extend a) := by
      refine ⟨solves_extend ha, fun y hy => le_trans ?_ (hx.least y hy)⟩
      rw [round1_le_iff hexact, labourHours_extend, openHours_extend, hlabour,
        openHours_of_solves hx.solves]
      linarith
    have hle := h.coverage _ hother x hx.solves
    rw [labourHours_extend, hlabour] at hle
    linarith

/-- A roster that outweighs every other leaves a minimiser no way to do worse in coverage. -/
theorem CoverageOutweighs.first (hexact : b.ExactWeights) (h : b.CoverageOutweighs) :
    b.CoverageFirst := by
  refine ⟨fun x hx y hy => ?_, fun x hx y hy htie => ties_of_minimises hexact hx hy htie⟩
  have hroster := admissible_of_solves hx.solves
  obtain ⟨best, hbest, hleast, houtweighs⟩ := h ⟨x, hroster⟩
  have hle := (round1_le_iff hexact _ _).mp (hx.least _ (solves_extend hbest))
  rw [labourHours_extend, openHours_extend, labourHours_of_minimises hexact hx,
    openHours_of_solves hx.solves] at hle
  have hx' : b.unmetHours x ≤ b.unmetHours best := by
    by_contra hmore
    rw [not_le] at hmore
    have := houtweighs x hroster hmore
    linarith
  calc b.labourHours x = b.unmetHours x := labourHours_of_minimises hexact hx
    _ ≤ b.unmetHours best := hx'
    _ ≤ b.unmetHours y := hleast y (admissible_of_solves hy)
    _ ≤ b.labourHours y := unmetHours_le_labourHours hy

/-- **Coverage is decided first exactly when it outweighs roster fill**, roster by roster. -/
theorem coverageFirst_iff_outweighs (hexact : b.ExactWeights) :
    b.CoverageFirst ↔ b.CoverageOutweighs :=
  ⟨CoverageFirst.outweighs hexact, CoverageOutweighs.first hexact⟩

/-! ## What of the problem is enough

Conditions on the problem's own fields under which coverage comes first. -/

theorem rosterWeight_pos (b : CpSatBuilder) (windowId : String) : 0 < b.rosterWeight windowId := by
  unfold rosterWeight
  omega

/-- The open windows of a solution weigh nothing negative. -/
theorem openTerms_nonneg {x : Var → Int} (hx : b.model.Solves x) : 0 ≤ eval x b.openTerms := by
  refine eval_nonneg fun term hterm => ?_
  obtain ⟨windowId, hwindow, rfl⟩ := List.mem_map.mp hterm
  have hbounds := unfilled_bounds (admissible_of_solves hx) hwindow
  rw [unfilled_of_solves hx hwindow]
  exact ⟨(b.rosterWeight_pos windowId).le, hbounds.1⟩

/-- Where the free windows are filled, the open ones weigh no more than the others. -/
theorem openTerms_le {a : Var → Int} (ha : b.Admissible a)
    (hfilled : ∀ windowId ∈ b.rosterWindows, b.Free windowId → b.unfilled a windowId = 0) :
    eval (b.extend a) b.openTerms ≤
      ((b.rosterWindows.filter fun windowId => ¬ b.Free windowId).map b.rosterWeight).sum := by
  have hzero : ∀ windowId ∈ b.rosterWindows, decide (¬ b.Free windowId) = false →
      b.rosterWeight windowId * b.unfilled a windowId = 0 := by
    intro windowId hwindow hfree
    rw [hfilled windowId hwindow (not_not.mp (of_decide_eq_false hfree)), mul_zero]
  have hopen : eval (b.extend a) b.openTerms =
      (b.rosterWindows.map fun windowId =>
        b.rosterWeight windowId * b.unfilled a windowId).sum := by
    unfold openTerms eval
    rw [List.map_map]
    rfl
  rw [hopen, ← Dict.sum_map_filter_of_zero _ hzero]
  apply List.sum_le_sum
  intro windowId hwindow
  have hbounds := unfilled_bounds ha (List.mem_of_mem_filter hwindow)
  have hweight := b.rosterWeight_pos windowId
  calc b.rosterWeight windowId * b.unfilled a windowId
      ≤ b.rosterWeight windowId * 1 := mul_le_mul_of_nonneg_left hbounds.2 hweight.le
    _ = b.rosterWeight windowId := mul_one _

/-- Unmet demand weighs whole steps. -/
theorem RosterYields.step_dvd {step : Int} (h : b.RosterYields step) (x : Var → Int) :
    step ∣ eval x b.unmetTerms := by
  apply List.dvd_sum
  intro value hvalue
  obtain ⟨term, hterm, rfl⟩ := List.mem_map.mp hvalue
  rcases List.mem_append.mp hterm with hterm | hterm
  · obtain ⟨need, hneed, rfl⟩ := List.mem_map.mp hterm
    exact (h.volume need hneed).mul_right _
  · obtain ⟨need, hneed, rfl⟩ := List.mem_map.mp hterm
    exact (h.heads (List.ne_nil_of_mem hneed)).mul_right _

/-- **Where coverage is decided first.** It is whenever each roster window is free to fill, but for
some that weigh less together than the least step of unmet demand; so whenever no roster window has
a shift. -/
theorem coverage_first (hexact : b.ExactWeights) {step : Int} (hyields : b.RosterYields step) :
    b.CoverageFirst := by
  refine ⟨fun x hx y hy => ?_, fun x hx y hy htie => ties_of_minimises hexact hx hy htie⟩
  -- fill the free windows of the other solution
  have hfree : ∀ windowId ∈ b.rosterWindows.filter fun windowId => b.Free windowId,
      windowId ∈ b.rosterWindows ∧ b.Free windowId := fun windowId hwindow =>
    ⟨List.mem_of_mem_filter hwindow, of_decide_eq_true (List.mem_filter.mp hwindow).2⟩
  obtain ⟨a, ha, hunmet, hfilled⟩ := exists_filled (admissible_of_solves hy) hfree
  have hle := hx.least _ (solves_extend ha)
  have hopen := openTerms_le ha fun windowId hwindow hfree =>
    hfilled windowId (List.mem_filter.mpr ⟨hwindow, decide_eq_true hfree⟩)
  have hnonneg := openTerms_nonneg hx.solves
  have hnudge := hyields.nudge
  rw [eval_round1, eval_round1] at hle
  -- the objective would be undercut by a whole step
  have hsteps : eval x b.unmetTerms ≤ eval (b.extend a) b.unmetTerms := by
    by_contra hmore
    rw [not_le] at hmore
    have hstep := Int.le_of_dvd (by omega)
      (Int.dvd_sub (hyields.step_dvd x) (hyields.step_dvd (b.extend a)))
    omega
  have hhours : (hourScale : ℚ) * b.labourHours x ≤ hourScale * b.labourHours (b.extend a) := by
    rw [← unmetTerms_eq hexact, ← unmetTerms_eq hexact]
    exact Int.cast_le.mpr hsteps
  calc b.labourHours x ≤ b.labourHours (b.extend a) :=
        le_of_mul_le_mul_left hhours (by norm_num [hourScale])
    _ = b.unmetHours a := labourHours_extend a
    _ ≤ b.unmetHours y := hunmet
    _ ≤ b.labourHours y := unmetHours_le_labourHours hy

end CpSatBuilder

/-! ## A roster window that outweighs demand -/

namespace Floor

/-- Ana counts stock: her roster has her in for the first two hours, and she could come the next
night; her week has two hours left. -/
def counting : SchedulingProblem where
  horizonH := 48
  members := [{ ana with
    windows := [⟨"ros0", 0, 2, .roster⟩, ⟨"ava0", 24, 26, .availability⟩]
    qualifications := [⟨"count", 50⟩] }]
  tasks := [⟨"count", "Stock count", "Count", "floor", none⟩]
  templates := [⟨"two", "Two hours", 2, []⟩]
  demand := [⟨"count", .indirect, 0, 1, 1, "IND0"⟩, ⟨"count", .indirect, 24, 26, 1, "IND1"⟩]
  maxHoursPerWeek := [("Casual", 2)]

def rosterFirst : CpSatBuilder := ⟨counting, []⟩

/-- Ana works her roster, and two hours of the next night stay unmet. -/
def worksRoster : Var → Int
  | .shift 0 | .task 0 0 | .unmetHc "count" 24 | .unmetHc "count" 25 => 1
  | _ => 0

/-- Ana works the next night, and one hour of her roster stays unmet. -/
def worksNight : Var → Int
  | .shift 1 | .task 1 0 | .unmetHc "count" 0 | .unfilled "ros0" => 1
  | _ => 0

/-- The same two windows with two more hours in the week: both can be worked. -/
def bothNights : CpSatBuilder := ⟨{ counting with maxHoursPerWeek := [("Casual", 4)] }, []⟩

end Floor

open CpSatBuilder in
/-- With two more hours in the week the roster window is free, and coverage comes first. -/
theorem coverage_first_both_nights :
    Floor.bothNights.rosterWindows = ["ros0"] ∧ Floor.bothNights.CoverageFirst := by
  have hneeds : Floor.bothNights.unmetVol = [] := by decide +kernel
  have hexact : Floor.bothNights.ExactWeights := by
    intro need hneed
    rw [hneeds] at hneed
    cases hneed
  have hyields : Floor.bothNights.RosterYields hourScale := by
    refine ⟨?_, fun _ => dvd_refl _, by decide +kernel⟩
    rw [hneeds]
    exact fun _ hneed => absurd hneed List.not_mem_nil
  exact ⟨by decide +kernel, coverage_first hexact hyields⟩

open CpSatBuilder in
/-- Filling the two roster hours costs an hour of coverage. -/
theorem roster_fill_outweighs_coverage :
    Floor.rosterFirst.ExactWeights ∧
      Floor.rosterFirst.model.Minimises Floor.rosterFirst.round1Unmet Floor.worksRoster ∧
      Floor.rosterFirst.model.Solves Floor.worksNight ∧
      Floor.rosterFirst.labourHours Floor.worksNight <
        Floor.rosterFirst.labourHours Floor.worksRoster ∧
      ¬ Floor.rosterFirst.CoverageFirst := by
  have hneeds : Floor.rosterFirst.unmetVol = [] := by decide +kernel
  have hminimises :
      Floor.rosterFirst.model.Minimises Floor.rosterFirst.round1Unmet Floor.worksRoster := by
    refine ⟨by decide +kernel, fun y hy => ?_⟩
    have hvalue : eval Floor.worksRoster Floor.rosterFirst.round1Unmet = 200000 := by
      decide +kernel
    have hobjective : Floor.rosterFirst.round1Unmet =
        [(100000, .unmetHc "count" 0), (100000, .unmetHc "count" 24),
          (100000, .unmetHc "count" 25), (200000, .unfilled "ros0")] := by decide +kernel
    rw [hvalue, hobjective]
    -- the week's cap admits one of the two shifts
    have hcap := hy.constraints ⟨[(200, .shift 0), (200, .shift 1)], .le, 200⟩ (by decide +kernel)
    have hroster := hy.constraints ⟨[(1, .shift 0), (1, .unfilled "ros0")], .eq, 1⟩
      (by decide +kernel)
    have hfirst := hy.constraints ⟨[(1, .task 0 0), (-1, .shift 0)], .le, 0⟩ (by decide +kernel)
    have hsecond := hy.constraints ⟨[(1, .task 1 0), (-1, .shift 1)], .le, 0⟩ (by decide +kernel)
    have hneed₀ := hy.constraints ⟨[(1, .task 0 0), (1, .unmetHc "count" 0)], .ge, 1⟩
      (by decide +kernel)
    have hneed₂₄ := hy.constraints ⟨[(1, .task 1 0), (1, .unmetHc "count" 24)], .ge, 1⟩
      (by decide +kernel)
    have hneed₂₅ := hy.constraints ⟨[(1, .task 1 0), (1, .unmetHc "count" 25)], .ge, 1⟩
      (by decide +kernel)
    have hbool := hy.bounds (boolVar (.shift 0)) (by decide +kernel)
    have hslack₀ := hy.bounds ⟨.unmetHc "count" 0, 0, 1⟩ (by decide +kernel)
    have hslack₂₄ := hy.bounds ⟨.unmetHc "count" 24, 0, 1⟩ (by decide +kernel)
    have hslack₂₅ := hy.bounds ⟨.unmetHc "count" 25, 0, 1⟩ (by decide +kernel)
    simp only [holds_le, holds_eq, holds_ge, eval_cons, eval_nil, boolVar] at *
    omega
  have hnight : Floor.rosterFirst.model.Solves Floor.worksNight := by decide +kernel
  have hless : Floor.rosterFirst.labourHours Floor.worksNight <
      Floor.rosterFirst.labourHours Floor.worksRoster := by decide +kernel
  refine ⟨?_, hminimises, hnight, hless, fun h => ?_⟩
  · intro need hneed
    rw [hneeds] at hneed
    cases hneed
  · exact absurd (h.coverage _ hminimises _ hnight) (not_le.mpr hless)

end ShiftMind.Engine
