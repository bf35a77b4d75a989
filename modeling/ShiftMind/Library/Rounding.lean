import Mathlib.Algebra.Order.Floor.Ring
import Mathlib.Data.Rat.Floor
import Mathlib.Tactic.Linarith
import Mathlib.Tactic.NormNum
import Mathlib.Tactic.Ring

/-!
# Rounding half to even

`round(x)` of Python on an exact rational: the nearest integer, a tie going to the even one. The
bounds `roundHalfEven_le` and `le_roundHalfEven` place the result within one half of the argument,
and every other fact is read off them.
-/

namespace Rounding

/-- `round(x)`: the nearest integer, ties to even. -/
def roundHalfEven (x : ℚ) : ℤ :=
  let below := ⌊x⌋
  if x - below < 1 / 2 then below
  else if 1 / 2 < x - below then below + 1
  else if below % 2 = 0 then below
  else below + 1

theorem roundHalfEven_le (x : ℚ) : (roundHalfEven x : ℚ) ≤ x + 1 / 2 := by
  have hfloor := Int.floor_le x
  unfold roundHalfEven
  simp only
  split_ifs <;> push_cast <;> linarith

theorem le_roundHalfEven (x : ℚ) : x - 1 / 2 ≤ (roundHalfEven x : ℚ) := by
  have hfloor := Int.lt_floor_add_one x
  unfold roundHalfEven
  simp only
  split_ifs <;> push_cast <;> linarith

/-- An integer rounds to itself. -/
@[simp] theorem roundHalfEven_intCast (n : ℤ) : roundHalfEven (n : ℚ) = n := by
  unfold roundHalfEven
  simp

@[simp] theorem roundHalfEven_zero : roundHalfEven 0 = 0 := by
  simpa using roundHalfEven_intCast 0

theorem roundHalfEven_mono {x y : ℚ} (h : x ≤ y) : roundHalfEven x ≤ roundHalfEven y := by
  rcases lt_or_eq_of_le (Int.floor_le_floor h) with hlt | heq
  · -- different unit intervals: compare through the integer that separates them
    have hx : (roundHalfEven x : ℤ) ≤ ⌊x⌋ + 1 := by
      unfold roundHalfEven
      simp only
      split_ifs <;> omega
    have hy : ⌊y⌋ ≤ roundHalfEven y := by
      unfold roundHalfEven
      simp only
      split_ifs <;> omega
    omega
  · unfold roundHalfEven
    simp only [heq]
    have hsub : x - ⌊y⌋ ≤ y - ⌊y⌋ := by linarith
    split_ifs <;> first | omega | linarith

/-- A nonnegative number rounds to a positive integer exactly when it exceeds one half. -/
theorem roundHalfEven_pos_iff {x : ℚ} : 0 < roundHalfEven x ↔ 1 / 2 < x := by
  constructor
  · intro h
    by_contra hle
    rw [not_lt] at hle
    have hhalf : roundHalfEven (1 / 2 : ℚ) = 0 := by
      unfold roundHalfEven
      norm_num
    have := roundHalfEven_mono hle
    omega
  · intro h
    have hlow := le_roundHalfEven x
    have hpos : (0 : ℚ) < (roundHalfEven x : ℚ) := by linarith
    exact_mod_cast hpos

end Rounding
