import Mathlib.Algebra.Order.Floor.Ring
import Mathlib.Data.Rat.Floor
import Mathlib.Tactic.Linarith

/-!
# Rounding

Rounding a rational to the nearest integer, halves to the even one or up, and where the doubles end.
-/

namespace Lib

/-- To the nearest integer, halves to the even one. -/
def roundHalfEven (x : ℚ) : ℤ :=
  let below := ⌊x⌋
  let rest := x - below
  if rest < 1 / 2 ∨ (rest = 1 / 2 ∧ below % 2 = 0) then below else below + 1

section

variable {x : ℚ} {n : ℤ}

/-- A number less than a half above an integer is not rounded beyond it. -/
theorem roundHalfEven_le (h : x < n + 1 / 2) : roundHalfEven x ≤ n := by
  unfold roundHalfEven
  dsimp only
  have below : ((⌊x⌋ : ℤ) : ℚ) ≤ x := Int.floor_le x
  split
  · have strict : ((⌊x⌋ : ℤ) : ℚ) < n + 1 := by linarith
    exact Int.lt_add_one_iff.1 (by exact_mod_cast strict)
  next far =>
    have half : 1 / 2 ≤ x - ⌊x⌋ := not_lt.1 fun near => far (.inl near)
    have strict : ((⌊x⌋ : ℤ) : ℚ) < n := by linarith
    exact Int.add_one_le_iff.2 (by exact_mod_cast strict)

/-- To the nearest integer, halves up. -/
def roundHalfUp (x : ℚ) : ℤ := ⌊x + 1 / 2⌋

theorem roundHalfUp_sub_mem (x : ℚ) : -(1 / 2) < roundHalfUp x - x ∧ roundHalfUp x - x ≤ 1 / 2 := by
  have below : ((⌊x + 1 / 2⌋ : ℤ) : ℚ) ≤ x + 1 / 2 := Int.floor_le _
  have above : x + 1 / 2 < ⌊x + 1 / 2⌋ + 1 := Int.lt_floor_add_one _
  constructor
  · change -(1 / 2) < (⌊x + 1 / 2⌋ : ℚ) - x
    linarith
  · change (⌊x + 1 / 2⌋ : ℚ) - x ≤ 1 / 2
    linarith

theorem roundHalfUp_pos_iff : 0 < roundHalfUp x ↔ 1 / 2 ≤ x := by
  change 1 ≤ ⌊x + 1 / 2⌋ ↔ 1 / 2 ≤ x
  rw [Int.le_floor, Int.cast_one]
  constructor
  · intro h
    linarith
  · intro h
    linarith

end

/-! ## The range of the doubles -/

/-- From here on a number is rounded beyond the largest double. -/
@[irreducible] def doubleLimit : ℕ := 2 ^ 1024 - 2 ^ 970

theorem doubleLimit_pos : 0 < doubleLimit := by
  unfold doubleLimit
  decide +kernel

/-- The largest double. -/
@[irreducible] def largestDouble : ℕ := 2 ^ 1024 - 2 ^ 971

theorem largestDouble_lt_doubleLimit : largestDouble < doubleLimit := by
  unfold largestDouble doubleLimit
  decide +kernel

theorem pow_lt_doubleLimit : 2 ^ 100 < doubleLimit := by
  unfold doubleLimit
  decide +kernel

end Lib
