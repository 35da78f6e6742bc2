import Mathlib.Analysis.Real.Sqrt
import Mathlib.Tactic.Linarith
import Mathlib.Tactic.Positivity

/-!
# Square roots of rationals

A number that is a square root, known by its square, and its exact comparisons with rationals.
-/

namespace Lib

/-- A square root. -/
structure Root where
  square : ℚ
  nonneg : 0 ≤ square

namespace Root

/-- The number itself. -/
noncomputable def value (r : Root) : ℝ := √r.square

/-- `math.hypot(x, y)` in exact arithmetic. -/
def hypot (x y : ℚ) : Root where
  square := x ^ 2 + y ^ 2
  nonneg := add_nonneg (sq_nonneg x) (sq_nonneg y)

def div (r s : Root) : Root where
  square := r.square / s.square
  nonneg := div_nonneg r.nonneg s.nonneg

/-- A rational with no sign. -/
def ofRat (q : ℚ) : Root where
  square := q ^ 2
  nonneg := sq_nonneg q

/-- `b ≤ r` -/
def atLeast (r : Root) (b : ℚ) : Bool := decide (b ≤ 0 ∨ b ^ 2 ≤ r.square)

/-- `r ≤ b` -/
def atMost (r : Root) (b : ℚ) : Bool := decide (0 ≤ b ∧ r.square ≤ b ^ 2)

variable {r s : Root} {b q x y : ℚ}

theorem value_nonneg : 0 ≤ r.value := Real.sqrt_nonneg _

theorem value_hypot : (hypot x y).value = √((x : ℝ) ^ 2 + (y : ℝ) ^ 2) := by
  unfold value hypot
  push_cast
  rfl

theorem value_div : (r.div s).value = r.value / s.value := by
  unfold value div
  rw [Rat.cast_div, Real.sqrt_div (Rat.cast_nonneg.2 r.nonneg)]

theorem value_ofRat (nonneg : 0 ≤ q) : (ofRat q).value = q := by
  unfold value ofRat
  rw [Rat.cast_pow, Real.sqrt_sq (Rat.cast_nonneg.2 nonneg)]

theorem atLeast_iff : r.atLeast b = true ↔ (b : ℝ) ≤ r.value := by
  unfold atLeast
  rw [decide_eq_true_iff]
  rcases le_or_gt b 0 with low | positive
  · exact iff_of_true (.inl low) ((Rat.cast_nonpos.2 low).trans value_nonneg)
  · have squared : (b : ℝ) ≤ r.value ↔ b ^ 2 ≤ r.square := by
      unfold value
      rw [Real.le_sqrt' (Rat.cast_pos.2 positive)]
      exact_mod_cast Iff.rfl
    rw [squared]
    exact or_iff_right (not_le.2 positive)

theorem atMost_iff : r.atMost b = true ↔ r.value ≤ b := by
  unfold atMost value
  rw [decide_eq_true_iff, Real.sqrt_le_iff]
  exact_mod_cast Iff.rfl

end Root

/-- `math.isclose(a, b, rel_tol=…, abs_tol=…)` -/
def IsClose {K : Type*} [Field K] [LinearOrder K] (a b relTol absTol : K) : Prop :=
  |a - b| ≤ max (relTol * max |a| |b|) absTol

section

variable {K : Type*} [Field K] [LinearOrder K] [IsStrictOrderedRing K] {a b tol : K}

/-- Not below a number, or close to it from below. -/
theorem lt_or_isClose_iff_le (nonneg : 0 ≤ a) (boundary : 0 ≤ b) (positive : 0 ≤ tol) :
    b < a ∨ IsClose a b tol tol ↔ b - max (tol * b) tol ≤ a := by
  have slack : 0 ≤ max (tol * b) tol := positive.trans (le_max_right _ _)
  unfold IsClose
  rw [abs_of_nonneg nonneg, abs_of_nonneg boundary]
  rcases lt_or_ge b a with above | below
  · exact iff_of_true (.inl above) (by linarith)
  · rw [max_eq_right below, abs_of_nonpos (by linarith)]
    constructor
    · rintro (above | close)
      · exact absurd above (not_lt.2 below)
      · linarith
    · intro near
      exact .inr (by linarith)

/-- Not above a number below one, or close to it from above. -/
theorem lt_or_isClose_iff_ge (nonneg : 0 ≤ a) (boundary : 0 ≤ b) (positive : 0 ≤ tol)
    (small : tol < 1) (low : b + tol ≤ 1) : a < b ∨ IsClose a b tol tol ↔ a ≤ b + tol := by
  unfold IsClose
  rw [abs_of_nonneg nonneg, abs_of_nonneg boundary]
  rcases lt_or_ge a b with below | above
  · exact iff_of_true (.inl below) (by linarith)
  · rw [max_eq_left above, abs_of_nonneg (by linarith)]
    constructor
    · rintro (below | close)
      · exact absurd below (not_lt.2 above)
      · rcases le_max_iff.1 close with relative | absolute
        · have scaled : tol * a ≤ tol * 1 ∨ 1 < a := by
            rcases le_or_gt a 1 with unit | beyond
            · exact .inl (mul_le_mul_of_nonneg_left unit positive)
            · exact .inr beyond
          rcases scaled with less | beyond
          · linarith
          · have kept : (1 - tol) * 1 < (1 - tol) * a := mul_lt_mul_of_pos_left beyond (by linarith)
            linarith [kept]
        · linarith
    · intro near
      exact .inr (le_max_of_le_right (by linarith))

end

end Lib
