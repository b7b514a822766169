import Mathlib.Algebra.Order.Field.Basic
import Mathlib.Analysis.Real.Pi.Bounds
import Mathlib.Analysis.SpecialFunctions.Trigonometric.Basic

/-!
# The Lanczos kernel

`sinc` and `lanczos_filter`, for any ordered field with a sine.  The support of
the kernel is cut off on the right only, so that on the left there are side
lobes without end.
-/

namespace Gloc.Math

universe u

section Kernel

variable {real : Type u} [Field real] [LinearOrder real] (sin : real → real)

/-- `PI`, with the digits that the header has. -/
def PI : real := 314159265358 / 10 ^ 11

def sinc (x : real) : real :=
  if |x| = 0 then 1 else sin (PI * x) / (PI * x)

def lanczosFilter (x alpha : real) : real :=
  if x > alpha then 0 else sinc sin x * sinc sin (x / alpha)

/-- At this argument the kernel is even, bounded in its support, and a product of two
cardinal sines within it. -/
def IsLanczosAt (x alpha : real) : Prop :=
  lanczosFilter sin x alpha = lanczosFilter sin (-x) alpha ∧
    (alpha < |x| → lanczosFilter sin x alpha = 0) ∧
    (|x| ≤ alpha → lanczosFilter sin x alpha = sinc sin x * sinc sin (x / alpha))

variable {sin}

theorem lanczosFilter_of_le {x alpha : real} (inside : x ≤ alpha) :
    lanczosFilter sin x alpha = sinc sin x * sinc sin (x / alpha) :=
  if_neg (not_lt.mpr inside)

theorem lanczosFilter_of_gt {x alpha : real} (beyond : alpha < x) :
    lanczosFilter sin x alpha = 0 :=
  if_pos beyond

theorem sinc_neg (odd : ∀ x, sin (-x) = -sin x) (x : real) : sinc sin (-x) = sinc sin x := by
  unfold sinc
  rw [abs_neg, mul_neg, odd, neg_div_neg_eq]

variable [IsStrictOrderedRing real]

theorem PI_pos : (0 : real) < PI := by
  unfold PI
  positivity

theorem sinc_eq_zero_iff {x : real} (nonzero : x ≠ 0) : sinc sin x = 0 ↔ sin (PI * x) = 0 := by
  have denominator : PI * x ≠ 0 := mul_ne_zero PI_pos.ne' nonzero
  unfold sinc
  rw [if_neg (abs_ne_zero.mpr nonzero), div_eq_zero_iff, or_iff_left denominator]

/-- The kernel is what it should be within its support, and beyond it if the product
that it returns on the left is zero. -/
theorem isLanczosAt_iff (odd : ∀ x, sin (-x) = -sin x) {x alpha : real} (positive : 0 < alpha) :
    IsLanczosAt sin x alpha ↔
      |x| ≤ alpha ∨ sin (PI * x) = 0 ∨ sin (PI * (x / alpha)) = 0 := by
  have product : sinc sin (-x) * sinc sin (-x / alpha) = sinc sin x * sinc sin (x / alpha) := by
    rw [neg_div, sinc_neg odd, sinc_neg odd]
  by_cases inside : |x| ≤ alpha
  · refine ⟨fun _ => .inl inside, fun _ => ⟨?_, ?_, ?_⟩⟩
    · rw [lanczosFilter_of_le ((le_abs_self x).trans inside),
        lanczosFilter_of_le ((neg_le_abs x).trans inside), product]
    · intro beyond
      exact absurd inside (not_le.mpr beyond)
    · intro _
      exact lanczosFilter_of_le ((le_abs_self x).trans inside)
  · have nonzero : x ≠ 0 := by
      rintro rfl
      exact inside (abs_zero.trans_le positive.le)
    have quotient : x / alpha ≠ 0 := div_ne_zero nonzero positive.ne'
    have vanishes : sinc sin x * sinc sin (x / alpha) = 0 ↔
        sin (PI * x) = 0 ∨ sin (PI * (x / alpha)) = 0 := by
      rw [mul_eq_zero, sinc_eq_zero_iff nonzero, sinc_eq_zero_iff quotient]
    rw [or_iff_right inside, ← vanishes]
    have beyond : alpha < |x| := not_le.mp inside
    rcases lt_abs.mp beyond with right | left
    · have other : -x ≤ alpha := (neg_neg_of_pos (positive.trans right)).le.trans positive.le
      have here : lanczosFilter sin x alpha = 0 := lanczosFilter_of_gt right
      have there : lanczosFilter sin (-x) alpha = sinc sin x * sinc sin (x / alpha) := by
        rw [lanczosFilter_of_le other, product]
      refine ⟨fun kernel => ?_, fun zero => ⟨?_, fun _ => here, fun within => ?_⟩⟩
      · rw [← there, ← kernel.1, here]
      · rw [here, there, zero]
      · exact absurd within inside
    · have other : x ≤ alpha := by
        apply le_trans _ positive.le
        exact (neg_pos.mp (positive.trans left)).le
      have here : lanczosFilter sin x alpha = sinc sin x * sinc sin (x / alpha) :=
        lanczosFilter_of_le other
      have there : lanczosFilter sin (-x) alpha = 0 := lanczosFilter_of_gt left
      refine ⟨fun kernel => ?_, fun zero => ⟨?_, fun _ => ?_, fun within => ?_⟩⟩
      · rw [← here, kernel.2.1 beyond]
      · rw [here, there, zero]
      · rw [here, zero]
      · exact absurd within inside

end Kernel

/-- With the sine of the reals, the kernel is right within its support, and beyond it at
the zeros of the two cardinal sines. -/
theorem lanczosFilter_real_iff {x alpha : ℝ} (positive : 0 < alpha) :
    IsLanczosAt Real.sin x alpha ↔
      |x| ≤ alpha ∨ (∃ k : ℤ, k * Real.pi = PI * x) ∨ ∃ k : ℤ, k * Real.pi = PI * (x / alpha) := by
  rw [isLanczosAt_iff Real.sin_neg positive, Real.sin_eq_zero_iff, Real.sin_eq_zero_iff]

theorem lanczosFilter_real_iff_half : IsLanczosAt Real.sin (1 / 2) 1 := by
  rw [lanczosFilter_real_iff one_pos]
  left
  norm_num

/-- Three halves to the left of the centre, the kernel of size 1 has not come to its end. -/
theorem lanczosFilter_real_leftLobe :
    (1 : ℝ) < |-(3 / 2)| ∧ lanczosFilter Real.sin (-(3 / 2)) 1 ≠ 0 ∧
      ¬ IsLanczosAt Real.sin (-(3 / 2)) 1 := by
  have beyond : (1 : ℝ) < |-(3 / 2)| := by
    rw [abs_neg]
    norm_num
  have size : (PI : ℝ) * (3 / 2) = 471238898037 / 10 ^ 11 := by
    unfold PI
    norm_num
  have lobe : Real.sin (PI * -(3 / 2)) ≠ 0 := by
    intro zero
    rw [mul_neg, Real.sin_neg, neg_eq_zero, size, Real.sin_eq_zero_iff] at zero
    obtain ⟨k, multiple⟩ := zero
    have low : 3.14 < Real.pi := Real.pi_gt_d2
    have high : Real.pi < 3.15 := Real.pi_lt_d2
    -- the argument lies between one half turn and two
    rcases le_or_gt k 1 with few | many
    · have less : k * Real.pi ≤ 1 * Real.pi :=
        mul_le_mul_of_nonneg_right (by exact_mod_cast few) Real.pi_pos.le
      norm_num at less high multiple
      linarith
    · have more : 2 * Real.pi ≤ k * Real.pi :=
        mul_le_mul_of_nonneg_right (by exact_mod_cast many) Real.pi_pos.le
      norm_num at low multiple
      linarith
  have cardinal : sinc Real.sin (-(3 / 2)) ≠ 0 := by
    rwa [Ne, sinc_eq_zero_iff (by norm_num)]
  have value : lanczosFilter Real.sin (-(3 / 2)) 1 ≠ 0 := by
    rw [lanczosFilter_of_le (by norm_num), div_one]
    exact mul_ne_zero cardinal cardinal
  exact ⟨beyond, value, fun kernel => value (kernel.2.1 beyond)⟩

end Gloc.Math
