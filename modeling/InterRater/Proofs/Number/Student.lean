import InterRater.Proofs.Number.Exact
import Mathlib.Analysis.SpecialFunctions.Artanh
import Mathlib.Analysis.SpecialFunctions.JapaneseBracket
import Mathlib.MeasureTheory.Measure.Haar.NormedSpace
import Mathlib.MeasureTheory.Measure.Lebesgue.Integral

/-!
# Student's distribution in exact arithmetic

The transcendental functions on `ℝ`.  The upper tail of Student's distribution is a quotient of two
integrals, so that no factor of the density needs to be known.  The distribution is symmetric, hence
the two-sided tail at 0 is 1 (`twoSidedTail_zero`).
-/

open MeasureTheory

namespace InterRater

namespace Student

variable {degrees : ℝ}

/-- The density of Student's distribution, up to a constant factor. -/
noncomputable def weight (degrees x : ℝ) : ℝ :=
  (√((1 + x ^ 2 / degrees) ^ (degrees + 1)))⁻¹

/-- The probability that a Student variable is more than `t`. -/
noncomputable def upperTail (t degrees : ℝ) : ℝ :=
  (∫ x in Set.Ioi t, weight degrees x) / ∫ x, weight degrees x

theorem weight_pos (h : 0 < degrees) (x : ℝ) : 0 < weight degrees x := by
  rw [weight]
  positivity

theorem integrable_weight (h : 0 < degrees) : Integrable (weight degrees) := by
  have hbracket : Integrable fun y : ℝ => (1 + ‖y‖ ^ 2) ^ (-(degrees + 1) / 2) :=
    integrable_rpow_neg_one_add_norm_sq (by simpa using h)
  have hroot : √degrees ≠ 0 := (Real.sqrt_pos.mpr h).ne'
  refine (hbracket.comp_div hroot).congr (Filter.Eventually.of_forall fun x => ?_)
  show (1 + ‖x / √degrees‖ ^ 2) ^ (-(degrees + 1) / 2) = weight degrees x
  have hbase : 0 ≤ 1 + x ^ 2 / degrees := by positivity
  have hexponent : -(degrees + 1) / 2 = -((degrees + 1) * (1 / 2)) := by ring
  rw [weight, Real.norm_eq_abs, sq_abs, div_pow, Real.sq_sqrt h.le, Real.sqrt_eq_rpow,
    ← Real.rpow_mul hbase, ← Real.rpow_neg hbase, hexponent]

theorem integral_weight_pos (h : 0 < degrees) : 0 < ∫ x, weight degrees x := by
  rw [integral_pos_iff_support_of_nonneg (fun x => (weight_pos h x).le) (integrable_weight h)]
  have hsupport : Function.support (weight degrees) = Set.univ :=
    Set.eq_univ_of_forall fun x => (weight_pos h x).ne'
  rw [hsupport]
  exact Measure.measure_univ_pos.mpr (NeZero.ne _)

/-- Half of the distribution lies above 0. -/
theorem upperTail_zero (h : 0 < degrees) : upperTail 0 degrees = 1 / 2 := by
  have heven : ∫ x, weight degrees x = ∫ x, weight degrees |x| := by
    simp only [weight, sq_abs]
  have hpos := integral_weight_pos h
  rw [heven, integral_comp_abs] at hpos
  rw [upperTail, heven, integral_comp_abs]
  have hne : ∫ x in Set.Ioi (0 : ℝ), weight degrees x ≠ 0 := by
    intro hzero
    rw [hzero, mul_zero] at hpos
    exact lt_irrefl 0 hpos
  field_simp

end Student

namespace Special

noncomputable instance exact : Special ℝ where
  upperTail := Student.upperTail
  atanh := Real.artanh
  tanh := Real.tanh

theorem twoSidedTail_zero {degrees : ℝ} (h : 0 < degrees) : twoSidedTail (0 : ℝ) degrees = 1 := by
  rw [twoSidedTail, Scalar.nonFinite?_eq, if_neg (Option.some_ne_none _).symm, if_pos h,
    Scalar.clamp_eq zero_le_one, Scalar.abs_eq, abs_zero]
  show max 0 (min (((2 : ℕ) : ℝ) * Student.upperTail 0 degrees) 1) = 1
  rw [Student.upperTail_zero h]
  norm_num

end Special

end InterRater
