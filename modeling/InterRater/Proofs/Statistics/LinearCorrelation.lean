import InterRater.Proofs.Number.Student
import InterRater.Proofs.Statistics.CauchySchwarz
import Mathlib.Data.Sign.Basic

/-!
# What Pearson's correlation says

Two series that vary have a correlation, and its coefficient is `quotient`: clamping does not change
it (`ofSamples_eq_quotient`).  On another scale, `a * x + b` and `c * y + d`, the coefficient keeps
its magnitude and takes the sign of `a * c`, and all else stays (`ofSamples_rescaled`).

`pearson_outcome` puts this together with the cases of equality: the coefficient is 1 or -1 exactly
if the one series is a linear function of the other, rising or falling.
-/

namespace InterRater

namespace Correlation

/-! ### The coefficient is not clamped -/

theorem quotient_bounds {samples : List (ℝ × ℝ)} (hx : xDeviations samples ≠ 0) :
    -1 ≤ quotient samples ∧ quotient samples ≤ 1 :=
  abs_le.mp ((sq_le_one_iff_abs_le_one _).mp (sq_quotient_le_one hx))

section Coefficient

variable [Special ℝ]

/-- The correlation of samples, without the clamp of the coefficient. -/
theorem ofSamples_eq_quotient (samples : List (ℝ × ℝ)) :
    ofSamples samples =
      if samples.length < 2 ∨ xDeviations samples = 0 ∨ yDeviations samples = 0 then undefined
      else ⟨quotient samples, significance (quotient samples) samples.length, true⟩ := by
  rw [ofSamples_eq]
  refine ite_congr rfl (fun _ => rfl) fun hvary => ?_
  rw [not_or, not_or] at hvary
  obtain ⟨hlow, hhigh⟩ := quotient_bounds hvary.2.1
  have hclamp : Scalar.clamp (quotient samples) (-1) 1 = quotient samples := by
    rw [Scalar.clamp_eq (by norm_num), min_eq_left hhigh, max_eq_right hlow]
  show (⟨Scalar.clamp (quotient samples) (-1) 1,
    significance (Scalar.clamp (quotient samples) (-1) 1) samples.length, true⟩ : Correlation ℝ) = _
  rw [hclamp]

/-- The coefficient times the roots of the deviations gives the codeviations, also where the
coefficient is 0 because a series does not vary. -/
theorem coefficient_ofSamples_mul (samples : List (ℝ × ℝ)) :
    (ofSamples samples).coefficient * (√(xDeviations samples) * √(yDeviations samples))
      = codeviations samples := by
  rw [ofSamples_eq_quotient]
  split_ifs with hflat
  · have hzero : xDeviations samples = 0 ∨ yDeviations samples = 0 := by
      rcases hflat with hfew | hflat
      · -- A single sample does not vary.
        left
        rw [xDeviations, Statistics.squaredDeviations_eq_zero_iff]
        rcases samples with _ | ⟨s, _ | ⟨t, samples⟩⟩
        · simp
        · simp
        · simp at hfew
      · exact hflat
    rw [codeviations_eq_zero hzero]
    exact zero_mul _
  · rw [not_or, not_or] at hflat
    have hroot : √(xDeviations samples * yDeviations samples) ≠ 0 := by
      rw [Real.sqrt_mul xDeviations_nonneg, mul_ne_zero_iff,
        Real.sqrt_ne_zero xDeviations_nonneg, Real.sqrt_ne_zero yDeviations_nonneg]
      exact hflat.2
    show quotient samples * _ = codeviations samples
    rw [← Real.sqrt_mul xDeviations_nonneg, quotient, div_mul_cancel₀ _ hroot]

/-- The p-value does not see the sign of the coefficient. -/
theorem significance_neg (r : ℝ) (n : ℕ) : significance (-r) n = significance r n := by
  simp only [significance, neg_mul_neg]
  simp only [neg_mul, Special.twoSidedTail_neg]

end Coefficient

/-! ### Series on other scales -/

/-- The samples with each series on another scale. -/
def rescaled (a b c d : ℝ) (samples : List (ℝ × ℝ)) : List (ℝ × ℝ) :=
  samples.map fun s => (a * s.1 + b, c * s.2 + d)

section Rescaled

variable (a b c d : ℝ) (samples : List (ℝ × ℝ))

theorem map_fst_rescaled : (rescaled a b c d samples).map (·.1)
    = (samples.map (·.1)).map fun v => a * v + b := by
  rw [rescaled, List.map_map, List.map_map]
  rfl

theorem map_snd_rescaled : (rescaled a b c d samples).map (·.2)
    = (samples.map (·.2)).map fun v => c * v + d := by
  rw [rescaled, List.map_map, List.map_map]
  rfl

theorem xDeviations_rescaled :
    xDeviations (rescaled a b c d samples) = a ^ 2 * xDeviations samples := by
  rw [xDeviations, map_fst_rescaled, Statistics.squaredDeviations_map_affine, xDeviations]

theorem yDeviations_rescaled :
    yDeviations (rescaled a b c d samples) = c ^ 2 * yDeviations samples := by
  rw [yDeviations, map_snd_rescaled, Statistics.squaredDeviations_map_affine, yDeviations]

theorem codeviations_rescaled :
    codeviations (rescaled a b c d samples) = a * c * codeviations samples := by
  rcases eq_or_ne samples [] with rfl | hne
  · simp [codeviations, comoment_eq, rescaled]
  have hmap : ∀ f : ℝ × ℝ → ℝ, samples.map f ≠ [] := fun f => by simpa using hne
  rw [codeviations, map_fst_rescaled, map_snd_rescaled, Statistics.mean_map_affine a b (hmap _),
    Statistics.mean_map_affine c d (hmap _), codeviations, comoment_eq, comoment_eq, rescaled,
    List.map_map, ← List.sum_map_mul_left]
  refine congrArg List.sum (List.map_congr_left fun s _ => ?_)
  rw [Function.comp_apply]
  ring

variable {a c}

/-- The coefficient takes the signs of both factors. -/
theorem quotient_rescaled (ha : a ≠ 0) (hc : c ≠ 0) :
    quotient (rescaled a b c d samples) = SignType.sign (a * c) * quotient samples := by
  have hfactor : |a * c| ≠ 0 := abs_ne_zero.mpr (mul_ne_zero ha hc)
  have hroot : √(a ^ 2 * xDeviations samples * (c ^ 2 * yDeviations samples))
      = |a * c| * √(xDeviations samples * yDeviations samples) := by
    rw [show a ^ 2 * xDeviations samples * (c ^ 2 * yDeviations samples)
      = (a * c) ^ 2 * (xDeviations samples * yDeviations samples) by ring,
      Real.sqrt_mul (sq_nonneg _), Real.sqrt_sq_eq_abs]
  calc quotient (rescaled a b c d samples)
      = a * c * codeviations samples
          / (|a * c| * √(xDeviations samples * yDeviations samples)) := by
        rw [quotient, codeviations_rescaled, xDeviations_rescaled, yDeviations_rescaled, hroot]
    _ = SignType.sign (a * c) * (|a * c| * codeviations samples)
          / (|a * c| * √(xDeviations samples * yDeviations samples)) := by
        rw [← mul_assoc, sign_mul_abs]
    _ = SignType.sign (a * c) * quotient samples := by
        rw [mul_div_assoc, mul_div_mul_left _ _ hfactor, quotient]

/-- **The scales of the series** decide the sign of the coefficient, and nothing else. -/
theorem ofSamples_rescaled [Special ℝ] (ha : a ≠ 0) (hc : c ≠ 0) :
    ofSamples (rescaled a b c d samples)
      = ⟨SignType.sign (a * c) * (ofSamples samples).coefficient, (ofSamples samples).pValue,
          (ofSamples samples).defined⟩ := by
  have hlength : (rescaled a b c d samples).length = samples.length := List.length_map _
  have hsq : a ^ 2 ≠ 0 := pow_ne_zero 2 ha
  have hsq' : c ^ 2 ≠ 0 := pow_ne_zero 2 hc
  have hpValue : ∀ r : ℝ, significance (SignType.sign (a * c) * r) samples.length
      = significance r samples.length := by
    intro r
    rcases lt_or_gt_of_ne (mul_ne_zero ha hc) with hneg | hpos
    · rw [sign_neg hneg, SignType.coe_neg_one, neg_one_mul, significance_neg]
    · rw [sign_pos hpos, SignType.coe_one, one_mul]
  simp only [ofSamples_eq_quotient, hlength, xDeviations_rescaled, yDeviations_rescaled,
    mul_eq_zero, hsq, hsq', false_or, quotient_rescaled b d samples ha hc, hpValue]
  split_ifs
  · show (⟨0, 1, false⟩ : Correlation ℝ) = ⟨SignType.sign (a * c) * 0, 1, false⟩
    rw [mul_zero]
  · rfl

end Rescaled

/-! ### Pearson's correlation -/

/-- If all samples are on the graph of a function, the second series is that of its values. -/
theorem forall_mem_zip_iff {β γ : Type*} (f : β → γ) {x : List β} {y : List γ}
    (hlength : x.length = y.length) : (∀ s ∈ x.zip y, s.2 = f s.1) ↔ y = x.map f := by
  have hx : x.map f = (x.zip y).map fun s => f s.1 := by
    conv_lhs => rw [← List.map_fst_zip hlength.le, List.map_map]
    rfl
  rw [hx, ← List.map_inj_left, List.map_snd_zip hlength.ge]

/-- **Pearson's correlation tells whether two series that vary are linear functions of each other.**
The coefficient is the quotient of the codeviations by the root of the product of the deviations,
which is between -1 and 1 without a clamp.  It is 1 exactly if the second series is a rising linear
function of the first, and -1 exactly if it is a falling one.  The series may be exchanged, and on
other scales only the sign of the coefficient changes, with the signs of the factors. -/
theorem pearson_outcome [Special ℝ] {x y : List ℝ} (hlength : x.length = y.length)
    (htwo : 2 ≤ x.length) (hx : ¬ ∀ u ∈ x, ∀ v ∈ x, u = v) (hy : ¬ ∀ u ∈ y, ∀ v ∈ y, u = v) :
    (-1 ≤ quotient (x.zip y) ∧ quotient (x.zip y) ≤ 1) ∧
    pearson x y = ⟨quotient (x.zip y), significance (quotient (x.zip y)) x.length, true⟩ ∧
    ((pearson x y).coefficient = 1 ↔ ∃ a b, 0 < a ∧ y = x.map fun v => a * v + b) ∧
    ((pearson x y).coefficient = -1 ↔ ∃ a b, a < 0 ∧ y = x.map fun v => a * v + b) ∧
    pearson x y = pearson y x ∧
    ∀ a b c d, a ≠ 0 → c ≠ 0 →
      pearson (x.map fun v => a * v + b) (y.map fun v => c * v + d)
        = ⟨SignType.sign (a * c) * (pearson x y).coefficient, (pearson x y).pValue,
            (pearson x y).defined⟩ := by
  have hcount : (x.zip y).length = x.length := by rw [List.length_zip, ← hlength, min_self]
  have hxvary : xDeviations (x.zip y) ≠ 0 := by
    rw [xDeviations, List.map_fst_zip hlength.le, ne_eq, Statistics.squaredDeviations_eq_zero_iff]
    exact hx
  have hyvary : yDeviations (x.zip y) ≠ 0 := by
    rw [yDeviations, List.map_snd_zip hlength.ge, ne_eq, Statistics.squaredDeviations_eq_zero_iff]
    exact hy
  have heq : pearson x y
      = ⟨quotient (x.zip y), significance (quotient (x.zip y)) x.length, true⟩ := by
    rw [pearson, ofSamples_eq_quotient, hcount,
      if_neg (not_or.mpr ⟨htwo.not_gt, not_or.mpr ⟨hxvary, hyvary⟩⟩)]
  refine ⟨quotient_bounds hxvary, heq, ?_, ?_, pearson_comm x y, fun a b c d ha hc => ?_⟩
  · rw [heq, quotient_eq_one_iff hxvary]
    exact exists₂_congr fun a b => and_congr_right fun _ =>
      forall_mem_zip_iff (fun v => a * v + b) hlength
  · rw [heq, quotient_eq_neg_one_iff hxvary]
    exact exists₂_congr fun a b => and_congr_right fun _ =>
      forall_mem_zip_iff (fun v => a * v + b) hlength
  · rw [pearson, List.zip_map, pearson]
    exact ofSamples_rescaled b d (x.zip y) ha hc

/-- A falling line, and the same samples with the second scale turned over. -/
theorem pearson_falling :
    let x : List ℝ := [0, 1, 3]
    let y : List ℝ := [2, 0, -4]
    (pearson x y).coefficient = -1 ∧
      (pearson (x.map fun v => 2 * v + 1) (y.map fun v => -1 * v + 5)).coefficient = 1 := by
  intro x y
  have hx : ¬ ∀ u ∈ x, ∀ v ∈ x, u = v := by simp [x]
  have hy : ¬ ∀ u ∈ y, ∀ v ∈ y, u = v := by simp [y]
  obtain ⟨-, -, -, hfalling, -, hscales⟩ :=
    pearson_outcome (show x.length = y.length from rfl) (show 2 ≤ x.length by decide) hx hy
  have hcoefficient : (pearson x y).coefficient = -1 :=
    hfalling.mpr ⟨-2, 2, by norm_num, by norm_num [x, y]⟩
  refine ⟨hcoefficient, ?_⟩
  rw [hscales 2 1 (-1) 5 two_ne_zero (by norm_num), hcoefficient, sign_neg (by norm_num)]
  norm_num

end Correlation

end InterRater
