import InterRater.Proofs.Statistics.Correlation

/-!
# The range of a correlation

With `Sx` and `Sy` the squared deviations of the two series and `Sxy` their comoment about the
means, `∑ (Sx (y - ȳ) - Sxy (x - x̄))² = Sx (Sx Sy - Sxy²)` (`sum_sq_residual`).  So the coefficient
is between -1 and 1 before it is clamped (`sq_quotient_le_one`), and reaches either end exactly if
all samples are on a line that rises or falls (`quotient_eq_one_iff`, `quotient_eq_neg_one_iff`).
-/

namespace InterRater

namespace Correlation

section Parts

variable (samples : List (ℝ × ℝ))

/-- The squared deviations of the first series. -/
noncomputable def xDeviations : ℝ :=
  Statistics.squaredDeviations (samples.map (·.1))

/-- The squared deviations of the second series. -/
noncomputable def yDeviations : ℝ :=
  Statistics.squaredDeviations (samples.map (·.2))

/-- The sum of the products of the distances from both means. -/
noncomputable def codeviations : ℝ :=
  comoment samples (Statistics.mean (samples.map (·.1))) (Statistics.mean (samples.map (·.2)))

/-- The coefficient before it is clamped. -/
noncomputable def quotient : ℝ :=
  codeviations samples / √(xDeviations samples * yDeviations samples)

end Parts

variable {samples : List (ℝ × ℝ)}

/-! ### The inequality -/

theorem sum_sq_sub_mul (samples : List (ℝ × ℝ)) (a b x y : ℝ) :
    (samples.map fun s => (a * (s.2 - y) - b * (s.1 - x)) ^ 2).sum
      = a ^ 2 * ((samples.map (·.2)).map fun v => (v - y) ^ 2).sum
        - 2 * a * b * comoment samples x y
        + b ^ 2 * ((samples.map (·.1)).map fun v => (v - x) ^ 2).sum := by
  rw [comoment_eq]
  induction samples with
  | nil => simp
  | cons s samples ih =>
    simp only [List.map_cons, List.sum_cons, ih]
    ring

/-- The differences of two series deviate by what the series do, less twice what they do
together. -/
theorem squaredDeviations_map_sub (samples : List (ℝ × ℝ)) :
    Statistics.squaredDeviations (samples.map fun s => s.1 - s.2)
      = xDeviations samples + yDeviations samples - 2 * codeviations samples := by
  have hsum := sum_sq_sub_mul samples 1 1 (Statistics.mean (samples.map (·.1)))
    (Statistics.mean (samples.map (·.2)))
  rw [← Statistics.squaredDeviations_eq, ← Statistics.squaredDeviations_eq, ← codeviations,
    ← xDeviations, ← yDeviations] at hsum
  have hterms : Statistics.squaredDeviations (samples.map fun s => s.1 - s.2)
      = (samples.map fun s => (1 * (s.2 - Statistics.mean (samples.map (·.2)))
          - 1 * (s.1 - Statistics.mean (samples.map (·.1)))) ^ 2).sum := by
    rw [Statistics.squaredDeviations_eq, Statistics.mean_map_sub, List.map_map]
    congr 1
    apply List.map_congr_left
    intro s _
    simp only [Function.comp_apply]
    ring
  rw [hterms, hsum]
  ring

/-- The distances from the line through both means that fits the samples best, squared and
summed. -/
theorem sum_sq_residual (samples : List (ℝ × ℝ)) :
    (samples.map fun s => (xDeviations samples * (s.2 - Statistics.mean (samples.map (·.2)))
        - codeviations samples * (s.1 - Statistics.mean (samples.map (·.1)))) ^ 2).sum
      = xDeviations samples
        * (xDeviations samples * yDeviations samples - codeviations samples ^ 2) := by
  rw [sum_sq_sub_mul, ← Statistics.squaredDeviations_eq, ← Statistics.squaredDeviations_eq,
    ← codeviations, ← xDeviations, ← yDeviations]
  ring

theorem xDeviations_nonneg : 0 ≤ xDeviations samples :=
  Statistics.squaredDeviations_nonneg _

theorem yDeviations_nonneg : 0 ≤ yDeviations samples :=
  Statistics.squaredDeviations_nonneg _

/-- **The Cauchy-Schwarz inequality** for the distances from the means. -/
theorem sq_codeviations_le (hx : xDeviations samples ≠ 0) :
    codeviations samples ^ 2 ≤ xDeviations samples * yDeviations samples := by
  have hpos : 0 < xDeviations samples := lt_of_le_of_ne xDeviations_nonneg hx.symm
  have hsum : 0 ≤ xDeviations samples
      * (xDeviations samples * yDeviations samples - codeviations samples ^ 2) := by
    rw [← sum_sq_residual]
    refine List.sum_nonneg fun a ha => ?_
    obtain ⟨s, -, rfl⟩ := List.mem_map.mp ha
    exact sq_nonneg _
  exact sub_nonneg.mp (nonneg_of_mul_nonneg_right hsum hpos)

/-- A series that does not vary does not vary together with another one. -/
theorem codeviations_eq_zero (h : xDeviations samples = 0 ∨ yDeviations samples = 0) :
    codeviations samples = 0 := by
  rw [codeviations, comoment_eq]
  apply List.sum_eq_zero
  intro a ha
  obtain ⟨s, hs, rfl⟩ := List.mem_map.mp ha
  rcases h with hx | hy
  · rw [xDeviations, Statistics.squaredDeviations_eq] at hx
    rw [Statistics.eq_zero_of_sum_sq_eq_zero hx (List.mem_map_of_mem hs), zero_mul]
  · rw [yDeviations, Statistics.squaredDeviations_eq] at hy
    rw [Statistics.eq_zero_of_sum_sq_eq_zero hy (List.mem_map_of_mem hs), mul_zero]

theorem sq_quotient (samples : List (ℝ × ℝ)) : quotient samples ^ 2
    = codeviations samples ^ 2 / (xDeviations samples * yDeviations samples) := by
  rw [quotient, div_pow, Real.sq_sqrt (mul_nonneg xDeviations_nonneg yDeviations_nonneg)]

theorem sq_quotient_le_one (hx : xDeviations samples ≠ 0) : quotient samples ^ 2 ≤ 1 := by
  rw [sq_quotient]
  exact div_le_one_of_le₀ (sq_codeviations_le hx)
    (mul_nonneg xDeviations_nonneg yDeviations_nonneg)

/-! ### Samples on a line -/

section Line

variable {a b : ℝ} (hline : ∀ s ∈ samples, s.2 = a * s.1 + b)
include hline

theorem map_snd_of_line : samples.map (·.2) = (samples.map (·.1)).map fun v => a * v + b := by
  rw [List.map_map]
  exact List.map_congr_left hline

theorem mean_snd_of_line (hne : samples ≠ []) : Statistics.mean (samples.map (·.2))
    = a * Statistics.mean (samples.map (·.1)) + b := by
  rw [map_snd_of_line hline, Statistics.mean_map_affine a b (by simpa using hne)]

theorem codeviations_of_line (hne : samples ≠ []) :
    codeviations samples = a * xDeviations samples := by
  rw [codeviations, mean_snd_of_line hline hne, comoment_eq, xDeviations,
    Statistics.squaredDeviations_eq, List.map_map, ← List.sum_map_mul_left]
  refine congrArg List.sum (List.map_congr_left fun s hs => ?_)
  rw [hline s hs, Function.comp_apply]
  ring

theorem yDeviations_of_line : yDeviations samples = a ^ 2 * xDeviations samples := by
  rw [yDeviations, map_snd_of_line hline, Statistics.squaredDeviations_map_affine, xDeviations]

theorem quotient_of_line (hx : xDeviations samples ≠ 0) : quotient samples = a / |a| := by
  have hne : samples ≠ [] := by
    rintro rfl
    exact hx (Statistics.squaredDeviations_eq [])
  have hroot : √(xDeviations samples * (a ^ 2 * xDeviations samples))
      = |a| * xDeviations samples := by
    rw [show xDeviations samples * (a ^ 2 * xDeviations samples)
      = (a * xDeviations samples) ^ 2 by ring, Real.sqrt_sq_eq_abs, abs_mul,
      abs_of_nonneg xDeviations_nonneg]
  rw [quotient, codeviations_of_line hline hne, yDeviations_of_line hline, hroot,
    mul_div_mul_right _ _ hx]

end Line

/-- A coefficient at either end of its range puts all samples on a line. -/
theorem exists_line (h : quotient samples ^ 2 = 1) : ∃ a b, 0 < a * quotient samples ∧
    ∀ s ∈ samples, s.2 = a * s.1 + b := by
  have hprod : xDeviations samples * yDeviations samples ≠ 0 := by
    intro hzero
    rw [sq_quotient, hzero, div_zero] at h
    exact zero_ne_one h
  have hx : 0 < xDeviations samples :=
    lt_of_le_of_ne xDeviations_nonneg (left_ne_zero_of_mul hprod).symm
  have hsq : codeviations samples ^ 2 = xDeviations samples * yDeviations samples := by
    rwa [sq_quotient, div_eq_one_iff_eq hprod] at h
  have hsum := sum_sq_residual samples
  rw [hsq, sub_self, mul_zero] at hsum
  set slope := codeviations samples / xDeviations samples
  have hsign : slope * quotient samples
      = codeviations samples ^ 2
        / (xDeviations samples * √(xDeviations samples * yDeviations samples)) := by
    rw [quotient, div_mul_div_comm, pow_two]
  refine ⟨slope, Statistics.mean (samples.map (·.2)) - slope * Statistics.mean (samples.map (·.1)),
    ?_, fun s hs => ?_⟩
  · have hprod' : 0 < xDeviations samples * yDeviations samples :=
      lt_of_le_of_ne (mul_nonneg xDeviations_nonneg yDeviations_nonneg) hprod.symm
    rw [hsign, hsq]
    exact div_pos hprod' (mul_pos hx (Real.sqrt_pos.mpr hprod'))
  · -- The residuals are zeros, as their squares are.
    have hzero := Statistics.eq_zero_of_sum_sq_eq_zero hsum hs
    have hslope : slope * xDeviations samples = codeviations samples := div_mul_cancel₀ _ hx.ne'
    rw [← hslope] at hzero
    refine mul_left_cancel₀ hx.ne' ?_
    linarith

theorem quotient_eq_one_iff (hx : xDeviations samples ≠ 0) : quotient samples = 1 ↔
    ∃ a b, 0 < a ∧ ∀ s ∈ samples, s.2 = a * s.1 + b := by
  constructor
  · intro h
    have hend : quotient samples ^ 2 = 1 := by rw [h, one_pow]
    obtain ⟨a, b, ha, hline⟩ := exists_line hend
    rw [h, mul_one] at ha
    exact ⟨a, b, ha, hline⟩
  · rintro ⟨a, b, ha, hline⟩
    rw [quotient_of_line hline hx, abs_of_pos ha, div_self ha.ne']

theorem quotient_eq_neg_one_iff (hx : xDeviations samples ≠ 0) : quotient samples = -1 ↔
    ∃ a b, a < 0 ∧ ∀ s ∈ samples, s.2 = a * s.1 + b := by
  constructor
  · intro h
    have hend : quotient samples ^ 2 = 1 := by rw [h, neg_one_sq]
    obtain ⟨a, b, ha, hline⟩ := exists_line hend
    rw [h, mul_neg_one, neg_pos] at ha
    exact ⟨a, b, ha, hline⟩
  · rintro ⟨a, b, ha, hline⟩
    rw [quotient_of_line hline hx, abs_of_neg ha, div_neg, div_self ha.ne]

end Correlation

end InterRater
