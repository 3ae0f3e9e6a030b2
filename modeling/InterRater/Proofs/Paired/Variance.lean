import InterRater.Paired.Comparison
import InterRater.Proofs.Paired.Series
import InterRater.Proofs.Statistics.LinearCorrelation

/-!
# The spread of the differences

The means and deviations of the two series, Pearson's coefficient and the mean and deviation of the
differences are computed from the samples one by one.  They are tied together by the variance of a
difference, `σ² = σₐ² + σₕ² - 2 r σₐ σₕ` (`variance_differences`), which is right also where the
coefficient is 0 for want of variation.  The mean distance of the scores lies between the distance
of their means and the root of the mean squared difference (`ofSeries_agreement`).
-/

namespace InterRater

namespace PairedSeries

variable (series : PairedSeries ℝ)

/-! ### The parts of the variance -/

theorem sq_sampleDeviation_automated : Statistics.sampleDeviation series.automated ^ 2
    = Correlation.xDeviations series.samples / (series.size - 1 : ℕ) := by
  rw [Statistics.sq_sampleDeviation, length_automated]
  rfl

theorem sq_sampleDeviation_human : Statistics.sampleDeviation series.human ^ 2
    = Correlation.yDeviations series.samples / (series.size - 1 : ℕ) := by
  rw [Statistics.sq_sampleDeviation, length_human]
  rfl

theorem sq_sampleDeviation_differences : Statistics.sampleDeviation series.differences ^ 2
    = (Correlation.xDeviations series.samples + Correlation.yDeviations series.samples
        - 2 * Correlation.codeviations series.samples) / (series.size - 1 : ℕ) := by
  rw [Statistics.sq_sampleDeviation, differences, Correlation.squaredDeviations_map_sub,
    List.length_map]
  rfl

/-- The coefficient measures how much of the deviations the series have in common. -/
theorem coefficient_mul_sampleDeviation [Special ℝ] :
    (Correlation.pearson series.automated series.human).coefficient
        * (Statistics.sampleDeviation series.automated * Statistics.sampleDeviation series.human)
      = Correlation.codeviations series.samples / (series.size - 1 : ℕ) := by
  have hautomated : Statistics.sampleDeviation series.automated
      = √(Correlation.xDeviations series.samples) / √(series.size - 1 : ℕ) := by
    rw [Statistics.sampleDeviation_eq, length_automated,
      Real.sqrt_div (Statistics.squaredDeviations_nonneg _)]
    rfl
  have hhuman : Statistics.sampleDeviation series.human
      = √(Correlation.yDeviations series.samples) / √(series.size - 1 : ℕ) := by
    rw [Statistics.sampleDeviation_eq, length_human,
      Real.sqrt_div (Statistics.squaredDeviations_nonneg _)]
    rfl
  rw [hautomated, hhuman, div_mul_div_comm, Real.mul_self_sqrt (Nat.cast_nonneg _),
    ← mul_div_assoc, Correlation.pearson, zip_automated_human,
    Correlation.coefficient_ofSamples_mul]

/-- The variance of the differences, by the deviations of the series and their correlation. -/
theorem variance_differences [Special ℝ] : Statistics.sampleDeviation series.differences ^ 2
    = Statistics.sampleDeviation series.automated ^ 2
      + Statistics.sampleDeviation series.human ^ 2
      - 2 * (Correlation.pearson series.automated series.human).coefficient
        * Statistics.sampleDeviation series.automated
        * Statistics.sampleDeviation series.human := by
  have hcommon := series.coefficient_mul_sampleDeviation
  rw [sq_sampleDeviation_differences, sq_sampleDeviation_automated, sq_sampleDeviation_human,
    sub_div, add_div, mul_div_assoc, ← hcommon]
  ring

/-! ### The mean distance -/

theorem mean_differences : Statistics.mean series.differences
    = Statistics.mean series.automated - Statistics.mean series.human :=
  Statistics.mean_map_sub _ _ series.samples

/-- The mean distance is at most the root of the mean squared difference. -/
theorem sq_mean_distance_le : Statistics.mean (series.differences.map (|·|)) ^ 2
    ≤ Statistics.mean series.differences ^ 2
      + ((series.size : ℝ) - 1) / series.size
        * Statistics.sampleDeviation series.differences ^ 2 := by
  have hlength : series.differences.length = series.size := List.length_map _
  have hmean := Statistics.sq_mean_abs_le series.differences
  rwa [Statistics.squaredDeviations_div_length, hlength] at hmean

end PairedSeries

namespace Comparison

/-- **The measures of agreement of two series fit together.**  The deviation of the differences is
the one that the deviations of the series and their correlation come to, also where the correlation
is undefined and reported as 0.  The mean difference is the difference of the means, and the mean
distance lies between its magnitude and the root of the mean squared difference. -/
theorem ofSeries_agreement [Special ℝ] (config : Config ℝ) (series : PairedSeries ℝ) :
    let comparison := ofSeries config series
    let agreement := comparison.agreement
    agreement.stdDifference ^ 2
        = agreement.automated.stdDev ^ 2 + agreement.human.stdDev ^ 2
          - 2 * agreement.pearson.coefficient * agreement.automated.stdDev
            * agreement.human.stdDev ∧
      (agreement.pearson.defined = false → agreement.pearson.coefficient = 0) ∧
      comparison.meanDifference = agreement.automated.mean - agreement.human.mean ∧
      |comparison.meanDifference| ≤ agreement.meanAbsDifference ∧
      agreement.meanAbsDifference
        ≤ √(comparison.meanDifference ^ 2
            + ((series.size : ℝ) - 1) / series.size * agreement.stdDifference ^ 2) := by
  intro comparison agreement
  refine ⟨series.variance_differences, ?_, series.mean_differences,
    Statistics.abs_mean_le series.differences, ?_⟩
  · intro hundefined
    show (Correlation.pearson series.automated series.human).coefficient = 0
    rw [Correlation.pearson, Correlation.ofSamples_eq_undefined hundefined]
    rfl
  · apply Real.le_sqrt_of_sq_le
    exact series.sq_mean_distance_le

end Comparison

end InterRater
