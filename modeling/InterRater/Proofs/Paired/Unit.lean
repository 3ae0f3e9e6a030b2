import InterRater.Proofs.Paired.Consistency
import InterRater.Proofs.Paired.Series

/-!
# The unit of the scores

What becomes of a comparison when all scores are multiplied by a positive factor `c`
(`Comparison.ofSeries_rescale`).  Correlations and what is read off them stay, and means and
standard deviations are multiplied by `c`.  The paired test stays as well if the largest score is at
least 1 in both units: then the rounding tolerance, which is proportional to the largest score, is
multiplied by `c` like all else.

Below 1 the tolerance is that of a largest score of 1, so that the test is the one with a tolerance
of that size in the new unit.  In a unit large enough every difference is within that tolerance, and
a constant shift is taken for no difference at all (`Comparison.ofSeries_steady_rescale`).
-/

namespace InterRater

/-! ### Another unit -/

namespace PairedSeries

/-- The series with all scores multiplied by `c`. -/
noncomputable def rescale (c : ℝ) (series : PairedSeries ℝ) : PairedSeries ℝ where
  samples := series.samples.map fun s => (c * s.1, c * s.2)
  two_le := by
    rw [List.length_map]
    exact series.two_le
  finite := fun _ _ => ⟨rfl, rfl⟩

/-- The largest absolute score. -/
noncomputable def magnitude (series : PairedSeries ℝ) : ℝ :=
  ((series.automated ++ series.human).map Scalar.abs).foldl max 0

variable (c : ℝ) (series : PairedSeries ℝ)

@[simp]
theorem size_rescale : (series.rescale c).size = series.size :=
  List.length_map _

@[simp]
theorem automated_rescale : (series.rescale c).automated = series.automated.map (c * ·) := by
  rw [automated, automated, rescale, List.map_map, List.map_map]
  rfl

@[simp]
theorem human_rescale : (series.rescale c).human = series.human.map (c * ·) := by
  rw [human, human, rescale, List.map_map, List.map_map]
  rfl

@[simp]
theorem differences_rescale :
    (series.rescale c).differences = series.differences.map (c * ·) := by
  rw [differences, differences, rescale, List.map_map, List.map_map]
  apply List.map_congr_left
  intro s _
  exact (mul_sub c s.1 s.2).symm

/-- The largest of several values, by that of those after the first. -/
theorem foldl_max_eq {start : ℝ} (h : 0 ≤ start) (l : List ℝ) :
    l.foldl max start = max start (l.foldl max 0) := by
  conv_lhs => rw [← max_eq_left h]
  exact List.foldl_assoc

theorem foldl_max_map_mul {c : ℝ} (hc : 0 ≤ c) (l : List ℝ) (start : ℝ) :
    (l.map (c * ·)).foldl max (c * start) = c * l.foldl max start := by
  induction l generalizing start with
  | nil => rfl
  | cons v l ih =>
    rw [List.map_cons, List.foldl_cons, List.foldl_cons, ← mul_max_of_nonneg _ _ hc, ih]

theorem magnitude_rescale {c : ℝ} (hc : 0 < c) :
    (series.rescale c).magnitude = c * series.magnitude := by
  have habs : ((series.rescale c).automated ++ (series.rescale c).human).map Scalar.abs
      = ((series.automated ++ series.human).map Scalar.abs).map (c * ·) := by
    rw [automated_rescale, human_rescale, ← List.map_append, List.map_map, List.map_map]
    apply List.map_congr_left
    intro v _
    show |c * v| = c * |v|
    rw [abs_mul, abs_of_pos hc]
  have hfold := foldl_max_map_mul hc.le ((series.automated ++ series.human).map Scalar.abs) 0
  rw [mul_zero] at hfold
  rw [magnitude, habs, hfold, magnitude]

end PairedSeries

/-- The summary of a series with all scores multiplied by `c`. -/
noncomputable def SeriesSummary.rescale (c : ℝ) (summary : SeriesSummary ℝ) : SeriesSummary ℝ :=
  ⟨c * summary.mean, c * summary.stdDev⟩

/-- The agreement of series with all scores multiplied by `c`.  The counts of samples within a
tolerance, which is no matter of the unit, are given. -/
noncomputable def SeriesAgreement.rescale (c : ℝ) (exact close : ℕ)
    (agreement : SeriesAgreement ℝ) : SeriesAgreement ℝ :=
  { agreement with
    automated := agreement.automated.rescale c
    human := agreement.human.rescale c
    meanAbsDifference := c * agreement.meanAbsDifference
    stdDifference := c * agreement.stdDifference
    exactCount := exact
    closeCount := close }

/-- The comparison of series with all scores multiplied by `c`, and with the given counts of samples
within a tolerance. -/
noncomputable def Comparison.rescale (c : ℝ) (exact close : ℕ) (comparison : Comparison ℝ) :
    Comparison ℝ :=
  { comparison with
    meanDifference := c * comparison.meanDifference
    agreement := comparison.agreement.rescale c exact close }

/-- The comparison with what another paired test decides. -/
noncomputable def Comparison.retest (config : Config ℝ) (test : PairedTest ℝ)
    (comparison : Comparison ℝ) : Comparison ℝ :=
  let differenceSignificant := test.pValue.any fun p => p < config.significanceLevel
  { comparison with
    test
    differenceSignificant
    effectSize := (test.cohensD.map EffectSize.ofCohensD).getD .large
    bias := biasOf differenceSignificant comparison.meanDifference }

namespace Comparison

/-! ### The rounding tolerance -/

theorem roundingTolerance_eq (series : PairedSeries ℝ) :
    roundingTolerance series = 8 * Scalar.epsilon * max 1 series.magnitude := by
  have hfold : (series.automated ++ series.human).foldl
      (fun largest v => Scalar.larger largest (Scalar.abs v)) 1
        = max 1 series.magnitude := by
    rw [PairedSeries.magnitude, ← PairedSeries.foldl_max_eq zero_le_one, List.foldl_map]
    simp only [Scalar.larger_eq_max]
  exact congrArg (fun magnitude : ℝ => ((8 : ℕ) : ℝ) * Scalar.epsilon * magnitude) hfold

/-- The tolerance in the new unit, measured in the old one. -/
theorem roundingTolerance_rescale {c : ℝ} (hc : 0 < c) (series : PairedSeries ℝ) :
    roundingTolerance (series.rescale c)
      = c * (8 * Scalar.epsilon * max c⁻¹ series.magnitude) := by
  have hmax : max 1 (c * series.magnitude) = c * max c⁻¹ series.magnitude := by
    rw [mul_max_of_nonneg _ _ hc.le, mul_inv_cancel₀ hc.ne']
  rw [roundingTolerance_eq, PairedSeries.magnitude_rescale _ hc, hmax]
  ring

/-! ### The paired test -/

theorem pairedTest_mul [Special ℝ] {c : ℝ} (hc : 0 < c) (meanDifference spread : ℝ) (n : ℕ)
    (tolerance : ℝ) : pairedTest (c * meanDifference) (c * spread) n (c * tolerance)
      = pairedTest meanDifference spread n tolerance := by
  have hstatistic : c * meanDifference / (c * spread / √n) = meanDifference / (spread / √n) := by
    rw [mul_div_assoc c spread, mul_div_mul_left _ _ hc.ne']
  simp only [pairedTest, Scalar.abs_eq, Scalar.sqrt_eq, abs_mul, abs_of_pos hc,
    mul_le_mul_iff_right₀ hc, hstatistic, mul_div_mul_left _ _ hc.ne']

theorem biasOf_mul {c : ℝ} (hc : 0 < c) (significant : Bool) (meanDifference : ℝ) :
    biasOf significant (c * meanDifference) = biasOf significant meanDifference := by
  simp only [biasOf, mul_pos_iff_of_pos_left hc]

/-! ### Agreement and correlation -/

theorem summarize_map_mul {c : ℝ} (hc : 0 < c) (values : List ℝ) :
    summarize (values.map (c * ·)) = (summarize values).rescale c := by
  rw [summarize, Statistics.mean_map_mul, Statistics.sampleDeviation_map_mul, abs_of_pos hc]
  rfl

section Rescaled

variable [Special ℝ]

theorem agreementOf_rescale (config : Config ℝ) {c : ℝ} (hc : 0 < c) (series : PairedSeries ℝ) :
    ∃ exact close, agreementOf config (series.rescale c)
      = (agreementOf config series).rescale c exact close := by
  have hdistances : (series.differences.map (c * ·)).map Scalar.abs
      = (series.differences.map Scalar.abs).map (c * ·) := by
    rw [List.map_map, List.map_map]
    apply List.map_congr_left
    intro d _
    show |c * d| = c * |d|
    rw [abs_mul, abs_of_pos hc]
  have hpearson : Correlation.pearson (series.automated.map (c * ·)) (series.human.map (c * ·))
      = Correlation.pearson series.automated series.human := by
    rw [← PairedSeries.automated_rescale, ← PairedSeries.human_rescale, Correlation.pearson,
      Correlation.pearson, PairedSeries.zip_automated_human, PairedSeries.zip_automated_human]
    exact Correlation.ofSamples_map_mul hc series.samples
  refine ⟨(agreementOf config (series.rescale c)).exactCount,
    (agreementOf config (series.rescale c)).closeCount, ?_⟩
  simp only [agreementOf, SeriesAgreement.rescale, PairedSeries.automated_rescale,
    PairedSeries.human_rescale, PairedSeries.differences_rescale, hpearson, hdistances,
    summarize_map_mul hc, Statistics.mean_map_mul, Statistics.sampleDeviation_map_mul,
    abs_of_pos hc, List.length_map]

theorem spearman_rescale {c : ℝ} (hc : 0 < c) (series : PairedSeries ℝ) :
    Correlation.spearman (series.rescale c).automated (series.rescale c).human
      = Correlation.spearman series.automated series.human := by
  have hmono : StrictMono (c * · : ℝ → ℝ) := strictMono_mul_left_of_pos hc
  have hranks : ∀ l : List ℝ,
      Statistics.averageRanks (l.map (c * ·)) = Statistics.averageRanks l := by
    intro l
    rw [Statistics.averageRanks_eq_map, Statistics.averageRanks_eq_map, List.map_map]
    apply List.map_congr_left
    intro v _
    exact Statistics.midRank_map hmono l v
  rw [PairedSeries.automated_rescale, PairedSeries.human_rescale, Correlation.spearman, hranks,
    hranks, Correlation.spearman]

/-! ### The comparison -/

/-- A comparison is the one its own test decides. -/
theorem retest_ofSeries (config : Config ℝ) (series : PairedSeries ℝ) :
    (ofSeries config series).retest config (pairedTest (Statistics.mean series.differences)
      (Statistics.sampleDeviation series.differences) series.size (roundingTolerance series))
        = ofSeries config series :=
  rfl

/-- The comparison in any unit: all that the paired test does not decide keeps to the unit, and the
test is that of the old scores with another tolerance. -/
theorem exists_ofSeries_rescale (config : Config ℝ) (series : PairedSeries ℝ) {c : ℝ}
    (hc : 0 < c) : ∃ exact close, ofSeries config (series.rescale c)
      = ((ofSeries config series).retest config
          (pairedTest (Statistics.mean series.differences)
            (Statistics.sampleDeviation series.differences) series.size
            (8 * Scalar.epsilon * max c⁻¹ series.magnitude))).rescale c exact close := by
  obtain ⟨exact, close, hagreement⟩ := agreementOf_rescale config hc series
  refine ⟨exact, close, ?_⟩
  simp only [ofSeries, retest, Comparison.rescale, hagreement, spearman_rescale hc,
    PairedSeries.size_rescale, PairedSeries.differences_rescale, Statistics.mean_map_mul,
    Statistics.sampleDeviation_map_mul, abs_of_pos hc, roundingTolerance_rescale hc,
    pairedTest_mul hc, biasOf_mul hc]

/-- **The unit of the scores**: with all scores multiplied by `c`, means and deviations of a
comparison are multiplied by `c`, and all else stays, but for the two counts of samples within a
tolerance and for what the paired test decides.  The test is that of the old scores, with `1 / c` in
place of 1 as the score below which the tolerance does not fall.  It is the old test if the largest
score is at least 1 in both units. -/
theorem ofSeries_rescale (config : Config ℝ) (series : PairedSeries ℝ) {c : ℝ} (hc : 0 < c) :
    ∃ exact close, ofSeries config (series.rescale c)
        = ((ofSeries config series).retest config
            (pairedTest (Statistics.mean series.differences)
              (Statistics.sampleDeviation series.differences) series.size
              (8 * Scalar.epsilon * max c⁻¹ series.magnitude))).rescale c exact close ∧
      (1 ≤ series.magnitude → 1 ≤ c * series.magnitude →
        ofSeries config (series.rescale c) = (ofSeries config series).rescale c exact close) := by
  obtain ⟨exact, close, hgeneral⟩ := exists_ofSeries_rescale config series hc
  refine ⟨exact, close, hgeneral, ?_⟩
  intro hold hnew
  have hinv : c⁻¹ ≤ series.magnitude := (inv_le_iff_one_le_mul₀' hc).mpr hnew
  rw [hgeneral, max_eq_right hinv, ← max_eq_right hold, ← roundingTolerance_eq, retest_ofSeries]

end Rescaled

/-- Three samples, each automated score higher by 1. -/
noncomputable def steady : PairedSeries ℝ where
  samples := [(1, 0), (0, -1), (1, 0)]
  two_le := by decide
  finite := fun _ _ => ⟨rfl, rfl⟩

theorem magnitude_steady : steady.magnitude = 1 := by
  show ([1, 0, 1, 0, -1, 0].map Scalar.abs).foldl max (0 : ℝ) = 1
  simp only [List.map_cons, List.map_nil, List.foldl_cons, List.foldl_nil, Scalar.abs_eq]
  norm_num

theorem ofSeries_steady_doubled : ∃ exact close, ofSeries Config.standard (steady.rescale 2)
    = (ofSeries Config.standard steady).rescale 2 exact close := by
  obtain ⟨exact, close, -, hequal⟩ := ofSeries_rescale Config.standard steady zero_lt_two
  refine ⟨exact, close, hequal ?_ ?_⟩
  · rw [magnitude_steady]
  · rw [magnitude_steady]
    norm_num

/-- The differences have mean 1 and no spread. -/
theorem moments_steady : Statistics.mean steady.differences = 1 ∧
    Statistics.sampleDeviation steady.differences = 0 := by
  have hdifferences : steady.differences = [1, 1, 1] := by
    show [(1 : ℝ) - 0, 0 - -1, 1 - 0] = [1, 1, 1]
    norm_num
  have hdeviations : Statistics.squaredDeviations [(1 : ℝ), 1, 1] = 0 := by
    rw [Statistics.squaredDeviations_eq_zero_iff]
    norm_num
  constructor
  · rw [hdifferences, Statistics.mean_eq]
    norm_num
  · rw [hdifferences, Statistics.sampleDeviation_eq, hdeviations, zero_div, Real.sqrt_zero]

theorem epsilon_eq : (Scalar.epsilon : ℝ) = 1 / 2 ^ 52 := by
  show (1 : ℝ) / ((twoPow 52 : ℕ) : ℝ) = 1 / 2 ^ 52
  have hpow : twoPow 52 = 2 ^ 52 := rfl
  rw [hpow]
  norm_num

/-- The comparison does depend on the unit: a certain bias is none in a unit in which all scores are
far below 1. -/
theorem ofSeries_steady_rescale :
    (ofSeries Config.standard steady).test = ⟨none, some 0, none⟩ ∧
    (ofSeries Config.standard steady).bias = .automatedHigher ∧
    (ofSeries Config.standard (steady.rescale ((1 / 2) ^ 60))).test = ⟨some 0, some 1, some 0⟩ ∧
    (ofSeries Config.standard (steady.rescale ((1 / 2) ^ 60))).bias = .none := by
  obtain ⟨hmean, hspread⟩ := moments_steady
  have hbias : ∀ series : PairedSeries ℝ, (ofSeries Config.standard series).bias
      = biasOf ((ofSeries Config.standard series).test.pValue.any fun p =>
          p < (Config.standard : Config ℝ).significanceLevel)
        (ofSeries Config.standard series).meanDifference := fun _ => rfl
  have hlevel := Config.sound_standard.significanceLevel_pos
  have hlevel' := Config.sound_standard.significanceLevel_lt
  have hold : (ofSeries Config.standard steady).test = ⟨none, some 0, none⟩ := by
    apply pairedTest_of_shift
    · rw [hspread]
      exact roundingTolerance_nonneg steady
    · rw [hmean, roundingTolerance_eq, magnitude_steady, epsilon_eq]
      norm_num
  have hnew : (ofSeries Config.standard (steady.rescale ((1 / 2) ^ 60))).test
      = ⟨some 0, some 1, some 0⟩ := by
    obtain ⟨exact, close, hrescale⟩ :=
      exists_ofSeries_rescale Config.standard steady (c := (1 / 2) ^ 60) (by norm_num)
    rw [hrescale]
    apply pairedTest_of_agreement
    · rw [hspread, magnitude_steady, epsilon_eq]
      positivity
    · -- The tolerance is that of scores of size `2 ^ 60`.
      rw [hmean, magnitude_steady, epsilon_eq]
      norm_num
  refine ⟨hold, ?_, hnew, ?_⟩
  · have hpos : 0 < (ofSeries Config.standard steady).meanDifference := by
      show 0 < Statistics.mean steady.differences
      rw [hmean]
      exact zero_lt_one
    rw [hbias, hold, Option.any_some, decide_eq_true hlevel, biasOf, if_neg (by decide),
      if_pos hpos]
  · rw [hbias, hnew, Option.any_some, decide_eq_false hlevel'.not_gt]
    rfl

end Comparison

end InterRater
