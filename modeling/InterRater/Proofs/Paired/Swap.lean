import InterRater.Paired.Comparison
import InterRater.Proofs.Config.Sound
import InterRater.Proofs.Number.Student
import InterRater.Proofs.Statistics.Correlation
import InterRater.Proofs.Statistics.Moments

/-!
# Exchanging the series of a comparison

The comparison of human with automated scores is that of automated with human scores up to signs:
`Comparison.ofSeries_swap`.  Of Student's distribution nothing is used but that a statistic of 0 is
no evidence; the program asks for the tail of the magnitude of a statistic only.
-/

namespace InterRater

/-! ### The exchange -/

namespace PairedSeries

variable {α : Type} [Scalar α]

/-- The series with the human scores as the first. -/
def swap (series : PairedSeries α) : PairedSeries α where
  samples := series.samples.map Prod.swap
  two_le := by
    rw [List.length_map]
    exact series.two_le
  finite := by
    intro s hs
    obtain ⟨sample, hsample, rfl⟩ := List.mem_map.mp hs
    exact (series.finite sample hsample).symm

@[simp]
theorem size_swap (series : PairedSeries α) : series.swap.size = series.size :=
  List.length_map _

@[simp]
theorem automated_swap (series : PairedSeries α) : series.swap.automated = series.human := by
  rw [automated, swap, List.map_map]
  rfl

@[simp]
theorem human_swap (series : PairedSeries α) : series.swap.human = series.automated := by
  rw [human, swap, List.map_map]
  rfl

theorem differences_swap (series : PairedSeries ℝ) :
    series.swap.differences = series.differences.map Neg.neg := by
  rw [differences, differences, swap, List.map_map, List.map_map]
  exact List.map_congr_left fun s _ => (neg_sub s.1 s.2).symm

theorem mean_differences_swap (series : PairedSeries ℝ) :
    Statistics.mean series.swap.differences = -Statistics.mean series.differences := by
  rw [differences_swap, Statistics.mean_neg]

theorem sampleDeviation_differences_swap (series : PairedSeries ℝ) :
    Statistics.sampleDeviation series.swap.differences
      = Statistics.sampleDeviation series.differences := by
  rw [differences_swap, Statistics.sampleDeviation_neg]

end PairedSeries

/-- The direction of a bias, seen from the other series. -/
def BiasDirection.swap : BiasDirection → BiasDirection
  | automatedHigher => automatedLower
  | automatedLower => automatedHigher
  | none => none

/-- The agreement with the series exchanged. -/
def SeriesAgreement.swap {α : Type} (agreement : SeriesAgreement α) : SeriesAgreement α :=
  { agreement with automated := agreement.human, human := agreement.automated }

/-- The test of the opposite differences. -/
def PairedTest.neg (test : PairedTest ℝ) : PairedTest ℝ :=
  { test with statistic := test.statistic.map Neg.neg, cohensD := test.cohensD.map Neg.neg }

/-- The comparison from the side of the other series.  The correlation, the p-values, what is read
off them, and the counts stay. -/
def Comparison.swap (comparison : Comparison ℝ) : Comparison ℝ :=
  { comparison with
    test := comparison.test.neg
    meanDifference := -comparison.meanDifference
    bias := comparison.bias.swap
    agreement := comparison.agreement.swap }

theorem EffectSize.ofCohensD_neg (d : ℝ) : ofCohensD (-d) = ofCohensD d := by
  simp only [ofCohensD, Scalar.abs_eq, abs_neg]

namespace Comparison

/-! ### The paired test -/

/-- The tolerance depends on the scores only, not on their order. -/
theorem roundingTolerance_congr {series series' : PairedSeries ℝ}
    (h : (series.automated ++ series.human).Perm (series'.automated ++ series'.human)) :
    roundingTolerance series = roundingTolerance series' := by
  have hfold := h.foldl_eq' (f := fun largest v : ℝ =>
      Scalar.larger largest (Scalar.abs v)) (fun x _ y _ largest => by
    simp only [Scalar.larger_eq_max]
    exact max_right_comm _ _ _) 1
  exact congrArg (fun magnitude : ℝ => ((8 : ℕ) : ℝ) * Scalar.epsilon * magnitude) hfold

theorem roundingTolerance_swap (series : PairedSeries ℝ) :
    roundingTolerance series.swap = roundingTolerance series := by
  apply roundingTolerance_congr
  rw [PairedSeries.automated_swap, PairedSeries.human_swap]
  exact List.perm_append_comm

theorem roundingTolerance_nonneg (series : PairedSeries ℝ) : 0 ≤ roundingTolerance series := by
  have hone : ∀ (l : List ℝ) (start : ℝ), 0 ≤ start →
      0 ≤ l.foldl (fun largest v => Scalar.larger largest (Scalar.abs v)) start := by
    intro l
    induction l with
    | nil => exact fun start h => h
    | cons v l ih =>
      intro start h
      refine ih _ (h.trans ?_)
      show start ≤ Scalar.larger start (Scalar.abs v)
      rw [Scalar.larger_eq_max]
      exact le_max_left _ _
  have heps := Scalar.epsilon_pos
  exact mul_nonneg (by positivity) (hone _ 1 zero_le_one)

theorem pairedTest_neg [Special ℝ] (meanDifference spread : ℝ) (n : ℕ) (tolerance : ℝ) :
    pairedTest (-meanDifference) spread n tolerance
      = (pairedTest meanDifference spread n tolerance).neg := by
  simp only [pairedTest, Scalar.abs_eq, abs_neg]
  split_ifs with hspread hmean
  · simp [PairedTest.neg]
  · rfl
  · simp only [PairedTest.neg, Option.map_some, neg_div, Special.twoSidedTail_neg]

/-- Differences that cancel are no evidence. -/
theorem pairedTest_zero [Special ℝ]
    (hzero : ∀ degrees : ℝ, 0 < degrees → Special.twoSidedTail 0 degrees = 1) {n : ℕ} (hn : 2 ≤ n)
    (spread : ℝ) {tolerance : ℝ} (htolerance : 0 ≤ tolerance) :
    (pairedTest 0 spread n tolerance).pValue = some 1 := by
  have hdegrees : (0 : ℝ) < (n - 1 : ℕ) := by
    exact_mod_cast (show 0 < n - 1 by omega)
  unfold pairedTest
  split_ifs with hspread hmean
  · rfl
  · rw [Scalar.abs_eq, abs_zero] at hmean
    exact absurd htolerance hmean
  · show some (Special.twoSidedTail (0 / _) ((n - 1 : ℕ) : ℝ)) = some 1
    rw [zero_div, hzero _ hdegrees]

/-! ### The bias -/

theorem biasOf_neg {significant : Bool} {meanDifference : ℝ}
    (h : significant = true → meanDifference ≠ 0) :
    biasOf significant (-meanDifference) = (biasOf significant meanDifference).swap := by
  cases significant with
  | false => rfl
  | true =>
    -- The program asks for a positive difference only; that none is 0 makes this symmetric.
    show (if 0 < -meanDifference then _ else _)
      = BiasDirection.swap (if 0 < meanDifference then _ else _)
    rcases lt_or_gt_of_ne (h rfl) with hneg | hpos
    · rw [if_pos (neg_pos.mpr hneg), if_neg hneg.not_gt]
      rfl
    · rw [if_neg (by linarith), if_pos hpos]
      rfl

/-! ### Agreement -/

theorem agreementOf_swap [Special ℝ] (config : Config ℝ) (series : PairedSeries ℝ) :
    agreementOf config series.swap = (agreementOf config series).swap := by
  have hdistances : series.swap.differences.map Scalar.abs
      = series.differences.map Scalar.abs := by
    rw [PairedSeries.differences_swap, List.map_map]
    exact List.map_congr_left fun d _ => abs_neg d
  have hlength : series.swap.differences.length = series.differences.length := by
    rw [PairedSeries.differences_swap, List.length_map]
  simp only [agreementOf, SeriesAgreement.swap, hdistances, hlength,
    PairedSeries.automated_swap, PairedSeries.human_swap,
    PairedSeries.sampleDeviation_differences_swap,
    Correlation.pearson_comm series.human series.automated]

/-! ### The comparison -/

/-- A difference that is significant is one. -/
theorem meanDifference_ne_zero [Special ℝ] {config : Config ℝ} (h : config.Sound)
    (hzero : ∀ degrees : ℝ, 0 < degrees → Special.twoSidedTail 0 degrees = 1)
    {series : PairedSeries ℝ}
    (hsignificant : (ofSeries config series).differenceSignificant = true) :
    Statistics.mean series.differences ≠ 0 := by
  intro hmean
  -- The p-value of no difference is 1, and the level of significance is below that.
  have hp : (ofSeries config series).test.pValue = some 1 := by
    show (pairedTest (Statistics.mean series.differences) _ series.size _).pValue = some 1
    rw [hmean]
    exact pairedTest_zero hzero series.two_le _ (roundingTolerance_nonneg series)
  have hlt : ((ofSeries config series).test.pValue.any fun p => p < config.significanceLevel)
      = true := hsignificant
  rw [hp, Option.any_some, decide_eq_true_eq] at hlt
  exact lt_asymm h.significanceLevel_lt hlt

/-- **The order of the series** decides signs only: the comparison of the exchanged series is the
comparison with the mean difference, the statistic and Cohen's d negated, the direction of the bias
reversed and the summaries of the two series exchanged. -/
theorem ofSeries_swap [Special ℝ] {config : Config ℝ} (hconfig : config.flaw? = none)
    (hzero : ∀ degrees : ℝ, 0 < degrees → Special.twoSidedTail 0 degrees = 1)
    (series : PairedSeries ℝ) :
    ofSeries config series.swap = (ofSeries config series).swap := by
  have hsound := (Config.flaw?_eq_none_iff config).mp hconfig
  have hne : (ofSeries config series).differenceSignificant = true →
      Statistics.mean series.differences ≠ 0 := meanDifference_ne_zero hsound hzero
  have hbias := biasOf_neg hne
  have heffect : ∀ d : Option ℝ,
      (d.map Neg.neg).map EffectSize.ofCohensD = d.map EffectSize.ofCohensD := by
    intro d
    rw [Option.map_map]
    exact congrArg (Option.map · d) (funext EffectSize.ofCohensD_neg)
  simp only [ofSeries] at hbias
  simp only [ofSeries, Comparison.swap, PairedSeries.automated_swap, PairedSeries.human_swap,
    PairedSeries.size_swap, PairedSeries.mean_differences_swap,
    PairedSeries.sampleDeviation_differences_swap, roundingTolerance_swap, pairedTest_neg,
    PairedTest.neg, heffect, hbias, agreementOf_swap,
    Correlation.spearman_comm series.human series.automated]

/-- Three samples, the automated scores the higher ones. -/
def higher : PairedSeries ℝ where
  samples := [(4, 3), (5, 4), (3, 1)]
  two_le := by decide
  finite := fun _ _ => ⟨rfl, rfl⟩

theorem ofSeries_higher_swap :
    ofSeries Config.standard higher.swap = (ofSeries Config.standard higher).swap ∧
      (ofSeries Config.standard higher.swap).meanDifference = (-(4 / 3) : ℝ) := by
  have hswap := ofSeries_swap Config.flaw?_standard
    (fun _ hdegrees => Special.twoSidedTail_zero hdegrees) higher
  refine ⟨hswap, ?_⟩
  rw [hswap]
  show -Statistics.mean [(4 : ℝ) - 3, 5 - 4, 3 - 1] = -(4 / 3)
  rw [Statistics.mean_eq]
  norm_num

end Comparison

end InterRater
