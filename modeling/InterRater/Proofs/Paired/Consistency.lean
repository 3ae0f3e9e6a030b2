import InterRater.Proofs.Paired.Swap

/-!
# The parts of a comparison

The flags, the optional values and the directions of a comparison are decided in different places:
by p-values, by the rounding tolerance, by the sign of the mean difference and by whether the ranks
vary.  They never contradict each other (`Comparison.consistent_ofSeries`).

What ties them together is that a result is significant only by a p-value below 1, and that a
statistic of 0 has the p-value 1.
-/

namespace InterRater

namespace Comparison

/-! ### The law -/

/-- The differences of a series have no spread beyond rounding, but a mean beyond it. -/
def ConstantShift (series : PairedSeries ℝ) : Prop :=
  Statistics.sampleDeviation series.differences ≤ roundingTolerance series ∧
    roundingTolerance series < |Statistics.mean series.differences|

/-- The parts of the comparison of a series fit together. -/
structure Consistent (series : PairedSeries ℝ) (comparison : Comparison ℝ) : Prop where
  /-- The measures that are reported are those that the other parts are decided by. -/
  measures : comparison.observations = series.size ∧
    comparison.meanDifference = Statistics.mean series.differences ∧
    comparison.agreement.stdDifference = Statistics.sampleDeviation series.differences
  pValue : comparison.test.pValue ≠ none
  /-- A statistic diverges for a constant shift only. -/
  statistic : comparison.test.statistic = none ↔ ConstantShift series
  cohensD : comparison.test.cohensD = none ↔ ConstantShift series
  /-- A constant shift is certain and large. -/
  certain : ConstantShift series → comparison.test.pValue = some 0 ∧
    comparison.differenceSignificant = true ∧ comparison.effectSize = .large
  scaled : ∀ t d, comparison.test.statistic = some t → comparison.test.cohensD = some d →
    t = d * √comparison.observations
  unbiased : comparison.bias = .none ↔ comparison.differenceSignificant = false
  higher : comparison.bias = .automatedHigher → 0 < comparison.meanDifference
  lower : comparison.bias = .automatedLower → comparison.meanDifference < 0
  correlated : comparison.significant = true → comparison.correlation.defined = true ∧
    3 ≤ comparison.observations ∧ comparison.correlation.coefficient ≠ 0

/-! ### The paired test -/

section PairedTest

variable [Special ℝ] (meanDifference spread : ℝ) (n : ℕ) (tolerance : ℝ)

/-- The three things a test comes to. -/
theorem pairedTest_cases :
    (spread ≤ tolerance ∧ |meanDifference| ≤ tolerance ∧
      pairedTest meanDifference spread n tolerance = ⟨some 0, some 1, some 0⟩) ∨
    (spread ≤ tolerance ∧ tolerance < |meanDifference| ∧
      pairedTest meanDifference spread n tolerance = ⟨none, some 0, none⟩) ∨
    (tolerance < spread ∧ ∃ p, pairedTest meanDifference spread n tolerance
      = ⟨some (meanDifference / (spread / √n)), some p, some (meanDifference / spread)⟩) := by
  unfold pairedTest
  rw [Scalar.abs_eq]
  split_ifs with hspread hmean
  · exact Or.inl ⟨hspread, hmean, rfl⟩
  · exact Or.inr (Or.inl ⟨hspread, not_le.mp hmean, rfl⟩)
  · exact Or.inr (Or.inr ⟨not_le.mp hspread, _, rfl⟩)

theorem pValue_pairedTest_ne_none :
    (pairedTest meanDifference spread n tolerance).pValue ≠ none := by
  rcases pairedTest_cases meanDifference spread n tolerance with
    ⟨-, -, h⟩ | ⟨-, -, h⟩ | ⟨-, p, h⟩ <;> rw [h] <;> exact Option.some_ne_none _

/-- Statistic and standardized difference are absent together. -/
theorem pairedTest_eq_none_iff :
    ((pairedTest meanDifference spread n tolerance).statistic = none
      ↔ spread ≤ tolerance ∧ tolerance < |meanDifference|) ∧
    ((pairedTest meanDifference spread n tolerance).cohensD = none
      ↔ spread ≤ tolerance ∧ tolerance < |meanDifference|) := by
  rcases pairedTest_cases meanDifference spread n tolerance with
    ⟨-, hmean, h⟩ | ⟨hspread, hmean, h⟩ | ⟨hspread, p, h⟩
  · rw [h]
    have hnot : ¬ (spread ≤ tolerance ∧ tolerance < |meanDifference|) :=
      fun hshift => hmean.not_gt hshift.2
    exact ⟨iff_of_false nofun hnot, iff_of_false nofun hnot⟩
  · rw [h]
    exact ⟨iff_of_true rfl ⟨hspread, hmean⟩, iff_of_true rfl ⟨hspread, hmean⟩⟩
  · rw [h]
    have hnot : ¬ (spread ≤ tolerance ∧ tolerance < |meanDifference|) :=
      fun hshift => hspread.not_ge hshift.1
    exact ⟨iff_of_false nofun hnot, iff_of_false nofun hnot⟩

variable {meanDifference spread n tolerance}

theorem pairedTest_of_agreement (hspread : spread ≤ tolerance)
    (hmean : |meanDifference| ≤ tolerance) :
    pairedTest meanDifference spread n tolerance = ⟨some 0, some 1, some 0⟩ := by
  rw [pairedTest, if_pos hspread, Scalar.abs_eq, if_pos hmean]

theorem pairedTest_of_shift (hspread : spread ≤ tolerance)
    (hmean : tolerance < |meanDifference|) :
    pairedTest meanDifference spread n tolerance = ⟨none, some 0, none⟩ := by
  rw [pairedTest, if_pos hspread, Scalar.abs_eq, if_neg hmean.not_ge]

/-- The statistic is the standardized difference, scaled by the root of the number of samples. -/
theorem statistic_pairedTest_eq {t d : ℝ}
    (ht : (pairedTest meanDifference spread n tolerance).statistic = some t)
    (hd : (pairedTest meanDifference spread n tolerance).cohensD = some d) : t = d * √n := by
  rcases pairedTest_cases meanDifference spread n tolerance with
    ⟨-, -, h⟩ | ⟨-, -, h⟩ | ⟨-, p, h⟩ <;> rw [h] at ht hd
  · obtain rfl := Option.some.inj ht
    obtain rfl := Option.some.inj hd
    rw [zero_mul]
  · cases ht
  · obtain rfl := Option.some.inj ht
    obtain rfl := Option.some.inj hd
    rw [div_div_eq_mul_div, mul_div_right_comm]

end PairedTest

/-! ### The bias -/

section Bias

variable {significant : Bool} {meanDifference : ℝ}

theorem biasOf_eq_none_iff : biasOf significant meanDifference = .none ↔ significant = false := by
  unfold biasOf
  cases significant
  · exact iff_of_true rfl rfl
  · split_ifs <;> simp_all

theorem pos_of_biasOf_eq (h : biasOf significant meanDifference = .automatedHigher) :
    0 < meanDifference := by
  unfold biasOf at h
  split_ifs at h with hsignificant hpos
  exact hpos

theorem neg_of_biasOf_eq (hne : significant = true → meanDifference ≠ 0)
    (h : biasOf significant meanDifference = .automatedLower) : meanDifference < 0 := by
  unfold biasOf at h
  split_ifs at h with hsignificant hpos
  exact lt_of_le_of_ne (not_lt.mp hpos) (hne (by simpa using hsignificant))

end Bias

/-! ### The comparison -/

section Series

variable [Special ℝ] {config : Config ℝ}

theorem of_constantShift (h : config.Sound) {series : PairedSeries ℝ}
    (hshift : ConstantShift series) :
    (ofSeries config series).test.pValue = some 0 ∧
      (ofSeries config series).differenceSignificant = true ∧
      (ofSeries config series).effectSize = .large := by
  have htest : (ofSeries config series).test = ⟨none, some 0, none⟩ :=
    pairedTest_of_shift hshift.1 hshift.2
  refine ⟨by rw [htest], ?_, ?_⟩
  · show ((ofSeries config series).test.pValue.any fun p => p < config.significanceLevel) = true
    rw [htest]
    exact decide_eq_true h.significanceLevel_pos
  · show ((ofSeries config series).test.cohensD.map EffectSize.ofCohensD).getD .large = .large
    rw [htest]
    rfl

theorem of_significant (h : config.Sound)
    (hzero : ∀ degrees : ℝ, 0 < degrees → Special.twoSidedTail 0 degrees = 1)
    {series : PairedSeries ℝ} (hsignificant : (ofSeries config series).significant = true) :
    (ofSeries config series).correlation.defined = true ∧ 3 ≤ series.size ∧
      (ofSeries config series).correlation.coefficient ≠ 0 := by
  have hlt : (Correlation.spearman series.automated series.human).pValue
      < config.significanceLevel := of_decide_eq_true hsignificant
  have hsize : series.automated.length = series.size := List.length_map _
  have hlength : series.automated.length = series.human.length := by
    rw [hsize]
    exact (List.length_map _).symm
  rw [← hsize]
  -- A p-value below the level of significance is not 1.
  exact Correlation.of_pValue_spearman_ne_one hzero hlength
    (hlt.trans h.significanceLevel_lt).ne

/-- **The parts of a comparison** never contradict each other, whatever the series and the
settings.  Of Student's distribution nothing is used but that a statistic of 0 is no evidence. -/
theorem consistent_ofSeries (hconfig : config.flaw? = none)
    (hzero : ∀ degrees : ℝ, 0 < degrees → Special.twoSidedTail 0 degrees = 1)
    (series : PairedSeries ℝ) : Consistent series (ofSeries config series) := by
  have hsound := (Config.flaw?_eq_none_iff config).mp hconfig
  obtain ⟨hstatistic, hcohensD⟩ := pairedTest_eq_none_iff (Statistics.mean series.differences)
    (Statistics.sampleDeviation series.differences) series.size (roundingTolerance series)
  exact
    { measures := ⟨rfl, rfl, rfl⟩
      pValue := pValue_pairedTest_ne_none _ _ _ _
      statistic := hstatistic
      cohensD := hcohensD
      certain := of_constantShift hsound
      scaled := fun _ _ => statistic_pairedTest_eq
      unbiased := biasOf_eq_none_iff
      higher := pos_of_biasOf_eq
      lower := neg_of_biasOf_eq (meanDifference_ne_zero hsound hzero)
      correlated := of_significant hsound hzero }

end Series

/-- Two samples, each automated score higher by 1. -/
def shifted : PairedSeries ℝ where
  samples := [(1, 0), (1, 0)]
  two_le := by decide
  finite := fun _ _ => ⟨rfl, rfl⟩

theorem consistent_shifted :
    Consistent shifted (ofSeries Config.standard shifted) ∧ ConstantShift shifted := by
  refine ⟨consistent_ofSeries Config.flaw?_standard
    (fun _ hdegrees => Special.twoSidedTail_zero hdegrees) shifted, ?_, ?_⟩
  · have hspread : Statistics.squaredDeviations [(1 : ℝ) - 0, 1 - 0] = 0 := by
      rw [Statistics.squaredDeviations_eq_zero_iff]
      norm_num
    show Statistics.sampleDeviation [(1 : ℝ) - 0, 1 - 0] ≤ _
    rw [Statistics.sampleDeviation_eq, hspread, zero_div, Real.sqrt_zero]
    exact roundingTolerance_nonneg shifted
  · show _ < |Statistics.mean [(1 : ℝ) - 0, 1 - 0]|
    rw [Statistics.mean_eq]
    have hpow : twoPow 52 = 2 ^ 52 := rfl
    simp only [roundingTolerance, shifted, PairedSeries.automated, PairedSeries.human,
      Scalar.larger_eq_max, Scalar.abs_eq, Scalar.epsilon, hpow]
    norm_num

end Comparison

end InterRater
