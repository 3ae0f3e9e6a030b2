import InterRater.Proofs.Rating.Agreement
import InterRater.Proofs.Rating.Summary

/-!
# The two diagnostics of an item

The statistics of an item and the agreement on it are computed apart from each other.  Both look for
the most frequent rating, the statistics in the distribution over the scale and the agreement among
the ratings themselves (`modeOf_shares`), and both measure the range and the spread, the one with
`n - 1` and the other with `n` as the divisor.  `ItemAgreement.score_summary` gives each measure of
agreement from the statistics, for a single rating as well.
-/

namespace InterRater

namespace RatingSummary

variable {ratings : List ℤ} {scale : OrdinalScale}

/-! ### The mode -/

/-- No value of the scale occurs more often than the most frequent rating. -/
theorem count_le_modeCount (hne : ratings ≠ []) (value : ℤ) :
    ratings.count value ≤ ItemAgreement.modeCount ratings := by
  by_cases hvalue : value ∈ ratings
  · exact (ItemAgreement.modeCount_spec hne).2 value hvalue
  · rw [List.count_eq_zero.mpr hvalue]
    exact Nat.zero_le _

/-- The distribution and the ratings have the same greatest count. -/
theorem modeOf_shares {α : Type} [Scalar α] (hne : ratings ≠ [])
    (hscale : ∀ rating ∈ ratings, scale.contains rating = true) :
    (modeOf scale.least (shares (α := α) ratings scale)).2 = ItemAgreement.modeCount ratings := by
  obtain ⟨hmem, hgreatest⟩ := modeOf_spec scale.least (shares (α := α) ratings scale)
  apply le_antisymm
  · rcases List.mem_cons.mp hmem with hstart | hshare
    · rw [hstart]
      exact Nat.zero_le _
    · obtain ⟨share, hmember, heq⟩ := List.mem_map.mp hshare
      obtain ⟨value, -, rfl⟩ := List.mem_map.mp hmember
      rw [← heq]
      exact count_le_modeCount hne value
  · -- The most frequent rating is on the scale, so that the distribution has its count.
    obtain ⟨⟨rating, hrating, hcount⟩, -⟩ := ItemAgreement.modeCount_spec hne
    have hvalue : rating ∈ scale.ratings := OrdinalScale.mem_ratings_iff.mpr (hscale rating hrating)
    rw [← hcount]
    exact hgreatest _ (List.mem_map_of_mem hvalue)

theorem consensusPercentage_eq (config : Config ℝ) (hne : ratings ≠ [])
    (hscale : ∀ rating ∈ ratings, scale.contains rating = true) :
    (ofRatings (α := ℝ) ratings scale).consensusPercentage
      = 100 * (ItemAgreement.score config ratings).modeAgreement := by
  show percentage (modeOf scale.least (shares (α := ℝ) ratings scale)).2 ratings.length = _
  rw [modeOf_shares hne hscale, percentage, ItemAgreement.modeAgreement_eq config hne, mul_comm]
  norm_num

/-! ### Range and spread -/

/-- Only for no ratings at all would the two ranges differ. -/
theorem range_ofRatings {α : Type} [Scalar α] (hne : ratings ≠ []) :
    (ofRatings (α := α) ratings scale).range = ItemAgreement.ratingRange α ratings := by
  obtain ⟨low, high, hlow, hhigh⟩ := ItemAgreement.exists_extremes hne
  show Scalar.intSub α (ratings.max?.getD scale.greatest) (ratings.min?.getD scale.least) = _
  rw [ItemAgreement.ratingRange, hlow, hhigh]
  rfl

theorem populationVariance_eq_stdDev :
    Statistics.populationVariance (ratings.map fun (n : ℤ) => (n : ℝ))
      = ((ratings.length : ℝ) - 1) / ratings.length
        * (ofRatings (α := ℝ) ratings scale).stdDev ^ 2 := by
  rw [Statistics.populationVariance_eq, Statistics.squaredDeviations_div_length, List.length_map]
  rfl

end RatingSummary

/-! ### Both of them -/

namespace ItemAgreement

/-- **The statistics of an item give the agreement on it.**  Ratings of the scale have statistics,
unless there are none.  The consensus is the share of the most frequent rating, the agreement by
range is that of the range, and the agreement by variance is that of the deviation, once its divisor
`n - 1` is changed to `n`. -/
theorem score_summary {ratings : List ℤ} {scale : OrdinalScale} (config : Config ℝ)
    (label : String) (hne : ratings ≠ [])
    (hscale : ∀ rating ∈ ratings, scale.contains rating = true) :
    let agreement := score config ratings
    ∃ summary : RatingSummary ℝ, RatingSummary.describe label ratings scale = .ok summary ∧
      summary.consensusPercentage = 100 * agreement.modeAgreement ∧
      agreement.rangeAgreement = max 0 (1 - (summary.range : ℝ) / config.rangeCeiling) ∧
      agreement.varianceAgreement
        = max 0 (1 - ((ratings.length : ℝ) - 1) / ratings.length * summary.stdDev ^ 2
            / config.varianceCeiling) := by
  intro agreement
  refine ⟨.ofRatings ratings scale, RatingSummary.describe_of_contains label hne hscale,
    RatingSummary.consensusPercentage_eq config hne hscale, ?_, ?_⟩
  · rw [RatingSummary.range_ofRatings hne, max_comm]
    exact rangeAgreement_eq config ratings
  · rw [← RatingSummary.populationVariance_eq_stdDev, max_comm]
    exact varianceAgreement_eq config ratings

/-- Two of three ratings are equal; a single rating is in consensus with itself. -/
theorem score_summary_repeated :
    (∃ summary : RatingSummary ℝ, RatingSummary.describe "Q1_1" [2, 2, 5] ⟨1, 5⟩ = .ok summary ∧
      summary.consensusPercentage = 200 / 3) ∧
    ∃ summary : RatingSummary ℝ, RatingSummary.describe "Q1_2" [3] ⟨1, 5⟩ = .ok summary ∧
      summary.consensusPercentage = 100 := by
  have hscale : ∀ rating ∈ [2, 2, 5], OrdinalScale.contains ⟨1, 5⟩ rating = true := by decide
  have hmiddle : ∀ rating ∈ [3], OrdinalScale.contains ⟨1, 5⟩ rating = true := by decide
  obtain ⟨summary, hsummary, hconsensus, -, -⟩ :=
    score_summary Config.standard "Q1_1" (by decide) hscale
  obtain ⟨single, hsingle, hfull, -, -⟩ :=
    score_summary Config.standard "Q1_2" (by decide) hmiddle
  have htwice : modeCount [2, 2, 5] = 2 := by decide
  have honce : modeCount [3] = 1 := by decide
  rw [modeAgreement_eq _ (by decide), htwice] at hconsensus
  rw [modeAgreement_eq _ (by decide), honce] at hfull
  refine ⟨⟨summary, hsummary, ?_⟩, single, hsingle, ?_⟩
  · rw [hconsensus]
    norm_num
  · rw [hfull]
    norm_num

end ItemAgreement

end InterRater
