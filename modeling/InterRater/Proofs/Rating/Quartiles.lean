import InterRater.Proofs.Order.Sorting
import InterRater.Proofs.Rating.Distribution
import InterRater.Proofs.Statistics.Interpolation

/-!
# Quartiles of ratings

The median and the quartiles of an item are percentiles of its ratings in ascending order, of which
none is less than the minimum or more than the maximum (`percentile_sortedValues_mem_Icc`).  So the
median lies between the extremes, and the distance of the quartiles is at most the range
(`quartiles_ofRatings`).

`percentile_interpolates` says this of every item that has statistics, together with what it comes
from: that the percentiles of an ascending list interpolate it.
-/

namespace InterRater

namespace RatingSummary

/-! ### The law -/

/-- The median and the quartiles are those of the ratings, and lie between the extremes. -/
structure Quartiles (ratings : List ℤ) (summary : RatingSummary ℝ) : Prop where
  percentiles : ∃ sorted : List ℝ, sorted.Perm (ratings.map fun n : ℤ => (n : ℝ)) ∧
    sorted.Pairwise (· ≤ ·) ∧ summary.median = Statistics.percentile sorted 0.5 ∧
    summary.iqr = Statistics.percentile sorted 0.75 - Statistics.percentile sorted 0.25
  min_le_median : (summary.min : ℝ) ≤ summary.median
  median_le_max : summary.median ≤ summary.max
  iqr_nonneg : 0 ≤ summary.iqr
  iqr_le_range : summary.iqr ≤ summary.range

/-! ### The sorted ratings -/

variable {ratings : List ℤ}

theorem pairwise_sortedValues (ratings : List ℤ) :
    (sortedValues (α := ℝ) ratings).Pairwise (· ≤ ·) := by
  unfold sortedValues
  rw [List.pairwise_map]
  exact (Sorting.pairwise_mergeSort_key id ratings).imp Int.cast_le.mpr

theorem sortedValues_ne_nil (hne : ratings ≠ []) : sortedValues (α := ℝ) ratings ≠ [] := by
  rwa [Ne, ← List.length_eq_zero_iff, length_sortedValues, List.length_eq_zero_iff]

/-- Every value is that of a rating, so that none is less than the minimum or more than the
maximum. -/
theorem mem_Icc_of_mem_sortedValues (scale : OrdinalScale) {x : ℝ}
    (hx : x ∈ sortedValues (α := ℝ) ratings) :
    x ∈ Set.Icc ((ofRatings (α := ℝ) ratings scale).min : ℝ)
      (ofRatings (α := ℝ) ratings scale).max := by
  obtain ⟨rating, hrating, rfl⟩ := List.mem_map.mp hx
  rw [List.mem_mergeSort] at hrating
  obtain ⟨low, high, hmin, hmax⟩ := ItemAgreement.exists_extremes (List.ne_nil_of_mem hrating)
  show ((ratings.min?.getD scale.least : ℤ) : ℝ) ≤ rating
    ∧ (rating : ℝ) ≤ (ratings.max?.getD scale.greatest : ℤ)
  rw [hmin, hmax, Option.getD_some, Option.getD_some, Int.cast_le, Int.cast_le]
  exact ⟨(List.min?_eq_some_iff.mp hmin).2 rating hrating,
    (List.max?_eq_some_iff.mp hmax).2 rating hrating⟩

/-- No percentile of the ratings leaves their range. -/
theorem percentile_sortedValues_mem_Icc (hne : ratings ≠ []) (scale : OrdinalScale)
    (quantile : ℝ) : Statistics.percentile (sortedValues ratings) quantile
      ∈ Set.Icc ((ofRatings (α := ℝ) ratings scale).min : ℝ)
        (ofRatings (α := ℝ) ratings scale).max := by
  have hvalues := sortedValues_ne_nil hne
  obtain ⟨hhead, hlast⟩ :=
    Statistics.percentile_mem_Icc hvalues (pairwise_sortedValues ratings) quantile
  have hfirst := mem_Icc_of_mem_sortedValues scale (List.head_mem hvalues)
  have hend := mem_Icc_of_mem_sortedValues scale (List.getLast_mem hvalues)
  exact ⟨hfirst.1.trans hhead, hlast.trans hend.2⟩

/-! ### The statistics of an item -/

theorem quartiles_ofRatings (hne : ratings ≠ []) (scale : OrdinalScale) :
    Quartiles ratings (ofRatings (α := ℝ) ratings scale) := by
  have hmem := percentile_sortedValues_mem_Icc hne scale
  have hquartiles : Statistics.percentile (sortedValues ratings) (0.25 : ℝ)
      ≤ Statistics.percentile (sortedValues ratings) 0.75 := by
    apply Statistics.monotone_percentile (sortedValues_ne_nil hne) (pairwise_sortedValues ratings)
    norm_num
  constructor
  case percentiles =>
    have hperm := (List.mergeSort_perm ratings (· ≤ ·)).map fun n : ℤ => (n : ℝ)
    exact ⟨sortedValues ratings, hperm, pairwise_sortedValues ratings, rfl, rfl⟩
  case min_le_median => exact (hmem 0.5).1
  case median_le_max => exact (hmem 0.5).2
  case iqr_nonneg => exact sub_nonneg.mpr hquartiles
  case iqr_le_range =>
    -- The lower quartile is at least the minimum, and the upper one at most the maximum.
    have hrange : ((ofRatings (α := ℝ) ratings scale).range : ℝ)
        = (ofRatings (α := ℝ) ratings scale).max - (ofRatings (α := ℝ) ratings scale).min :=
      Int.cast_sub _ _
    rw [hrange]
    exact sub_le_sub (hmem 0.75).2 (hmem 0.25).1

/-- **The percentiles** of an ascending list interpolate it: they rise with the quantile from its
first value to its last, pass through each value at its place, and turn over with the list.  So the
median of every item that has statistics lies between its extremes, and so do its quartiles. -/
theorem percentile_interpolates :
    (∀ (sorted : List ℝ) (hne : sorted ≠ []), sorted.Pairwise (· ≤ ·) →
      Statistics.Interpolates sorted hne) ∧
    ∀ (label : String) (ratings : List ℤ) (scale : OrdinalScale) (summary : RatingSummary ℝ),
      describe label ratings scale = .ok summary → Quartiles ratings summary := by
  constructor
  · intro sorted hne hsorted
    exact Statistics.interpolates_of_pairwise hne hsorted
  · intro label ratings scale summary h
    obtain ⟨⟨hne, -⟩, rfl⟩ := describe_eq_ok_iff.mp h
    exact quartiles_ofRatings hne scale

/-- The lower quartile of four values, a quantile beyond them, and an item with these ratings. -/
theorem percentile_interpolates_four :
    Statistics.percentile [1, 2, 3, 4] (1 / 4 : ℝ) = 7 / 4 ∧
    Statistics.percentile [1, 2, 3, 4] (7 : ℝ) = 4 ∧
    ∃ summary : RatingSummary ℝ, describe "Q1_1" [4, 2, 1, 3] ⟨1, 5⟩ = .ok summary ∧
      summary.range = 3 ∧ Quartiles [4, 2, 1, 3] summary := by
  obtain ⟨hlists, hitems⟩ := percentile_interpolates
  have hfour := hlists [1, 2, 3, 4] (by simp) (by norm_num)
  refine ⟨?_, ?_, ?_⟩
  · -- Three quarters of the way from the first value to the second.
    have hlinear := hfour.linear 0 (by simp) (3 / 4) (by norm_num) (by norm_num)
    norm_num at hlinear
    exact hlinear
  · -- No less than at a quantile of 1, which is the last value.
    have hend : Statistics.percentile [1, 2, 3, 4] (1 : ℝ) = 4 := by
      simpa using hfour.values (by simp) 3 (by simp)
    have hle : Statistics.percentile [1, 2, 3, 4] (7 : ℝ) ≤ 4 := by
      simpa using hfour.le_getLast 7
    exact le_antisymm hle (hend.symm.trans_le (hfour.monotone 1 7 (by norm_num)))
  · have hok : describe (α := ℝ) "Q1_1" [4, 2, 1, 3] ⟨1, 5⟩
        = .ok (ofRatings [4, 2, 1, 3] ⟨1, 5⟩) :=
      describe_of_contains "Q1_1" (by decide) (by decide)
    exact ⟨_, hok, rfl, hitems _ _ _ _ hok⟩

end RatingSummary

end InterRater
