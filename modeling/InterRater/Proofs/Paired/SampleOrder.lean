import InterRater.Proofs.Paired.Series
import InterRater.Proofs.Paired.Swap

/-!
# The order of the samples

A comparison does not depend on the order in which the samples are listed
(`Comparison.exists_ofSeries_reorder`).  All its parts but one are sums, counts and maxima over the
samples.  The exception is the rank correlation, where ranks are found by sorting positions; but
the rank of a score is a function of the score and of the scores as a whole, so that the ranks of a
list in another order are its ranks in that order (`Statistics.averageRanks_reorder`).
-/

namespace InterRater

/-! ### Ranks -/

namespace Statistics

/-- The ranks of a list in another order, in any arithmetic. -/
theorem averageRanks_reorder {α : Type} [Scalar α] [RankOrder α] {values : List α}
    (h : ∀ v ∈ values, v == v) {order : List ℕ} (horder : order.Perm (List.range values.length)) :
    averageRanks (reorder order values) = reorder order (averageRanks values) := by
  have hperm : (reorder order values).Perm values := reorder_perm horder
  have hself : ∀ v ∈ reorder order values, v == v := fun v hv => h v (mem_of_mem_reorder hv)
  rw [averageRanks_eq_map_countedRank hself, averageRanks_eq_map_countedRank h, reorder_map]
  apply List.map_congr_left
  intro v _
  exact countedRank_perm hperm v

end Statistics

/-! ### Correlations -/

namespace Correlation

/-- The ranks of the samples, sample by sample. -/
theorem zip_averageRanks (samples : List (ℝ × ℝ)) :
    (Statistics.averageRanks (samples.map (·.1))).zip
        (Statistics.averageRanks (samples.map (·.2)))
      = samples.map fun s => (Statistics.midRank (samples.map (·.1)) s.1,
          Statistics.midRank (samples.map (·.2)) s.2) := by
  rw [Statistics.averageRanks_eq_map, Statistics.averageRanks_eq_map, List.map_map, List.map_map,
    List.zip_map']
  rfl

variable [Special ℝ] {samples samples' : List (ℝ × ℝ)}

theorem spearman_perm (h : samples.Perm samples') :
    spearman (samples.map (·.1)) (samples.map (·.2))
      = spearman (samples'.map (·.1)) (samples'.map (·.2)) := by
  rw [spearman, spearman, pearson, pearson, zip_averageRanks, zip_averageRanks]
  apply ofSamples_perm
  simp only [Statistics.midRank_perm (h.map _)]
  exact h.map _

end Correlation

/-! ### The comparison -/

namespace Comparison

section Perm

variable {series series' : PairedSeries ℝ}

theorem roundingTolerance_perm (h : series.samples.Perm series'.samples) :
    roundingTolerance series = roundingTolerance series' :=
  roundingTolerance_congr ((h.map _).append (h.map _))

variable [Special ℝ]

theorem agreementOf_perm (config : Config ℝ) (h : series.samples.Perm series'.samples) :
    agreementOf config series = agreementOf config series' := by
  have hautomated : series.automated.Perm series'.automated := h.map _
  have hhuman : series.human.Perm series'.human := h.map _
  have hdifferences : series.differences.Perm series'.differences := h.map _
  have hdistances := hdifferences.map Scalar.abs
  have hpearson : Correlation.pearson series.automated series.human
      = Correlation.pearson series'.automated series'.human := by
    rw [Correlation.pearson, Correlation.pearson, PairedSeries.zip_automated_human,
      PairedSeries.zip_automated_human]
    exact Correlation.ofSamples_perm h
  simp only [agreementOf, summarize, hpearson, Statistics.mean_perm hautomated,
    Statistics.mean_perm hhuman, Statistics.mean_perm hdistances,
    Statistics.sampleDeviation_perm hautomated, Statistics.sampleDeviation_perm hhuman,
    Statistics.sampleDeviation_perm hdifferences, hdistances.countP_eq, hdifferences.length_eq]

/-- Series of the same samples have the same comparison. -/
theorem ofSeries_perm (config : Config ℝ) (h : series.samples.Perm series'.samples) :
    ofSeries config series = ofSeries config series' := by
  have hdifferences : series.differences.Perm series'.differences := h.map _
  have hsize : series.size = series'.size := h.length_eq
  have hspearman : Correlation.spearman series.automated series.human
      = Correlation.spearman series'.automated series'.human := Correlation.spearman_perm h
  simp only [ofSeries, hsize, hspearman, Statistics.mean_perm hdifferences,
    Statistics.sampleDeviation_perm hdifferences, roundingTolerance_perm h,
    agreementOf_perm config h]

end Perm

/-- **The order of the samples** does not matter: the scores at the positions of a series, listed in
any order, make a series with the same comparison; and ranks follow the values, in every arithmetic
where the values equal themselves. -/
theorem exists_ofSeries_reorder [Special ℝ] (config : Config ℝ) :
    (∀ (series : PairedSeries ℝ) (order : List ℕ), order.Perm (List.range series.size) →
      ∃ series', PairedSeries.ofScores (reorder order series.automated)
          (reorder order series.human) = .ok series' ∧
        ofSeries config series' = ofSeries config series) ∧
    ∀ {α : Type} [Scalar α] [Statistics.RankOrder α] (values : List α) (order : List ℕ),
      (∀ v ∈ values, v == v) → order.Perm (List.range values.length) →
        Statistics.averageRanks (reorder order values)
          = reorder order (Statistics.averageRanks values) := by
  constructor
  · intro series order horder
    have hperm : (reorder order series.samples).Perm series.samples := reorder_perm horder
    have htwo : 2 ≤ (reorder order series.samples).length := by
      rw [hperm.length_eq]
      exact series.two_le
    exact ⟨series.reorder order htwo, PairedSeries.ofScores_reorder series order htwo,
      ofSeries_perm config hperm⟩
  · intro α _ _ values order hself horder
    exact Statistics.averageRanks_reorder hself horder

/-- Four samples with ties in both series. -/
def tied : PairedSeries ℝ where
  samples := [(1, 0), (0, 1), (1, 1), (0, -1)]
  two_le := by decide
  finite := fun _ _ => ⟨rfl, rfl⟩

theorem exists_ofSeries_tied_reordered :
    (∃ series', PairedSeries.ofScores [(0 : ℝ), 1, 0, 1] [-1, 0, 1, 1] = .ok series' ∧
      ofSeries Config.standard series' = ofSeries Config.standard tied) ∧
    Statistics.averageRanks [(0 : ℝ), 1, 0, 1]
      = reorder [3, 0, 1, 2] (Statistics.averageRanks [(1 : ℝ), 0, 1, 0]) := by
  obtain ⟨hcomparison, hranks⟩ := exists_ofSeries_reorder (Config.standard (α := ℝ))
  have horder : [3, 0, 1, 2].Perm (List.range 4) := by decide
  exact ⟨hcomparison tied [3, 0, 1, 2] horder,
    hranks [(1 : ℝ), 0, 1, 0] [3, 0, 1, 2] (fun v _ => beq_self_eq_true v) horder⟩

end Comparison

end InterRater
