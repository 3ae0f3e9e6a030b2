import InterRater.Proofs.Label.Grammar
import InterRater.Proofs.Number.Student
import InterRater.Proofs.Paired.ByMetric
import InterRater.Proofs.Paired.Counts
import InterRater.Proofs.Statistics.Moments

/-!
# Totals of the groups of a table

If no group of a table is skipped, the series of the groups together have the samples of the whole
table, each once (`ComparisonReport.exists_parts`).  What is counted in the groups therefore adds up
to what is counted in the table, and a mean over the table is the mean of those of the groups,
weighted by their samples (`ComparisonReport.ofTable_totals`).
-/

namespace InterRater

namespace PairedSeries

variable {α : Type} [Scalar α] {series part : PairedSeries α}

/-- The series at some positions of two columns has the samples at these positions. -/
theorem samples_of_ofScores_reorder {order : List ℕ}
    (h : ofScores (InterRater.reorder order series.automated)
      (InterRater.reorder order series.human) = .ok part) :
    part.samples = InterRater.reorder order series.samples := by
  obtain ⟨hautomated, hhuman⟩ := ofScores_eq_ok_iff.mp h
  rw [← zip_automated_human part, hautomated, hhuman, automated, human, reorder_map, reorder_map,
    List.zip_map', List.map_id'']
  exact fun _ => rfl

end PairedSeries

namespace Comparison

/-! ### Sums over the parts of a series -/

section Parts

variable {α : Type} [Scalar α] [Special α] (config : Config α) {series : PairedSeries α}
  {parts : List (PairedSeries α)}

theorem sum_observations (h : (parts.flatMap (·.samples)).Perm series.samples) :
    (parts.map fun part => (ofSeries config part).observations).sum
      = (ofSeries config series).observations := by
  show _ = series.samples.length
  rw [← h.length_eq, List.length_flatMap]
  rfl

theorem sum_total (h : (parts.flatMap (·.samples)).Perm series.samples) :
    (parts.map fun part => (ofSeries config part).agreement.total).sum
      = (ofSeries config series).agreement.total := by
  simp only [total_ofSeries]
  exact sum_observations config h

theorem sum_exactCount (h : (parts.flatMap (·.samples)).Perm series.samples) :
    (parts.map fun part => (ofSeries config part).agreement.exactCount).sum
      = (ofSeries config series).agreement.exactCount := by
  simp only [exactCount_ofSeries]
  rw [← h.countP_eq, List.countP_flatMap]
  rfl

theorem sum_closeCount (h : (parts.flatMap (·.samples)).Perm series.samples) :
    (parts.map fun part => (ofSeries config part).agreement.closeCount).sum
      = (ofSeries config series).agreement.closeCount := by
  simp only [closeCount_ofSeries]
  rw [← h.countP_eq, List.countP_flatMap]
  rfl

end Parts

/-! ### Means over the parts of a series -/

/-- The mean of a value of some comparisons, weighted by their observations. -/
noncomputable def weightedMean (comparisons : List (Comparison ℝ)) (value : Comparison ℝ → ℝ) : ℝ :=
  (comparisons.map fun comparison => comparison.observations * value comparison).sum
    / ((comparisons.map (·.observations)).sum : ℕ)

section Means

variable [Special ℝ] (config : Config ℝ) {series : PairedSeries ℝ} {parts : List (PairedSeries ℝ)}

/-- A value that is the mean of a function of the samples is the weighted mean of its values for
the parts. -/
theorem weightedMean_ofSeries (h : (parts.flatMap (·.samples)).Perm series.samples)
    (value : Comparison ℝ → ℝ) (f : ℝ × ℝ → ℝ)
    (hvalue : ∀ part, value (ofSeries config part) = Statistics.mean (part.samples.map f)) :
    value (ofSeries config series) = weightedMean (parts.map (ofSeries config)) value := by
  have hlists : (parts.flatMap (·.samples)).map f
      = (parts.map fun part => part.samples.map f).flatten := by
    rw [List.map_flatMap, List.flatMap_def]
  rw [hvalue, ← Statistics.mean_perm (h.map f), hlists, Statistics.mean_flatten, weightedMean]
  simp only [List.map_map, Function.comp_def, hvalue, List.length_map]
  rfl

theorem meanDifference_eq_weightedMean (h : (parts.flatMap (·.samples)).Perm series.samples) :
    (ofSeries config series).meanDifference
      = weightedMean (parts.map (ofSeries config)) (·.meanDifference) :=
  weightedMean_ofSeries config h (·.meanDifference) _ fun _ => rfl

theorem meanAbsDifference_eq_weightedMean
    (h : (parts.flatMap (·.samples)).Perm series.samples) :
    (ofSeries config series).agreement.meanAbsDifference
      = weightedMean (parts.map (ofSeries config)) (·.agreement.meanAbsDifference) := by
  refine weightedMean_ofSeries config h (·.agreement.meanAbsDifference)
    (fun sample => |sample.1 - sample.2|) fun part => ?_
  show Statistics.mean ((part.samples.map _).map Scalar.abs) = _
  rw [List.map_map]
  rfl

end Means

end Comparison

namespace ComparisonReport

section Parts

variable {α : Type} [Scalar α] [Special α] {config : Config α} {table : ScoreTable α}
  {report : ComparisonReport α}

/-- A group that is not skipped is compared as a series of some samples of the table. -/
theorem exists_part_of_compareGroup {series : PairedSeries α} (h : table.series = .ok series)
    {group : MetricGroup} {outcome : GroupOutcome α}
    (houtcome : compareGroup config table group = .ok outcome) :
    (∃ name lines, outcome = .skipped name lines) ∨
    ∃ entry part, outcome = .compared entry ∧ entry.comparison = Comparison.ofSeries config part ∧
      part.samples = reorder group.positions series.samples := by
  obtain ⟨hautomated, hhuman⟩ := PairedSeries.ofScores_eq_ok_iff.mp h
  rw [compareGroup] at houtcome
  split_ifs at houtcome with hfew
  · cases houtcome
    exact .inl ⟨_, _, rfl⟩
  · split at houtcome
    · cases houtcome
    · next part hpart =>
      cases houtcome
      rw [← hautomated, ← hhuman] at hpart
      exact .inr ⟨_, part, rfl, rfl, PairedSeries.samples_of_ofScores_reorder hpart⟩

/-- The parts of all groups, where none is skipped. -/
theorem exists_parts_of_forall₂ {series : PairedSeries α} (h : table.series = .ok series)
    {groups : List MetricGroup} {outcomes : List (GroupOutcome α)} {overall : Comparison α}
    (houtcomes : List.Forall₂ (fun group outcome => compareGroup config table group = .ok outcome)
      groups outcomes)
    (hskipped : skippedGroups ⟨overall, outcomes⟩ = []) :
    ∃ parts : List (PairedSeries α),
      (byMetric ⟨overall, outcomes⟩).map (·.comparison)
        = parts.map (Comparison.ofSeries config) ∧
      parts.flatMap (·.samples) = reorder (groups.flatMap (·.positions)) series.samples := by
  induction houtcomes with
  | nil => exact ⟨[], rfl, rfl⟩
  | cons houtcome _ ih =>
    rcases exists_part_of_compareGroup h houtcome with ⟨name, lines, rfl⟩ |
      ⟨entry, part, rfl, hentry, hsamples⟩
    · cases hskipped
    · obtain ⟨parts, hparts, hflat⟩ := ih hskipped
      refine ⟨part :: parts, ?_, ?_⟩
      · rw [List.map_cons, ← hparts, ← hentry]
        rfl
      · rw [List.flatMap_cons, List.flatMap_cons, hflat, hsamples, reorder, reorder, reorder,
          List.filterMap_append]

/-- **The groups are parts of the table**: where none is skipped, their series have the samples of
the whole table, each once. -/
theorem exists_parts (h : ofTable config table true = .ok report)
    (hskipped : report.skippedGroups = []) :
    ∃ (series : PairedSeries α) (parts : List (PairedSeries α)),
      report.overall = Comparison.ofSeries config series ∧
      report.byMetric.map (·.comparison) = parts.map (Comparison.ofSeries config) ∧
      (parts.flatMap (·.samples)).Perm series.samples := by
  obtain ⟨overall, hoverall, h⟩ := Traversal.bind_eq_ok_iff.mp h
  obtain ⟨outcomes, houtcomes, h⟩ := Traversal.bind_eq_ok_iff.mp h
  cases h
  rw [compareAll] at hoverall
  rw [compareGroups] at houtcomes
  split at hoverall
  · cases hoverall
  · next series hseries =>
    cases hoverall
    split at houtcomes
    · cases houtcomes
    · next groups hgroups =>
      obtain ⟨parts, hparts, hflat⟩ := exists_parts_of_forall₂ hseries
        (Traversal.forall₂_of_mapM_eq_ok houtcomes) hskipped
      refine ⟨series, parts, rfl, hparts, ?_⟩
      rw [hflat]
      apply reorder_perm
      rw [ScoreTable.length_samples hseries]
      exact ScoreTable.positions_perm hgroups

end Parts

/-! ### The totals -/

/-- **Groups add up to the table.**  If no group is skipped, what is counted in the groups adds up
to what is counted in the whole table, and the mean difference and the mean distance of the whole
table are the means of those of the groups, weighted by their observations. -/
theorem ofTable_totals [Special ℝ] {config : Config ℝ} {table : ScoreTable ℝ}
    {report : ComparisonReport ℝ} (h : ofTable config table true = .ok report)
    (hskipped : report.skippedGroups = []) :
    let overall := report.overall
    let groups := report.byMetric.map (·.comparison)
    (groups.map (·.observations)).sum = overall.observations ∧
    (groups.map (·.agreement.exactCount)).sum = overall.agreement.exactCount ∧
    (groups.map (·.agreement.closeCount)).sum = overall.agreement.closeCount ∧
    (groups.map (·.agreement.total)).sum = overall.agreement.total ∧
    overall.meanDifference = Comparison.weightedMean groups (·.meanDifference) ∧
    overall.agreement.meanAbsDifference
      = Comparison.weightedMean groups (·.agreement.meanAbsDifference) := by
  obtain ⟨series, parts, hoverall, hgroups, hperm⟩ := exists_parts h hskipped
  simp only [hoverall, hgroups, List.map_map, Function.comp_def]
  exact ⟨Comparison.sum_observations config hperm, Comparison.sum_exactCount config hperm,
    Comparison.sum_closeCount config hperm, Comparison.sum_total config hperm,
    Comparison.meanDifference_eq_weightedMean config hperm,
    Comparison.meanAbsDifference_eq_weightedMean config hperm⟩

/-- Four lines, of which two have one metric and two have none. -/
def fourLines : ScoreTable ℝ :=
  [⟨"Q2_1", 1, 0⟩, ⟨"notes", 0, 1⟩, ⟨"Q1_1", 1, 1⟩, ⟨"total", 1, 0⟩]

theorem partition_fourLines :
    MetricGroup.partition (Config.standard : Config ℝ) fourLines.labels =
      .ok [⟨some 1, "comprehensibility", [2, 0]⟩, ⟨none, "ungrouped", [1, 3]⟩] := by
  have hsecond : LabelToken.read standardProgram "Q2_1" = .ok (some ⟨2, 1⟩) :=
    LabelToken.read_of_isIndex (show StandardLabel _ ['2'] ['1'] from ⟨by decide, by decide, rfl⟩)
      (by decide) (by decide)
  have hfirst : LabelToken.read standardProgram "Q1_1" = .ok (some ⟨1, 1⟩) :=
    LabelToken.read_of_isIndex (show StandardLabel _ ['1'] ['1'] from ⟨by decide, by decide, rfl⟩)
      (by decide) (by decide)
  have hnotes : LabelToken.read standardProgram "notes" = .ok none :=
    LabelToken.read_of_head?_ne (by decide)
  have htotal : LabelToken.read standardProgram "total" = .ok none :=
    LabelToken.read_of_head?_ne (by decide)
  have htokens : MetricGroup.tokens standardProgram fourLines.labels =
      .ok [(some ⟨2, 1⟩, 0), (none, 1), (some ⟨1, 1⟩, 2), (none, 3)] := by
    rw [MetricGroup.tokens, Traversal.mapM_eq_ok_iff]
    simp [fourLines, ScoreTable.labels, hsecond, hfirst, hnotes, htotal, pure, Except.pure, bind,
      Except.bind]
  rw [MetricGroup.partition_eq_ok_iff compiledPattern?_standard]
  refine ⟨_, htokens, ?_⟩
  simp [MetricGroup.ofTokens, MetricGroup.metrics, MetricGroup.positionsOf,
    MetricGroup.positionsWithout, List.mergeSort, List.eraseReps, List.eraseRepsBy,
    List.eraseRepsBy.loop, MetricGroup.ungroupedName]
  rfl

theorem ofTable_fourLines : ∃ report : ComparisonReport ℝ,
    ofTable Config.standard fourLines true = .ok report ∧ report.skippedGroups = [] ∧
      report.byMetric.length = 2 ∧
      (report.byMetric.map (·.comparison.observations)).sum = report.overall.observations ∧
      (report.byMetric.map (·.comparison.agreement.exactCount)).sum
        = report.overall.agreement.exactCount ∧
      report.overall.meanDifference = 1 / 4 ∧
      report.overall.meanDifference
        = Comparison.weightedMean (report.byMetric.map (·.comparison)) (·.meanDifference) := by
  let series : PairedSeries ℝ :=
    ⟨[(1, 0), (0, 1), (1, 1), (1, 0)], by decide, fun _ _ => ⟨rfl, rfl⟩⟩
  have hseries : fourLines.series = .ok series :=
    PairedSeries.ofScores_eq_ok_iff.mpr ⟨rfl, rfl⟩
  obtain ⟨outcomes, houtcomes, hexplains⟩ := exists_compareGroups hseries partition_fourLines
    (ScoreTable.positions_perm partition_fourLines)
  obtain ⟨hentries, hskipped⟩ := lists_of_forall₂_explains hexplains
    (Comparison.ofSeries Config.standard series)
  have hreport : ofTable Config.standard fourLines true
      = .ok ⟨Comparison.ofSeries Config.standard series, outcomes⟩ := by
    simp [ofTable, compareAll, hseries, houtcomes, bind, Except.bind, pure, Except.pure]
  have hdifference : (Comparison.ofSeries Config.standard series).meanDifference = 1 / 4 := by
    show Statistics.mean (series.samples.map _) = _
    rw [Statistics.mean_eq]
    norm_num [series]
  obtain ⟨hobservations, hexact, -, -, hmean, -⟩ := ofTable_totals hreport hskipped
  rw [List.map_map] at hobservations hexact
  exact ⟨_, hreport, hskipped, hentries.length_eq.symm, hobservations, hexact, hdifference, hmean⟩

end ComparisonReport

end InterRater
