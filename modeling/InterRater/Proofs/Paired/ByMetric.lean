import InterRater.Number.Tail
import InterRater.Paired.Report
import InterRater.Proofs.Label.Partition
import InterRater.Proofs.Paired.Series

/-!
# Comparison of a table by metric

The groups of a table are its lines, each once, and what is reported of a group is what a run on its
lines alone would report (`ComparisonReport.ofTable_byMetric`).  The scores of a whole table are
checked first.  Those of a group are some of them, so that nothing is left to be found in a group.
-/

namespace InterRater

namespace ScoreTable

variable {α : Type}

theorem labels_reorder (order : List ℕ) (table : ScoreTable α) :
    ScoreTable.labels (reorder order table) = reorder order table.labels :=
  (reorder_map order ScoreRow.label table).symm

theorem automated_reorder (order : List ℕ) (table : ScoreTable α) :
    ScoreTable.automated (reorder order table) = reorder order table.automated :=
  (reorder_map order ScoreRow.automated table).symm

theorem human_reorder (order : List ℕ) (table : ScoreTable α) :
    ScoreTable.human (reorder order table) = reorder order table.human :=
  (reorder_map order ScoreRow.human table).symm

/-- The positions of the groups are those of the table, each once. -/
theorem positions_perm {config : Config α} {table : ScoreTable α} {groups : List MetricGroup}
    (hgroups : MetricGroup.partition config table.labels = .ok groups) :
    (groups.flatMap (·.positions)).Perm (List.range table.length) := by
  obtain ⟨pattern, hpartition⟩ := MetricGroup.exists_isPartition hgroups
  have hcovers := hpartition.covers
  rwa [ScoreTable.labels, List.length_map] at hcovers

variable [Scalar α]

/-- The series of a table has a sample for each line. -/
theorem length_samples {table : ScoreTable α} {series : PairedSeries α}
    (h : table.series = .ok series) : series.samples.length = table.length := by
  obtain ⟨hautomated, -⟩ := PairedSeries.ofScores_eq_ok_iff.mp h
  have hlength := congrArg List.length hautomated
  rwa [PairedSeries.length_automated, automated, List.length_map] at hlength

/-- Two or more lines of a table with a paired series have one. -/
theorem exists_series_reorder {table : ScoreTable α} {series : PairedSeries α}
    (h : table.series = .ok series) {order : List ℕ} (horder : ∀ i ∈ order, i < table.length)
    (htwo : 2 ≤ order.length) :
    ∃ series', ScoreTable.series (reorder order table) = .ok series' := by
  obtain ⟨hautomated, hhuman⟩ := PairedSeries.ofScores_eq_ok_iff.mp h
  have htwo' : 2 ≤ (reorder order series.samples).length := by
    rwa [length_reorder (length_samples h ▸ horder)]
  refine ⟨series.reorder order htwo', ?_⟩
  rw [ScoreTable.series, automated_reorder, human_reorder, ← hautomated, ← hhuman]
  exact PairedSeries.ofScores_reorder series order htwo'

end ScoreTable

namespace ComparisonReport

variable {α : Type} [Scalar α] [Special α] {config : Config α} {table : ScoreTable α}
  {group : MetricGroup}

/-! ### One group -/

/-- The entry is what a run on the lines of the group, in their order, has as its result. -/
structure IsRunOn (config : Config α) (table : ScoreTable α) (group : MetricGroup)
    (entry : MetricComparison α) : Prop where
  metric : entry.metric = group.metric
  name : entry.name = group.name
  /-- The lines at the positions of the group, compared on their own. -/
  run : ∃ rows : ScoreTable α, rows.map some = group.positions.map (fun i => table[i]?) ∧
    entry.labels = rows.labels ∧ ofTable config rows false = .ok ⟨entry.comparison, []⟩

theorem ofTable_false_of_series {series : PairedSeries α} (h : table.series = .ok series) :
    ofTable config table false = .ok ⟨Comparison.ofSeries config series, []⟩ := by
  simp [ofTable, compareAll, h, bind, Except.bind, pure, Except.pure]

/-- What is known of the outcome of a group. -/
def Explains (config : Config α) (table : ScoreTable α) (group : MetricGroup) :
    GroupOutcome α → Prop
  | .compared entry => 2 ≤ group.positions.length ∧ IsRunOn config table group entry
  | .skipped name lines => group.positions.length < 2 ∧ name = group.name ∧
    lines = group.positions.length

/-- A group of lines of a table with a paired series is skipped, or has a result. -/
theorem exists_compareGroup {series : PairedSeries α} (h : table.series = .ok series)
    (hgroup : ∀ i ∈ group.positions, i < table.length) :
    ∃ outcome, compareGroup config table group = .ok outcome ∧
      Explains config table group outcome := by
  unfold compareGroup
  by_cases hfew : group.positions.length < 2
  · rw [if_pos hfew]
    exact ⟨_, rfl, hfew, rfl, rfl⟩
  · have htwo : 2 ≤ group.positions.length := Nat.le_of_not_lt hfew
    obtain ⟨series', hseries'⟩ := ScoreTable.exists_series_reorder h hgroup htwo
    have hscores : PairedSeries.ofScores (group.select table.automated)
        (group.select table.human) = .ok series' := by
      rw [← hseries', ScoreTable.series, ScoreTable.automated_reorder, ScoreTable.human_reorder]
      rfl
    rw [if_neg hfew, hscores]
    refine ⟨_, rfl, htwo, rfl, rfl, reorder group.positions table, map_some_reorder hgroup, ?_,
      ofTable_false_of_series hseries'⟩
    rw [ScoreTable.labels_reorder]
    rfl

/-! ### All groups -/

/-- The groups with an entry are those with two lines or more, the skipped ones are the others, and
both are in the order of the groups. -/
theorem lists_of_forall₂_explains {groups : List MetricGroup} {outcomes : List (GroupOutcome α)}
    (h : List.Forall₂ (Explains config table) groups outcomes) (overall : Comparison α) :
    List.Forall₂ (IsRunOn config table) (groups.filter fun group => 2 ≤ group.positions.length)
        (byMetric ⟨overall, outcomes⟩) ∧
      skippedGroups ⟨overall, outcomes⟩
        = (groups.filter fun group => group.positions.length < 2).map (·.name) := by
  induction h with
  | nil => exact ⟨List.Forall₂.nil, rfl⟩
  | @cons group outcome groups outcomes hgroup _ ih =>
    obtain ⟨hentries, hskipped⟩ := ih
    cases outcome with
    | compared entry =>
      obtain ⟨htwo, hrun⟩ := hgroup
      have hnot : ¬ group.positions.length < 2 := Nat.not_lt.mpr htwo
      rw [List.filter_cons_of_pos (by simpa using htwo),
        List.filter_cons_of_neg (by simpa using hnot)]
      exact ⟨List.Forall₂.cons hrun hentries, hskipped⟩
    | skipped name lines =>
      obtain ⟨hfew, rfl, rfl⟩ := hgroup
      have hnot : ¬ 2 ≤ group.positions.length := Nat.not_le.mpr hfew
      rw [List.filter_cons_of_neg (by simpa using hnot),
        List.filter_cons_of_pos (by simpa using hfew), List.map_cons, ← hskipped]
      exact ⟨hentries, rfl⟩

/-- No group stops the comparison. -/
theorem exists_compareGroups {series : PairedSeries α} (h : table.series = .ok series)
    {groups : List MetricGroup} (hgroups : MetricGroup.partition config table.labels = .ok groups)
    (hcovers : (groups.flatMap (·.positions)).Perm (List.range table.length)) :
    ∃ outcomes, compareGroups config table = .ok outcomes ∧
      List.Forall₂ (Explains config table) groups outcomes := by
  have hgroup : ∀ group ∈ groups, ∃ outcome, compareGroup config table group = .ok outcome ∧
      Explains config table group outcome := by
    intro group hmem
    apply exists_compareGroup h
    exact fun i hi => MetricGroup.lt_of_covers hcovers hmem hi
  obtain ⟨outcomes, houtcomes⟩ : ∃ outcomes, groups.mapM (compareGroup config table)
      = .ok outcomes := by
    apply Traversal.exists_mapM_eq_ok
    intro group hmem
    obtain ⟨outcome, houtcome, -⟩ := hgroup group hmem
    exact ⟨outcome, houtcome⟩
  refine ⟨outcomes, ?_, ?_⟩
  · rw [compareGroups, hgroups]
    exact houtcomes
  · have hforall := Traversal.forall₂_of_mapM_eq_ok houtcomes
    rw [List.forall₂_iff_zip] at hforall ⊢
    refine ⟨hforall.1, fun {group outcome} hmem => ?_⟩
    obtain ⟨outcome', houtcome', hexplains⟩ := hgroup group (List.of_mem_zip hmem).1
    rw [hforall.2 hmem] at houtcome'
    cases houtcome'
    exact hexplains

/-! ### The report -/

/-- **A comparison by metric** fails exactly if the table has no paired series, or else if its
labels cannot be grouped.  If it succeeds, every line is in one group; the groups with two lines or
more have an entry each, the result of a run on their lines alone, and the others are named; and the
overall comparison is that of a run without groups. -/
theorem ofTable_byMetric (config : Config α) (table : ScoreTable α) :
    (∀ fault, ofTable config table true = .error fault ↔
      (∃ e, table.series = .error e ∧ fault = .series e) ∨
      (∃ series, table.series = .ok series) ∧
        ∃ e, MetricGroup.partition config table.labels = .error e ∧ fault = .grouping e) ∧
    ∀ report, ofTable config table true = .ok report →
      ∃ groups, MetricGroup.partition config table.labels = .ok groups ∧
        (groups.flatMap (·.positions)).Perm (List.range table.length) ∧
        List.Forall₂ (IsRunOn config table)
          (groups.filter fun group => 2 ≤ group.positions.length) report.byMetric ∧
        report.skippedGroups
          = (groups.filter fun group => group.positions.length < 2).map (·.name) ∧
        ofTable config table false = .ok ⟨report.overall, []⟩ := by
  cases hseries : table.series with
  | error e =>
    have hfault : ofTable config table true = .error (.series e) := by
      simp [ofTable, compareAll, hseries, bind, Except.bind]
    simp [hfault, eq_comm]
  | ok series =>
    cases hgroups : MetricGroup.partition config table.labels with
    | error e =>
      have hfault : ofTable config table true = .error (.grouping e) := by
        simp [ofTable, compareAll, compareGroups, hseries, hgroups, bind, Except.bind]
      simp [hfault, eq_comm]
    | ok groups =>
      have hcovers := ScoreTable.positions_perm hgroups
      obtain ⟨outcomes, houtcomes, hexplains⟩ := exists_compareGroups hseries hgroups hcovers
      have hreport : ofTable config table true
          = .ok ⟨Comparison.ofSeries config series, outcomes⟩ := by
        simp [ofTable, compareAll, hseries, houtcomes, bind, Except.bind, pure, Except.pure]
      rw [hreport]
      refine ⟨by simp, ?_⟩
      rintro report hok
      cases hok
      obtain ⟨hentries, hskipped⟩ := lists_of_forall₂_explains hexplains _
      exact ⟨groups, rfl, hcovers, hentries, hskipped, ofTable_false_of_series hseries⟩

/-- Three lines, of which two have one metric and one has none. -/
def threeLines : ScoreTable Binary64 :=
  [⟨"Q2_1", 1, 0⟩, ⟨"notes", 0, 1⟩, ⟨"Q1_1", 1, 1⟩]

theorem ofTable_threeLines : ∃ report entry,
    ofTable Config.standard threeLines true = .ok report ∧ report.byMetric = [entry] ∧
      entry.labels = ["Q1_1", "Q2_1"] ∧ report.skippedGroups = ["ungrouped"] ∧
      ofTable Config.standard [⟨"Q1_1", 1, 1⟩, ⟨"Q2_1", 1, 0⟩] false = .ok ⟨entry.comparison, []⟩ ∧
      ofTable Config.standard threeLines false = .ok ⟨report.overall, []⟩ := by
  obtain ⟨hfault, hok⟩ := ofTable_byMetric (Config.standard (α := Binary64)) threeLines
  have hpartition : MetricGroup.partition (Config.standard : Config Binary64) threeLines.labels =
      .ok [⟨some 1, "comprehensibility", [2, 0]⟩, ⟨none, "ungrouped", [1]⟩] :=
    MetricGroup.partition_three
  have hseries : ∃ series, threeLines.series = .ok series := ⟨_, rfl⟩
  cases hreport : ofTable Config.standard threeLines true with
  | error fault =>
    rcases (hfault fault).mp hreport with ⟨e, he, -⟩ | ⟨-, e, he, -⟩
    · obtain ⟨series, hseries⟩ := hseries
      rw [hseries] at he
      cases he
    · rw [hpartition] at he
      cases he
  | ok report =>
    obtain ⟨groups, hgroups, -, hentries, hskipped, hoverall⟩ := hok report hreport
    rw [hpartition] at hgroups
    cases hgroups
    obtain ⟨entry, entries, hrun, hnil, hbyMetric⟩ := List.forall₂_cons_left_iff.mp hentries
    cases List.forall₂_nil_left_iff.mp hnil
    obtain ⟨rows, hrows, hlabels, hcomparison⟩ := hrun.run
    have hlines : rows = [⟨"Q1_1", 1, 1⟩, ⟨"Q2_1", 1, 0⟩] :=
      (List.map_inj_right fun _ _ => Option.some.inj).mp hrows
    subst hlines
    exact ⟨report, entry, rfl, hbyMetric, hlabels, hskipped, hcomparison, hoverall⟩

end ComparisonReport

end InterRater
