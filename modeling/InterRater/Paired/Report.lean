import InterRater.Label.Group
import InterRater.Paired.Comparison
import InterRater.Table.Scores

/-!
# Comparison of a score table

The report on a score table compares its two columns over all lines and, if asked for, for each
metric group.  A group with fewer than two lines is skipped.
-/

namespace InterRater

/-- The comparison of the lines of one metric group. -/
structure MetricComparison (α : Type) where
  metric : Option Nat
  name : String
  labels : List String
  comparison : Comparison α
  deriving Repr, DecidableEq

/-- What became of a metric group. -/
inductive GroupOutcome (α : Type) where
  | compared (result : MetricComparison α)
  /-- The group has fewer than two lines. -/
  | skipped (name : String) (lines : Nat)
  deriving Repr, DecidableEq

/-- The report on a score table, with the outcomes of its groups in their order. -/
structure ComparisonReport (α : Type) where
  overall : Comparison α
  groups : List (GroupOutcome α)
  deriving Repr, DecidableEq

/-- What keeps a score table from being compared. -/
inductive ComparisonFault where
  /-- The scores of the whole table do not make paired series. -/
  | series (e : AnalysisError)
  | grouping (e : GroupingFault)
  /-- The scores of a group do not make paired series. -/
  | group (name : String) (e : AnalysisError)
  deriving DecidableEq, Repr

namespace ComparisonReport

variable {α : Type}

/-- The groups that have been compared. -/
def byMetric (report : ComparisonReport α) : List (MetricComparison α) :=
  report.groups.filterMap fun
    | .compared result => some result
    | .skipped _ _ => none

/-- The names of the groups that have been skipped. -/
def skippedGroups (report : ComparisonReport α) : List String :=
  report.groups.filterMap fun
    | .compared _ => none
    | .skipped name _ => some name

variable [Scalar α] [Special α]

/-- The comparison of all lines of a table. -/
def compareAll (config : Config α) (table : ScoreTable α) :
    Except ComparisonFault (Comparison α) :=
  match table.series with
  | .error e => .error (.series e)
  | .ok series => .ok (Comparison.ofSeries config series)

/-- The outcome of one group. -/
def compareGroup (config : Config α) (table : ScoreTable α) (group : MetricGroup) :
    Except ComparisonFault (GroupOutcome α) :=
  if group.positions.length < 2 then .ok (.skipped group.name group.positions.length)
  else
    match PairedSeries.ofScores (group.select table.automated) (group.select table.human) with
    | .error e => .error (.group group.name e)
    | .ok series => .ok (.compared
        ⟨group.metric, group.name, group.select table.labels, Comparison.ofSeries config series⟩)

/-- The outcomes of the metric groups of a table. -/
def compareGroups (config : Config α) (table : ScoreTable α) :
    Except ComparisonFault (List (GroupOutcome α)) :=
  match MetricGroup.partition config table.labels with
  | .error e => .error (.grouping e)
  | .ok groups => groups.mapM (compareGroup config table)

/-- The report on a table. -/
def ofTable (config : Config α) (table : ScoreTable α) (byMetric : Bool) :
    Except ComparisonFault (ComparisonReport α) := do
  let overall ← compareAll config table
  let groups ← if byMetric then compareGroups config table else pure []
  return ⟨overall, groups⟩

end ComparisonReport

end InterRater
