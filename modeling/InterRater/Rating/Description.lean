import InterRater.Label.Group
import InterRater.Rating.Summary

/-!
# Description of a survey

The report that describes the items of a survey, one part for each metric group, with the items
that vary most and least.
-/

namespace InterRater

/-- The statistics of one item. -/
structure ItemDescription (α : Type) where
  index : Nat
  label : String
  summary : RatingSummary α
  deriving Repr, DecidableEq

/-- The items of one metric group. -/
structure MetricDescription (α : Type) where
  metric : Option Nat
  name : String
  items : List (ItemDescription α)
  meanOfMeans : α
  meanStdDev : α
  meanConsensusPercentage : α
  /-- The labels of the items with the greatest deviations, greatest first. -/
  mostVariable : List String
  /-- The labels of the items with the least deviations, least first. -/
  leastVariable : List String
  deriving Repr, DecidableEq

/-- The description of a survey. -/
structure DescribeReport (α : Type) where
  raterCount : Nat
  itemCount : Nat
  metrics : List (MetricDescription α)
  deriving Repr, DecidableEq

/-- What keeps a survey from being described. -/
inductive DescriptionFault where
  | grouping (e : GroupingFault)
  | item (e : AnalysisError)
  deriving DecidableEq, Repr

namespace DescribeReport

variable {α : Type} [Scalar α]

/-- The mean over the items of one of their statistics. -/
def meanOf (items : List (ItemDescription α)) (field : RatingSummary α → α) : α :=
  Statistics.mean (items.map fun item => field item.summary)

/-- The labels of the first `take` items in the given order; it leaves equal ones as they are. -/
def labelsBy (items : List (ItemDescription α)) (take : Nat)
    (before : RatingSummary α → RatingSummary α → Bool) : List String :=
  ((items.mergeSort fun a b => before a.summary b.summary).take take).map (·.label)

/-- The part of the report on the items of a group. -/
def ofItems (config : Config α) (group : MetricGroup) (items : List (ItemDescription α)) :
    MetricDescription α :=
  let take := min config.rankingSize items.length
  { metric := group.metric
    name := group.name
    items
    meanOfMeans := meanOf items (·.mean)
    meanStdDev := meanOf items (·.stdDev)
    meanConsensusPercentage := meanOf items (·.consensusPercentage)
    mostVariable := labelsBy items take fun a b => Scalar.precedes b.stdDev a.stdDev
    leastVariable := labelsBy items take fun a b => Scalar.precedes a.stdDev b.stdDev }

/-- The statistics of an item of a matrix. -/
def describeItem (m : RatingMatrix) (item : RatingItem) :
    Except DescriptionFault (ItemDescription α) :=
  match RatingSummary.describe item.label item.ratings m.scale with
  | .error e => .error (.item e)
  | .ok summary => .ok ⟨item.index, item.label, summary⟩

/-- The part of the report on a group. -/
def describeGroup (config : Config α) (m : RatingMatrix) (group : MetricGroup) :
    Except DescriptionFault (MetricDescription α) := do
  let items ← (group.positions.filterMap m.item?).mapM (describeItem m)
  return ofItems config group items

/-- The description of a matrix. -/
def ofMatrix (config : Config α) (m : RatingMatrix) :
    Except DescriptionFault (DescribeReport α) :=
  match MetricGroup.partition config m.labels with
  | .error e => .error (.grouping e)
  | .ok groups => do
    let metrics ← groups.mapM (describeGroup config m)
    return ⟨m.raterCount, m.itemCount, metrics⟩

end DescribeReport

end InterRater
