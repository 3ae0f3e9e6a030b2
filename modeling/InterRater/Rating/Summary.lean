import InterRater.Rating.Matrix
import InterRater.Statistics.Moments

/-!
# Statistics of the ratings of one item

`RatingSummary.describe` counts the ratings of an item by value and gives their location and
spread.
-/

namespace InterRater

/-- How many ratings have a value. -/
structure ValueShare (α : Type) where
  value : Int
  count : Nat
  percentage : α
  deriving Repr, DecidableEq

/-- The statistics of the ratings of one item. -/
structure RatingSummary (α : Type) where
  count : Nat
  mean : α
  stdDev : α
  median : α
  /-- The most frequent rating, of equally frequent ones the smallest. -/
  mode : Int
  min : Int
  max : Int
  range : Int
  /-- The distance between the upper and the lower quartile. -/
  iqr : α
  /-- The share of the ratings at the mode, in percent. -/
  consensusPercentage : α
  /-- The shares of all ratings of the scale, in ascending order. -/
  distribution : List (ValueShare α)
  deriving Repr, DecidableEq

namespace RatingSummary

variable {α : Type} [Scalar α]

/-- What percentage of `total` the number `count` is. -/
def percentage (count total : Nat) : α :=
  (count : α) / (total : α) * ((100 : Nat) : α)

/-- The shares of the ratings of the scale. -/
def shares (ratings : List Int) (scale : OrdinalScale) : List (ValueShare α) :=
  scale.ratings.map fun value =>
    let count := ratings.count value
    ⟨value, count, percentage count ratings.length⟩

omit [Scalar α] in
/-- The first value with the greatest count, and that count; `start` if no count is positive. -/
def modeOf (start : Int) (shares : List (ValueShare α)) : Int × Nat :=
  shares.foldl (fun best s => if best.2 < s.count then (s.value, s.count) else best) (start, 0)

/-- The ratings in ascending order, as numbers. -/
def sortedValues (ratings : List Int) : List α :=
  (ratings.mergeSort (· ≤ ·)).map fun (n : Int) => (n : α)

/-- The first rating that is not on the scale, as a fault of the rater at its position. -/
def fault? (label : String) (ratings : List Int) (scale : OrdinalScale) : Option AnalysisError :=
  ratings.zipIdx.findSome? fun (rating, rater) =>
    match scale.check rating label rater with
    | .ok _ => none
    | .error e => some e

/-- The statistics of a list of ratings that is not empty. -/
def ofRatings (ratings : List Int) (scale : OrdinalScale) : RatingSummary α :=
  let values := ratings.map fun (n : Int) => (n : α)
  let sorted := sortedValues ratings
  let distribution := shares ratings scale
  let (mode, modeCount) := modeOf scale.least distribution
  let min := ratings.min?.getD scale.least
  let max := ratings.max?.getD scale.greatest
  { count := ratings.length
    mean := Statistics.mean values
    stdDev := Statistics.sampleDeviation values
    median := Statistics.percentile sorted 0.5
    mode, min, max
    range := Scalar.intSub α max min
    iqr := Statistics.percentile sorted 0.75 - Statistics.percentile sorted 0.25
    consensusPercentage := percentage modeCount ratings.length
    distribution }

/-- The statistics of the ratings of the item with the given label. -/
def describe (label : String) (ratings : List Int) (scale : OrdinalScale) :
    Except AnalysisError (RatingSummary α) :=
  if ratings.isEmpty then .error (.tooFew .ratings 0)
  else
    match fault? label ratings scale with
    | some e => .error e
    | none => .ok (ofRatings ratings scale)

end RatingSummary

end InterRater
