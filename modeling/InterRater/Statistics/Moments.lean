import InterRater.Number.Scalar

/-!
# Means, variances and percentiles

The statistics of one list of values.  All are total: an empty list has mean, variance and
percentiles 0, and a list with fewer than two values has sample deviation 0.
-/

namespace InterRater

namespace Statistics

variable {α : Type} [Scalar α]

/-- The arithmetic mean. -/
def mean (values : List α) : α :=
  if values.isEmpty then 0 else Scalar.sum values / (values.length : α)

/-- The sum of the squared distances from the mean. -/
def squaredDeviations (values : List α) : α :=
  let center := mean values
  Scalar.sum (values.map fun v => Scalar.square (v - center))

/-- The variance with divisor `n`. -/
def populationVariance (values : List α) : α :=
  if values.isEmpty then 0 else squaredDeviations values / (values.length : α)

/-- The standard deviation with divisor `n - 1`. -/
def sampleDeviation (values : List α) : α :=
  if values.length < 2 then 0
  else Scalar.sqrt (squaredDeviations values / ((values.length - 1 : Nat) : α))

/-- Where a quantile stands among `length` ascending values, counted from 0: at one of them or
between two.  A quantile outside the interval from 0 to 1 counts as its nearest point. -/
def quantilePlace (length : Nat) (quantile : α) : α :=
  Scalar.clamp quantile 0 1 * ((length - 1 : Nat) : α)

/-- The value at a quantile of an ascending list, by linear interpolation between the two
neighbouring values. -/
def percentile (sorted : List α) (quantile : α) : α :=
  match sorted with
  | [] => 0
  | [v] => v
  | _ =>
    let position := quantilePlace sorted.length quantile
    let lower := Scalar.floor position
    let low := sorted.getD lower 0
    let high := sorted.getD (Scalar.ceil position) 0
    low + (high - low) * (position - (lower : α))

end Statistics

end InterRater
