import InterRater.Config.Basic
import InterRater.Paired.Bands
import InterRater.Paired.Series
import InterRater.Statistics.Correlation
import InterRater.Statistics.Moments

/-!
# Comparison of paired series

`Comparison.ofSeries` compares automated scores with human ones: their rank correlation with a
confidence interval, a paired t-test of their differences, and how closely they agree sample by
sample.
-/

namespace InterRater

/-- A confidence interval of a correlation coefficient. -/
structure ConfidenceInterval (α : Type) where
  lower : α
  upper : α
  zCritical : α
  deriving Repr, DecidableEq

/-- Mean and standard deviation of one series. -/
structure SeriesSummary (α : Type) where
  mean : α
  stdDev : α
  deriving Repr, DecidableEq

/-- How closely two series agree beyond their order. -/
structure SeriesAgreement (α : Type) where
  automated : SeriesSummary α
  human : SeriesSummary α
  pearson : Correlation α
  meanAbsDifference : α
  stdDifference : α
  exactCount : Nat
  closeCount : Nat
  total : Nat
  deriving Repr, DecidableEq

/-- The result of a paired t-test.  The statistic and the standardized difference are absent where
they diverge. -/
structure PairedTest (α : Type) where
  statistic : Option α
  pValue : Option α
  cohensD : Option α
  deriving Repr, DecidableEq

/-- The comparison of two series. -/
structure Comparison (α : Type) where
  observations : Nat
  /-- The rank correlation of the series. -/
  correlation : Correlation α
  interpretation : CorrelationLabel
  significant : Bool
  correlationEffect : CorrelationEffect
  confidenceInterval : Option (ConfidenceInterval α)
  test : PairedTest α
  degreesOfFreedom : Nat
  differenceSignificant : Bool
  meanDifference : α
  effectSize : EffectSize
  bias : BiasDirection
  agreement : SeriesAgreement α
  deriving Repr, DecidableEq

namespace Comparison

variable {α : Type} [Scalar α]

/-! ### The paired test -/

/-- The largest spread of the differences that is taken for rounding noise: eight units in the
last place of the largest score, or of 1. -/
def roundingTolerance (series : PairedSeries α) : α :=
  let magnitude := (series.automated ++ series.human).foldl
    (fun largest v => Scalar.larger largest (Scalar.abs v)) 1
  ((8 : Nat) : α) * Scalar.epsilon * magnitude

/-- The test of the mean of `n` differences with the given spread.  Differences without spread
are certain: they are no difference at all, or one without doubt. -/
def pairedTest [Special α] (meanDifference spread : α) (n : Nat) (tolerance : α) : PairedTest α :=
  if spread ≤ tolerance then
    if Scalar.abs meanDifference ≤ tolerance then ⟨some 0, some 1, some 0⟩
    else ⟨none, some 0, none⟩
  else
    let t := meanDifference / (spread / Scalar.sqrt (n : α))
    ⟨some t, some (Special.twoSidedTail t ((n - 1 : Nat) : α)), some (meanDifference / spread)⟩

/-- Which series is significantly higher. -/
def biasOf (significant : Bool) (meanDifference : α) : BiasDirection :=
  if !significant then .none
  else if 0 < meanDifference then .automatedHigher
  else .automatedLower

/-! ### The confidence interval -/

/-- Fisher's interval around the coefficient `r` of `n` samples, of which there must be four. -/
def fisherInterval [Special α] (config : Config α) (r : α) (n : Nat) :
    Option (ConfidenceInterval α) :=
  if n < 4 then none
  else
    let z : α := Special.atanh (Scalar.clamp r (-1) 1)
    let half := config.ciZCritical / Scalar.sqrt ((n - 3 : Nat) : α)
    some ⟨Special.tanh (z - half), Special.tanh (z + half), config.ciZCritical⟩

/-! ### Agreement sample by sample -/

def summarize (values : List α) : SeriesSummary α :=
  ⟨Statistics.mean values, Statistics.sampleDeviation values⟩

/-- How closely the series agree.  A difference below the exact tolerance counts as exact, one up
to the close tolerance as close. -/
def agreementOf [Special α] (config : Config α) (series : PairedSeries α) : SeriesAgreement α :=
  let differences := series.differences
  let distances := differences.map Scalar.abs
  { automated := summarize series.automated
    human := summarize series.human
    pearson := Correlation.pearson series.automated series.human
    meanAbsDifference := Statistics.mean distances
    stdDifference := Statistics.sampleDeviation differences
    exactCount := distances.countP fun d => d < config.exactAgreementTolerance
    closeCount := distances.countP fun d => d ≤ config.closeAgreementTolerance
    total := differences.length }

/-! ### The comparison -/

/-- The comparison of a paired series. -/
def ofSeries [Special α] (config : Config α) (series : PairedSeries α) : Comparison α :=
  let n := series.size
  let rank := Correlation.spearman series.automated series.human
  let meanDifference := Statistics.mean series.differences
  let spread := Statistics.sampleDeviation series.differences
  let test := pairedTest meanDifference spread n (roundingTolerance series)
  let differenceSignificant := test.pValue.any fun p => p < config.significanceLevel
  { observations := n
    correlation := rank
    interpretation := .ofCoefficient rank.coefficient
    significant := rank.pValue < config.significanceLevel
    correlationEffect := .ofCoefficient rank.coefficient
    confidenceInterval := fisherInterval config rank.coefficient n
    test
    degreesOfFreedom := n - 1
    differenceSignificant
    meanDifference
    effectSize := (test.cohensD.map EffectSize.ofCohensD).getD .large
    bias := biasOf differenceSignificant meanDifference
    agreement := agreementOf config series }

end Comparison

end InterRater
