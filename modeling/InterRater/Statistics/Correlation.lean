import InterRater.Statistics.Ranks

/-!
# Correlation

Pearson's correlation of two series, Spearman's correlation (Pearson's of the ranks), and the
p-value of a coefficient by the approximation with Student's distribution.
-/

namespace InterRater

/-- A correlation coefficient and its two-sided p-value. -/
structure Correlation (α : Type) where
  coefficient : α
  pValue : α
  /-- Whether both series vary.  If not, the coefficient is reported as 0 with p-value 1. -/
  defined : Bool
  deriving Repr, DecidableEq

namespace Correlation

variable {α : Type} [Scalar α]

/-- The correlation of two series one of which is constant. -/
def undefined : Correlation α :=
  ⟨0, 1, false⟩

/-- The p-value of the coefficient `r` of `n` samples, with `n - 2` degrees of freedom. -/
def significance [Special α] (r : α) (n : Nat) : α :=
  if n ≤ 2 then 1
  else
    let degrees : α := ((n - 2 : Nat) : α)
    let rest := 1 - r * r
    if rest ≤ 0 then 0 else Special.twoSidedTail (r * Scalar.sqrt (degrees / rest)) degrees

/-- The sum over the samples of the product of the two distances from the means `x` and `y`. -/
def comoment (samples : List (α × α)) (x y : α) : α :=
  samples.foldl (fun total s => total + (s.1 - x) * (s.2 - y)) 0

/-- The sum over the values of the squared distances from `center`. -/
def spread (values : List α) (center : α) : α :=
  values.foldl (fun total v => total + (v - center) * (v - center)) 0

/-- The correlation of a list of samples. -/
def ofSamples [Special α] (samples : List (α × α)) : Correlation α :=
  let n := samples.length
  if n < 2 then undefined
  else
    let xs := samples.map (·.1)
    let ys := samples.map (·.2)
    let xMean := Scalar.sum xs / (n : α)
    let yMean := Scalar.sum ys / (n : α)
    let xSpread := spread xs xMean
    let ySpread := spread ys yMean
    if xSpread == 0 || ySpread == 0 then undefined
    else
      let r := Scalar.clamp (comoment samples xMean yMean / Scalar.sqrt (xSpread * ySpread)) (-1) 1
      ⟨r, significance r n, true⟩

/-- Pearson's correlation.  The longer series is cut to the length of the shorter. -/
def pearson [Special α] (x y : List α) : Correlation α :=
  ofSamples (x.zip y)

/-- Spearman's correlation: that of the ranks. -/
def spearman [Special α] (x y : List α) : Correlation α :=
  pearson (Statistics.averageRanks x) (Statistics.averageRanks y)

end Correlation

end InterRater
