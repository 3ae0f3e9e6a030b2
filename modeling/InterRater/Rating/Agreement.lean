import InterRater.Config.Basic
import InterRater.Statistics.Moments

/-!
# Agreement on one item

`ItemAgreement.score` blends three measures of how close the ratings of an item lie: their
variance, their range, and the share of the most frequent one.  The blend runs in the same
direction as a reliability coefficient and is not comparable with one in size.

The range is taken of the ratings as integers, before it becomes a value, so that on a machine it
can wrap around (`ItemAgreement.ratingRange`).
-/

namespace InterRater

/-- The three levels of agreement on an item. -/
inductive AgreementLevel where
  | high
  | moderate
  | low
  deriving DecidableEq, Repr

namespace AgreementLevel

/-- The levels, best first. -/
def all : List AgreementLevel :=
  [high, moderate, low]

def name : AgreementLevel → String
  | high => "HIGH"
  | moderate => "MODERATE"
  | low => "LOW"

end AgreementLevel

/-- The agreement of the ratings of one item. -/
structure ItemAgreement (α : Type) where
  varianceAgreement : α
  rangeAgreement : α
  modeAgreement : α
  /-- The weighted sum of the three measures. -/
  rawComposite : α
  /-- The weighted sum times the scale factor; the level is read off it. -/
  composite : α
  level : AgreementLevel
  deriving Repr, DecidableEq

namespace ItemAgreement

variable {α : Type} [Scalar α]

/-- The level of a composite agreement. -/
def classify (config : Config α) (composite : α) : AgreementLevel :=
  if config.highThreshold ≤ composite then .high
  else if config.moderateThreshold ≤ composite then .moderate
  else .low

/-- The agreement with the given measures. -/
def ofMeasures (config : Config α) (variance range mode : α) : ItemAgreement α :=
  let raw := 0.4 * variance + 0.3 * range + 0.3 * mode
  let composite := raw * config.compositeScaleFactor
  ⟨variance, range, mode, raw, composite, classify config composite⟩

/-- The distance between the greatest and the least rating. -/
def ratingRange (α : Type) [Scalar α] (ratings : List Int) : Int :=
  Scalar.intSub α (ratings.max?.getD 0) (ratings.min?.getD 0)

/-- How often the most frequent rating occurs. -/
def modeCount (ratings : List Int) : Nat :=
  (ratings.map ratings.count).max?.getD 0

/-- The agreement of ratings with the given range.  Fewer than two ratings agree fully. -/
def ofRange (config : Config α) (ratings : List Int) (range : Int) : ItemAgreement α :=
  if ratings.length ≤ 1 then ofMeasures config 1 1 1
  else
    let variance := Statistics.populationVariance (ratings.map fun (n : Int) => (n : α))
    ofMeasures config
      (Scalar.larger (1 - variance / config.varianceCeiling) 0)
      (Scalar.larger (1 - (range : α) / config.rangeCeiling) 0)
      ((modeCount ratings : α) / (ratings.length : α))

/-- The agreement of a list of ratings. -/
def score (config : Config α) (ratings : List Int) : ItemAgreement α :=
  ofRange config ratings (ratingRange α ratings)

end ItemAgreement

end InterRater
