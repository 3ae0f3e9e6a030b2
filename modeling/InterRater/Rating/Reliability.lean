import InterRater.Rating.Agreement
import InterRater.Rating.Alpha
import InterRater.Rating.Summary

/-!
# Reliability of a whole matrix

The report on a matrix of ratings: the reliability coefficient with its level, the statistics and
the agreement of each item, and summaries of the agreement over all items.
-/

namespace InterRater

/-- The levels of a reliability coefficient. -/
inductive ReliabilityLevel where
  | acceptable
  | tentative
  | insufficient
  /-- All ratings are equal, so that there is no coefficient. -/
  | undefined
  deriving DecidableEq, Repr

namespace ReliabilityLevel

def name : ReliabilityLevel → String
  | acceptable => "ACCEPTABLE"
  | tentative => "TENTATIVE"
  | insufficient => "INSUFFICIENT"
  | undefined => "UNDEFINED"

/-- The level of a coefficient. -/
def classify {α : Type} [Scalar α] (config : Config α) (coefficient : α) : ReliabilityLevel :=
  if config.reliabilityAcceptable ≤ coefficient then acceptable
  else if config.reliabilityTentative ≤ coefficient then tentative
  else insufficient

end ReliabilityLevel

/-- One item with its statistics and its agreement. -/
structure ItemDiagnostics (α : Type) where
  item : RatingItem
  summary : RatingSummary α
  agreement : ItemAgreement α
  deriving Repr, DecidableEq

/-- How many items have a level of agreement. -/
structure BandCount (α : Type) where
  level : AgreementLevel
  count : Nat
  percentage : α
  deriving Repr, DecidableEq

/-- An item in the ranking by agreement. -/
structure RankedItem (α : Type) where
  rank : Nat
  index : Nat
  label : String
  composite : α
  deriving Repr, DecidableEq

/-- Location and spread of the composite agreement over the items. -/
structure CompositeSpread (α : Type) where
  mean : α
  min : α
  max : α
  stdDev : α
  deriving Repr, DecidableEq

/-- The report on a matrix of ratings. -/
structure ReliabilityReport (α : Type) where
  raterCount : Nat
  itemCount : Nat
  coefficient : Option α
  level : ReliabilityLevel
  /-- The items in the order of the columns. -/
  items : List (ItemDiagnostics α)
  bands : List (BandCount α)
  spread : CompositeSpread α
  /-- All items, best agreement first; equal ones stay in the order of the columns. -/
  ranking : List (RankedItem α)
  best : List (RankedItem α)
  /-- The last items of the ranking, in its order. -/
  worst : List (RankedItem α)
  deriving Repr, DecidableEq

namespace ReliabilityReport

variable {α : Type} [Scalar α]

/-- The diagnostics of one item. -/
def diagnose (config : Config α) (scale : OrdinalScale) (item : RatingItem) :
    Except AnalysisError (ItemDiagnostics α) := do
  let summary ← RatingSummary.describe item.label item.ratings scale
  return ⟨item, summary, ItemAgreement.score config item.ratings⟩

/-- The items by composite agreement, best first. -/
def rank (items : List (ItemDiagnostics α)) : List (RankedItem α) :=
  let order := items.mergeSort fun a b =>
    Scalar.precedes b.agreement.composite a.agreement.composite
  order.zipIdx.map fun (d, i) => ⟨i + 1, d.item.index, d.item.label, d.agreement.composite⟩

/-- How many of the items have each level. -/
def countBands (items : List (ItemDiagnostics α)) : List (BandCount α) :=
  AgreementLevel.all.map fun level =>
    let count := items.countP fun d => d.agreement.level = level
    ⟨level, count, if items.isEmpty then 0 else RatingSummary.percentage count items.length⟩

/-- The smallest of the values, `top` if there is none. -/
def least (values : List α) : α :=
  match values.filter fun v => v == v with
  | [] => Scalar.top
  | v :: rest => rest.foldl Scalar.smaller v

/-- The largest of the values, the negative of `top` if there is none. -/
def greatest (values : List α) : α :=
  match values.filter fun v => v == v with
  | [] => -Scalar.top
  | v :: rest => rest.foldl Scalar.larger v

/-- Location and spread of the composite agreement of the items. -/
def spreadOf (items : List (ItemDiagnostics α)) : CompositeSpread α :=
  let composites := items.map (·.agreement.composite)
  { mean := Statistics.mean composites
    min := least composites
    max := greatest composites
    stdDev := Scalar.sqrt (Statistics.populationVariance composites) }

/-- The report with the given diagnostics. -/
def ofDiagnostics (config : Config α) (m : RatingMatrix) (items : List (ItemDiagnostics α)) :
    ReliabilityReport α :=
  let coefficient := m.ordinalAlpha
  let ranking := rank items
  let take := min config.rankingSize ranking.length
  { raterCount := m.raterCount
    itemCount := m.itemCount
    coefficient
    level := (coefficient.map (ReliabilityLevel.classify config)).getD .undefined
    items
    bands := countBands items
    spread := spreadOf items
    ranking
    best := ranking.take take
    worst := ranking.drop (ranking.length - take) }

/-- The report on a matrix.  There must be at least two raters and one item. -/
def ofMatrix (config : Config α) (m : RatingMatrix) :
    Except AnalysisError (ReliabilityReport α) := do
  if m.raterCount < 2 then throw (.tooFew .raters m.raterCount)
  if m.itemCount = 0 then throw (.tooFew .items 0)
  let items ← m.items.mapM (diagnose config m.scale)
  return ofDiagnostics config m items

end ReliabilityReport

end InterRater
