import InterRater.Number.Shortest
import InterRater.Pattern.Reader
import InterRater.Rating.Scale

/-!
# The settings of an analysis

A `Config` holds the scale, the ceilings and thresholds, and the pattern of the labels.
`Config.flaw?` finds the first rule that a configuration breaks; a configuration without a flaw is
what every analysis is run under.
-/

namespace InterRater

/-- The settings of an analysis. -/
structure Config (α : Type) where
  scaleMin : Int
  scaleMax : Int
  /-- The variance of an item's ratings at which its variance agreement is 0. -/
  varianceCeiling : α
  /-- The range of an item's ratings at which its range agreement is 0. -/
  rangeCeiling : α
  /-- The factor between the weighted agreement of an item and the one that is classified. -/
  compositeScaleFactor : α
  highThreshold : α
  moderateThreshold : α
  reliabilityAcceptable : α
  reliabilityTentative : α
  significanceLevel : α
  /-- The critical value of the normal distribution for confidence intervals. -/
  ciZCritical : α
  /-- The pattern of labels, whose first two groups are the indexes of item and metric. -/
  labelPattern : String
  /-- The names of metrics by the decimal text of their index, sorted by that text. -/
  metricNames : List (String × String)
  exactAgreementTolerance : α
  closeAgreementTolerance : α
  /-- How many items the best and the worst of a ranking are. -/
  rankingSize : Nat
  deriving Repr, DecidableEq

/-- A rule that a configuration breaks. -/
inductive ConfigFlaw (α : Type) where
  | emptyScale (scaleMin scaleMax : Int)
  | notPositive (field : String) (value : α)
  | factorOutside (value : α)
  | thresholdsCross (moderate high : α)
  | reliabilityCrosses (tentative acceptable : α)
  | significanceOutside (value : α)
  | negativeTolerance
  /-- The label pattern is not well formed. -/
  | badPattern (pattern : String)
  | fewGroups (pattern : String)
  deriving Repr, DecidableEq

namespace Config

variable {α : Type} [Scalar α]

/-- The settings where a configuration file gives none. -/
def standard : Config α where
  scaleMin := 1
  scaleMax := 5
  varianceCeiling := 2.0
  rangeCeiling := 4.0
  compositeScaleFactor := 0.9
  highThreshold := 0.7
  moderateThreshold := 0.5
  reliabilityAcceptable := 0.8
  reliabilityTentative := 0.667
  significanceLevel := 0.05
  ciZCritical := 1.96
  labelPattern := "^Q(\\d+)_(\\d+)$"
  metricNames := [("1", "comprehensibility"), ("2", "completeness"), ("3", "alignment")]
  exactAgreementTolerance := 0.1
  closeAgreementTolerance := 0.5
  rankingSize := 5

omit [Scalar α] in
/-- The scale that ratings are on. -/
def scale (config : Config α) : OrdinalScale :=
  ⟨config.scaleMin, config.scaleMax⟩

omit [Scalar α] in
/-- The pattern of the labels, read. -/
def compiledPattern? (config : Config α) : Option CompiledPattern :=
  Pattern.read? config.labelPattern.toList

omit [Scalar α] in
/-- The name of a metric. -/
def metricName (config : Config α) (metric : Nat) : String :=
  (config.metricNames.lookup (toString metric)).getD s!"metric_{metric}"

/-- The flaw that the field is not a positive number, if it is not. -/
def positiveFlaw? (field : String) (value : α) : Option (ConfigFlaw α) :=
  if Scalar.isFinite value && 0 < value then none else some (.notPositive field value)

omit [Scalar α] in
/-- The flaw of the label pattern, if it has one. -/
def patternFlaw? (config : Config α) : Option (ConfigFlaw α) :=
  match config.compiledPattern? with
  | none => some (.badPattern config.labelPattern)
  | some compiled => if compiled.groups < 2 then some (.fewGroups config.labelPattern) else none

/-- The first rule that the configuration breaks. -/
def flaw? (config : Config α) : Option (ConfigFlaw α) :=
  [if config.scaleMax ≤ config.scaleMin then
      some (.emptyScale config.scaleMin config.scaleMax) else none,
    positiveFlaw? "variance_ceiling" config.varianceCeiling,
    positiveFlaw? "range_ceiling" config.rangeCeiling,
    positiveFlaw? "ci_z_critical" config.ciZCritical,
    if 0 < config.compositeScaleFactor ∧ config.compositeScaleFactor ≤ 1 then none
      else some (.factorOutside config.compositeScaleFactor),
    if config.highThreshold < config.moderateThreshold then
      some (.thresholdsCross config.moderateThreshold config.highThreshold) else none,
    if config.reliabilityAcceptable < config.reliabilityTentative then
      some (.reliabilityCrosses config.reliabilityTentative config.reliabilityAcceptable) else none,
    if 0 < config.significanceLevel ∧ config.significanceLevel < 1 then none
      else some (.significanceOutside config.significanceLevel),
    if config.exactAgreementTolerance < 0 ∨ config.closeAgreementTolerance < 0 then
      some .negativeTolerance else none,
    config.patternFlaw?].findSome? id

end Config

namespace ConfigFlaw

/-- The wording of a flaw. -/
def message : ConfigFlaw Binary64 → String
  | emptyScale scaleMin scaleMax =>
    s!"scale_min ({scaleMin}) must be below scale_max ({scaleMax})"
  | notPositive field value => s!"{field} must be a positive number, got {number value}"
  | factorOutside value => s!"composite_scale_factor must be in (0, 1], got {number value}"
  | thresholdsCross moderate high =>
    s!"moderate_threshold ({number moderate}) exceeds high_threshold ({number high})"
  | reliabilityCrosses tentative acceptable =>
    s!"reliability_tentative ({number tentative}) exceeds reliability_acceptable " ++
      s!"({number acceptable})"
  | significanceOutside value => s!"significance_level must be in (0, 1), got {number value}"
  | negativeTolerance => "agreement tolerances must not be negative"
  | badPattern pattern => s!"failed to compile label_pattern {pattern}"
  | fewGroups pattern => s!"label_pattern must capture item and metric indexes: {pattern}"
where
  number (x : Binary64) : String := NumberLayout.message.text x

end ConfigFlaw

end InterRater
