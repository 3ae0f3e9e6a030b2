import InterRater.Number.Scalar

/-!
# Words for coefficients and effects

The bands into which correlation coefficients, differences and their directions are sorted.
-/

namespace InterRater

/-- The strength of a correlation. -/
inductive CorrelationStrength where
  | negligible
  | weak
  | moderate
  | strong
  | veryStrong
  deriving DecidableEq, Repr

/-- The sign of a value. -/
inductive Direction where
  | positive
  | negative
  | none
  deriving DecidableEq, Repr

/-- The size of a standardized difference. -/
inductive EffectSize where
  | negligible
  | small
  | medium
  | large
  deriving DecidableEq, Repr

/-- The size of an effect read off a correlation coefficient. -/
inductive CorrelationEffect where
  | small
  | medium
  | large
  deriving DecidableEq, Repr

/-- Whether automated scores are significantly higher or lower than human ones. -/
inductive BiasDirection where
  | automatedHigher
  | automatedLower
  | none
  deriving DecidableEq, Repr

/-- Strength and direction of a correlation. -/
structure CorrelationLabel where
  strength : CorrelationStrength
  direction : Direction
  deriving DecidableEq, Repr

variable {α : Type} [Scalar α]

namespace CorrelationStrength

def ofCoefficient (r : α) : CorrelationStrength :=
  let magnitude := Scalar.abs r
  if magnitude < 0.1 then negligible
  else if magnitude < 0.3 then weak
  else if magnitude < 0.5 then moderate
  else if magnitude < 0.7 then strong
  else veryStrong

/-- The strength as a key. -/
def key : CorrelationStrength → String
  | negligible => "negligible"
  | weak => "weak"
  | moderate => "moderate"
  | strong => "strong"
  | veryStrong => "very_strong"

/-- The strength in a phrase. -/
def phrase : CorrelationStrength → String
  | veryStrong => "very strong"
  | s => s.key

end CorrelationStrength

namespace Direction

def ofValue (x : α) : Direction :=
  if 0 < x then positive else if x < 0 then negative else none

def key : Direction → String
  | positive => "positive"
  | negative => "negative"
  | none => "none"

end Direction

namespace EffectSize

/-- The size of Cohen's d. -/
def ofCohensD (d : α) : EffectSize :=
  let magnitude := Scalar.abs d
  if magnitude < 0.2 then negligible
  else if magnitude < 0.5 then small
  else if magnitude < 0.8 then medium
  else large

def key : EffectSize → String
  | negligible => "negligible"
  | small => "small"
  | medium => "medium"
  | large => "large"

/-- The name of the size in log fields. -/
def name : EffectSize → String
  | negligible => "Negligible"
  | small => "Small"
  | medium => "Medium"
  | large => "Large"

end EffectSize

namespace CorrelationEffect

def ofCoefficient (r : α) : CorrelationEffect :=
  let magnitude := Scalar.abs r
  if 0.5 ≤ magnitude then large
  else if 0.3 ≤ magnitude then medium
  else small

def key : CorrelationEffect → String
  | small => "small"
  | medium => "medium"
  | large => "large"

end CorrelationEffect

namespace BiasDirection

def key : BiasDirection → String
  | automatedHigher => "automated_higher"
  | automatedLower => "automated_lower"
  | none => "none"

/-- The name of the direction in log fields. -/
def name : BiasDirection → String
  | automatedHigher => "AutomatedHigher"
  | automatedLower => "AutomatedLower"
  | none => "None"

end BiasDirection

namespace CorrelationLabel

def ofCoefficient (r : α) : CorrelationLabel :=
  ⟨.ofCoefficient r, .ofValue r⟩

/-- Strength and direction in words. -/
def phrase (label : CorrelationLabel) : String :=
  match label.direction with
  | .none => label.strength.phrase
  | direction => s!"{label.strength.phrase} {direction.key}"

end CorrelationLabel

end InterRater
