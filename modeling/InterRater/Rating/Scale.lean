import InterRater.Number.Binary64

/-!
# Ordinal rating scales

A scale is the range of integers from its least to its greatest rating.
-/

namespace InterRater

/-- A closed range of integer ratings. -/
structure OrdinalScale where
  least : Int
  greatest : Int
  deriving DecidableEq, Repr

namespace OrdinalScale

/-- Whether a rating is on the scale. -/
def contains (scale : OrdinalScale) (rating : Int) : Bool :=
  scale.least ≤ rating && rating ≤ scale.greatest

/-- The ratings of the scale, in ascending order. -/
def ratings (scale : OrdinalScale) : List Int :=
  (List.range (scale.greatest + 1 - scale.least).toNat).map fun (i : Nat) => scale.least + i

/-- The nearest integer that 64 bits can hold. -/
def toWord (n : Int) : Int :=
  max Int64.minValue.toInt (min n Int64.maxValue.toInt)

/-- The rating that a number stands for: the number is an integer, and that integer is on the
scale.  Nothing is rounded; integers of more than 64 bits count as the nearest one of 64. -/
def rating? (scale : OrdinalScale) (value : Binary64) : Option Int :=
  value.toInt?.bind fun n =>
    if scale.contains (toWord n) then some (toWord n) else none

end OrdinalScale

end InterRater
