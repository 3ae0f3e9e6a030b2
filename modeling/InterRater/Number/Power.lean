/-!
# Powers of two and of ten

The values of binary and of decimal places.
-/

namespace InterRater

/-- The power of two with the given exponent. -/
def twoPow (n : Nat) : Nat :=
  Nat.pow 2 n

/-- The power of ten with the given exponent. -/
def tenPow (n : Nat) : Nat :=
  Nat.pow 10 n

end InterRater
