import InterRater.Number.Power

/-!
# The arithmetic that the statistics are written in

`Scalar α` lists the operations a statistic may use.  Each statistic of the library is written
once over it, in the order in which its sums and quotients are to be evaluated, so the same text
is a program on `Binary64`, where every operation rounds, and a formula over a field with exact
arithmetic.  Where a statistic subtracts integers before it goes over to values, they are integers
of the same machine (`Scalar.intSub`).

`Special α` adds the three functions that no finite sequence of those operations computes.
-/

namespace InterRater

/-- The values a computation may end in that stand for no number. -/
inductive NonFinite where
  | nan
  | infinity
  | negativeInfinity
  deriving DecidableEq, Repr

namespace NonFinite

/-- The name of the value in messages. -/
def text : NonFinite → String
  | .nan => "NaN"
  | .infinity => "inf"
  | .negativeInfinity => "-inf"

end NonFinite

/-- The operations of real arithmetic, exact or rounded. -/
class Scalar (α : Type) where
  zero : α
  one : α
  add : α → α → α
  sub : α → α → α
  mul : α → α → α
  div : α → α → α
  neg : α → α
  lt : α → α → Prop
  le : α → α → Prop
  beq : α → α → Bool
  natCast : Nat → α
  intCast : Int → α
  /-- The difference of two integers.  On a machine it can wrap around. -/
  intSub : Int → Int → Int
  /-- The value of a decimal numeral: its digits, whether the power of ten is negative, and the
  power's magnitude. -/
  ofScientific : Nat → Bool → Nat → α
  /-- The magnitude of a value. -/
  abs : α → α
  /-- The square root of a value that is not negative. -/
  sqrt : α → α
  /-- The largest natural number that is at most the value, and 0 where there is none. -/
  floor : α → Nat
  /-- The smallest natural number that is at least the value. -/
  ceil : α → Nat
  /-- The order in which values are sorted.  It is total, also where `≤` is not. -/
  precedes : α → α → Bool
  /-- What the value stands for if it is no number. -/
  nonFinite? : α → Option NonFinite
  decidableLT : DecidableRel lt
  decidableLE : DecidableRel le

namespace Scalar

variable {α : Type} [Scalar α]

/-! ### The symbols of the operations

A type with a meaning of its own for a symbol keeps it, hence the low priority. -/

instance (priority := 100) : Zero α := ⟨zero⟩

instance (priority := 100) : One α := ⟨one⟩

instance (priority := 100) : Add α := ⟨add⟩

instance (priority := 100) : Sub α := ⟨sub⟩

instance (priority := 100) : Mul α := ⟨mul⟩

instance (priority := 100) : Div α := ⟨div⟩

instance (priority := 100) : Neg α := ⟨neg⟩

instance (priority := 100) : LT α := ⟨lt⟩

instance (priority := 100) : LE α := ⟨le⟩

instance (priority := 100) : BEq α := ⟨beq⟩

instance (priority := 100) : NatCast α := ⟨natCast⟩

instance (priority := 100) : IntCast α := ⟨intCast⟩

instance (priority := 100) : OfScientific α := ⟨ofScientific⟩

instance (priority := 100) : DecidableLT α := decidableLT

instance (priority := 100) : DecidableLE α := decidableLE

/-! ### Operations on several values -/

/-- Whether the value is a number. -/
def isFinite (x : α) : Bool :=
  (nonFinite? x).isNone

/-- The larger of two values.  A value that is not equal to itself loses. -/
def larger (x y : α) : α :=
  if x < y then y else if x == x then x else y

/-- The smaller of two values.  A value that is not equal to itself loses. -/
def smaller (x y : α) : α :=
  if y < x then y else if x == x then x else y

/-- The point of the interval from `low` to `high` closest to `x`. -/
def clamp (x low high : α) : α :=
  if x < low then low else if high < x then high else x

/-- The square of a value, as one product. -/
def square (x : α) : α :=
  x * x

/-- The value above all others, where a division by zero yields one. -/
def top : α :=
  1 / 0

/-- The distance from 1 to the next larger value with 53 binary digits. -/
def epsilon : α :=
  1 / ((twoPow 52 : Nat) : α)

/-- The sum of the values, added from left to right.  The sum of no values is the zero that is
neutral also for signed zeros. -/
def sum (values : List α) : α :=
  values.foldl (· + ·) (-0)

end Scalar

/-- The transcendental functions behind p-values and confidence intervals. -/
class Special (α : Type) where
  /-- The probability that a Student variable with the given degrees of freedom (second argument)
  is more than the first argument.  It is asked for only where the first is not negative and the
  second positive. -/
  upperTail : α → α → α
  /-- The inverse hyperbolic tangent. -/
  atanh : α → α
  /-- The hyperbolic tangent. -/
  tanh : α → α

/-- The probability that a Student variable with the given degrees of freedom lies at least as far
from 0 as `t`.  A statistic that is no number, and degrees of freedom that are not positive, carry
no evidence: the probability is 1. -/
def Special.twoSidedTail {α : Type} [Scalar α] [Special α] (t degrees : α) : α :=
  if Scalar.nonFinite? t = some .nan then 1
  else if 0 < degrees then
    Scalar.clamp (((2 : Nat) : α) * upperTail (Scalar.abs t) degrees) 0 1
  else 1

end InterRater
