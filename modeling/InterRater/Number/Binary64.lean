import InterRater.Number.Scalar

/-!
# Binary floating-point numbers of 64 bits

A `Binary64` is a pattern of 64 bits: a sign, eleven bits of exponent and 52 bits of fraction.
All patterns are values, so the two signs of a NaN are distinct; they stand at the two ends of
the order in which values are sorted.

An operation on numbers is the exact operation on the rational numbers the patterns stand for,
followed by one rounding, `ofRatio`: to the nearest value, of two equally near ones to the one
with an even fraction.
-/

namespace InterRater

/-- A binary floating-point number of 64 bits. -/
structure Binary64 where
  bits : UInt64
  deriving DecidableEq, Repr

namespace Binary64

/-! ### The parts of a pattern -/

/-- The bits below the sign, as a number.  They order the values of one sign. -/
def magnitude (x : Binary64) : Nat :=
  x.bits.toNat % twoPow 63

/-- Whether the sign bit is set. -/
def negative (x : Binary64) : Bool :=
  twoPow 63 ≤ x.bits.toNat

/-- The magnitude of the infinities; larger ones belong to the NaNs. -/
def infiniteMagnitude : Nat :=
  2047 * twoPow 52

def isNaN (x : Binary64) : Bool :=
  infiniteMagnitude < x.magnitude

def isInfinite (x : Binary64) : Bool :=
  x.magnitude == infiniteMagnitude

def isFinite (x : Binary64) : Bool :=
  x.magnitude < infiniteMagnitude

/-- The pattern of a sign and a magnitude. -/
def ofParts (negative : Bool) (magnitude : Nat) : Binary64 :=
  ⟨UInt64.ofNat (magnitude + if negative then twoPow 63 else 0)⟩

/-- The significand of a finite value: its magnitude is `significand * 2 ^ exponent`. -/
def significand (x : Binary64) : Nat :=
  x.magnitude % twoPow 52 + if x.magnitude < twoPow 52 then 0 else twoPow 52

/-- The power of two that goes with `significand`. -/
def exponent (x : Binary64) : Int :=
  (max (x.magnitude / twoPow 52) 1 : Nat) - 1075

/-- The significand with its sign. -/
def signedSignificand (x : Binary64) : Int :=
  if x.negative then -x.significand else x.significand

def infinity (negative : Bool) : Binary64 :=
  ofParts negative infiniteMagnitude

def nan (negative : Bool) : Binary64 :=
  ofParts negative (infiniteMagnitude + twoPow 51)

/-- The result of an operation that has no value. -/
def invalid : Binary64 :=
  nan true

/-! ### Rounding -/

/-- The quotient of two natural numbers, rounded to the nearest one and a half to the even one. -/
def roundDiv (num den : Nat) : Nat :=
  let q := num / den
  let r := num % den
  if 2 * r < den then q
  else if den < 2 * r then q + 1
  else q + q % 2

/-- The quotient `num / (den * 2 ^ e)`, rounded as by `roundDiv`. -/
def roundScaled (num den : Nat) (e : Int) : Nat :=
  if e < 0 then roundDiv (num * twoPow e.natAbs) den else roundDiv num (den * twoPow e.natAbs)

/-- Whether `num / den` is less than `2 ^ e`. -/
def ratioBelow (num den : Nat) (e : Int) : Bool :=
  if e < 0 then num * twoPow e.natAbs < den else num < den * twoPow e.natAbs

/-- The power of two of the last place kept when the positive ratio `num / den` is rounded: the
ratio has 53 binary digits above it, or it is the least power there is. -/
def lastPlace (num den : Nat) : Int :=
  let e : Int := num.log2 - den.log2
  max ((if ratioBelow num den e then e - 1 else e) - 52) (-1074)

/-- The magnitude of the value nearest to `num / den`.  Consecutive magnitudes belong to
consecutive values, so a carry into the exponent needs no care. -/
def nearestMagnitude (num den : Nat) : Nat :=
  if num = 0 then 0
  else
    let e := lastPlace num den
    min ((e + 1074).toNat * twoPow 52 + roundScaled num den e) infiniteMagnitude

/-- The value nearest to the ratio `num / den`, with the given sign. -/
def ofRatio (negative : Bool) (num den : Nat) : Binary64 :=
  ofParts negative (nearestMagnitude num den)

/-- The value nearest to `m * 2 ^ e`. -/
def ofScaled (negative : Bool) (m : Nat) (e : Int) : Binary64 :=
  if e < 0 then ofRatio negative m (twoPow e.natAbs) else ofRatio negative (m * twoPow e.natAbs) 1

/-- The value nearest to an integer. -/
def ofInt (n : Int) : Binary64 :=
  ofRatio (n < 0) n.natAbs 1

/-- The value nearest to a natural number. -/
def ofNat (n : Nat) : Binary64 :=
  ofRatio false n 1

/-! ### Order -/

/-- The place of a value that is no NaN among the values; the two zeros share theirs. -/
def place (x : Binary64) : Int :=
  if x.negative then -x.magnitude else x.magnitude

/-- The place of a pattern in the order of all patterns: NaNs at the ends, and the negative zero
just before the positive one. -/
def rank (x : Binary64) : Int :=
  if x.negative then -x.magnitude - 1 else x.magnitude

def lt (x y : Binary64) : Bool :=
  !x.isNaN && !y.isNaN && x.place < y.place

def le (x y : Binary64) : Bool :=
  !x.isNaN && !y.isNaN && x.place ≤ y.place

def beq (x y : Binary64) : Bool :=
  !x.isNaN && !y.isNaN && x.place == y.place

/-! ### Operations

A NaN among the operands is the result. -/

def neg (x : Binary64) : Binary64 :=
  ofParts (!x.negative) x.magnitude

def abs (x : Binary64) : Binary64 :=
  ofParts false x.magnitude

/-- The sum of two finite values.  A sum of zero is negative only if both operands are. -/
def addFinite (x y : Binary64) : Binary64 :=
  let e := min x.exponent y.exponent
  let m := x.signedSignificand * twoPow (x.exponent - e).toNat +
    y.signedSignificand * twoPow (y.exponent - e).toNat
  if m = 0 then ofParts (x.negative && y.negative) 0
  else ofScaled (m < 0) m.natAbs e

def add (x y : Binary64) : Binary64 :=
  if x.isNaN then x
  else if y.isNaN then y
  else if x.isInfinite then
    if y.isInfinite && x.negative != y.negative then invalid else x
  else if y.isInfinite then y
  else addFinite x y

def sub (x y : Binary64) : Binary64 :=
  if x.isNaN then x
  else if y.isNaN then y
  else add x (neg y)

def mul (x y : Binary64) : Binary64 :=
  let negative := x.negative != y.negative
  if x.isNaN then x
  else if y.isNaN then y
  else if x.isInfinite then
    if y.magnitude = 0 then invalid else infinity negative
  else if y.isInfinite then
    if x.magnitude = 0 then invalid else infinity negative
  else ofScaled negative (x.significand * y.significand) (x.exponent + y.exponent)

/-- The quotient of two finite values, the second of which is not zero. -/
def divFinite (negative : Bool) (x y : Binary64) : Binary64 :=
  let e := x.exponent - y.exponent
  if e < 0 then ofRatio negative x.significand (y.significand * twoPow e.natAbs)
  else ofRatio negative (x.significand * twoPow e.natAbs) y.significand

def div (x y : Binary64) : Binary64 :=
  let negative := x.negative != y.negative
  if x.isNaN then x
  else if y.isNaN then y
  else if x.isInfinite then
    if y.isInfinite then invalid else infinity negative
  else if y.isInfinite then ofParts negative 0
  else if y.magnitude = 0 then
    if x.magnitude = 0 then invalid else infinity negative
  else divFinite negative x y

/-- The integer square root of a number below `4 ^ digits`. -/
def isqrt : (digits : Nat) → Nat → Nat
  | 0, _ => 0
  | digits + 1, n =>
    let s := 2 * isqrt digits (n / 4)
    if (s + 1) * (s + 1) ≤ n then s + 1 else s

/-- The square root of a positive finite value.  The integer root of the scaled significand has
more digits than are kept, and one further digit tells whether it is exact. -/
def sqrtFinite (x : Binary64) : Binary64 :=
  let odd := (x.exponent % 2).toNat
  let n := x.significand * twoPow (odd + 110)
  let s := isqrt 82 n
  ofScaled false (2 * s + if s * s = n then 0 else 1) ((x.exponent - odd - 110) / 2 - 1)

def sqrt (x : Binary64) : Binary64 :=
  if x.isNaN then x
  else if x.magnitude = 0 then x
  else if x.negative then invalid
  else if x.isInfinite then x
  else sqrtFinite x

/-! ### Integers -/

/-- The integer a finite value is equal to, if there is one. -/
def toInt? (x : Binary64) : Option Int :=
  if !x.isFinite then none
  else if 0 ≤ x.exponent then some (x.signedSignificand * twoPow x.exponent.natAbs)
  else
    let d := twoPow x.exponent.natAbs
    if x.significand % d = 0 then
      some (if x.negative then -(x.significand / d : Nat) else (x.significand / d : Nat))
    else none

/-- The largest natural number that is at most the value. -/
def floor (x : Binary64) : Nat :=
  if !x.isFinite || x.negative then 0
  else if 0 ≤ x.exponent then x.significand * twoPow x.exponent.natAbs
  else x.significand / twoPow x.exponent.natAbs

/-- The smallest natural number that is at least the value. -/
def ceil (x : Binary64) : Nat :=
  if !x.isFinite || x.negative then 0
  else if 0 ≤ x.exponent then x.significand * twoPow x.exponent.natAbs
  else
    let d := twoPow x.exponent.natAbs
    (x.significand + d - 1) / d

/-- What the value stands for if it is no number. -/
def nonFinite? (x : Binary64) : Option NonFinite :=
  if x.isNaN then some .nan
  else if x.isInfinite then some (if x.negative then .negativeInfinity else .infinity)
  else none

/-! ### Integers -/

/-- The difference of two integers in words of 64 bits, which wraps around. -/
def wordSub (a b : Int) : Int :=
  (Int64.ofInt a - Int64.ofInt b).toInt

/-! ### Decimals -/

/-- The number of decimal digits of a positive number, and 1 for 0. -/
def digitCount (n : Nat) : Nat :=
  (Nat.toDigits 10 n).length

/-- The value nearest to `digits * 10 ^ power`.  Outside the powers that a finite value can have
the result is known without the division. -/
def ofDecimal (negative : Bool) (digits : Nat) (power : Int) : Binary64 :=
  if digits = 0 then ofParts negative 0
  else
    let scale := digitCount digits + power
    if 400 < scale then infinity negative
    else if scale < -400 then ofParts negative 0
    else if power < 0 then ofRatio negative digits (tenPow power.natAbs)
    else ofRatio negative (digits * tenPow power.natAbs) 1

instance : Scalar Binary64 where
  zero := ofParts false 0
  one := ofNat 1
  add := add
  sub := sub
  mul := mul
  div := div
  neg := neg
  lt x y := lt x y
  le x y := le x y
  beq := beq
  natCast := ofNat
  intCast := ofInt
  intSub := wordSub
  ofScientific digits below power := ofDecimal false digits (if below then -power else power)
  abs := abs
  sqrt := sqrt
  floor := floor
  ceil := ceil
  precedes x y := x.rank ≤ y.rank
  nonFinite? := nonFinite?
  decidableLT _ _ := inferInstanceAs (Decidable (_ = true))
  decidableLE _ _ := inferInstanceAs (Decidable (_ = true))

/-! ### The machine's numbers

The functions of `Special` are computed by the machine. -/

def toFloat (x : Binary64) : Float :=
  Float.ofBits x.bits

def ofFloat (x : Float) : Binary64 :=
  if x.isNaN then invalid else ⟨x.toBits⟩

end Binary64

end InterRater
