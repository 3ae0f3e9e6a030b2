import InterRater.Number.Binary64
import InterRater.Number.ErrorFunction

/-!
# The tail of the Student distribution

The tail probability of a Student variable is half a regularized incomplete beta function,
computed here from the logarithm of the gamma function (a Lanczos sum) and a continued fraction.
With infinitely many degrees of freedom the variable is normal, and its tail is that of the error
function.

The functions of this module are computed by the machine: they are approximations, good to more
digits than are reported.
-/

namespace InterRater

namespace Tail

/-! ### The gamma function -/

/-- The coefficients of the Lanczos sum for `shift`, the first of which stands alone. -/
def lanczosFirst : Float := 2.48574089138753565546e-5

def lanczosRest : List Float :=
  [1.05142378581721974210, -3.45687097222016235469, 4.51227709466894823700,
    -2.98285225323576655721, 1.05639711577126713077, -1.95428773191645869583e-1,
    1.70970543404441224307e-2, -5.71926117404305781283e-4, 4.63399473359905636708e-6,
    -2.71994908488607703910e-9]

def shift : Float := 10.900511

def euler : Float := 2.718281828459045

def pi : Float := 3.141592653589793

/-- The logarithm of `2 * sqrt (e / pi)`. -/
def logTwoSqrtEOverPi : Float := 0.6207822376352452223455

def logPi : Float := 1.1447298858494001741

/-- The Lanczos sum whose denominators are `denominator 1`, `denominator 2`, …. -/
def lanczos (denominator : Float → Float) : Float :=
  (lanczosRest.foldl (fun (s, i) c => (s + c / denominator i, i + 1)) (lanczosFirst, 1)).1

/-- The logarithm of the gamma function. -/
def logGamma (x : Float) : Float :=
  if x < 0.5 then
    let s := lanczos fun i => i - x
    logPi - (pi * x).sin.log - s.log - logTwoSqrtEOverPi -
      (0.5 - x) * ((0.5 - x + shift) / euler).log
  else
    let s := lanczos fun i => x + i - 1
    s.log + logTwoSqrtEOverPi + (x - 0.5) * ((x - 0.5 + shift) / euler).log

/-! ### The incomplete beta function -/

/-- The relative change at which a continued fraction has converged. -/
def precision : Float := 1.1102230246251565e-16

/-- The least magnitude a term of a continued fraction may have. -/
def least : Float := 2.2250738585072014e-308 / precision

def atLeast (x : Float) : Float :=
  if x.abs < least then least else x

/-- The continued fraction of the incomplete beta function from its term `m` on. -/
def betaFraction (a b x : Float) : (fuel : Nat) → (m c d h : Float) → Float
  | 0, _, _, _, h => h
  | fuel + 1, m, c, d, h =>
    let sum := a + b
    let even := m * (b - m) * x / ((a - 1 + 2 * m) * (a + 2 * m))
    let d := 1 / atLeast (1 + even * d)
    let c := atLeast (1 + even / c)
    let h := h * d * c
    let odd := -(a + m) * (sum + m) * x / ((a + 2 * m) * (a + 1 + 2 * m))
    let d := 1 / atLeast (1 + odd * d)
    let c := atLeast (1 + odd / c)
    let change := d * c
    let h := h * change
    if (change - 1).abs ≤ precision then h else betaFraction a b x fuel (m + 1) c d h

/-- Whether the value is 1 up to the rounding of its last places. -/
def nearOne (x : Float) : Bool :=
  (x - 1).abs ≤ 2.3e-16 ||
    (Binary64.ofFloat x).magnitude + 4 ≥ (Binary64.ofNat 1).magnitude &&
      (Binary64.ofFloat x).magnitude ≤ (Binary64.ofNat 1).magnitude + 4

/-- The regularized incomplete beta function. -/
def regularizedBeta (a b x : Float) : Float :=
  let front :=
    if x == 0 || nearOne x then 0
    else (logGamma (a + b) - logGamma a - logGamma b + a * x.log + b * (1 - x).log).exp
  let fraction (a b x : Float) : Float :=
    let d := 1 / atLeast (1 - (a + b) * x / (a + 1))
    betaFraction a b x 140 1 1 d d
  if x ≥ (a + 1) / (a + b + 2) then 1 - front * fraction b a (1 - x) / b
  else front * fraction a b x / a

/-! ### The tail -/

/-- The probability that a Student variable with `degrees` degrees of freedom is more than `t`,
which is not negative. -/
def upper (t degrees : Float) : Float :=
  if degrees.isInf then 0.5 * ErrorFunction.complementary (t / (2 : Float).sqrt)
  else
    let beta := 0.5 * regularizedBeta (degrees / 2) 0.5 (degrees / (degrees + t * t))
    if t ≤ 0 then 1 - beta else beta

end Tail

instance : Special Binary64 where
  upperTail t degrees := Binary64.ofFloat (Tail.upper t.toFloat degrees.toFloat)
  atanh x := Binary64.ofFloat x.toFloat.atanh
  tanh x := Binary64.ofFloat x.toFloat.tanh

end InterRater
