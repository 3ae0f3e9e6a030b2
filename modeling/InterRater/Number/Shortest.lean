import InterRater.Number.Numeral

/-!
# The shortest decimal of a number

`Binary64.shortest` gives the decimal with the fewest digits that reads back as the same value,
and of those the one nearest to it.  `NumberLayout` says which of two equally near ones is taken
and how the digits are laid out; three layouts are in use, one record each.
-/

namespace InterRater

/-- A positive decimal, `digits * 10 ^ power`. -/
structure Decimal where
  digits : Nat
  power : Int
  deriving DecidableEq, Repr

namespace Decimal

/-- The decimal without the zeros at its end, at most `fuel` of them. -/
def trim : (fuel : Nat) → Decimal → Decimal
  | 0, d => d
  | fuel + 1, d => if d.digits % 10 = 0 then trim fuel ⟨d.digits / 10, d.power + 1⟩ else d

/-- The digits as characters. -/
def chars (d : Decimal) : List Char :=
  Nat.toDigits 10 d.digits

/-- The power of ten of the first digit. -/
def leading (d : Decimal) : Int :=
  d.chars.length + d.power - 1

end Decimal

/-- Which one of two equally near decimals is taken. -/
inductive Tie where
  /-- The larger one. -/
  | up
  /-- The one whose last digit is even. -/
  | toEven
  deriving DecidableEq, Repr

namespace Binary64

/-- The magnitude of a finite value as a ratio of natural numbers. -/
def ratio (x : Binary64) : Nat × Nat :=
  if x.exponent < 0 then (x.significand, twoPow x.exponent.natAbs)
  else (x.significand * twoPow x.exponent.natAbs, 1)

/-- The power of ten of the first digit of the positive ratio `num / den`. -/
def leadingPower (num den : Nat) : Int :=
  if den ≤ num then (digitCount (num / den) : Int) - 1
  else
    let d := digitCount (den / num)
    if num * tenPow (d - 1) = den then 1 - (d : Int) else -(d : Int)

/-- Whether the decimal reads back as the magnitude of `x`. -/
def readsAs (x : Binary64) (d : Decimal) : Bool :=
  ofDecimal false d.digits d.power == abs x

/-- The two decimals with last digit at `power` between which the ratio `num / den` lies, the
nearer one first. -/
def neighbours (tie : Tie) (num den : Nat) (power : Int) : Decimal × Decimal :=
  let n := if power < 0 then num * tenPow power.natAbs else num
  let d := if power < 0 then den else den * tenPow power.natAbs
  let low : Decimal := ⟨n / d, power⟩
  let high : Decimal := ⟨n / d + 1, power⟩
  let lowFirst := 2 * (n % d) < d || 2 * (n % d) = d && tie = .toEven && low.digits % 2 = 0
  if lowFirst then (low, high) else (high, low)

/-- The first decimal that reads back as `x` among those with `count`, `count + 1`, … digits;
after `fuel` attempts the nearest one is taken. -/
def shortestFrom (tie : Tie) (x : Binary64) (leading : Int) :
    (fuel : Nat) → (count : Nat) → Decimal
  | fuel, count =>
    let (nearer, farther) := neighbours tie x.ratio.1 x.ratio.2 (leading - count + 1)
    match fuel with
    | 0 => nearer
    | fuel + 1 =>
      if x.readsAs nearer then nearer
      else if x.readsAs farther then farther
      else shortestFrom tie x leading fuel (count + 1)

/-- The shortest decimal that reads back as the magnitude of the finite value `x`. -/
def shortest (tie : Tie) (x : Binary64) : Decimal :=
  if x.significand = 0 then ⟨0, 0⟩
  else (shortestFrom tie x (leadingPower x.ratio.1 x.ratio.2) 16 1).trim 17

end Binary64

/-- The layout of a number in a text. -/
structure NumberLayout where
  /-- Which one of two equally near decimals is written. -/
  tie : Tie
  /-- The powers of ten of the first digit for which the number is written without exponent; all
  of them if there is no range. -/
  positional : Option (Int × Int)
  /-- Whether an integer is followed by `.0`. -/
  showsPoint : Bool
  /-- Whether a positive exponent has a sign. -/
  showsPlus : Bool

namespace NumberLayout

/-- Numbers in messages are always written in full. -/
def message : NumberLayout :=
  ⟨.up, none, false, false⟩

/-- Numbers in JSON text have a point or an exponent, so that they are told from integers. -/
def json : NumberLayout :=
  ⟨.toEven, some (-5, 15), true, true⟩

/-- Numbers in log fields that show a value as it would be written in a program. -/
def literal : NumberLayout :=
  ⟨.up, some (-4, 15), true, false⟩

def zeros (n : Nat) : List Char :=
  List.replicate n '0'

/-- The digits around a point, without exponent. -/
def full (layout : NumberLayout) (d : Decimal) : List Char :=
  let digits := d.chars
  let whole := d.leading + 1
  let ending := if layout.showsPoint then ['.', '0'] else []
  if whole ≤ 0 then '0' :: '.' :: zeros whole.natAbs ++ digits
  else if digits.length ≤ whole.natAbs then digits ++ zeros (whole.natAbs - digits.length) ++ ending
  else digits.take whole.natAbs ++ '.' :: digits.drop whole.natAbs

/-- The first digit, the others after a point, and an exponent. -/
def scientific (layout : NumberLayout) (d : Decimal) : List Char :=
  let fraction := d.chars.drop 1
  let sign := if d.leading < 0 then ['-'] else if layout.showsPlus then ['+'] else []
  d.chars.take 1 ++ (if fraction.isEmpty then [] else '.' :: fraction) ++
    'e' :: sign ++ Nat.toDigits 10 d.leading.natAbs

/-- The text of a decimal. -/
def decimal (layout : NumberLayout) (d : Decimal) : List Char :=
  match layout.positional with
  | none => layout.full d
  | some (least, greatest) =>
    if least ≤ d.leading && d.leading ≤ greatest then layout.full d else layout.scientific d

/-- The text of a number. -/
def text (layout : NumberLayout) (x : Binary64) : String :=
  match x.nonFinite? with
  | some kind => kind.text
  | none =>
    let sign := if x.negative then ['-'] else []
    String.ofList (sign ++ layout.decimal (x.shortest layout.tie))

end NumberLayout

end InterRater
