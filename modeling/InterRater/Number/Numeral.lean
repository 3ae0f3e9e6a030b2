import InterRater.Number.Binary64
import InterRater.Number.Digits

/-!
# Reading numerals

The numerals of a table cell: an optional sign, then digits with an optional point among or
around them and an optional power of ten, or one of the names `inf`, `infinity` and `nan` in any
case.  The value is the one nearest to the decimal written.
-/

namespace InterRater

/-- The sign in front of a numeral, and what follows it. -/
def splitSign : List Char → Bool × List Char
  | '-' :: rest => (true, rest)
  | '+' :: rest => (false, rest)
  | rest => (false, rest)

namespace Numeral

/-- The power of ten at the end of a numeral, 0 if nothing is there. -/
def power? : List Char → Option Int
  | [] => some 0
  | c :: rest =>
    if c = 'e' || c = 'E' then
      let (negative, digits) := splitSign rest
      if digits.isEmpty || !digits.all isDigit then none
      else some (if negative then -(digitsValue digits : Int) else digitsValue digits)
    else none

/-- The digits after the point of a numeral, and what follows them. -/
def splitFraction : List Char → List Char × List Char
  | '.' :: rest => rest.span isDigit
  | rest => ([], rest)

/-- The value of a numeral without sign that is written in digits. -/
def unsigned? (negative : Bool) (text : List Char) : Option Binary64 :=
  let (whole, rest) := text.span isDigit
  let (fraction, rest) := splitFraction rest
  if whole.isEmpty && fraction.isEmpty then none
  else do
    let power ← power? rest
    return Binary64.ofDecimal negative (digitsValue (whole ++ fraction)) (power - fraction.length)

/-- The value of one of the names, in small letters. -/
def named? (negative : Bool) (name : List Char) : Option Binary64 :=
  if name = "inf".toList || name = "infinity".toList then some (Binary64.infinity negative)
  else if name = "nan".toList then some (Binary64.nan negative)
  else none

/-- The value of a numeral, `none` for any other text. -/
def read? (text : List Char) : Option Binary64 :=
  let (negative, rest) := splitSign text
  (unsigned? negative rest).orElse fun _ => named? negative (rest.map Char.toLower)

end Numeral

end InterRater
