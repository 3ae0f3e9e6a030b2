import InterRater.Number.Numeral

/-!
# Numbers in JSON text

A number is an integer of 64 bits, or a binary number.  The digits of a binary number are taken
into an integer of 64 bits as far as they fit into it; the integer is rounded and is scaled by a
power of ten, which takes further roundings.  The `value` is near the number written, but not
always the `nearest` one.
-/

namespace InterRater

/-- A number as it is written: its sign, the digits before and behind the point, and the power of
ten, if there is one. -/
structure JsonNumeral where
  negative : Bool
  whole : List Char
  fraction : List Char
  power : Option Int

namespace JsonNumeral

/-! ### The written form -/

/-- The digits before the point, of which there is one, and no zero in front of others. -/
def readWhole (text : List Char) : Option (List Char × List Char) :=
  match text.span isDigit with
  | ([], _) => none
  | ('0' :: _ :: _, _) => none
  | parts => some parts

/-- The digits after a point, of which there is one. -/
def readFraction : List Char → Option (List Char × List Char)
  | '.' :: rest =>
    match rest.span isDigit with
    | ([], _) => none
    | parts => some parts
  | rest => some ([], rest)

/-- The power of ten after an `e`. -/
def readPower : List Char → Option (Option Int × List Char)
  | [] => some (none, [])
  | c :: rest =>
    if c = 'e' || c = 'E' then
      let (negative, rest) := splitSign rest
      match rest.span isDigit with
      | ([], _) => none
      | (digits, rest) =>
        let power : Int := digitsValue digits
        some (some (if negative then -power else power), rest)
    else some (none, c :: rest)

/-- The number at the start of a text, and the text behind it. -/
def read? (text : List Char) : Option (JsonNumeral × List Char) := do
  let (negative, text) := match text with
    | '-' :: rest => (true, rest)
    | _ => (false, text)
  let (whole, rest) ← readWhole text
  let (fraction, rest) ← readFraction rest
  let (power, rest) ← readPower rest
  return (⟨negative, whole, fraction, power⟩, rest)

/-! ### The value -/

/-- The integer of 64 bits, with or without a sign, that is written without point and power.  A
negative zero is no integer. -/
def integer? (numeral : JsonNumeral) : Option Int :=
  let n : Int := digitsValue numeral.whole
  let n := if numeral.negative then -n else n
  if !numeral.fraction.isEmpty || numeral.power.isSome || numeral.negative && n = 0 then none
  else if Int64.minValue.toInt ≤ n && n < UInt64.size then some n
  else none

/-- Takes digits into the number `n` up to the first one with which it would not be below two to
the power of 64: the number, and the digits that are left. -/
def takeDigits (n : Nat) : List Char → Nat × List Char
  | [] => (n, [])
  | c :: rest =>
    let next := 10 * n + digitsValue [c]
    if next < UInt64.size then takeDigits next rest else (n, c :: rest)

/-- The digits that are taken, as a number, and the power of ten that goes with it.  The digits
left before the point count as zeros, those behind it are dropped. -/
def taken (numeral : JsonNumeral) : Nat × Int :=
  let (n, left) := takeDigits 0 numeral.whole
  let (n, dropped) := takeDigits n numeral.fraction
  (n, left.length - (numeral.fraction.length - dropped.length : Nat) + numeral.power.getD 0)

/-- A power of ten. -/
def tens (n : Nat) : Binary64 :=
  Binary64.ofNat (tenPow n)

/-- The positive number `n` times ten to the given power.  The largest power of ten there is has
308 zeros; a smaller number is divided twice. -/
def scaled (n : Nat) (power : Int) : Binary64 :=
  let x := Binary64.ofNat n
  if 308 < power then .infinity false
  else if 0 ≤ power then x.mul (tens power.natAbs)
  else if -308 ≤ power then x.div (tens power.natAbs)
  else if -616 ≤ power then (x.div (tens 308)).div (tens (power.natAbs - 308))
  else .ofNat 0

/-- The binary number that is read, which is infinite if the one written is too large. -/
def value (numeral : JsonNumeral) : Binary64 :=
  let (n, power) := numeral.taken
  let x := if n = 0 then .ofNat 0 else scaled n power
  if numeral.negative then x.neg else x

/-- The value nearest to the number that is written. -/
def nearest (numeral : JsonNumeral) : Binary64 :=
  .ofDecimal numeral.negative (digitsValue (numeral.whole ++ numeral.fraction))
    (numeral.power.getD 0 - numeral.fraction.length)

end JsonNumeral

end InterRater
