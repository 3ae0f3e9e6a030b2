import InterRater.Text.CharSet

/-!
# Sets of characters as sequences of byte ranges

In UTF-8 a character is a sequence of up to four bytes: the first tells the length, each further
one carries six bits.  The characters of a run are those whose bytes lie in one of a few sequences
of ranges of bytes.
-/

namespace InterRater

/-- A range of bytes, by the least and the greatest. -/
abbrev ByteRange := Nat × Nat

namespace ByteRange

/-- The sequences of ranges of digits to the base 64 that numbers of `count + 1` digits from
`first` to `last` have, in ascending order.  The first digit may be larger. -/
def digits : (count : Nat) → (first last : Nat) → List (List ByteRange)
  | 0, first, last => [[(first, last)]]
  | count + 1, first, last =>
    let unit := 64 <<< (6 * count)
    let low := first / unit
    let high := last / unit
    let within (digit first last : Nat) : List (List ByteRange) :=
      (digits count first last).map ((digit, digit) :: ·)
    if low = high then within low (first % unit) (last % unit)
    else
      let startsWhole := first % unit = 0
      let endsWhole := last % unit = unit - 1
      let start := if startsWhole then [] else within low (first % unit) (unit - 1)
      let stop := if endsWhole then [] else within high 0 (last % unit)
      let low := if startsWhole then low else low + 1
      let high := if endsWhole then high + 1 else high
      let whole := if low < high then
          [(low, high - 1) :: List.replicate (count + 1) (0, 63)] else []
      start ++ whole ++ stop

/-- The byte ranges of the digits of a character: the first byte has the mark `lead`, the others
that of a continuation. -/
def mark (lead : Nat) : List ByteRange → List ByteRange
  | [] => []
  | (first, last) :: rest =>
    (lead + first, lead + last) :: rest.map fun (first, last) => (0x80 + first, 0x80 + last)

/-- The lengths of a character in bytes, less one: with the mark of the first byte, and the first
and the last code point of that length. -/
def lengths : List (Nat × Nat × Nat × Nat) :=
  [(0, 0, 0, 0x7f), (1, 0xc0, 0x80, 0x7ff), (2, 0xe0, 0x800, 0xffff), (3, 0xf0, 0x10000, 0x10ffff)]

/-- The sequences of byte ranges of the characters from `first` to `last`. -/
def ofRun (first last : Nat) : List (List ByteRange) :=
  lengths.flatMap fun (count, lead, least, greatest) =>
    let first := max first least
    let last := min last greatest
    if first ≤ last then (digits count first last).map (mark lead) else []

end ByteRange

namespace CharSet

/-- The sequences of byte ranges of the members of the set, in ascending order. -/
def byteRanges (s : CharSet) : List (List ByteRange) :=
  s.runs.flatMap fun (first, last) => ByteRange.ofRun first last

end CharSet

end InterRater
