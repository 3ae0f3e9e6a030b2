import InterRater.Number.Digits
import InterRater.Text.CharSet
import InterRater.Text.Split

/-!
# Sets written by distances

The tables of large sets give the distances between neighbouring boundaries, in hexadecimal digits
with a blank between them, over several lines.
-/

namespace InterRater

namespace CharSet

/-- The boundaries with the given distances, the first of which is that from `code`. -/
def boundariesFrom (code : Nat) : List Nat → List Nat
  | [] => []
  | distance :: rest => (code + distance) :: boundariesFrom (code + distance) rest

/-- The set whose boundaries have the distances written in the lines; the first one is the first
boundary. -/
def ofDistances (lines : List String) : CharSet :=
  ⟨boundariesFrom 0 (lines.flatMap fun line => (splitOn ' ' line.toList).filterMap hexValue?)⟩

end CharSet

end InterRater
