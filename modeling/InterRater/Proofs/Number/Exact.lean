import InterRater.Number.Scalar
import Mathlib.Analysis.Real.Sqrt
import Mathlib.Tactic.Linarith
import Mathlib.Tactic.Positivity

/-!
# Exact arithmetic

The real numbers as a `Scalar`: every operation is the exact one, every value is a number, and
sorting follows `≤`.  A statistic on `ℝ` is thus the formula that its program stands for.

The lemmas rewrite the operations of `Scalar` on `ℝ` into those of Mathlib (`sum_eq`,
`larger_eq_max`, `clamp_eq`, …).  Whatever the tail of a distribution is, that of both sides does
not depend on the sign of the statistic (`Special.twoSidedTail_neg`).
-/

namespace InterRater

namespace Scalar

noncomputable instance exact : Scalar ℝ where
  zero := 0
  one := 1
  add := (· + ·)
  sub := (· - ·)
  mul := (· * ·)
  div := (· / ·)
  neg := (- ·)
  lt := (· < ·)
  le := (· ≤ ·)
  beq := (· == ·)
  natCast := (↑)
  intCast := (↑)
  intSub := (· - ·)
  ofScientific := OfScientific.ofScientific
  abs x := |x|
  sqrt x := √x
  floor x := ⌊x⌋₊
  ceil x := ⌈x⌉₊
  precedes x y := decide (x ≤ y)
  nonFinite? _ := none
  decidableLT := inferInstanceAs (DecidableLT ℝ)
  decidableLE := inferInstanceAs (DecidableLE ℝ)

@[simp]
theorem abs_eq (x : ℝ) : Scalar.abs x = |x| := rfl

@[simp]
theorem sqrt_eq (x : ℝ) : Scalar.sqrt x = √x := rfl

@[simp]
theorem floor_eq (x : ℝ) : Scalar.floor x = ⌊x⌋₊ := rfl

@[simp]
theorem ceil_eq (x : ℝ) : Scalar.ceil x = ⌈x⌉₊ := rfl

@[simp]
theorem precedes_eq (x y : ℝ) : Scalar.precedes x y = decide (x ≤ y) := rfl

@[simp]
theorem nonFinite?_eq (x : ℝ) : Scalar.nonFinite? x = none := rfl

@[simp]
theorem isFinite_eq (x : ℝ) : Scalar.isFinite x = true := rfl

@[simp]
theorem square_eq (x : ℝ) : Scalar.square x = x ^ 2 := (pow_two x).symm

@[simp]
theorem sum_eq (values : List ℝ) : Scalar.sum values = values.sum := by
  show values.foldl (· + ·) (-0) = values.sum
  rw [neg_zero, List.sum_eq_foldl]

@[simp]
theorem larger_eq_max (x y : ℝ) : Scalar.larger x y = max x y := by
  show (if x < y then y else if x == x then x else y) = max x y
  rcases lt_or_ge x y with h | h
  · rw [if_pos h, max_eq_right h.le]
  · rw [if_neg h.not_gt, if_pos (beq_self_eq_true x), max_eq_left h]

@[simp]
theorem smaller_eq_min (x y : ℝ) : Scalar.smaller x y = min x y := by
  show (if y < x then y else if x == x then x else y) = min x y
  rcases lt_or_ge y x with h | h
  · rw [if_pos h, min_eq_right h.le]
  · rw [if_neg h.not_gt, if_pos (beq_self_eq_true x), min_eq_left h]

theorem clamp_eq {x low high : ℝ} (h : low ≤ high) :
    Scalar.clamp x low high = max low (min x high) := by
  show (if x < low then low else if high < x then high else x) = max low (min x high)
  rcases lt_or_ge x low with hl | hl
  · rw [if_pos hl, min_eq_left (hl.le.trans h), max_eq_left hl.le]
  rw [if_neg hl.not_gt]
  rcases lt_or_ge high x with hh | hh
  · rw [if_pos hh, min_eq_right hh.le, max_eq_right h]
  · rw [if_neg hh.not_gt, min_eq_left hh, max_eq_right hl]

theorem epsilon_pos : (0 : ℝ) < Scalar.epsilon := by
  show (0 : ℝ) < 1 / ((twoPow 52 : ℕ) : ℝ)
  have : 0 < twoPow 52 := Nat.two_pow_pos 52
  positivity

/-- A sum accumulated from a start value on is the start value plus the sum. -/
theorem foldl_add_eq {β : Type*} (f : β → ℝ) (values : List β) (start : ℝ) :
    values.foldl (fun total v => total + f v) start = start + (values.map f).sum := by
  induction values generalizing start with
  | nil => simp
  | cons v values ih => rw [List.foldl_cons, ih, List.map_cons, List.sum_cons, add_assoc]

end Scalar

/-! ### Tails of distributions -/

namespace Special

/-- The two-sided tail depends on the magnitude of the statistic only, if it is no NaN. -/
theorem twoSidedTail_congr {α : Type} [Scalar α] [Special α] {t t' : α}
    (hnan : Scalar.nonFinite? t = some .nan ↔ Scalar.nonFinite? t' = some .nan)
    (habs : Scalar.abs t = Scalar.abs t') (degrees : α) :
    twoSidedTail t degrees = twoSidedTail t' degrees := by
  simp only [twoSidedTail, hnan, habs]

/-- The two-sided tail does not see the sign of the statistic. -/
theorem twoSidedTail_neg [Special ℝ] (t degrees : ℝ) :
    twoSidedTail (-t) degrees = twoSidedTail t degrees := by
  refine twoSidedTail_congr ?_ (abs_neg t) degrees
  rw [Scalar.nonFinite?_eq, Scalar.nonFinite?_eq]

end Special

end InterRater
