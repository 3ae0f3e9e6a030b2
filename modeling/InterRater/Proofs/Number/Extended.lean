import InterRater.Proofs.Number.Student
import InterRater.Proofs.Statistics.Ranks
import Mathlib.Data.EReal.Inv

/-!
# Exact arithmetic with infinities

The extended real numbers as a `Scalar`: what the rounded numbers other than the NaNs stand for.
The two infinities can be compared and sorted like other values.  Sums and products of two of them
follow the conventions of `EReal`, but no statement is about these: on real numbers every operation
is the exact one (`foldl_add_coe`, `sum_coe`, `sqrt_coe`), and ranks are real numbers.

The hyperbolic tangent is continued to the infinities, where its inverse takes the values 1 and -1
(`Special.tanh_strictMono`, `Special.tanh_neg`, `Special.tanh_atanh`).
-/

namespace InterRater

namespace Scalar

noncomputable instance extended : Scalar EReal where
  zero := 0
  one := 1
  add := (· + ·)
  sub := (· - ·)
  mul := (· * ·)
  div := (· / ·)
  neg := (- ·)
  lt := (· < ·)
  le := (· ≤ ·)
  beq := (· == ·)
  natCast := (↑)
  intCast n := ((n : ℝ) : EReal)
  intSub := (· - ·)
  ofScientific m s e := ((OfScientific.ofScientific m s e : ℝ) : EReal)
  abs x := max x (-x)
  sqrt x := if x = ⊤ then ⊤ else (√x.toReal : ℝ)
  floor x := ⌊x.toReal⌋₊
  ceil x := ⌈x.toReal⌉₊
  precedes x y := decide (x ≤ y)
  nonFinite? x := if x = ⊤ then some .infinity else if x = ⊥ then some .negativeInfinity else none
  decidableLT := inferInstanceAs (DecidableLT EReal)
  decidableLE := inferInstanceAs (DecidableLE EReal)

theorem foldl_add_coe {β : Type*} (f : β → ℝ) (values : List β) (start : ℝ) :
    values.foldl (fun total v => total + (f v : EReal)) (start : EReal)
      = ((start + (values.map f).sum : ℝ) : EReal) := by
  induction values generalizing start with
  | nil => simp
  | cons v values ih =>
    rw [List.foldl_cons, ← EReal.coe_add, ih, List.map_cons, List.sum_cons, add_assoc]

theorem sum_coe (values : List ℝ) :
    Scalar.sum (values.map ((↑) : ℝ → EReal)) = (values.sum : ℝ) := by
  show (values.map ((↑) : ℝ → EReal)).foldl (· + ·) (-0) = _
  rw [List.foldl_map, neg_zero, ← EReal.coe_zero, foldl_add_coe fun v => v, List.map_id', zero_add]

theorem sqrt_coe (x : ℝ) : Scalar.sqrt (x : EReal) = (√x : ℝ) := by
  show (if (x : EReal) = ⊤ then ⊤ else ((√(x : EReal).toReal : ℝ) : EReal)) = _
  rw [if_neg (EReal.coe_ne_top x), EReal.toReal_coe]

theorem sqrt_natCast (n : ℕ) : Scalar.sqrt (n : EReal) = (√(n : ℝ) : ℝ) :=
  sqrt_coe n

/-- A value between the bounds is kept. -/
theorem clamp_of_mem {x low high : EReal} (h : x ∈ Set.Icc low high) :
    Scalar.clamp x low high = x :=
  (if_neg h.1.not_gt).trans (if_neg h.2.not_gt)

theorem nonFinite?_coe (x : ℝ) : Scalar.nonFinite? (x : EReal) = none := by
  show (if (x : EReal) = ⊤ then _ else if (x : EReal) = ⊥ then _ else none) = _
  rw [if_neg (EReal.coe_ne_top x), if_neg (EReal.coe_ne_bot x)]

/-- The numbers among the values are the real ones. -/
theorem isFinite_iff (x : EReal) : Scalar.isFinite x = true ↔ ∃ y : ℝ, x = y := by
  induction x with
  | bot => exact iff_of_false (by decide) (by simp)
  | coe y => exact iff_of_true (by rw [isFinite, nonFinite?_coe]; rfl) ⟨y, rfl⟩
  | top => exact iff_of_false (by decide) (by simp)

end Scalar

instance : Statistics.RankOrder EReal :=
  Statistics.rankOrder_of_linearOrder (fun _ _ => rfl) fun _ _ => rfl

noncomputable instance Special.extended : Special EReal where
  upperTail t degrees :=
    if t = ⊤ then 0 else (Student.upperTail t.toReal degrees.toReal : ℝ)
  atanh x := if x = 1 then ⊤ else if x = -1 then ⊥ else (Real.artanh x.toReal : ℝ)
  tanh x := if x = ⊤ then 1 else if x = ⊥ then -1 else (Real.tanh x.toReal : ℝ)

/-! ### The hyperbolic tangent

With the values 1 and -1 at the infinities it is an odd, strictly increasing map onto the interval
from -1 to 1, and `atanh` is its inverse. -/

namespace Special

theorem coe_neg_one : ((-1 : ℝ) : EReal) = -1 := by
  rw [EReal.coe_neg, EReal.coe_one]

theorem tanh_top : tanh (⊤ : EReal) = 1 :=
  if_pos rfl

theorem tanh_bot : tanh (⊥ : EReal) = -1 :=
  (if_neg bot_ne_top).trans (if_pos rfl)

theorem tanh_coe (x : ℝ) : tanh (x : EReal) = (Real.tanh x : ℝ) := by
  show (if (x : EReal) = ⊤ then 1 else if (x : EReal) = ⊥ then -1 else _) = _
  rw [if_neg (EReal.coe_ne_top x), if_neg (EReal.coe_ne_bot x), EReal.toReal_coe]

theorem strictMono_tanh_real : StrictMono Real.tanh := by
  intro x y hxy
  have hx := Real.tanh_bijOn.mapsTo (Set.mem_univ x)
  have hy := Real.tanh_bijOn.mapsTo (Set.mem_univ y)
  rwa [← Real.artanh_lt_artanh_iff hx hy, Real.artanh_tanh, Real.artanh_tanh]

theorem tanh_strictMono : StrictMono (tanh : EReal → EReal) := by
  -- The values at the infinities are the bounds that no real number reaches.
  have hlow : ∀ x : ℝ, (-1 : EReal) < (Real.tanh x : ℝ) := by
    intro x
    rw [← coe_neg_one]
    exact EReal.coe_lt_coe_iff.mpr (Real.neg_one_lt_tanh x)
  have hhigh : ∀ x : ℝ, ((Real.tanh x : ℝ) : EReal) < 1 := fun x =>
    EReal.coe_lt_coe_iff.mpr (Real.tanh_lt_one x)
  intro x y hxy
  induction x with
  | top => exact absurd hxy not_top_lt
  | bot =>
    rw [tanh_bot]
    induction y with
    | bot => exact absurd hxy (lt_irrefl _)
    | coe y => exact (hlow y).trans_eq (tanh_coe y).symm
    | top => exact ((hlow 0).trans (hhigh 0)).trans_eq tanh_top.symm
  | coe x =>
    rw [tanh_coe]
    induction y with
    | bot => exact absurd hxy not_lt_bot
    | coe y =>
      rw [tanh_coe]
      exact EReal.coe_lt_coe_iff.mpr (strictMono_tanh_real (EReal.coe_lt_coe_iff.mp hxy))
    | top => exact (hhigh x).trans_eq tanh_top.symm

theorem tanh_mem_Icc (x : EReal) : tanh x ∈ Set.Icc (-1) 1 :=
  ⟨tanh_bot.symm.trans_le (tanh_strictMono.monotone bot_le),
    (tanh_strictMono.monotone le_top).trans_eq tanh_top⟩

theorem tanh_neg (x : EReal) : tanh (-x) = -tanh x := by
  induction x with
  | bot => rw [EReal.neg_bot, tanh_top, tanh_bot, neg_neg]
  | coe x => rw [← EReal.coe_neg, tanh_coe, tanh_coe, Real.tanh_neg, EReal.coe_neg]
  | top => rw [EReal.neg_top, tanh_bot, tanh_top]

theorem tanh_atanh {x : EReal} (h : x ∈ Set.Icc (-1) 1) : tanh (atanh x) = x := by
  show tanh (if x = 1 then ⊤ else if x = -1 then ⊥ else ((Real.artanh x.toReal : ℝ) : EReal)) = x
  split_ifs with hone hneg
  · rw [tanh_top, hone]
  · rw [tanh_bot, hneg]
  · -- A value strictly between the bounds is a real number.
    have hlow : -1 < x := lt_of_le_of_ne h.1 (Ne.symm hneg)
    have hhigh : x < 1 := lt_of_le_of_ne h.2 hone
    rw [← coe_neg_one] at hlow
    lift x to ℝ using
      ⟨(hhigh.trans (EReal.coe_lt_top 1)).ne, ((EReal.bot_lt_coe (-1)).trans hlow).ne'⟩
    rw [EReal.toReal_coe, tanh_coe, Real.tanh_artanh]
    exact ⟨EReal.coe_lt_coe_iff.mp hlow, EReal.coe_lt_coe_iff.mp hhigh⟩

theorem coe_mem_Icc {x : ℝ} (h : x ∈ Set.Icc (-1) 1) : (x : EReal) ∈ Set.Icc (-1) 1 := by
  rw [← coe_neg_one, ← EReal.coe_one]
  exact ⟨EReal.coe_le_coe_iff.mpr h.1, EReal.coe_le_coe_iff.mpr h.2⟩

theorem neg_mem_Icc {x : EReal} (h : x ∈ Set.Icc (-1) 1) : -x ∈ Set.Icc (-1) 1 :=
  ⟨EReal.neg_le_neg_iff.mpr h.2, EReal.neg_le.mp h.1⟩

theorem atanh_neg {x : EReal} (h : x ∈ Set.Icc (-1) 1) : atanh (-x) = -atanh x := by
  apply tanh_strictMono.injective
  rw [tanh_neg, tanh_atanh h, tanh_atanh (neg_mem_Icc h)]

end Special

end InterRater
