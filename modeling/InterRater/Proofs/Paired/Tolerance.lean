import InterRater.Paired.Comparison
import InterRater.Proofs.Number.Order

/-!
# The rounding tolerance in rounded arithmetic

The tolerance is `2⁻⁴⁹` of the largest score, or of 1, without an error
(`Comparison.toReal_roundingTolerance`).
-/

namespace InterRater

open Binary64

namespace PairedSeries

/-- The scores of both columns. -/
def scores {α : Type} [Scalar α] (series : PairedSeries α) : List α :=
  series.automated ++ series.human

/-- The largest absolute score, or 1 if that is less. -/
def largest {α : Type} [Scalar α] (series : PairedSeries α) : α :=
  series.scores.foldl (fun largest v => Scalar.larger largest (Scalar.abs v)) 1

theorem forall_mem_scores {α : Type} [Scalar α] {series : PairedSeries α} {P : α → Prop} :
    (∀ v ∈ series.scores, P v) ↔ ∀ s ∈ series.samples, P s.1 ∧ P s.2 := by
  simp only [scores, automated, human, List.forall_mem_append, List.forall_mem_map]
  constructor
  · exact fun h s hs => ⟨h.1 s hs, h.2 s hs⟩
  · exact fun h => ⟨fun s hs => (h s hs).1, fun s hs => (h s hs).2⟩

variable (series : PairedSeries Binary64)

theorem isFinite_of_mem_scores : ∀ v ∈ series.scores, v.isFinite = true :=
  forall_mem_scores.mpr fun s hs =>
    ⟨isFinite_of_nonFinite? (series.finite s hs).1, isFinite_of_nonFinite? (series.finite s hs).2⟩

theorem unsigned_abs {v : Binary64} (h : v.isFinite = true) : (Binary64.abs v).Unsigned :=
  ⟨not_isNaN_of_isFinite ((isFinite_abs v).trans h), negative_abs v⟩

/-- The largest score is 1 or one of the absolute scores, and not below any of these. -/
theorem largest_spec : (∃ v ∈ ofNat 1 :: series.scores, series.largest = Binary64.abs v) ∧
    ∀ v ∈ ofNat 1 :: series.scores, |v.toReal| ≤ series.largest.toReal := by
  have hone : Binary64.abs (ofNat 1) = ofNat 1 := by decide +kernel
  set magnitudes := (ofNat 1 :: series.scores).map Binary64.abs with hmagnitudes
  have hlargest : series.largest = (series.scores.map Binary64.abs).foldl Scalar.larger (ofNat 1) :=
    List.foldl_map.symm
  have hcons : ofNat 1 :: series.scores.map Binary64.abs = magnitudes := by
    rw [hmagnitudes, List.map_cons, hone]
  have hunsigned : ∀ w ∈ magnitudes, w.Unsigned := by
    refine List.forall_mem_map.mpr (List.forall_mem_cons.mpr ⟨?_, fun v hv => ?_⟩)
    · rw [hone]
      exact unsigned_ofNat 1
    · exact unsigned_abs (series.isFinite_of_mem_scores v hv)
  obtain ⟨hmem, hall⟩ := comparable_unsigned.foldl_larger (series.scores.map Binary64.abs) (ofNat 1)
    (by rwa [hcons])
  rw [hcons, ← hlargest] at hmem hall
  have hsign := hunsigned _ hmem
  refine ⟨?_, fun v hv => ?_⟩
  · obtain ⟨v, hv, heq⟩ := List.mem_map.mp hmem
    exact ⟨v, hv, heq.symm⟩
  · have hv' : Binary64.abs v ∈ magnitudes := List.mem_map_of_mem hv
    have hrank := precedes_iff.mp (hall _ hv')
    rw [(hunsigned _ hv').rank, hsign.rank, magnitude_abs] at hrank
    rw [abs_toReal, ← abs_of_nonneg (toReal_nonneg hsign.negative), abs_toReal, absValue_le_iff]
    exact_mod_cast hrank

theorem isFinite_largest : series.largest.isFinite = true := by
  obtain ⟨v, hv, heq⟩ := series.largest_spec.1
  rw [heq, isFinite_abs]
  rcases List.mem_cons.mp hv with rfl | hv
  · decide
  · exact series.isFinite_of_mem_scores v hv

theorem one_le_largest : 1 ≤ series.largest.toReal := by
  have hone := series.largest_spec.2 (ofNat 1) List.mem_cons_self
  rwa [(toReal_ofNat (n := 1) (by norm_num)).2, Nat.cast_one, abs_one] at hone

theorem abs_le_largest {v : Binary64} (hv : v ∈ series.scores) :
    |v.toReal| ≤ series.largest.toReal :=
  series.largest_spec.2 v (List.mem_cons_of_mem _ hv)

end PairedSeries

namespace Comparison

/-- **The tolerance** is a fixed part of the largest score, without an error. -/
theorem toReal_roundingTolerance (series : PairedSeries Binary64) :
    (roundingTolerance series).isFinite = true ∧
      (roundingTolerance series).toReal = 2 ^ (-49 : ℤ) * series.largest.toReal := by
  set factor := mul (ofNat 8) (Scalar.epsilon : Binary64) with hfactor
  have hfinite : factor.isFinite = true := by decide +kernel
  have hvalue : factor.toReal = 2 ^ (-49 : ℤ) := by
    have hdigits : factor.signedSignificand = 2 ^ 52 ∧ factor.exponent = -101 := by decide +kernel
    rw [toReal_eq, hdigits.1, hdigits.2]
    norm_num
  have hone := series.one_le_largest
  have hplace := exponent_ge_of_one_le (hone.trans (le_abs_self _))
  have hplace' := exponent_le series.isFinite_largest
  have hproduct : factor.toReal * series.largest.toReal
      = series.largest.signedSignificand * 2 ^ (series.largest.exponent - 49) := by
    rw [hvalue, toReal_eq series.largest, mul_left_comm, ← zpow_add₀ two_ne_zero]
    congr 2
    omega
  have hround := rounds_mul hfinite series.isFinite_largest
  rw [hproduct] at hround
  have hfinite := hround.isFinite_of_digits series.largest.abs_signedSignificand_le (by omega)
  refine ⟨hfinite, ?_⟩
  rw [← hvalue, hproduct]
  exact hround.toReal_eq hfinite series.largest.abs_signedSignificand_le (by omega) rfl

section Size

variable {series : PairedSeries Binary64} {x : Binary64}

theorem abs_le_roundingTolerance_iff (hx : x.isFinite = true) :
    Scalar.abs x ≤ roundingTolerance series ↔ |x.toReal| ≤ (roundingTolerance series).toReal := by
  rw [← toReal_abs]
  exact le_iff_toReal ((isFinite_abs x).trans hx) (toReal_roundingTolerance series).1

theorem roundingTolerance_lt_abs_iff (hx : x.isFinite = true) :
    roundingTolerance series < Scalar.abs x ↔ (roundingTolerance series).toReal < |x.toReal| := by
  rw [← toReal_abs]
  exact lt_iff_toReal (toReal_roundingTolerance series).1 ((isFinite_abs x).trans hx)

end Size

end Comparison

end InterRater
