import InterRater.Proofs.Number.Exact
import InterRater.Proofs.Number.Rounding
import InterRater.Statistics.Moments
import Mathlib.Tactic.GCongr
import Mathlib.Tactic.NormNum

/-!
# The values next to a quantile

Both values that a percentile is interpolated from are in the list, in exact arithmetic for every
quantile (`ceil_quantilePlace_lt`), and in rounded arithmetic for the quartiles
(`ceil_quartilePlace_lt`).  For a quantile of 1 and a list too long for its length to be a value,
rounding could step over the end.

In exact arithmetic the place of a quantile rises with it (`monotone_quantilePlace`), and the
quantile that is as far from 1 as another is from 0 has its place as far from the end
(`quantilePlace_one_sub`).
-/

namespace InterRater

namespace Statistics

/-! ### Places in exact arithmetic -/

theorem quantilePlace_eq (length : ℕ) (quantile : ℝ) :
    quantilePlace length quantile = max 0 (min quantile 1) * (length - 1 : ℕ) := by
  unfold quantilePlace
  rw [Scalar.clamp_eq zero_le_one]

theorem quantilePlace_mem_Icc (length : ℕ) (quantile : ℝ) :
    quantilePlace length quantile ∈ Set.Icc 0 ((length - 1 : ℕ) : ℝ) := by
  have hlast : (0 : ℝ) ≤ (length - 1 : ℕ) := Nat.cast_nonneg _
  rw [quantilePlace_eq]
  constructor
  · exact mul_nonneg (le_max_left _ _) hlast
  · exact mul_le_of_le_one_left hlast (max_le zero_le_one (min_le_right _ _))

theorem monotone_quantilePlace (length : ℕ) : Monotone (quantilePlace (α := ℝ) length) := by
  intro p q hpq
  rw [quantilePlace_eq, quantilePlace_eq]
  gcongr

/-- The nearest point of the unit interval turns over with the quantile. -/
theorem quantilePlace_one_sub (length : ℕ) (quantile : ℝ) :
    quantilePlace length (1 - quantile) = (length - 1 : ℕ) - quantilePlace length quantile := by
  have hclamp : max 0 (min (1 - quantile) 1) = 1 - max 0 (min quantile 1) := by
    -- The quantile is below the unit interval, in it or above it.
    rcases le_total quantile 0 with h0 | h0
    · rw [min_eq_right (by linarith), min_eq_left (by linarith), max_eq_left h0, sub_zero,
        max_eq_right zero_le_one]
    rcases le_total quantile 1 with h1 | h1
    · rw [min_eq_left (by linarith), min_eq_left h1, max_eq_right h0, max_eq_right (by linarith)]
    · rw [min_eq_left (by linarith), min_eq_right h1, max_eq_right zero_le_one, sub_self,
        max_eq_left (by linarith)]
  rw [quantilePlace_eq, quantilePlace_eq, hclamp, sub_mul, one_mul]

/-- Every place of a list is that of a quantile. -/
theorem quantilePlace_div {length : ℕ} (h : 2 ≤ length) {place : ℝ} (h0 : 0 ≤ place)
    (hle : place ≤ (length - 1 : ℕ)) : quantilePlace length (place / (length - 1 : ℕ)) = place := by
  have hlast : (0 : ℝ) < (length - 1 : ℕ) := by
    exact_mod_cast (show 0 < length - 1 by omega)
  have hunit : place / (length - 1 : ℕ) ≤ 1 := (div_le_one₀ hlast).mpr hle
  rw [quantilePlace_eq, min_eq_left hunit, max_eq_right (div_nonneg h0 hlast.le),
    div_mul_cancel₀ _ hlast.ne']

theorem ceil_quantilePlace_lt {length : ℕ} (h : 0 < length) (quantile : ℝ) :
    Scalar.ceil (quantilePlace length quantile) < length := by
  have hceil : ⌈quantilePlace length quantile⌉₊ ≤ length - 1 :=
    Nat.ceil_le.mpr (quantilePlace_mem_Icc length quantile).2
  rw [Scalar.ceil_eq]
  omega

theorem floor_le_ceil_exact (x : ℝ) : Scalar.floor x ≤ Scalar.ceil x :=
  Nat.floor_le_ceil x

/-! ### Quartiles in rounded arithmetic -/

/-- The quartiles are values below 1. -/
theorem absValue_quartile {quantile : Binary64} (h : quantile ∈ [(0.25 : Binary64), 0.5, 0.75]) :
    (Scalar.clamp quantile 0 1).isFinite = true ∧
      (Scalar.clamp quantile 0 1).absValue ≤ 3 / 4 := by
  have hparts : ∀ q ∈ [(0.25 : Binary64), 0.5, 0.75],
      (Scalar.clamp q 0 1).isFinite = true ∧ (Scalar.clamp q 0 1).exponent < 0 ∧
        4 * (Scalar.clamp q 0 1).significand
          ≤ 3 * twoPow (Scalar.clamp q 0 1).exponent.natAbs := by
    decide
  obtain ⟨hfinite, hexponent, hle⟩ := hparts quantile h
  exact ⟨hfinite, by exact_mod_cast Binary64.absValue_le_div (by decide) hexponent hle⟩

/-- The product of a quartile and a rounded length is less than the length by more than two
roundings add. -/
theorem ceil_quartilePlace_lt {length : ℕ} (h : 2 ≤ length) {quantile : Binary64}
    (hquantile : quantile ∈ [(0.25 : Binary64), 0.5, 0.75]) :
    Scalar.ceil (quantilePlace length quantile) < length := by
  obtain ⟨hfinite, hquartile⟩ := absValue_quartile hquantile
  have hcount : (1 : ℝ) ≤ (length - 1 : ℕ) := by
    exact_mod_cast (show 1 ≤ length - 1 by omega)
  have hceil : (quantilePlace length quantile).ceil ≤ length - 1 := by
    refine Binary64.ceil_le fun hplace => ?_
    -- The length is rounded, and then the product.
    have hlength := Binary64.isFinite_of_isFinite_mul hfinite hplace
    have hmul := Binary64.absValue_mul_le hfinite hlength hplace
    have hround := Binary64.absValue_ofNat_le hlength
    have hε : (2 : ℝ) ^ (-53 : ℤ) ≤ 1 / 16 := by norm_num
    have hδ : (2 : ℝ) ^ (-1075 : ℤ) ≤ 1 / 16 := by
      rw [show (1 / 16 : ℝ) = 2 ^ (-4 : ℤ) by norm_num]
      exact zpow_le_zpow_right₀ one_le_two (by norm_num)
    have hlen0 := Binary64.absValue_nonneg (Binary64.ofNat (length - 1))
    set k : ℝ := ((length - 1 : ℕ) : ℝ)
    calc (Binary64.mul (Scalar.clamp quantile 0 1) (Binary64.ofNat (length - 1))).absValue
        ≤ (Scalar.clamp quantile 0 1).absValue * (Binary64.ofNat (length - 1)).absValue
            * (1 + 2 ^ (-53 : ℤ)) + 2 ^ (-1075 : ℤ) := hmul
      _ ≤ 3 / 4 * (k * (1 + 1 / 16) + 1 / 16) * (1 + 1 / 16) + 1 / 16 := by
        gcongr
        exact hround.trans (by gcongr)
      _ ≤ k := by linarith
  exact lt_of_le_of_lt hceil (by omega)

end Statistics

end InterRater
