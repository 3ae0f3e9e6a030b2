import InterRater.Proofs.Number.Comparison
import InterRater.Proofs.Number.Operations

/-!
# The order of finite values

Finite values are compared as the real numbers that they stand for: `beq_iff_toReal`,
`lt_iff_toReal` and `le_iff_toReal`.  The reason is that the magnitude of a pattern counts the
values below it, so that a larger magnitude stands for a larger number (`absValue_lt`).  Rounding
leaves the magnitude of a number that is a value already (`Rounds.magnitude_eq`).
-/

namespace InterRater

namespace Binary64

variable {x y : Binary64}

/-! ### Magnitudes -/

/-- The magnitude counts the places below that of the significand, and then the significand. -/
theorem magnitude_eq (x : Binary64) :
    x.magnitude = (x.exponent + 1074).toNat * twoPow 52 + x.significand := by
  have hpow : twoPow 52 = 2 ^ 52 := rfl
  rw [exponent, significand, hpow]
  by_cases hlt : x.magnitude < 2 ^ 52
  · rw [if_pos hlt, Nat.div_eq_of_lt hlt]
    omega
  · rw [if_neg hlt]
    omega

/-- A larger magnitude stands for a larger number. -/
theorem absValue_lt (h : x.magnitude < y.magnitude) : x.absValue < y.absValue := by
  have hpow : twoPow 52 = 2 ^ 52 := rfl
  have hx := x.significand_lt
  have hy := y.significand_lt
  have hleast := x.exponent_ge
  have hleast' := y.exponent_ge
  rw [x.magnitude_eq, y.magnitude_eq, hpow] at h
  rw [absValue, absValue]
  rcases lt_trichotomy x.exponent y.exponent with hlt | heq | hgt
  · -- The significand below is smaller by one digit than the place above.
    have hy : 2 ^ 52 ≤ y.significand := significand_ge (by omega)
    have hx : (x.significand : ℝ) < 2 ^ (53 : ℤ) := by exact_mod_cast hx
    have hy : (2 : ℝ) ^ (52 : ℤ) ≤ y.significand := by exact_mod_cast hy
    calc (x.significand : ℝ) * 2 ^ x.exponent
        < 2 ^ (53 : ℤ) * 2 ^ x.exponent := mul_lt_mul_of_pos_right hx (zpow_pos two_pos _)
      _ = 2 ^ (53 + x.exponent) := (zpow_add₀ two_ne_zero _ _).symm
      _ ≤ 2 ^ (52 + y.exponent) := zpow_le_zpow_right₀ one_le_two (by omega)
      _ = 2 ^ (52 : ℤ) * 2 ^ y.exponent := zpow_add₀ two_ne_zero _ _
      _ ≤ y.significand * 2 ^ y.exponent := mul_le_mul_of_nonneg_right hy (zpow_pos two_pos _).le
  · rw [heq] at h ⊢
    have hlt : (x.significand : ℝ) < y.significand := by exact_mod_cast Nat.lt_of_add_lt_add_left h
    exact mul_lt_mul_of_pos_right hlt (zpow_pos two_pos _)
  · have hx : 2 ^ 52 ≤ x.significand := significand_ge (by omega)
    omega

theorem absValue_le_iff : x.absValue ≤ y.absValue ↔ x.magnitude ≤ y.magnitude := by
  refine ⟨fun h => ?_, fun h => ?_⟩
  · by_contra hlt
    exact absurd h (absValue_lt (not_le.mp hlt)).not_ge
  · rcases h.lt_or_eq with hlt | heq
    · exact (absValue_lt hlt).le
    · have hexponent : x.exponent = y.exponent := by rw [exponent, exponent, heq]
      have hsignificand : x.significand = y.significand := by rw [significand, significand, heq]
      rw [absValue, absValue, hexponent, hsignificand]

theorem absValue_nonpos_iff : x.absValue ≤ 0 ↔ x.magnitude = 0 := by
  rw [(absValue_nonneg x).ge_iff_eq', ← abs_toReal, abs_eq_zero, toReal_eq_zero_iff]

/-- The last place of a ratio that is a value is the place of its significand. -/
theorem lastPlace_eq_exponent {num den : ℕ} (hnum : 0 < num) (hden : 0 < den)
    (h : (num : ℝ) / den = y.absValue) : lastPlace num den = y.exponent := by
  obtain ⟨hleast, hupper, hlower⟩ := lastPlace_spec hnum hden
  have hplace := y.exponent_ge
  rw [h, ← abs_toReal] at hupper hlower
  refine le_antisymm ?_ ?_
  · rcases hlower with hlower | hlower
    · omega
    · have := (zpow_lt_zpow_iff_right₀ one_lt_two).mp (hlower.trans_lt (abs_toReal_lt_zpow y))
      omega
  · by_contra! hlt
    have hdigits := (zpow_le_abs_toReal (x := y) (by omega)).trans_lt hupper
    have := (zpow_lt_zpow_iff_right₀ one_lt_two).mp hdigits
    omega

/-- **A value is its own rounding**, up to the sign of a zero. -/
theorem Rounds.magnitude_eq (h : Rounds y.toReal x) (hfinite : y.isFinite = true) :
    x.magnitude = y.magnitude := by
  obtain ⟨negative, num, den, hden, rfl, hratio, -⟩ := h.exists_ratio
  rw [magnitude_ofRatio, nearestMagnitude]
  rw [abs_toReal] at hratio
  split_ifs with hnum
  · rw [hnum, Nat.cast_zero, zero_div] at hratio
    exact (absValue_nonpos_iff.mp hratio.le).symm
  · have hplace := lastPlace_eq_exponent (Nat.pos_of_ne_zero hnum) hden hratio.symm
    have hround := abs_roundScaled_sub_le num hden y.exponent
    rw [← hratio, absValue, mul_div_cancel_right₀ _ (zpow_pos two_pos _).ne', abs_le] at hround
    have hlow : (y.significand : ℝ) < roundScaled num den y.exponent + 1 := by linarith
    have hhigh : (roundScaled num den y.exponent : ℝ) < y.significand + 1 := by linarith
    have hdigits : roundScaled num den y.exponent = y.significand :=
      le_antisymm (Nat.lt_succ_iff.mp (by exact_mod_cast hhigh))
        (Nat.lt_succ_iff.mp (by exact_mod_cast hlow))
    simp only [hplace, hdigits, ← Binary64.magnitude_eq]
    rw [Binary64.isFinite, decide_eq_true_eq] at hfinite
    exact min_eq_left hfinite.le

/-! ### Comparisons -/

/-- Values have the order of their places. -/
theorem toReal_le_iff : x.toReal ≤ y.toReal ↔ x.place ≤ y.place := by
  have hx := absValue_nonneg x
  have hy := absValue_nonneg y
  rw [toReal, toReal, place, place]
  cases x.negative <;> cases y.negative
  · exact absValue_le_iff.trans Int.ofNat_le.symm
  · -- Only a zero is at most a value with a sign bit.
    rw [if_neg Bool.false_ne_true, if_pos rfl, if_neg Bool.false_ne_true, if_pos rfl]
    have hxzero := absValue_nonpos_iff (x := x)
    have hyzero := absValue_nonpos_iff (x := y)
    constructor
    · intro h
      have hx : x.magnitude = 0 := hxzero.mp (by linarith)
      have hy : y.magnitude = 0 := hyzero.mp (by linarith)
      omega
    · intro h
      have hx := hxzero.mpr (by omega)
      have hy := hyzero.mpr (by omega)
      linarith
  · refine iff_of_true ?_ ?_
    · exact (neg_nonpos.mpr hx).trans hy
    · exact (neg_nonpos.mpr (Int.natCast_nonneg _)).trans (Int.natCast_nonneg _)
  · rw [if_pos rfl, if_pos rfl, if_pos rfl, if_pos rfl, neg_le_neg_iff, neg_le_neg_iff]
    exact absValue_le_iff.trans Int.ofNat_le.symm

theorem le_iff_toReal (hx : x.isFinite = true) (hy : y.isFinite = true) :
    x ≤ y ↔ x.toReal ≤ y.toReal := by
  rw [le_iff, and_iff_right (not_isNaN_of_isFinite hx), and_iff_right (not_isNaN_of_isFinite hy),
    toReal_le_iff]

theorem lt_iff_toReal (hx : x.isFinite = true) (hy : y.isFinite = true) :
    x < y ↔ x.toReal < y.toReal := by
  rw [lt_iff, and_iff_right (not_isNaN_of_isFinite hx), and_iff_right (not_isNaN_of_isFinite hy),
    ← not_le, ← not_le, toReal_le_iff]

theorem zero_lt_iff_toReal (hx : x.isFinite = true) : 0 < x ↔ 0 < x.toReal := by
  have hzero : (0 : Binary64).toReal = 0 := toReal_eq_zero_iff.mpr (by decide +kernel)
  rw [lt_iff_toReal (by decide +kernel) hx, hzero]

theorem isFinite_of_beq (h : Scalar.beq x y = true) (hy : y.isFinite = true) :
    x.isFinite = true := by
  obtain ⟨-, -, hplace⟩ := beq_iff.mp h
  rw [isFinite, decide_eq_true_eq] at hy ⊢
  rw [place, place] at hplace
  split_ifs at hplace <;> omega

theorem beq_iff_toReal (hx : x.isFinite = true) (hy : y.isFinite = true) :
    Scalar.beq x y = true ↔ x.toReal = y.toReal := by
  rw [beq_iff, and_iff_right (not_isNaN_of_isFinite hx), and_iff_right (not_isNaN_of_isFinite hy),
    le_antisymm_iff, le_antisymm_iff, toReal_le_iff, toReal_le_iff]

end Binary64

end InterRater
