import InterRater.Proofs.Number.Operations
import Mathlib.Analysis.Real.Sqrt

/-!
# The rounded square root

The integer root below the scaled significand has more digits than a value keeps, so that the
rounded root exceeds the exact one by little more than one rounding (`toReal_sqrt_le`).
-/

namespace InterRater

namespace Binary64

/-! ### The integer root -/

theorem isqrt_mul_self_le (digits n : ℕ) : isqrt digits n * isqrt digits n ≤ n := by
  induction digits generalizing n with
  | zero => exact Nat.zero_le n
  | succ digits ih =>
    have hroot := ih (n / 4)
    have hdouble : 2 * isqrt digits (n / 4) * (2 * isqrt digits (n / 4))
        = 4 * (isqrt digits (n / 4) * isqrt digits (n / 4)) := by ring
    rw [isqrt]
    split_ifs with hnext
    · exact hnext
    · rw [hdouble]
      omega

/-! ### The root of a value -/

section Root

variable {x : Binary64}

/-- What is rounded to the root: the integer root of the scaled significand, and half a unit if it
is not exact. -/
theorem exists_sqrtFinite_eq (x : Binary64) : ∃ (n root rest : ℕ) (t : ℤ),
    sqrtFinite x = ofScaled false (2 * root + rest) (t - 1) ∧ root * root ≤ n ∧ rest ≤ 1 ∧
      x.absValue = n * (2 ^ t) ^ 2 ∧ (x.magnitude ≠ 0 → 2 ^ 110 ≤ n) := by
  have hparity : ((x.exponent % 2).toNat : ℤ) = x.exponent % 2 := Int.toNat_of_nonneg (by omega)
  refine ⟨x.significand * twoPow ((x.exponent % 2).toNat + 110), _, _,
    (x.exponent - (x.exponent % 2).toNat - 110) / 2, rfl, isqrt_mul_self_le _ _, ?_, ?_, ?_⟩
  · split_ifs <;> omega
  · have hpower : (2 : ℝ) ^ x.exponent = (twoPow ((x.exponent % 2).toNat + 110) : ℕ)
        * (2 ^ ((x.exponent - (x.exponent % 2).toNat - 110) / 2)) ^ 2 := by
      rw [twoPow, Nat.pow_eq, Nat.cast_pow, Nat.cast_ofNat, ← zpow_natCast, ← zpow_natCast,
        ← zpow_mul, ← zpow_add₀ two_ne_zero]
      congr 1
      push_cast
      omega
    rw [absValue, hpower]
    push_cast
    ring
  · intro hmagnitude
    have hpos : 0 < x.significand :=
      Nat.pos_of_ne_zero fun h => hmagnitude (significand_eq_zero_iff.mp h)
    calc 2 ^ 110 ≤ twoPow ((x.exponent % 2).toNat + 110) :=
          Nat.pow_le_pow_right (by decide) (Nat.le_add_left _ _)
      _ ≤ _ := Nat.le_mul_of_pos_left _ hpos

/-- What is rounded to the root of a positive value exceeds the exact root by little. -/
theorem exists_rounds_sqrt (hfinite : x.isFinite = true) (hsign : x.negative = false)
    (hmagnitude : x.magnitude ≠ 0) : ∃ r, Rounds r (sqrt x) ∧ (sqrt x).negative = false ∧
      0 ≤ r ∧ r ≤ √x.toReal * (1 + 2 ^ (-56 : ℤ)) := by
  have hsqrt : sqrt x = sqrtFinite x := by
    simp [sqrt, not_isNaN_of_isFinite hfinite, not_isInfinite_of_isFinite hfinite, hmagnitude,
      hsign]
  obtain ⟨n, root, rest, t, heq, hroot, hrest, hvalue, hlarge⟩ := exists_sqrtFinite_eq x
  have hround := rounds_ofScaled false (2 * root + rest) (t - 1)
  rw [signFactor, if_neg Bool.false_ne_true, one_mul] at hround
  rw [hsqrt, heq]
  refine ⟨_, hround, negative_ofScaled _ _ _,
    mul_nonneg (Nat.cast_nonneg _) (zpow_pos two_pos _).le, ?_⟩
  have hexact : √x.toReal = √n * 2 ^ t := by
    rw [toReal, hsign, if_neg Bool.false_ne_true, hvalue, Real.sqrt_mul (Nat.cast_nonneg n),
      Real.sqrt_sq (zpow_pos two_pos t).le]
  have hhalves : ((2 * root + rest : ℕ) : ℝ) * 2 ^ (t - 1) = (root + rest / 2) * 2 ^ t := by
    rw [← zpow_div_two]
    push_cast
    ring
  have hroot : (root : ℝ) ≤ √n := Real.le_sqrt_of_sq_le (by rw [pow_two]; exact_mod_cast hroot)
  have hrest : (rest : ℝ) ≤ 1 := by exact_mod_cast hrest
  -- A root of 55 digits, in whose units the rest is a half at most.
  have hdigits : (2 : ℝ) ^ 55 ≤ √n := by
    refine Real.le_sqrt_of_sq_le ?_
    rw [← pow_mul]
    exact_mod_cast hlarge hmagnitude
  rw [hexact, hhalves, mul_right_comm]
  refine mul_le_mul_of_nonneg_right ?_ (zpow_pos two_pos t).le
  norm_num at hdigits ⊢
  linarith

theorem sqrt_toReal_lt (hfinite : x.isFinite = true) : √x.toReal < 2 ^ (512 : ℤ) := by
  rw [Real.sqrt_lt' (zpow_pos two_pos _), ← zpow_natCast, ← zpow_mul]
  exact (le_abs_self _).trans_lt (abs_toReal_lt hfinite)

/-- **The error of a root**, above the exact one. -/
theorem toReal_sqrt_le (hfinite : x.isFinite = true) (hsign : x.negative = false) :
    (sqrt x).isFinite = true ∧ 0 ≤ (sqrt x).toReal ∧
      (sqrt x).toReal ≤ √x.toReal * (1 + 2 ^ (-52 : ℤ)) + 2 ^ (-1075 : ℤ) := by
  by_cases hmagnitude : x.magnitude = 0
  · have hsqrt : sqrt x = x := by simp [sqrt, hmagnitude]
    rw [hsqrt, toReal_eq_zero_iff.mpr hmagnitude, Real.sqrt_zero, zero_mul, zero_add]
    exact ⟨hfinite, le_rfl, (zpow_pos two_pos _).le⟩
  obtain ⟨r, hround, hsign, hr0, hr⟩ := exists_rounds_sqrt hfinite hsign hmagnitude
  have hrabs : |r| = r := abs_of_nonneg hr0
  have hfinite : (sqrt x).isFinite = true := by
    have hfactor : 1 + (2 : ℝ) ^ (-56 : ℤ) ≤ 2 ^ (1 : ℤ) := by norm_num
    have hbound := mul_le_zpow (sqrt_toReal_lt hfinite).le hfactor (by positivity)
    exact hround.isFinite_of_le (hrabs.trans_le (hr.trans hbound)) (by norm_num)
  refine ⟨hfinite, toReal_nonneg hsign, ?_⟩
  have herror := (abs_le.mp (hround.abs_sub_le hfinite)).2
  rw [hrabs] at herror
  have hroom : r * (1 + 2 ^ (-53 : ℤ)) ≤ √x.toReal * (1 + 2 ^ (-52 : ℤ)) := by
    calc r * (1 + 2 ^ (-53 : ℤ))
        ≤ √x.toReal * (1 + 2 ^ (-56 : ℤ)) * (1 + 2 ^ (-53 : ℤ)) :=
          mul_le_mul_of_nonneg_right hr (by positivity)
      _ ≤ √x.toReal * (1 + 2 ^ (-52 : ℤ)) := by
          rw [mul_assoc]
          exact mul_le_mul_of_nonneg_left (by norm_num) (Real.sqrt_nonneg _)
  linarith

end Root

end Binary64

end InterRater
