import InterRater.Proofs.Number.Integer

/-!
# The numbers that finite values stand for

`toReal x` is the real number that a finite value `x` stands for: a significand of at most 53 binary
digits, at the place that `exponent` gives, with a sign.  It is an integer exactly if `toInt?` finds
that integer (`toInt?_eq_some_iff`).  A natural number with at most 53 binary digits is halved
without an error (`toReal_half`).
-/

namespace InterRater

namespace Binary64

/-- The real number that a finite value stands for. -/
noncomputable def toReal (x : Binary64) : ℝ :=
  if x.negative then -x.absValue else x.absValue

/-! ### Integers -/

theorem toReal_eq (x : Binary64) : x.toReal = x.signedSignificand * 2 ^ x.exponent := by
  rw [toReal, absValue, signedSignificand]
  split_ifs
  · push_cast
    ring
  · push_cast
    rfl

theorem toReal_of_absValue {x : Binary64} {m : ℕ} (h : x.absValue = m) :
    x.toReal = (if x.negative then -(m : ℤ) else m : ℤ) := by
  rw [toReal, h]
  split_ifs <;> push_cast <;> rfl

theorem toInt?_eq_some_iff {x : Binary64} {n : ℤ} :
    x.toInt? = some n ↔ x.isFinite = true ∧ x.toReal = n := by
  constructor
  · intro h
    unfold toInt? at h
    by_cases hfinite : x.isFinite = true
    swap
    · simp [hfinite] at h
    refine ⟨hfinite, ?_⟩
    rw [hfinite, Bool.not_true, if_neg Bool.false_ne_true] at h
    by_cases he : 0 ≤ x.exponent
    · rw [if_pos he] at h
      cases h
      rw [toReal_eq, zpow_of_nonneg he]
      push_cast
      rfl
    · rw [if_neg he] at h
      dsimp only at h
      rw [Option.ite_none_right_eq_some] at h
      obtain ⟨hdvd, h⟩ := h
      cases h
      refine toReal_of_absValue ?_
      -- The digits behind the point are zeros.
      have hpow : (0 : ℝ) < (twoPow x.exponent.natAbs : ℕ) := by exact_mod_cast twoPow_pos _
      rw [absValue, zpow_of_neg (not_le.mp he), mul_one_div, div_eq_iff hpow.ne']
      exact_mod_cast (Nat.div_mul_cancel (Nat.dvd_of_mod_eq_zero hdvd)).symm
  · rintro ⟨hfinite, hreal⟩
    have habs : x.absValue = n.natAbs := by
      have hnonneg := absValue_nonneg x
      rw [Nat.cast_natAbs, Int.cast_abs, ← hreal, toReal]
      split_ifs
      · rw [abs_neg, abs_of_nonneg hnonneg]
      · rw [abs_of_nonneg hnonneg]
    rw [toInt?_of_absValue hfinite habs]
    have hcast := (toReal_of_absValue habs).symm.trans hreal
    exact congrArg some (by exact_mod_cast hcast)

/-! ### Sign and magnitude -/

/-- The factor that a sign bit stands for. -/
def signFactor (negative : Bool) : ℝ :=
  if negative then -1 else 1

theorem signFactor_bne (a b : Bool) : signFactor (a != b) = signFactor a * signFactor b := by
  cases a <;> cases b <;> norm_num [signFactor]

theorem abs_signFactor (negative : Bool) : |signFactor negative| = 1 := by
  cases negative <;> norm_num [signFactor]

theorem signFactor_mul_self (negative : Bool) :
    signFactor negative * signFactor negative = 1 := by
  cases negative <;> norm_num [signFactor]

theorem signFactor_ne_zero (negative : Bool) : signFactor negative ≠ 0 := by
  cases negative <;> norm_num [signFactor]

theorem signFactor_mul_natAbs (m : ℤ) : signFactor (m < 0) * m.natAbs = m := by
  rw [signFactor, Nat.cast_natAbs, Int.cast_abs]
  by_cases h : m < 0
  · have hm : (m : ℝ) < 0 := by exact_mod_cast h
    rw [if_pos (decide_eq_true h), abs_of_neg hm, neg_one_mul, neg_neg]
  · have hm : (0 : ℝ) ≤ m := by exact_mod_cast not_lt.mp h
    rw [decide_eq_false h, if_neg Bool.false_ne_true, abs_of_nonneg hm, one_mul]

theorem toReal_eq_signFactor_mul (x : Binary64) :
    x.toReal = signFactor x.negative * x.absValue := by
  rw [toReal, signFactor]
  split_ifs
  · rw [neg_one_mul]
  · rw [one_mul]

theorem abs_toReal (x : Binary64) : |x.toReal| = x.absValue := by
  rw [toReal_eq_signFactor_mul, abs_mul, abs_signFactor, one_mul, abs_of_nonneg (absValue_nonneg x)]

theorem significand_eq_zero_iff {x : Binary64} : x.significand = 0 ↔ x.magnitude = 0 := by
  refine ⟨fun h => ?_, significand_eq_zero⟩
  have hpow : 0 < twoPow 52 := twoPow_pos 52
  rw [significand] at h
  by_cases hlt : x.magnitude < twoPow 52
  · rwa [if_pos hlt, Nat.add_zero, Nat.mod_eq_of_lt hlt] at h
  · rw [if_neg hlt] at h
    omega

theorem toReal_eq_zero_iff {x : Binary64} : x.toReal = 0 ↔ x.magnitude = 0 := by
  rw [← abs_eq_zero, abs_toReal, absValue, mul_eq_zero, Nat.cast_eq_zero,
    or_iff_left (zpow_pos two_pos _).ne', significand_eq_zero_iff]

theorem toReal_nonneg {x : Binary64} (h : x.negative = false) : 0 ≤ x.toReal := by
  rw [toReal, h, if_neg Bool.false_ne_true]
  exact absValue_nonneg x

theorem exponent_ge (x : Binary64) : -1074 ≤ x.exponent := by
  rw [exponent]
  omega

theorem significand_lt (x : Binary64) : x.significand < 2 ^ 53 := by
  have hpow : twoPow 52 = 2 ^ 52 := rfl
  have hmod : x.magnitude % twoPow 52 < twoPow 52 := Nat.mod_lt _ (twoPow_pos 52)
  rw [significand]
  by_cases hlt : x.magnitude < twoPow 52
  · rw [if_pos hlt]
    omega
  · rw [if_neg hlt]
    omega

theorem exponent_le {x : Binary64} (h : x.isFinite = true) : x.exponent ≤ 971 := by
  have hpow : twoPow 52 = 2 ^ 52 := rfl
  rw [isFinite, decide_eq_true_eq, infiniteMagnitude, hpow] at h
  rw [exponent, hpow]
  omega

/-- Above the least place a significand has 53 digits. -/
theorem significand_ge {x : Binary64} (h : -1074 < x.exponent) : 2 ^ 52 ≤ x.significand := by
  have hpow : twoPow 52 = 2 ^ 52 := rfl
  rw [exponent, hpow] at h
  rw [significand, hpow, if_neg (by omega)]
  omega

theorem zpow_le_abs_toReal {x : Binary64} (h : -1074 < x.exponent) :
    (2 : ℝ) ^ (52 + x.exponent) ≤ |x.toReal| := by
  have hdigits : (2 : ℝ) ^ (52 : ℤ) ≤ x.significand := by exact_mod_cast significand_ge h
  rw [abs_toReal, absValue, zpow_add₀ two_ne_zero]
  exact mul_le_mul_of_nonneg_right hdigits (zpow_pos two_pos _).le

theorem abs_toReal_lt_zpow (x : Binary64) : |x.toReal| < 2 ^ (53 + x.exponent) := by
  have hdigits : (x.significand : ℝ) < 2 ^ (53 : ℤ) := by exact_mod_cast x.significand_lt
  rw [abs_toReal, absValue, zpow_add₀ two_ne_zero]
  exact mul_lt_mul_of_pos_right hdigits (zpow_pos two_pos _)

theorem abs_toReal_lt {x : Binary64} (h : x.isFinite = true) : |x.toReal| < 2 ^ (1024 : ℤ) := by
  have hplace := exponent_le h
  exact x.abs_toReal_lt_zpow.trans_le (zpow_le_zpow_right₀ one_le_two (by omega))

theorem exponent_ge_of_one_le {x : Binary64} (h : 1 ≤ |x.toReal|) : -52 ≤ x.exponent := by
  have hlt := h.trans_lt x.abs_toReal_lt_zpow
  rw [← zpow_zero (2 : ℝ)] at hlt
  have := (zpow_lt_zpow_iff_right₀ one_lt_two).mp hlt
  omega

theorem abs_signedSignificand_le (x : Binary64) : |x.signedSignificand| ≤ 2 ^ 53 := by
  have hdigits := x.significand_lt
  rw [Int.abs_eq_natAbs, signedSignificand]
  split_ifs <;> omega

/-- A value is an integer at every place up to its own. -/
theorem toReal_eq_mul (x : Binary64) {e : ℤ} (he : e ≤ x.exponent) :
    x.toReal = (x.signedSignificand * twoPow (x.exponent - e).toNat : ℤ) * 2 ^ e := by
  have hsplit : (2 : ℝ) ^ x.exponent = 2 ^ (x.exponent - e).toNat * 2 ^ e := by
    rw [← zpow_natCast, Int.toNat_of_nonneg (by omega), ← zpow_add₀ two_ne_zero, sub_add_cancel]
  rw [toReal_eq, hsplit, twoPow, Nat.pow_eq]
  push_cast
  ring

theorem abs_mul_zpow (r : ℝ) (e : ℤ) : |r * 2 ^ e| = |r| * 2 ^ e := by
  rw [abs_mul, abs_of_pos (zpow_pos (two_pos : (0 : ℝ) < 2) e)]

/-- Bounds that are powers of 2 are multiplied by adding their exponents. -/
theorem mul_le_zpow {a b : ℝ} {m n : ℤ} (ha : a ≤ 2 ^ m) (hb : b ≤ 2 ^ n) (hb0 : 0 ≤ b) :
    a * b ≤ 2 ^ (m + n) := by
  rw [zpow_add₀ two_ne_zero]
  exact mul_le_mul ha hb hb0 (zpow_pos two_pos m).le

theorem isFinite_of_magnitude_eq_zero {x : Binary64} (h : x.magnitude = 0) :
    x.isFinite = true := by
  rw [isFinite, h]
  rfl

/-! ### Exact operations -/

/-- A quotient is the rounded quotient of the values. -/
theorem exists_divFinite_eq (negative : Bool) (x : Binary64) {y : Binary64}
    (hy : 0 < y.significand) : ∃ num den : ℕ, 0 < den ∧
      divFinite negative x y = ofRatio negative num den ∧
      (num : ℝ) / den = x.absValue / y.absValue := by
  have hy' : (y.significand : ℝ) ≠ 0 := by exact_mod_cast hy.ne'
  have hpow := twoPow_pos (x.exponent - y.exponent).natAbs
  have hpow' : ((twoPow (x.exponent - y.exponent).natAbs : ℕ) : ℝ) ≠ 0 := by
    exact_mod_cast hpow.ne'
  have hvalue : x.absValue / y.absValue
      = x.significand / y.significand * 2 ^ (x.exponent - y.exponent) := by
    rw [absValue, absValue, zpow_sub₀ two_ne_zero]
    field_simp
  rw [divFinite, hvalue]
  split_ifs with he
  · refine ⟨_, _, Nat.mul_pos hy hpow, rfl, ?_⟩
    rw [zpow_of_neg he]
    push_cast
    field_simp
  · refine ⟨_, _, hy, rfl, ?_⟩
    rw [zpow_of_nonneg (not_lt.mp he)]
    push_cast
    field_simp

theorem toReal_ofRatio_false (num den : ℕ) :
    (ofRatio false num den).toReal = (ofRatio false num den).absValue := by
  rw [toReal, negative_ofRatio, if_neg Bool.false_ne_true]

/-- Half of a natural number with at most 53 binary digits is a value. -/
theorem toReal_half {k : ℕ} (hpos : 0 < k) (hle : k ≤ 2 ^ 53) :
    (div (ofNat k) (ofNat 2)).isFinite = true ∧ (div (ofNat k) (ofNat 2)).toReal = k / 2 := by
  obtain ⟨hfinite, habs⟩ := absValue_ofRatio_one false hle
  obtain ⟨hfinite', habs'⟩ := absValue_ofRatio_one false (m := 2) (by norm_num)
  obtain ⟨num, den, hden, hdiv, hratio⟩ :=
    exists_divFinite_eq false (ofNat k) (y := ofNat 2) (by decide)
  have hdiv' : div (ofNat k) (ofNat 2) = ofRatio false num den := by
    rw [← hdiv, div, ofNat, ofNat, not_isNaN_of_isFinite hfinite, not_isNaN_of_isFinite hfinite',
      not_isInfinite_of_isFinite hfinite, not_isInfinite_of_isFinite hfinite', negative_ofRatio,
      negative_ofRatio]
    rfl
  have hhalf : (num : ℝ) / den = k / 2 := by
    rw [hratio, ofNat, ofNat, habs, habs', Nat.cast_ofNat]
  have hk : (0 : ℝ) < k := by exact_mod_cast hpos
  have hnum : 0 < num := by
    rw [Nat.pos_iff_ne_zero]
    rintro rfl
    rw [Nat.cast_zero, zero_div] at hhalf
    linarith
  have hsmall : (num : ℝ) / den < 2 ^ (1023 : ℤ) := by
    have hk' : (k : ℝ) ≤ 2 ^ (53 : ℤ) := by exact_mod_cast hle
    rw [hhalf]
    calc (k : ℝ) / 2 ≤ 2 ^ (53 : ℤ) := by linarith
      _ < 2 ^ (1023 : ℤ) := zpow_lt_zpow_right₀ one_lt_two (by norm_num)
  have hplaces : (num : ℝ) / den = k * 2 ^ (-1 : ℤ) := by
    rw [hhalf, zpow_neg_one, div_eq_mul_inv]
  have hfinite := isFinite_ofRatio false num hden hsmall
  rw [hdiv', toReal_ofRatio_false,
    absValue_ofRatio_eq hnum hden hle (by norm_num) hplaces hfinite, hhalf]
  exact ⟨hfinite, rfl⟩

end Binary64

end InterRater
