import InterRater.Proofs.Number.Value

/-!
# Operations as rounded real operations

`Rounds r x` says that the value `x` is the real number `r` rounded once.  Each operation on finite
values rounds the operation on the real numbers that they stand for (`rounds_add`, `rounds_sub`,
`rounds_mul`, `rounds_div`).  What rounding does to a real number is thus said once for all
operations: it errs by `2⁻⁵³` of the number at most (`Rounds.abs_sub_le`), not at all if 53 binary
digits suffice (`Rounds.toReal_eq`), and it comes to zero for the numbers up to `2⁻¹⁰⁷⁵` only
(`Rounds.magnitude_eq_zero_iff`).

A sum of two values is a multiple of the least positive value, so that its error is relative even
where the values are least (`abs_toReal_add_sub_le`).  Values that cancel have a difference of few
digits (`exists_digits_of_close`).
-/

namespace InterRater

namespace Binary64

/-! ### Rounding a real number -/

/-- The value is the real number `r`, rounded once. -/
def Rounds (r : ℝ) (x : Binary64) : Prop :=
  ∃ negative num den, 0 < den ∧ x = ofRatio negative num den ∧
    r = signFactor negative * (num / den)

theorem rounds_ofRatio (negative : Bool) (num : ℕ) {den : ℕ} (hden : 0 < den) :
    Rounds (signFactor negative * (num / den)) (ofRatio negative num den) :=
  ⟨negative, num, den, hden, rfl, rfl⟩

theorem rounds_ofScaled (negative : Bool) (m : ℕ) (e : ℤ) :
    Rounds (signFactor negative * (m * 2 ^ e)) (ofScaled negative m e) := by
  rw [ofScaled]
  split_ifs with he
  · rw [zpow_of_neg he, mul_one_div]
    exact rounds_ofRatio negative m (twoPow_pos _)
  · have hround := rounds_ofRatio negative (m * twoPow e.natAbs) Nat.one_pos
    rw [Nat.cast_one, div_one, Nat.cast_mul] at hround
    rwa [zpow_of_nonneg (not_lt.mp he)]

theorem twoPow_succ (n : ℕ) : twoPow (n + 1) = twoPow n * 2 :=
  pow_succ 2 n

theorem roundDiv_eq_zero_iff {num den : ℕ} (hden : 0 < den) :
    roundDiv num den = 0 ↔ 2 * num ≤ den := by
  rcases Nat.lt_or_ge num den with hlt | hge
  · simp only [roundDiv, Nat.div_eq_of_lt hlt, Nat.mod_eq_of_lt hlt]
    constructor
    · intro h
      split_ifs at h <;> omega
    · intro h
      split_ifs <;> omega
  · have hquotient : 0 < num / den := Nat.div_pos hge hden
    refine iff_of_false (fun h => ?_) (by omega)
    simp only [roundDiv] at h
    split_ifs at h <;> omega

/-- A ratio is rounded to zero if it is half of the least positive value at most. -/
theorem nearestMagnitude_eq_zero_iff (num : ℕ) {den : ℕ} (hden : 0 < den) :
    nearestMagnitude num den = 0 ↔ (num : ℝ) / den ≤ 2 ^ (-1075 : ℤ) := by
  rcases Nat.eq_zero_or_pos num with rfl | hnum
  · rw [nearestMagnitude, if_pos rfl, Nat.cast_zero, zero_div]
    exact iff_of_true rfl (zpow_pos two_pos _).le
  obtain ⟨hleast, hupper, hlower⟩ := lastPlace_spec hnum hden
  have hden' : (0 : ℝ) < den := by exact_mod_cast hden
  have hpow : 0 < twoPow 52 := twoPow_pos 52
  have hinf : infiniteMagnitude ≠ 0 := by decide
  rw [nearestMagnitude, if_neg hnum.ne']
  dsimp only
  by_cases hplace : lastPlace num den = -1074
  · have hhalf : (num : ℝ) / den ≤ 2 ^ (-1075 : ℤ) ↔ 2 * (num * twoPow 1074) ≤ den := by
      rw [zpow_of_neg (by norm_num), div_le_div_iff₀ hden' (by exact_mod_cast twoPow_pos _)]
      have hdouble : twoPow (-1075 : ℤ).natAbs = twoPow 1074 * 2 := twoPow_succ 1074
      generalize twoPow 1074 = p at *
      rw [hdouble, one_mul, mul_comm 2, mul_assoc]
      exact_mod_cast Iff.rfl
    have hscaled : roundScaled num den (-1074) = roundDiv (num * twoPow 1074) den :=
      if_pos (by norm_num)
    rw [hplace, hscaled, hhalf, ← roundDiv_eq_zero_iff hden, neg_add_cancel, Int.toNat_zero,
      Nat.zero_mul, Nat.zero_add]
    generalize roundDiv _ den = q
    omega
  · -- The ratio has 53 digits, and its place counts.
    refine iff_of_false ?_ (not_le.mpr ?_)
    · have hcount : 0 < (lastPlace num den + 1074).toNat * twoPow 52 :=
        Nat.mul_pos (by omega) hpow
      omega
    · refine lt_of_lt_of_le ?_ (hlower.resolve_left hplace)
      exact zpow_lt_zpow_right₀ one_lt_two (by omega)

section Rounds

variable {r : ℝ} {x : Binary64}

/-- A rounded number as a rounded ratio, of the same sign. -/
theorem Rounds.exists_ratio (h : Rounds r x) : ∃ negative num den, 0 < den ∧
    x = ofRatio negative num den ∧ |r| = num / den ∧ |x.toReal - r| = |x.absValue - num / den| := by
  obtain ⟨negative, num, den, hden, rfl, rfl⟩ := h
  refine ⟨negative, num, den, hden, rfl, ?_, ?_⟩
  · rw [abs_mul, abs_signFactor, one_mul, abs_of_nonneg (by positivity)]
  · rw [toReal_eq_signFactor_mul, negative_ofRatio, ← mul_sub, abs_mul, abs_signFactor, one_mul]

theorem Rounds.isFinite (h : Rounds r x) (hlt : |r| < 2 ^ (1023 : ℤ)) : x.isFinite = true := by
  obtain ⟨negative, num, den, hden, rfl, hr, -⟩ := h.exists_ratio
  exact isFinite_ofRatio negative num hden (hr ▸ hlt)

theorem Rounds.isFinite_of_le (h : Rounds r x) {k : ℤ} (hr : |r| ≤ 2 ^ k) (hk : k < 1023) :
    x.isFinite = true :=
  h.isFinite (hr.trans_lt (zpow_lt_zpow_right₀ one_lt_two hk))

theorem Rounds.isFinite_of_digits {m e : ℤ} (h : Rounds (m * 2 ^ e) x) (hm : |m| ≤ 2 ^ 53)
    (he : e ≤ 969) : x.isFinite = true := by
  have hm : |(m : ℝ)| ≤ 2 ^ (53 : ℤ) := by exact_mod_cast hm
  have hbound := mul_le_zpow hm le_rfl (zpow_pos two_pos e).le
  rw [← abs_mul_zpow] at hbound
  exact h.isFinite_of_le hbound (by omega)

/-- **The error of rounding** is `2⁻⁵³` of the number at most, apart from the least values. -/
theorem Rounds.abs_sub_le (h : Rounds r x) (hfinite : x.isFinite = true) :
    |x.toReal - r| ≤ |r| * 2 ^ (-53 : ℤ) + 2 ^ (-1075 : ℤ) := by
  obtain ⟨negative, num, den, hden, rfl, hr, herror⟩ := h.exists_ratio
  rw [herror, hr]
  exact abs_absValue_ofRatio_sub_le_mul num hden hfinite

/-- A bound that is not among the least values is hardly exceeded by rounding. -/
theorem Rounds.abs_toReal_le (h : Rounds r x) {b : ℝ} {k : ℤ} (hb : |r| ≤ b)
    (hlow : 2 ^ (-1022 : ℤ) ≤ b) (hhigh : b ≤ 2 ^ k) (hk : k < 1023) :
    x.isFinite = true ∧ |x.toReal| ≤ (1 + 2 ^ (-52 : ℤ)) * b := by
  have hfinite := h.isFinite_of_le (hb.trans hhigh) hk
  refine ⟨hfinite, ?_⟩
  have herror := h.abs_sub_le hfinite
  have hleast : (2 : ℝ) ^ (-1075 : ℤ) ≤ 2 ^ (-53 : ℤ) * b :=
    calc (2 : ℝ) ^ (-1075 : ℤ) = 2 ^ (-53 + -1022 : ℤ) := by norm_num
      _ = 2 ^ (-53 : ℤ) * 2 ^ (-1022 : ℤ) := zpow_add₀ two_ne_zero _ _
      _ ≤ 2 ^ (-53 : ℤ) * b := mul_le_mul_of_nonneg_left hlow (zpow_pos two_pos _).le
  have hunit : |r| * 2 ^ (-53 : ℤ) ≤ b * 2 ^ (-53 : ℤ) :=
    mul_le_mul_of_nonneg_right hb (zpow_pos two_pos _).le
  have htwice : (2 : ℝ) ^ (-52 : ℤ) = 2 * 2 ^ (-53 : ℤ) := by norm_num
  have habs := abs_sub_abs_le_abs_sub x.toReal r
  rw [htwice]
  linarith

/-- A number of at most 53 binary digits is not changed by rounding. -/
theorem Rounds.toReal_eq (h : Rounds r x) (hfinite : x.isFinite = true) {m : ℤ} {e : ℤ}
    (hm : |m| ≤ 2 ^ 53) (he : -1074 ≤ e) (hr : r = m * 2 ^ e) : x.toReal = r := by
  obtain ⟨negative, num, den, hden, rfl, habs, herror⟩ := h.exists_ratio
  rw [← sub_eq_zero, ← abs_eq_zero, herror, abs_eq_zero, sub_eq_zero]
  rcases Nat.eq_zero_or_pos num with rfl | hnum
  · rw [absValue_ofRatio_zero, Nat.cast_zero, zero_div]
  · have hdigits : (num : ℝ) / den = m.natAbs * 2 ^ e := by
      rw [← habs, hr, abs_mul_zpow, Nat.cast_natAbs, Int.cast_abs]
    rw [Int.abs_eq_natAbs] at hm
    exact absValue_ofRatio_eq hnum hden (by omega) he hdigits hfinite

/-- A multiple of the least positive value is rounded with a relative error. -/
theorem Rounds.abs_sub_le_of_multiple (h : Rounds r x) (m : ℤ) (hr : r = m * 2 ^ (-1074 : ℤ))
    (hfinite : x.isFinite = true) : |x.toReal - r| ≤ |r| * 2 ^ (-53 : ℤ) := by
  rcases le_or_gt |m| (2 ^ 53) with hm | hm
  · rw [h.toReal_eq hfinite hm le_rfl hr, sub_self, abs_zero]
    positivity
  obtain ⟨negative, num, den, hden, rfl, habs, herror⟩ := h.exists_ratio
  have hnormal : (2 : ℝ) ^ (-1022 : ℤ) ≤ num / den := by
    have hm : (2 : ℝ) ^ (53 : ℤ) < |(m : ℝ)| := by exact_mod_cast hm
    rw [← habs, hr, abs_mul_zpow]
    calc (2 : ℝ) ^ (-1022 : ℤ) ≤ 2 ^ (53 + -1074 : ℤ) :=
          zpow_le_zpow_right₀ one_le_two (by norm_num)
      _ = 2 ^ (53 : ℤ) * 2 ^ (-1074 : ℤ) := zpow_add₀ two_ne_zero _ _
      _ ≤ |(m : ℝ)| * 2 ^ (-1074 : ℤ) :=
          mul_le_mul_of_nonneg_right hm.le (zpow_pos two_pos _).le
  rw [herror, habs]
  exact abs_absValue_ofRatio_sub_le_of_normal hden hnormal hfinite

theorem Rounds.magnitude_eq_zero_iff (h : Rounds r x) :
    x.magnitude = 0 ↔ |r| ≤ 2 ^ (-1075 : ℤ) := by
  obtain ⟨negative, num, den, hden, rfl, hr, -⟩ := h.exists_ratio
  rw [magnitude_ofRatio, hr]
  exact nearestMagnitude_eq_zero_iff num hden

end Rounds

/-! ### The operations -/

section Operations

variable {x y : Binary64}

theorem magnitude_lt (x : Binary64) : x.magnitude < twoPow 63 :=
  Nat.mod_lt _ (twoPow_pos 63)

theorem magnitude_neg (x : Binary64) : (neg x).magnitude = x.magnitude :=
  magnitude_ofParts _ x.magnitude_lt

theorem negative_neg (x : Binary64) : (neg x).negative = !x.negative :=
  negative_ofParts _ x.magnitude_lt

theorem isFinite_neg (x : Binary64) : (neg x).isFinite = x.isFinite := by
  rw [isFinite, isFinite, magnitude_neg]

theorem toReal_neg (x : Binary64) : (neg x).toReal = -x.toReal := by
  have habs : (neg x).absValue = x.absValue := by
    rw [absValue, absValue, significand, significand, exponent, exponent, magnitude_neg]
  rw [toReal, toReal, habs, negative_neg]
  cases x.negative
  · rfl
  · exact (neg_neg _).symm

theorem magnitude_abs (x : Binary64) : (abs x).magnitude = x.magnitude :=
  magnitude_ofParts _ x.magnitude_lt

theorem negative_abs (x : Binary64) : (abs x).negative = false :=
  negative_ofParts _ x.magnitude_lt

theorem isFinite_abs (x : Binary64) : (abs x).isFinite = x.isFinite := by
  rw [isFinite, isFinite, magnitude_abs]

theorem toReal_abs (x : Binary64) : (abs x).toReal = |x.toReal| := by
  rw [abs_toReal, toReal, negative_abs, if_neg Bool.false_ne_true]
  rw [absValue, absValue, significand, significand, exponent, exponent, magnitude_abs]

theorem rounds_addFinite (x y : Binary64) : Rounds (x.toReal + y.toReal) (addFinite x y) := by
  set e := min x.exponent y.exponent with he
  set m := x.signedSignificand * twoPow (x.exponent - e).toNat +
    y.signedSignificand * twoPow (y.exponent - e).toNat with hm
  have hsum : x.toReal + y.toReal = m * 2 ^ e := by
    rw [x.toReal_eq_mul (min_le_left _ y.exponent), y.toReal_eq_mul (min_le_right x.exponent _),
      ← add_mul, hm]
    push_cast
    rfl
  have hadd : addFinite x y = if m = 0 then ofParts (x.negative && y.negative) 0
      else ofScaled (m < 0) m.natAbs e := rfl
  rw [hadd, hsum]
  split_ifs with hzero
  · have hround := rounds_ofRatio (x.negative && y.negative) 0 Nat.one_pos
    rwa [Nat.cast_zero, zero_div, mul_zero, ← zero_mul ((2 : ℝ) ^ e), ← Int.cast_zero,
      ← hzero] at hround
  · have hround := rounds_ofScaled (m < 0) m.natAbs e
    rwa [← mul_assoc, signFactor_mul_natAbs] at hround

theorem rounds_add (hx : x.isFinite = true) (hy : y.isFinite = true) :
    Rounds (x.toReal + y.toReal) (add x y) := by
  rw [add, not_isNaN_of_isFinite hx, not_isNaN_of_isFinite hy, not_isInfinite_of_isFinite hx,
    not_isInfinite_of_isFinite hy]
  exact rounds_addFinite x y

theorem rounds_sub (hx : x.isFinite = true) (hy : y.isFinite = true) :
    Rounds (x.toReal - y.toReal) (sub x y) := by
  rw [sub, not_isNaN_of_isFinite hx, not_isNaN_of_isFinite hy, sub_eq_add_neg, ← toReal_neg]
  exact rounds_add hx ((isFinite_neg y).trans hy)

theorem rounds_mul (hx : x.isFinite = true) (hy : y.isFinite = true) :
    Rounds (x.toReal * y.toReal) (mul x y) := by
  have hmul : mul x y = ofScaled (x.negative != y.negative) (x.significand * y.significand)
      (x.exponent + y.exponent) := by
    simp [mul, not_isNaN_of_isFinite hx, not_isNaN_of_isFinite hy, not_isInfinite_of_isFinite hx,
      not_isInfinite_of_isFinite hy]
  have hproduct : x.toReal * y.toReal = signFactor (x.negative != y.negative)
      * ((x.significand * y.significand : ℕ) * 2 ^ (x.exponent + y.exponent)) := by
    rw [toReal_eq_signFactor_mul, toReal_eq_signFactor_mul, signFactor_bne, absValue, absValue,
      zpow_add₀ two_ne_zero]
    push_cast
    ring
  rw [hmul, hproduct]
  exact rounds_ofScaled _ _ _

theorem rounds_div (hx : x.isFinite = true) (hy : y.isFinite = true) (hne : y.toReal ≠ 0) :
    Rounds (x.toReal / y.toReal) (div x y) := by
  have hmagnitude : y.magnitude ≠ 0 := fun h => hne (toReal_eq_zero_iff.mpr h)
  have hsignificand : 0 < y.significand :=
    Nat.pos_of_ne_zero fun h => hmagnitude (significand_eq_zero_iff.mp h)
  obtain ⟨num, den, hden, hdiv, hratio⟩ :=
    exists_divFinite_eq (x.negative != y.negative) x hsignificand
  have heq : div x y = ofRatio (x.negative != y.negative) num den := by
    simp [div, not_isNaN_of_isFinite hx, not_isNaN_of_isFinite hy, not_isInfinite_of_isFinite hx,
      not_isInfinite_of_isFinite hy, hmagnitude, hdiv]
  have hquotient : x.toReal / y.toReal = signFactor (x.negative != y.negative) * (num / den) := by
    rw [hratio, toReal_eq_signFactor_mul, toReal_eq_signFactor_mul, signFactor_bne,
      mul_div_mul_comm, ← mul_div_mul_right _ _ (signFactor_ne_zero y.negative),
      signFactor_mul_self, div_one]
  rw [heq, hquotient]
  exact rounds_ofRatio _ num hden

/-! ### Operands of finite results -/

theorem isFinite_of_not_isNaN (hnan : x.isNaN ≠ true) (hinf : x.isInfinite ≠ true) :
    x.isFinite = true := by
  rw [isNaN, ne_eq, decide_eq_true_eq] at hnan
  rw [isInfinite, ne_eq, beq_iff_eq] at hinf
  rw [isFinite, decide_eq_true_eq]
  omega

/-- A value that is reported as a number is finite. -/
theorem isFinite_of_nonFinite? (h : Scalar.isFinite x = true) : x.isFinite = true := by
  have hnone : x.nonFinite? = none := Option.isNone_iff_eq_none.mp h
  rw [nonFinite?] at hnone
  split_ifs at hnone with hnan hinf
  · exact isFinite_of_not_isNaN hnan hinf

/-- A finite value is reported as a number. -/
theorem scalar_isFinite (h : x.isFinite = true) : Scalar.isFinite x = true := by
  show x.nonFinite?.isNone = true
  rw [nonFinite?, if_neg (by rw [not_isNaN_of_isFinite h]; exact Bool.false_ne_true),
    if_neg (by rw [not_isInfinite_of_isFinite h]; exact Bool.false_ne_true)]
  rfl

theorem isFinite_of_isFinite_add (h : (add x y).isFinite = true) :
    x.isFinite = true ∧ y.isFinite = true := by
  rw [add] at h
  split_ifs at h with hxnan hynan hxinf hinvalid hyinf
  · exact absurd hxnan (by simp [not_isNaN_of_isFinite h])
  · exact absurd hynan (by simp [not_isNaN_of_isFinite h])
  · exact absurd h (by decide)
  · exact absurd hxinf (by simp [not_isInfinite_of_isFinite h])
  · exact absurd hyinf (by simp [not_isInfinite_of_isFinite h])
  · exact ⟨isFinite_of_not_isNaN hxnan hxinf, isFinite_of_not_isNaN hynan hyinf⟩

theorem isFinite_of_isFinite_sub (h : (sub x y).isFinite = true) :
    x.isFinite = true ∧ y.isFinite = true := by
  rw [sub] at h
  split_ifs at h with hxnan hynan
  · exact absurd hxnan (by simp [not_isNaN_of_isFinite h])
  · exact absurd hynan (by simp [not_isNaN_of_isFinite h])
  · rw [← isFinite_neg y]
    exact isFinite_of_isFinite_add h

theorem isFinite_of_isFinite_square (h : (mul x x).isFinite = true) : x.isFinite = true := by
  have hinfinity : ∀ negative, (infinity negative).isFinite ≠ true := by decide
  rw [mul] at h
  split_ifs at h with hnan hinf hzero
  · exact absurd hnan (by simp [not_isNaN_of_isFinite h])
  · exact absurd h (by decide)
  · exact absurd h (hinfinity _)
  · exact isFinite_of_not_isNaN hnan hinf

/-! ### Sums -/

theorem exists_toReal_eq (x : Binary64) : ∃ m : ℤ, x.toReal = m * 2 ^ (-1074 : ℤ) :=
  ⟨_, x.toReal_eq_mul x.exponent_ge⟩

/-- **The error of a sum** is relative for the least values as well. -/
theorem abs_toReal_add_sub_le (hx : x.isFinite = true) (hy : y.isFinite = true)
    (hfinite : (add x y).isFinite = true) :
    |(add x y).toReal - (x.toReal + y.toReal)| ≤ |x.toReal + y.toReal| * 2 ^ (-53 : ℤ) := by
  obtain ⟨m, hm⟩ := x.exists_toReal_eq
  obtain ⟨n, hn⟩ := y.exists_toReal_eq
  refine (rounds_add hx hy).abs_sub_le_of_multiple (m + n) ?_ hfinite
  rw [hm, hn]
  push_cast
  ring

theorem abs_toReal_sub_sub_le (hx : x.isFinite = true) (hy : y.isFinite = true)
    (hfinite : (sub x y).isFinite = true) :
    |(sub x y).toReal - (x.toReal - y.toReal)| ≤ |x.toReal - y.toReal| * 2 ^ (-53 : ℤ) := by
  obtain ⟨m, hm⟩ := x.exists_toReal_eq
  obtain ⟨n, hn⟩ := y.exists_toReal_eq
  refine (rounds_sub hx hy).abs_sub_le_of_multiple (m - n) ?_ hfinite
  rw [hm, hn]
  push_cast
  ring

/-! ### Cancellation -/

/-- A value that is close to one of 1 or more is an integer at the place below that of the latter,
and their difference is a small one. -/
theorem exists_digits_of_close (hone : 1 ≤ |x.toReal|)
    (hclose : |x.toReal - y.toReal| ≤ 2 ^ (-47 : ℤ) * |x.toReal|) :
    ∃ k : ℤ, |k| ≤ 2 ^ 7 ∧ x.toReal - y.toReal = k * 2 ^ (x.exponent - 1) := by
  have hplace := exponent_ge_of_one_le hone
  have hlow := zpow_le_abs_toReal (show -1074 < x.exponent by omega)
  have hy : |x.toReal| / 2 ≤ |y.toReal| := by
    have htriangle := abs_sub_abs_le_abs_sub x.toReal y.toReal
    norm_num at hclose
    linarith
  have hplace' : x.exponent - 1 ≤ y.exponent := by
    have hlt : (2 : ℝ) ^ (52 + x.exponent - 1) < 2 ^ (53 + y.exponent) := by
      rw [← zpow_div_two]
      have := abs_toReal_lt_zpow y
      linarith
    have := (zpow_lt_zpow_iff_right₀ one_lt_two).mp hlt
    omega
  have hdifference : x.toReal - y.toReal
      = (x.signedSignificand * twoPow (x.exponent - (x.exponent - 1)).toNat
        - y.signedSignificand * twoPow (y.exponent - (x.exponent - 1)).toNat : ℤ)
          * 2 ^ (x.exponent - 1) := by
    rw [x.toReal_eq_mul (show x.exponent - 1 ≤ x.exponent by omega), y.toReal_eq_mul hplace',
      ← sub_mul]
    push_cast
    rfl
  refine ⟨_, ?_, hdifference⟩
  rw [hdifference, abs_mul_zpow] at hclose
  generalize x.signedSignificand * _ - y.signedSignificand * _ = k at hclose ⊢
  have hbound : |(k : ℝ)| * 2 ^ (x.exponent - 1) < 2 ^ (7 : ℤ) * 2 ^ (x.exponent - 1) :=
    calc |(k : ℝ)| * 2 ^ (x.exponent - 1) ≤ 2 ^ (-47 : ℤ) * |x.toReal| := hclose
      _ < 2 ^ (-47 : ℤ) * 2 ^ (53 + x.exponent) :=
          mul_lt_mul_of_pos_left (abs_toReal_lt_zpow x) (zpow_pos two_pos _)
      _ = 2 ^ (7 : ℤ) * 2 ^ (x.exponent - 1) := by
          rw [← zpow_add₀ two_ne_zero, ← zpow_add₀ two_ne_zero]
          congr 1
          ring
  have := (mul_lt_mul_iff_left₀ (zpow_pos two_pos (x.exponent - 1))).mp hbound
  exact_mod_cast this.le

/-- The place of that integer, where the values are not among the largest. -/
theorem exists_place_of_close (hone : 1 ≤ |x.toReal|)
    (hlarge : |x.toReal| ≤ 2 ^ (400 : ℤ))
    (hclose : |x.toReal - y.toReal| ≤ 2 ^ (-47 : ℤ) * |x.toReal|) :
    ∃ (k : ℤ) (e : ℤ), |k| ≤ 2 ^ 7 ∧ -1074 ≤ e ∧ e ≤ 969 ∧
      x.toReal - y.toReal = k * 2 ^ e := by
  obtain ⟨k, hk, hdigits⟩ := exists_digits_of_close hone hclose
  have hplace := exponent_ge_of_one_le hone
  have hlow := zpow_le_abs_toReal (show -1074 < x.exponent by omega)
  have hplace' := (zpow_le_zpow_iff_right₀ one_lt_two).mp (hlow.trans hlarge)
  exact ⟨k, _, hk, by omega, by omega, hdigits⟩

/-! ### Natural numbers -/

/-- A natural number of at most 53 binary digits is a value. -/
theorem toReal_ofNat {n : ℕ} (h : n ≤ 2 ^ 53) :
    (ofNat n).isFinite = true ∧ (ofNat n).toReal = n := by
  obtain ⟨hfinite, habs⟩ := absValue_ofRatio_one false h
  exact ⟨hfinite, (toReal_ofRatio_false n 1).trans habs⟩

end Operations

end Binary64

end InterRater
