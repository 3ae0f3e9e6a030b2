import InterRater.Proofs.Number.Rounding

/-!
# Signs of rounded values

Rounding keeps signs: sums and products of values that are not negative are not negative
(`nonneg_add`, `nonneg_mul`), nor are quotients (`unsigned_div`).  A natural number of 64 bits is
rounded to a finite value, which is 0 only for 0 (`isFinite_ofNat`, `magnitude_ofNat_ne_zero`).
-/

namespace InterRater

namespace Binary64

/-! ### The sign of a pattern -/

/-- A number without the sign bit. -/
structure Unsigned (x : Binary64) : Prop where
  isNaN : x.isNaN = false
  negative : x.negative = false

/-- A number that is not below 0.  The negative zero is one. -/
structure Nonneg (x : Binary64) : Prop where
  isNaN : x.isNaN = false
  magnitude : x.negative = true → x.magnitude = 0

theorem Unsigned.nonneg {x : Binary64} (h : x.Unsigned) : x.Nonneg :=
  ⟨h.isNaN, fun hneg => absurd hneg (by rw [h.negative]; decide)⟩

theorem Nonneg.negative {x : Binary64} (h : x.Nonneg) (hpos : x.magnitude ≠ 0) :
    x.negative = false :=
  Bool.eq_false_iff.mpr fun hneg => hpos (h.magnitude hneg)

theorem Nonneg.negative_of_isInfinite {x : Binary64} (h : x.Nonneg) (hinf : x.isInfinite = true) :
    x.negative = false :=
  h.negative ((beq_iff_eq.mp hinf).trans_ne (by decide))

theorem significand_eq_zero {x : Binary64} (h : x.magnitude = 0) : x.significand = 0 := by
  rw [significand, h]
  rfl

theorem Nonneg.signedSignificand {x : Binary64} (h : x.Nonneg) : 0 ≤ x.signedSignificand := by
  rw [Binary64.signedSignificand]
  split_ifs with hneg
  · rw [significand_eq_zero (h.magnitude hneg)]
    rfl
  · exact Int.natCast_nonneg _

/-- Sign and magnitude make up the pattern. -/
theorem toNat_bits (x : Binary64) :
    x.bits.toNat = x.magnitude + if x.negative then twoPow 63 else 0 := by
  have hlt : x.bits.toNat < 2 ^ 64 := x.bits.toNat_lt
  have hpow : twoPow 63 = 2 ^ 63 := rfl
  simp only [magnitude, negative, hpow, decide_eq_true_eq]
  split_ifs <;> omega

theorem Unsigned.ext {x y : Binary64} (hx : x.Unsigned) (hy : y.Unsigned)
    (h : x.magnitude = y.magnitude) : x = y := by
  have hbits : x.bits.toNat = y.bits.toNat := by
    rw [toNat_bits, toNat_bits, hx.negative, hy.negative, h]
  cases x
  cases y
  exact congrArg Binary64.mk (UInt64.toNat_inj.mp hbits)

/-! ### Rounding -/

theorem unsigned_ofRatio (num den : ℕ) : (ofRatio false num den).Unsigned :=
  ⟨isNaN_ofRatio false num den, negative_ofRatio false num den⟩

theorem isNaN_ofScaled (negative : Bool) (m : ℕ) (e : ℤ) :
    (ofScaled negative m e).isNaN = false := by
  rw [ofScaled]
  split_ifs <;> exact isNaN_ofRatio _ _ _

theorem negative_ofScaled (negative : Bool) (m : ℕ) (e : ℤ) :
    (ofScaled negative m e).negative = negative := by
  rw [ofScaled]
  split_ifs <;> exact negative_ofRatio _ _ _

theorem magnitude_ofScaled_zero (negative : Bool) (e : ℤ) :
    (ofScaled negative 0 e).magnitude = 0 := by
  rw [ofScaled]
  split_ifs <;> rw [magnitude_ofRatio, nearestMagnitude, if_pos (by simp)]

theorem unsigned_infinity : (infinity false).Unsigned :=
  ⟨by decide, by decide⟩

/-! ### Natural numbers -/

theorem unsigned_ofNat (n : ℕ) : (ofNat n).Unsigned :=
  unsigned_ofRatio n 1

/-- The last place of a natural number lies far from both ends of the places there are. -/
theorem lastPlace_natCast {n : ℕ} (hpos : 0 < n) (hlt : n < 2 ^ 64) :
    -53 < lastPlace n 1 ∧ lastPlace n 1 < 12 := by
  obtain ⟨-, hupper, hlower⟩ := lastPlace_spec hpos Nat.one_pos
  rw [Nat.cast_one, div_one] at hupper hlower
  have hone : (1 : ℝ) ≤ n := by exact_mod_cast hpos
  have habove : -53 < lastPlace n 1 := by
    by_contra hle
    have hsmall : (2 : ℝ) ^ (lastPlace n 1 + 53) ≤ 2 ^ (0 : ℤ) :=
      zpow_le_zpow_right₀ one_le_two (by omega)
    rw [zpow_zero] at hsmall
    linarith
  refine ⟨habove, ?_⟩
  by_contra hge
  have hlarge : (2 : ℝ) ^ (64 : ℤ) ≤ 2 ^ (lastPlace n 1 + 52) :=
    zpow_le_zpow_right₀ one_le_two (by omega)
  have hn : (n : ℝ) < 2 ^ (64 : ℤ) := by exact_mod_cast hlt
  rcases hlower with hleast | hlower
  · omega
  · linarith

theorem magnitude_ofNat_bounds {n : ℕ} (hpos : 0 < n) (hlt : n < 2 ^ 64) :
    0 < (ofNat n).magnitude ∧ (ofNat n).magnitude < infiniteMagnitude := by
  obtain ⟨hlow, hhigh⟩ := lastPlace_natCast hpos hlt
  have hround := roundScaled_lastPlace_le hpos Nat.one_pos
  have hpow : twoPow 52 = 2 ^ 52 := rfl
  rw [ofNat, magnitude_ofRatio]
  simp only [nearestMagnitude, if_neg hpos.ne', infiniteMagnitude, hpow]
  generalize lastPlace n 1 = e at *
  generalize roundScaled n 1 e = r at *
  omega

theorem isFinite_ofNat {n : ℕ} (hlt : n < 2 ^ 64) : (ofNat n).isFinite = true := by
  rcases Nat.eq_zero_or_pos n with rfl | hpos
  · decide
  · exact decide_eq_true (magnitude_ofNat_bounds hpos hlt).2

theorem isFinite_ofInt {n : ℤ} (hlt : n.natAbs < 2 ^ 64) : (ofInt n).isFinite = true := by
  rw [ofInt, isFinite, magnitude_ofRatio, ← magnitude_ofRatio false]
  exact isFinite_ofNat hlt

theorem magnitude_ofNat_ne_zero {n : ℕ} (hpos : 0 < n) (hlt : n < 2 ^ 64) :
    (ofNat n).magnitude ≠ 0 :=
  (magnitude_ofNat_bounds hpos hlt).1.ne'

/-! ### Operations -/

theorem nonneg_addFinite {x y : Binary64} (hx : x.Nonneg) (hy : y.Nonneg) :
    (addFinite x y).Nonneg ∧ (y.negative = false → (addFinite x y).negative = false) := by
  have hle : 0 ≤ x.signedSignificand * twoPow (x.exponent - min x.exponent y.exponent).toNat
      + y.signedSignificand * twoPow (y.exponent - min x.exponent y.exponent).toNat :=
    add_nonneg (mul_nonneg hx.signedSignificand (Int.natCast_nonneg _))
      (mul_nonneg hy.signedSignificand (Int.natCast_nonneg _))
  rw [addFinite]
  simp only [decide_eq_false hle.not_gt]
  split_ifs
  · -- A sum of zeros is a negative zero if both are.
    have hzero : (0 : ℕ) < twoPow 63 := twoPow_pos 63
    refine ⟨⟨?_, fun _ => magnitude_ofParts _ hzero⟩, fun hneg => ?_⟩
    · rw [isNaN, magnitude_ofParts _ hzero]
      rfl
    · rw [negative_ofParts _ hzero, hneg, Bool.and_false]
  · have hsum := negative_ofScaled false
    exact ⟨⟨isNaN_ofScaled _ _ _, fun hneg => absurd hneg (by rw [hsum]; decide)⟩,
      fun _ => hsum _ _⟩

/-- A sum of values that are not negative is not negative, and has no sign bit if the second of
them has none. -/
theorem nonneg_add {x y : Binary64} (hx : x.Nonneg) (hy : y.Nonneg) :
    (add x y).Nonneg ∧ (y.negative = false → (add x y).negative = false) := by
  rw [add, hx.isNaN, hy.isNaN, if_neg Bool.false_ne_true, if_neg Bool.false_ne_true]
  split_ifs with hxinf hyinf hyinf
  · -- Infinities that cancel have different signs.
    rw [hx.negative_of_isInfinite hxinf] at hyinf
    rw [Bool.and_eq_true] at hyinf
    rw [hy.negative_of_isInfinite hyinf.1] at hyinf
    exact absurd hyinf.2 (by decide)
  · exact ⟨hx, fun _ => hx.negative_of_isInfinite hxinf⟩
  · exact ⟨hy, id⟩
  · exact nonneg_addFinite hx hy

/-- A product of values that are not negative is not negative, unless it is that of 0 and
infinity. -/
theorem nonneg_mul {x y : Binary64} (hx : x.Nonneg) (hy : y.Nonneg)
    (hxy : x.isInfinite = true → y.magnitude ≠ 0) (hyx : y.isInfinite = true → x.magnitude ≠ 0) :
    (mul x y).Nonneg ∧ (x.negative = false → y.negative = false → (mul x y).negative = false) := by
  have hinfinity := unsigned_infinity
  rw [mul, hx.isNaN, hy.isNaN, if_neg Bool.false_ne_true, if_neg Bool.false_ne_true]
  split_ifs with hxinf hyzero hyinf hxzero
  · exact absurd hyzero (hxy hxinf)
  · rw [hx.negative_of_isInfinite hxinf, hy.negative hyzero]
    exact ⟨hinfinity.nonneg, fun _ _ => hinfinity.negative⟩
  · exact absurd hxzero (hyx hyinf)
  · rw [hy.negative_of_isInfinite hyinf, hx.negative hxzero]
    exact ⟨hinfinity.nonneg, fun _ _ => hinfinity.negative⟩
  · refine ⟨⟨isNaN_ofScaled _ _ _, fun hneg => ?_⟩, fun hxneg hyneg => ?_⟩
    · rw [negative_ofScaled] at hneg
      have hzero : x.significand * y.significand = 0 := by
        rcases Bool.eq_false_or_eq_true x.negative with hxneg | hxneg
        · rw [significand_eq_zero (hx.magnitude hxneg), Nat.zero_mul]
        · rw [hxneg] at hneg
          rw [significand_eq_zero (hy.magnitude (by simpa using hneg)), Nat.mul_zero]
      rw [hzero, magnitude_ofScaled_zero]
    · rw [negative_ofScaled, hxneg, hyneg]
      rfl

theorem unsigned_div {x y : Binary64} (hx : x.Unsigned) (hy : y.Unsigned)
    (hfinite : y.isFinite = true) (hpos : y.magnitude ≠ 0) : (div x y).Unsigned := by
  rw [div, hx.isNaN, hy.isNaN, hx.negative, hy.negative, if_neg Bool.false_ne_true,
    if_neg Bool.false_ne_true, not_isInfinite_of_isFinite hfinite, if_neg Bool.false_ne_true,
    if_neg Bool.false_ne_true, if_neg hpos]
  split_ifs
  · exact unsigned_infinity
  · rw [divFinite]
    split_ifs <;> exact unsigned_ofRatio _ _

end Binary64

end InterRater
