import InterRater.Number.Tail
import InterRater.Proofs.Statistics.Correlation
import InterRater.Proofs.Statistics.RoundedDeviation
import InterRater.Proofs.Statistics.RoundedMean

/-!
# What rounded arithmetic takes for a constant series

Pearson's correlation is undefined where the rounded sum of the squared distances from the rounded
mean is 0, and that is where each of these distances has a square that is rounded to 0
(`spread_beq_zero_iff`): the series is `Flat`.

A flat series is one whose values are all but equal (`Flat.abs_sub_lt`), and a series of equal
values is flat if their mean is exact.  So among the series with digits enough for their sums, the
flat ones are the constant ones (`pearson_defined`).  The mean of three times 0.1 is not 0.1, and
this series is taken for one that varies; a series of two values that differ too little is taken for
a constant one (`pearson_defined_tenths`).
-/

namespace InterRater

namespace Binary64

variable {x y : Binary64}

/-! ### Sums of squares that are zero -/

/-- A distance whose square is rounded to zero. -/
structure Negligible (d : Binary64) : Prop where
  finite : d.isFinite = true
  small : d.toReal ^ 2 ≤ 2 ^ (-1075 : ℤ)

theorem beq_zero_iff : Scalar.beq x (ofParts false 0) = true ↔ x.magnitude = 0 := by
  have hzero : (ofParts false 0).isNaN = false ∧ (ofParts false 0).place = 0 := by decide
  rw [beq_iff, and_iff_right hzero.1, hzero.2, place]
  constructor
  · rintro ⟨-, hplace⟩
    split_ifs at hplace <;> omega
  · intro h
    refine ⟨not_isNaN_of_isFinite (isFinite_of_magnitude_eq_zero h), ?_⟩
    rw [h]
    split_ifs <;> rfl

theorem magnitude_square_eq_zero_iff (d : Binary64) :
    (mul d d).magnitude = 0 ↔ d.Negligible := by
  constructor
  · intro h
    have hfinite := isFinite_of_isFinite_square (isFinite_of_magnitude_eq_zero h)
    rw [(rounds_mul hfinite hfinite).magnitude_eq_zero_iff, ← pow_two,
      abs_of_nonneg (sq_nonneg _)] at h
    exact ⟨hfinite, h⟩
  · rintro ⟨hfinite, hsmall⟩
    rwa [(rounds_mul hfinite hfinite).magnitude_eq_zero_iff, ← pow_two,
      abs_of_nonneg (sq_nonneg _)]

/-- A sum of values without a sign is zero if both of them are. -/
theorem magnitude_add_eq_zero_iff (hx : x.SignFree) (hy : y.SignFree) :
    (add x y).magnitude = 0 ↔ x.magnitude = 0 ∧ y.magnitude = 0 := by
  constructor
  · intro h
    have hfinite := isFinite_of_magnitude_eq_zero h
    obtain ⟨hxfin, hyfin⟩ := isFinite_of_isFinite_add hfinite
    have hxnonneg := toReal_nonneg (hx (not_isNaN_of_isFinite hxfin))
    have hynonneg := toReal_nonneg (hy (not_isNaN_of_isFinite hyfin))
    -- A sum that is not zero keeps most of itself.
    have herror := abs_toReal_add_sub_le hxfin hyfin hfinite
    rw [toReal_eq_zero_iff.mpr h, zero_sub, abs_neg, abs_of_nonneg (by linarith)] at herror
    norm_num at herror
    exact ⟨toReal_eq_zero_iff.mp (by linarith), toReal_eq_zero_iff.mp (by linarith)⟩
  · rintro ⟨hx, hy⟩
    rw [(rounds_add (isFinite_of_magnitude_eq_zero hx)
      (isFinite_of_magnitude_eq_zero hy)).magnitude_eq_zero_iff, toReal_eq_zero_iff.mpr hx,
      toReal_eq_zero_iff.mpr hy, add_zero, abs_zero]
    exact (zpow_pos two_pos _).le

end Binary64

namespace Correlation

open Binary64

theorem magnitude_foldl_spread_eq_zero_iff (center : Binary64) {values : List Binary64} :
    ∀ {start : Binary64}, start.SignFree →
      ((values.foldl (fun total v => add total (mul (sub v center) (sub v center))) start).magnitude
        = 0 ↔ start.magnitude = 0 ∧ ∀ v ∈ values, (sub v center).Negligible) := by
  induction values with
  | nil => simp
  | cons v values ih =>
    intro start hstart
    have hsquare := signFree_square (sub v center)
    have hnext : (add start (mul (sub v center) (sub v center))).SignFree := by
      refine signFree_add ?_ hsquare
      exact (Bool.eq_false_or_eq_true start.isNaN).imp_right fun hnan =>
        (hstart.unsigned hnan).nonneg
    rw [List.foldl_cons, ih hnext, magnitude_add_eq_zero_iff hstart hsquare,
      magnitude_square_eq_zero_iff, List.forall_mem_cons, and_assoc]

/-- A spread is 0 where the squares of all distances are rounded to 0. -/
theorem spread_beq_zero_iff (values : List Binary64) (center : Binary64) :
    Scalar.beq (spread values center) (ofParts false 0) = true ↔
      ∀ v ∈ values, (sub v center).Negligible := by
  have hstart : (ofParts false 0).SignFree := fun _ => by decide
  have hzero : (ofParts false 0).magnitude = 0 := by decide
  rw [beq_zero_iff]
  exact (magnitude_foldl_spread_eq_zero_iff center hstart).trans (and_iff_right hzero)

/-! ### Flat series -/

/-- The distances of all values from the rounded mean have squares that are rounded to 0. -/
def Flat (values : List Binary64) : Prop :=
  ∀ v ∈ values, (sub v (Statistics.mean values)).Negligible

theorem defined_pearson_eq_false_iff {x y : List Binary64} (hlength : x.length = y.length)
    (hmany : 2 ≤ x.length) : (pearson x y).defined = false ↔ Flat x ∨ Flat y := by
  have hfst : (x.zip y).map (·.1) = x := List.map_fst_zip hlength.le
  have hsnd : (x.zip y).map (·.2) = y := List.map_snd_zip hlength.ge
  rw [pearson, defined_ofSamples_eq_false_iff (by rw [List.length_zip]; omega), hfst, hsnd]
  exact or_congr (spread_beq_zero_iff x _) (spread_beq_zero_iff y _)

/-- The values of a flat series lie at its mean, and the mean is a number. -/
theorem Flat.abs_sub_mean_lt {values : List Binary64} (h : Flat values) {v : Binary64}
    (hv : v ∈ values) : |v.toReal - (Statistics.mean values).toReal| < 2 ^ (-537 : ℤ) := by
  obtain ⟨hfinite, hsmall⟩ := h v hv
  obtain ⟨hvfin, hmean⟩ := isFinite_of_isFinite_sub hfinite
  have herror := abs_toReal_sub_sub_le hvfin hmean hfinite
  generalize (sub v (Statistics.mean values)).toReal = d at hsmall herror
  generalize v.toReal - (Statistics.mean values).toReal = r at herror ⊢
  have hpow : (2 : ℝ) ^ (-1075 : ℤ) = (2 ^ (-537 : ℤ)) ^ 2 / 2 := by
    rw [← zpow_natCast, ← zpow_mul, zpow_div_two]
    norm_num
  have hpos : (0 : ℝ) < 2 ^ (-537 : ℤ) := zpow_pos two_pos _
  rw [hpow] at hsmall
  generalize (2 : ℝ) ^ (-537 : ℤ) = h at hsmall hpos ⊢
  have hd : |d| < 3 / 4 * h := by
    refine abs_lt_of_sq_lt_sq (hsmall.trans_lt ?_) (by linarith)
    have := pow_pos hpos 2
    linarith
  have hr : |r| ≤ |d| + |d - r| := by
    have := abs_sub_abs_le_abs_sub r d
    rw [abs_sub_comm r d] at this
    linarith
  norm_num at herror
  linarith

/-- The values of a flat series are all but equal. -/
theorem Flat.abs_sub_lt {values : List Binary64} (h : Flat values) {v w : Binary64}
    (hv : v ∈ values) (hw : w ∈ values) : |v.toReal - w.toReal| < 2 ^ (-536 : ℤ) := by
  have hvm := h.abs_sub_mean_lt hv
  have hwm := h.abs_sub_mean_lt hw
  have hpow : (2 : ℝ) ^ (-536 : ℤ) = 2 ^ (-537 : ℤ) + 2 ^ (-537 : ℤ) := by
    rw [← two_mul, ← zpow_one_add₀ two_ne_zero]
    norm_num
  have htriangle := abs_sub_le v.toReal (Statistics.mean values).toReal w.toReal
  rw [abs_sub_comm w.toReal] at hwm
  rw [hpow]
  linarith

/-- All values are the same number. -/
def IsConstant (values : List Binary64) : Prop :=
  ∀ v ∈ values, ∀ w ∈ values, v.toReal = w.toReal

/-- All values are integers at one place, with digits enough for the sum of as many of the
largest. -/
structure HasSpareDigits (values : List Binary64) : Prop where
  length_le : values.length ≤ 2 ^ 53
  digits : ∃ e : ℤ, -536 ≤ e ∧ e ≤ 969 ∧
    ∀ v ∈ values, ∃ k : ℤ, v.toReal = k * 2 ^ e ∧ values.length * |k| ≤ 2 ^ 53

/-- Equal values whose mean is exact have no distances from it. -/
theorem flat_of_mean_eq {values : List Binary64} {c : ℝ}
    (h : ∀ v ∈ values, v.isFinite = true ∧ v.toReal = c)
    (hmean : (Statistics.mean values).isFinite = true ∧ (Statistics.mean values).toReal = c) :
    Flat values := by
  intro v hv
  obtain ⟨hfinite, hvc⟩ := h v hv
  have hround := rounds_sub hfinite hmean.1
  rw [hvc, hmean.2, sub_self] at hround
  have hzero : (sub v (Statistics.mean values)).magnitude = 0 := by
    rw [hround.magnitude_eq_zero_iff, abs_zero]
    exact (zpow_pos two_pos _).le
  refine ⟨isFinite_of_magnitude_eq_zero hzero, ?_⟩
  rw [toReal_eq_zero_iff.mpr hzero, zero_pow two_ne_zero]
  exact (zpow_pos two_pos _).le

/-- With digits to spare a series is flat if it is constant. -/
theorem HasSpareDigits.flat_iff {values : List Binary64} (h : HasSpareDigits values)
    (hne : values ≠ []) (hfinite : ∀ v ∈ values, v.isFinite = true) :
    Flat values ↔ IsConstant values := by
  obtain ⟨hlength, e, hlow, hhigh, hdigits⟩ := h
  constructor
  · intro hflat v hv w hw
    obtain ⟨j, hj, -⟩ := hdigits v hv
    obtain ⟨k, hk, -⟩ := hdigits w hw
    have hlt := hflat.abs_sub_lt hv hw
    -- Two integers that differ by less than 1 are equal.
    have hdistance : |((j - k : ℤ) : ℝ)| * 2 ^ e < 2 ^ e := by
      rw [← abs_mul_zpow]
      push_cast
      rw [sub_mul, ← hj, ← hk]
      exact hlt.trans_le (zpow_le_zpow_right₀ one_le_two hlow)
    have hlt_one : |((j - k : ℤ) : ℝ)| < 1 :=
      (mul_lt_iff_lt_one_left (zpow_pos two_pos e)).mp hdistance
    have hint : |j - k| < 1 := by exact_mod_cast hlt_one
    rw [hj, hk, sub_eq_zero.mp (Int.abs_lt_one_iff.mp hint)]
  · intro hconstant
    obtain ⟨v, hv⟩ := List.exists_mem_of_ne_nil values hne
    obtain ⟨k, hk, hdigits⟩ := hdigits v hv
    have hvalues : ∀ w ∈ values, w.isFinite = true ∧ w.toReal = k * 2 ^ e :=
      fun w hw => ⟨hfinite w hw, (hconstant w hw v hv).trans hk⟩
    exact flat_of_mean_eq hvalues
      (Statistics.toReal_mean_eq (by omega) hhigh hne hlength hdigits hvalues)

/-! ### Pearson's correlation -/

/-- **Undefined correlations** in rounded arithmetic.  Pearson's correlation of two series of
numbers is undefined, and then reported as 0 with p-value 1, if one of them is flat.  It is defined
if each has two values that are not too close to each other, and between series with digits to spare
it is undefined if one of them is constant. -/
theorem pearson_defined {x y : List Binary64} (hlength : x.length = y.length)
    (hmany : 2 ≤ x.length) (hx : ∀ v ∈ x, v.isFinite = true) (hy : ∀ v ∈ y, v.isFinite = true) :
    ((pearson x y).defined = false ↔ Flat x ∨ Flat y) ∧
    ((pearson x y).defined = false → pearson x y = ⟨0, 1, false⟩) ∧
    ((∃ v ∈ x, ∃ w ∈ x, 2 ^ (-536 : ℤ) ≤ |v.toReal - w.toReal|) →
      (∃ v ∈ y, ∃ w ∈ y, 2 ^ (-536 : ℤ) ≤ |v.toReal - w.toReal|) →
        (pearson x y).defined = true) ∧
    (HasSpareDigits x → HasSpareDigits y →
      ((pearson x y).defined = false ↔ IsConstant x ∨ IsConstant y)) := by
  have hflat := defined_pearson_eq_false_iff hlength hmany
  have hvaried : ∀ {values : List Binary64},
      (∃ v ∈ values, ∃ w ∈ values, 2 ^ (-536 : ℤ) ≤ |v.toReal - w.toReal|) → ¬ Flat values := by
    rintro values ⟨v, hv, w, hw, hfar⟩ hflat
    exact absurd (hflat.abs_sub_lt hv hw) hfar.not_gt
  refine ⟨hflat, fun hundefined => ?_, fun hxfar hyfar => ?_, fun hxdigits hydigits => ?_⟩
  · rcases ofSamples_cases (x.zip y) with heq | ⟨r, heq⟩
    · exact heq
    · rw [pearson, heq] at hundefined
      cases hundefined
  · rw [← Bool.not_eq_false, hflat]
    exact fun h => h.elim (hvaried hxfar) (hvaried hyfar)
  · have hxne : x ≠ [] := List.ne_nil_of_length_pos (by omega)
    have hyne : y ≠ [] := List.ne_nil_of_length_pos (by omega)
    rw [hflat, hxdigits.flat_iff hxne hx, hydigits.flat_iff hyne hy]

/-- Two ratings of 3 do not vary, whatever the others are. -/
theorem pearson_equal_ratings :
    pearson [ofNat 3, ofNat 3] [ofNat 1, ofNat 2] = ⟨0, 1, false⟩ := by
  have hvalue : ∀ n ≤ 2 ^ 53, (ofNat n).toReal = n := fun n hn => (toReal_ofNat hn).2
  have hx : HasSpareDigits [ofNat 3, ofNat 3] := by
    refine ⟨by simp, 0, by norm_num, by norm_num, fun v hv => ⟨3, ?_, by simp⟩⟩
    obtain rfl : v = ofNat 3 := by simpa using hv
    rw [hvalue 3 (by norm_num), zpow_zero, mul_one]
    norm_num
  have hy : HasSpareDigits [ofNat 1, ofNat 2] := by
    refine ⟨by simp, 0, by norm_num, by norm_num, fun v hv => ?_⟩
    rcases List.mem_cons.mp hv with rfl | hv
    · exact ⟨1, by rw [hvalue 1 (by norm_num)]; simp, by simp⟩
    · obtain rfl : v = ofNat 2 := by simpa using hv
      exact ⟨2, by rw [hvalue 2 (by norm_num)]; simp, by simp⟩
  obtain ⟨-, hundefined, -, hconstant⟩ :=
    pearson_defined (x := [ofNat 3, ofNat 3]) (y := [ofNat 1, ofNat 2]) rfl le_rfl (by decide)
      (by decide)
  refine hundefined ((hconstant hx hy).mpr (Or.inl fun v hv w hw => ?_))
  obtain rfl : v = ofNat 3 := by simpa using hv
  obtain rfl : w = ofNat 3 := by simpa using hw
  rfl

/-- A constant series is taken for one that varies if its mean does not come back, and a series that
varies little is taken for a constant one. -/
theorem pearson_defined_tenths :
    (IsConstant [0.1, 0.1, 0.1] ∧
      (pearson [0.1, 0.1, 0.1] [0.1, 0.1, (0.1 : Binary64)]).defined = true) ∧
    (¬ IsConstant [0, 1e-200] ∧ ¬ IsConstant [0, 1] ∧
      (pearson [0, 1e-200] [0, (1 : Binary64)]).defined = false) := by
  have hsplit : ∀ v : Binary64, v.magnitude ≠ 0 → ¬ IsConstant [0, v] := by
    intro v hv h
    have hzero : (0 : Binary64).toReal = 0 := toReal_eq_zero_iff.mpr (by decide +kernel)
    have heq := h v (by simp) 0 (by simp)
    exact hv (toReal_eq_zero_iff.mp (heq.trans hzero))
  refine ⟨⟨?_, by decide +kernel⟩, hsplit _ (by decide +kernel), hsplit _ (by decide +kernel),
    by decide +kernel⟩
  intro v hv w hw
  obtain rfl : v = 0.1 := by simpa using hv
  obtain rfl : w = 0.1 := by simpa using hw
  rfl

end Correlation

end InterRater
