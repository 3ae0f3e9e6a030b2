import InterRater.Proofs.Number.SquareRoot
import InterRater.Proofs.Statistics.RoundedDeviation
import InterRater.Proofs.Statistics.RoundedMean

/-!
# The deviation of equal values

Equal values have no deviation, but in rounded arithmetic their distances from the mean are those by
which the mean errs.  The deviation is then at most 1.45 times the error of the mean
(`toReal_sampleDeviation_le`); the factor is little more than the root of 2, to which the divisor
`n - 1` brings it for two values.
-/

namespace InterRater

namespace Statistics

open Binary64

variable {values : List Binary64} {c δ : ℝ}

/-- The sizes of error that leave room on both sides of their squares. -/
structure Moderate (δ : ℝ) : Prop where
  low : 2 ^ (-500 : ℤ) ≤ δ
  high : δ ≤ 2 ^ (400 : ℤ)

theorem Moderate.pos (h : Moderate δ) : 0 < δ :=
  (zpow_pos two_pos _).trans_le h.low

/-- Multiples of the square are neither among the least values nor among the largest. -/
theorem Moderate.mul_sq (h : Moderate δ) (factor : ℝ) (hone : 1 ≤ factor)
    (hfactor : factor ≤ 2 ^ (100 : ℤ)) :
    2 ^ (-1022 : ℤ) ≤ factor * δ ^ 2 ∧ factor * δ ^ 2 ≤ 2 ^ (900 : ℤ) := by
  have hlow : (2 : ℝ) ^ (-1000 : ℤ) ≤ δ ^ 2 := by
    have := pow_le_pow_left₀ (zpow_pos two_pos _).le h.low 2
    rwa [← zpow_natCast, ← zpow_mul] at this
  have hhigh : δ ^ 2 ≤ 2 ^ (800 : ℤ) := by
    have := pow_le_pow_left₀ h.pos.le h.high 2
    rwa [← zpow_natCast (2 ^ (400 : ℤ)) 2, ← zpow_mul] at this
  constructor
  · calc (2 : ℝ) ^ (-1022 : ℤ) ≤ 2 ^ (-1000 : ℤ) := zpow_le_zpow_right₀ one_le_two (by norm_num)
      _ ≤ δ ^ 2 := hlow
      _ ≤ factor * δ ^ 2 := le_mul_of_one_le_left (sq_nonneg δ) hone
  · exact mul_le_zpow hfactor hhigh (sq_nonneg δ)

/-- The squared distance of a value from a mean that errs by `δ`. -/
theorem square_sub_le (hδ : Moderate δ) {v m : Binary64} (hv : v.isFinite = true)
    (hm : m.isFinite = true) (herror : |v.toReal - m.toReal| ≤ δ) :
    (mul (sub v m) (sub v m)).isFinite = true ∧
      |(mul (sub v m) (sub v m)).toReal| ≤ (1 + 2 ^ (-50 : ℤ)) * δ ^ 2 := by
  obtain ⟨hdistance, hle⟩ := (rounds_sub hv hm).abs_toReal_le herror
    ((zpow_le_zpow_right₀ one_le_two (by norm_num)).trans hδ.low) hδ.high (by norm_num)
  have hsquare : |(sub v m).toReal * (sub v m).toReal| ≤ (1 + 2 ^ (-52 : ℤ)) ^ 2 * δ ^ 2 := by
    rw [← pow_two, abs_pow, ← mul_pow]
    exact pow_le_pow_left₀ (abs_nonneg _) hle 2
  obtain ⟨hlow, hhigh⟩ := hδ.mul_sq ((1 + 2 ^ (-52 : ℤ)) ^ 2) (by norm_num) (by norm_num)
  obtain ⟨hfinite, hround⟩ := (rounds_mul hdistance hdistance).abs_toReal_le hsquare hlow hhigh
    (by norm_num)
  refine ⟨hfinite, hround.trans ?_⟩
  rw [← mul_assoc]
  exact mul_le_mul_of_nonneg_right (by norm_num) (sq_nonneg δ)

theorem sum_map_le {values : List Binary64} {b : ℝ} (h : ∀ v ∈ values, v.toReal ≤ b) :
    (values.map toReal).sum ≤ values.length * b := by
  have hsum := List.sum_le_card_nsmul (values.map toReal) b (List.forall_mem_map.mpr h)
  rwa [List.length_map, nsmul_eq_mul] at hsum

/-- The sum of the squared distances from a mean that errs by `δ`. -/
theorem toReal_squaredDeviations_le (hδ : Moderate δ) (hn : values.length ≤ 2 ^ 32)
    (hfinite : ∀ v ∈ values, v.isFinite = true) (hmean : (mean values).isFinite = true)
    (herror : ∀ v ∈ values, |v.toReal - (mean values).toReal| ≤ δ) :
    (squaredDeviations values).isFinite = true ∧
      (squaredDeviations values).toReal ≤ values.length * ((1 + 2 ^ (-19 : ℤ)) * δ ^ 2) := by
  set squares := values.map fun v => mul (sub v (mean values)) (sub v (mean values)) with hsquares
  have hlength : squares.length = values.length := List.length_map _
  have hbound : ∀ q ∈ squares, q.isFinite = true ∧ |q.toReal| ≤ (1 + 2 ^ (-50 : ℤ)) * δ ^ 2 :=
    List.forall_mem_map.mpr fun v hv => square_sub_le hδ (hfinite v hv) hmean (herror v hv)
  obtain ⟨-, hhigh⟩ := hδ.mul_sq (1 + 2 ^ (-50 : ℤ)) (by norm_num) (by norm_num)
  obtain ⟨hsum, hnear⟩ := abs_toReal_sum_sub_le hhigh (by omega) hbound
  refine ⟨hsum, ?_⟩
  have hexact := sum_map_le fun q hq => (le_abs_self _).trans (hbound q hq).2
  rw [hlength] at hexact hnear
  have hroom : sumError values.length * ((1 + 2 ^ (-50 : ℤ)) * δ ^ 2)
      ≤ values.length * 2 ^ (-20 : ℤ) * ((1 + 2 ^ (-50 : ℤ)) * δ ^ 2) :=
    mul_le_mul_of_nonneg_right (sumError_le hn) (by positivity)
  calc (squaredDeviations values).toReal
      ≤ values.length * ((1 + 2 ^ (-50 : ℤ)) * δ ^ 2)
          + values.length * 2 ^ (-20 : ℤ) * ((1 + 2 ^ (-50 : ℤ)) * δ ^ 2) := by
        have hle : (squaredDeviations values).toReal - (squares.map toReal).sum
            ≤ sumError values.length * ((1 + 2 ^ (-50 : ℤ)) * δ ^ 2) := (abs_le.mp hnear).2
        linarith
    _ = values.length * ((1 + 2 ^ (-20 : ℤ)) * (1 + 2 ^ (-50 : ℤ)) * δ ^ 2) := by ring
    _ ≤ values.length * ((1 + 2 ^ (-19 : ℤ)) * δ ^ 2) := by
        refine mul_le_mul_of_nonneg_left ?_ (Nat.cast_nonneg _)
        exact mul_le_mul_of_nonneg_right (by norm_num) (sq_nonneg δ)

/-- The variance of values whose mean errs by `δ`: the divisor is at least half of their number. -/
theorem variance_le (hδ : Moderate δ) (hmany : 2 ≤ values.length)
    (hn : values.length ≤ 2 ^ 32) (hfinite : ∀ v ∈ values, v.isFinite = true)
    (hmean : (mean values).isFinite = true)
    (herror : ∀ v ∈ values, |v.toReal - (mean values).toReal| ≤ δ) :
    (div (squaredDeviations values) (ofNat (values.length - 1))).isFinite = true ∧
      (div (squaredDeviations values) (ofNat (values.length - 1))).negative = false ∧
      (div (squaredDeviations values) (ofNat (values.length - 1))).toReal
        ≤ (1 + 2 ^ (-52 : ℤ)) * (2 * (1 + 2 ^ (-19 : ℤ)) * δ ^ 2) := by
  obtain ⟨hsum, hsum'⟩ := toReal_squaredDeviations_le hδ hn hfinite hmean herror
  obtain ⟨hcount, hcount'⟩ := toReal_ofNat (n := values.length - 1) (by omega)
  have hcount_pos : (0 : ℝ) < (values.length - 1 : ℕ) := by
    exact_mod_cast (show 0 < values.length - 1 by omega)
  have hsignFree : (squaredDeviations values).SignFree :=
    signFree_squaredDeviations (List.ne_nil_of_length_pos (by omega))
  have hsum_nonneg : 0 ≤ (squaredDeviations values).toReal :=
    toReal_nonneg (hsignFree (not_isNaN_of_isFinite hsum))
  have hquotient : |(squaredDeviations values).toReal / (values.length - 1 : ℕ)|
      ≤ 2 * (1 + 2 ^ (-19 : ℤ)) * δ ^ 2 := by
    rw [abs_of_nonneg (div_nonneg hsum_nonneg hcount_pos.le), div_le_iff₀ hcount_pos]
    have hhalf : (values.length : ℝ) ≤ 2 * (values.length - 1 : ℕ) := by
      exact_mod_cast (show values.length ≤ 2 * (values.length - 1) by omega)
    calc (squaredDeviations values).toReal
        ≤ values.length * ((1 + 2 ^ (-19 : ℤ)) * δ ^ 2) := hsum'
      _ ≤ 2 * (values.length - 1 : ℕ) * ((1 + 2 ^ (-19 : ℤ)) * δ ^ 2) :=
          mul_le_mul_of_nonneg_right hhalf (by positivity)
      _ = 2 * (1 + 2 ^ (-19 : ℤ)) * δ ^ 2 * (values.length - 1 : ℕ) := by ring
  obtain ⟨hlow, hhigh⟩ := hδ.mul_sq (2 * (1 + 2 ^ (-19 : ℤ))) (by norm_num) (by norm_num)
  have hround := rounds_div hsum hcount (by rw [hcount']; exact hcount_pos.ne')
  rw [hcount'] at hround
  obtain ⟨hvariance, hvariance'⟩ := hround.abs_toReal_le hquotient hlow hhigh (by norm_num)
  have hsign : (div (squaredDeviations values) (ofNat (values.length - 1))).negative = false :=
    signFree_div hsignFree (unsigned_ofNat _) (not_isNaN_of_isFinite hvariance)
  exact ⟨hvariance, hsign, (le_abs_self _).trans hvariance'⟩

/-- **The deviation that rounding leaves** to values whose mean errs by `δ`. -/
theorem toReal_sampleDeviation_le (hδ : Moderate δ) (hmany : 2 ≤ values.length)
    (hn : values.length ≤ 2 ^ 32) (hfinite : ∀ v ∈ values, v.isFinite = true)
    (hmean : (mean values).isFinite = true)
    (herror : ∀ v ∈ values, |v.toReal - (mean values).toReal| ≤ δ) :
    (sampleDeviation values).isFinite = true ∧
      (sampleDeviation values).toReal ≤ 29 / 20 * δ := by
  obtain ⟨hvariance, hsign, hle⟩ := variance_le hδ hmany hn hfinite hmean herror
  have hdeviation : sampleDeviation values
      = sqrt (div (squaredDeviations values) (ofNat (values.length - 1))) :=
    if_neg (by omega)
  obtain ⟨hroot, -, hroot'⟩ := toReal_sqrt_le hvariance hsign
  rw [hdeviation]
  refine ⟨hroot, hroot'.trans ?_⟩
  generalize (div (squaredDeviations values) (ofNat (values.length - 1))).toReal = variance at *
  have hpos := hδ.pos
  have hroot_le : √variance ≤ 2899 / 2000 * δ := by
    rw [Real.sqrt_le_left (by positivity)]
    calc variance ≤ (1 + 2 ^ (-52 : ℤ)) * (2 * (1 + 2 ^ (-19 : ℤ)) * δ ^ 2) := hle
      _ ≤ (2899 / 2000) ^ 2 * δ ^ 2 := by
          rw [← mul_assoc]
          exact mul_le_mul_of_nonneg_right (by norm_num) (sq_nonneg δ)
      _ = (2899 / 2000 * δ) ^ 2 := (mul_pow _ _ _).symm
  have hleast : (2 : ℝ) ^ (-1075 : ℤ) ≤ 2 ^ (-53 : ℤ) * δ :=
    calc (2 : ℝ) ^ (-1075 : ℤ) ≤ 2 ^ (-53 + -500 : ℤ) :=
          zpow_le_zpow_right₀ one_le_two (by norm_num)
      _ = 2 ^ (-53 : ℤ) * 2 ^ (-500 : ℤ) := zpow_add₀ two_ne_zero _ _
      _ ≤ 2 ^ (-53 : ℤ) * δ := mul_le_mul_of_nonneg_left hδ.low (zpow_pos two_pos _).le
  calc √variance * (1 + 2 ^ (-52 : ℤ)) + 2 ^ (-1075 : ℤ)
      ≤ 2899 / 2000 * δ * (1 + 2 ^ (-52 : ℤ)) + 2 ^ (-53 : ℤ) * δ :=
        add_le_add (mul_le_mul_of_nonneg_right hroot_le (by positivity)) hleast
    _ = (2899 / 2000 * (1 + 2 ^ (-52 : ℤ)) + 2 ^ (-53 : ℤ)) * δ := by ring
    _ ≤ 29 / 20 * δ := mul_le_mul_of_nonneg_right (by norm_num) hpos.le

end Statistics

end InterRater
