import InterRater.Proofs.Number.Operations
import InterRater.Statistics.Moments
import Mathlib.Tactic.LinearCombination

/-!
# Sums and means in rounded arithmetic

A sum of `n` values up to `b` that is rounded after each addition errs by about `n²b / 2` units of
`2⁻⁵³` (`abs_toReal_sum_sub_le`), so that the mean of equal values `c` comes back with an error of
about `(n + 3)|c| / 2` of them (`abs_toReal_mean_sub_le`).

It comes back exactly if there are digits enough for all the sums on the way (`toReal_mean_eq`).
-/

namespace InterRater

namespace Statistics

open Binary64

/-! ### The error of a sum -/

/-- Half the relative error of one rounding, with room for the errors that errors make. -/
noncomputable def errorUnit : ℝ :=
  (1 + 1 / twoPow 20) / twoPow 54

/-- The error of a sum of `n` values, in units of the largest of them. -/
noncomputable def sumError (n : ℕ) : ℝ :=
  n * ((n + 1) * errorUnit)

theorem errorUnit_eq : errorUnit = 2 ^ (-54 : ℤ) * (1 + 2 ^ (-20 : ℤ)) := by
  rw [errorUnit, twoPow, twoPow]
  norm_num

theorem errorUnit_pos : 0 < errorUnit := by
  rw [errorUnit_eq]
  positivity

/-- Errors of errors are few for the numbers of values that fit in memory. -/
theorem add_three_mul_errorUnit_le {n : ℕ} (hn : n ≤ 2 ^ 32) :
    (n + 3) * errorUnit ≤ 2 ^ (-20 : ℤ) := by
  have hn : (n : ℝ) ≤ 2 ^ 32 := by exact_mod_cast hn
  rw [errorUnit_eq]
  norm_num
  linarith

theorem sumError_le {n : ℕ} (hn : n ≤ 2 ^ 32) : sumError n ≤ n * 2 ^ (-20 : ℤ) := by
  refine mul_le_mul_of_nonneg_left ?_ (Nat.cast_nonneg n)
  have := add_three_mul_errorUnit_le hn
  have := errorUnit_pos
  linarith

theorem two_mul_errorUnit : 2 * errorUnit = 2 ^ (-53 : ℤ) * (1 + 2 ^ (-20 : ℤ)) := by
  rw [errorUnit_eq]
  norm_num

/-- One more addition, to a sum that has erred already. -/
theorem sumError_succ {n : ℕ} (hn : n ≤ 2 ^ 32) :
    sumError n + (n + 1 + sumError n) * 2 ^ (-53 : ℤ) ≤ sumError (n + 1) := by
  have hroom : n * errorUnit ≤ 2 ^ (-20 : ℤ) := by
    have := add_three_mul_errorUnit_le hn
    have := errorUnit_pos
    linarith
  have hunit := two_mul_errorUnit
  rw [sumError, sumError]
  push_cast
  have hpos : (0 : ℝ) ≤ (n + 1) * 2 ^ (-53 : ℤ) := by positivity
  generalize (2 : ℝ) ^ (-20 : ℤ) = t at *
  generalize (2 : ℝ) ^ (-53 : ℤ) = u at *
  linear_combination mul_le_mul_of_nonneg_left hroom hpos - (n + 1) * hunit

section Sum

variable {b : ℝ} {x v : Binary64} {exact : ℝ} {n : ℕ}

/-- What one addition does to the error of a sum. -/
theorem add_near (hb : b ≤ 2 ^ (900 : ℤ)) (hn : n ≤ 2 ^ 32) (hx : x.isFinite = true)
    (hv : v.isFinite = true) (hvb : |v.toReal| ≤ b) (hexact : |exact| ≤ n * b)
    (herror : |x.toReal - exact| ≤ sumError n * b) :
    (add x v).isFinite = true ∧
      |(add x v).toReal - (exact + v.toReal)| ≤ sumError (n + 1) * b := by
  have hb0 : 0 ≤ b := (abs_nonneg _).trans hvb
  have hsum : |x.toReal + v.toReal| ≤ (n + 1 + sumError n) * b := by
    have hsplit : x.toReal + v.toReal = x.toReal - exact + exact + v.toReal := by ring
    have habs := abs_add_three (x.toReal - exact) exact v.toReal
    rw [hsplit]
    linarith
  have hfinite : (add x v).isFinite = true := by
    have hn' : (n : ℝ) ≤ 2 ^ 32 := by exact_mod_cast hn
    have hcount : n + 1 + sumError n ≤ (2 : ℝ) ^ (33 : ℤ) := by
      have := sumError_le hn
      norm_num at this ⊢
      linarith
    exact (rounds_add hx hv).isFinite_of_le (hsum.trans (mul_le_zpow hcount hb hb0)) (by norm_num)
  refine ⟨hfinite, ?_⟩
  have hround := abs_toReal_add_sub_le hx hv hfinite
  have hsplit : (add x v).toReal - (exact + v.toReal)
      = (add x v).toReal - (x.toReal + v.toReal) + (x.toReal - exact) := by ring
  calc |(add x v).toReal - (exact + v.toReal)|
      ≤ |(add x v).toReal - (x.toReal + v.toReal)| + |x.toReal - exact| := by
        rw [hsplit]
        exact abs_add_le _ _
    _ ≤ (n + 1 + sumError n) * b * 2 ^ (-53 : ℤ) + sumError n * b :=
        add_le_add (hround.trans (mul_le_mul_of_nonneg_right hsum (zpow_pos two_pos _).le)) herror
    _ = (sumError n + (n + 1 + sumError n) * 2 ^ (-53 : ℤ)) * b := by ring
    _ ≤ sumError (n + 1) * b := mul_le_mul_of_nonneg_right (sumError_succ hn) hb0

end Sum

theorem foldl_add_near {b : ℝ} (hb : b ≤ 2 ^ (900 : ℤ)) {values : List Binary64}
    (h : ∀ v ∈ values, v.isFinite = true ∧ |v.toReal| ≤ b) :
    ∀ (start : Binary64) (n : ℕ) (exact : ℝ), n + values.length ≤ 2 ^ 32 →
      start.isFinite = true → |exact| ≤ n * b → |start.toReal - exact| ≤ sumError n * b →
      (values.foldl add start).isFinite = true ∧
        |(values.foldl add start).toReal - (exact + (values.map toReal).sum)|
          ≤ sumError (n + values.length) * b := by
  induction values with
  | nil =>
    intro start n exact _ hfinite _ herror
    refine ⟨hfinite, ?_⟩
    simpa using herror
  | cons v values ih =>
    intro start n exact hn hfinite hexact herror
    obtain ⟨⟨hv, hvb⟩, hvalues⟩ := List.forall_mem_cons.mp h
    rw [List.length_cons] at hn
    obtain ⟨hfinite, herror⟩ := add_near hb (by omega) hfinite hv hvb hexact herror
    have hexact : |exact + v.toReal| ≤ (n + 1 : ℕ) * b := by
      have := abs_add_le exact v.toReal
      push_cast
      linarith
    have hrest := ih hvalues _ (n + 1) _ (by omega) hfinite hexact herror
    rw [List.foldl_cons, List.map_cons, List.sum_cons, List.length_cons, ← add_assoc exact,
      Nat.add_comm values.length, ← Nat.add_assoc]
    exact hrest

/-- **The error of a rounded sum** grows with the square of the number of values. -/
theorem abs_toReal_sum_sub_le {b : ℝ} (hb : b ≤ 2 ^ (900 : ℤ)) {values : List Binary64}
    (hn : values.length ≤ 2 ^ 32) (h : ∀ v ∈ values, v.isFinite = true ∧ |v.toReal| ≤ b) :
    (Scalar.sum values).isFinite = true ∧
      |(Scalar.sum values).toReal - (values.map toReal).sum| ≤ sumError values.length * b := by
  have hstart : (neg (ofParts false 0)).toReal = 0 := toReal_eq_zero_iff.mpr (by decide)
  have hnear := foldl_add_near hb h (neg (ofParts false 0)) 0 0 (by omega) (by decide) (by simp)
    (by simp [hstart, sumError])
  rwa [zero_add, Nat.zero_add] at hnear

theorem sum_map_of_forall_eq {values : List Binary64} {c : ℝ} (h : ∀ v ∈ values, v.toReal = c) :
    (values.map toReal).sum = values.length * c := by
  rw [List.map_congr_left h, List.map_const', List.sum_replicate, nsmul_eq_mul]

/-! ### The mean of equal values -/

theorem mean_of_ne_nil {values : List Binary64} (hne : values ≠ []) :
    mean values = div (Scalar.sum values) (ofNat values.length) := by
  rw [mean, if_neg (by simp [hne])]
  rfl

section Mean

variable {values : List Binary64} {c : ℝ}

/-- **The error of a rounded mean** of equal values. -/
theorem abs_toReal_mean_sub_le (hne : values ≠ []) (hn : values.length ≤ 2 ^ 32)
    (hc : |c| ≤ 2 ^ (900 : ℤ)) (h : ∀ v ∈ values, v.isFinite = true ∧ v.toReal = c) :
    (mean values).isFinite = true ∧ |(mean values).toReal - c|
      ≤ (values.length + 3) * errorUnit * |c| + 2 ^ (-1075 : ℤ) := by
  obtain ⟨hsum, herror⟩ := abs_toReal_sum_sub_le hc hn
    fun v hv => ⟨(h v hv).1, by rw [(h v hv).2]⟩
  rw [sum_map_of_forall_eq fun v hv => (h v hv).2] at herror
  obtain ⟨hcount, hcount'⟩ := toReal_ofNat (n := values.length) (by omega)
  have hpos : (0 : ℝ) < values.length := by
    exact_mod_cast List.length_pos_of_ne_nil hne
  set q := (Scalar.sum values).toReal / values.length with hq
  have hquotient : |q - c| ≤ (values.length + 1) * errorUnit * |c| := by
    have hsplit : q - c = ((Scalar.sum values).toReal - values.length * c) / values.length := by
      rw [hq, sub_div, mul_div_cancel_left₀ _ hpos.ne']
    rw [hsplit, abs_div, abs_of_pos hpos, div_le_iff₀ hpos]
    calc _ ≤ sumError values.length * |c| := herror
      _ = _ := by
        rw [sumError]
        ring
  have hq' : |q| ≤ (1 + 2 ^ (-20 : ℤ)) * |c| := by
    have habs := abs_add_le (q - c) c
    have hroom : (values.length + 1) * errorUnit * |c| ≤ 2 ^ (-20 : ℤ) * |c| := by
      refine mul_le_mul_of_nonneg_right ?_ (abs_nonneg c)
      have := add_three_mul_errorUnit_le hn
      have := errorUnit_pos
      linarith
    rw [sub_add_cancel] at habs
    linarith
  have hround : Rounds q (mean values) := by
    have := rounds_div hsum hcount (by rw [hcount']; exact hpos.ne')
    rwa [hcount', ← mean_of_ne_nil hne] at this
  have hfinite : (mean values).isFinite = true := by
    have hfactor : 1 + (2 : ℝ) ^ (-20 : ℤ) ≤ 2 ^ (1 : ℤ) := by norm_num
    exact hround.isFinite_of_le (hq'.trans (mul_le_zpow hfactor hc (abs_nonneg c))) (by norm_num)
  refine ⟨hfinite, ?_⟩
  have hrounding : |q| * 2 ^ (-53 : ℤ) ≤ 2 * errorUnit * |c| := by
    rw [two_mul_errorUnit, mul_assoc, mul_comm |q|]
    exact mul_le_mul_of_nonneg_left hq' (zpow_pos two_pos _).le
  have hsplit : (mean values).toReal - c = (mean values).toReal - q + (q - c) := by ring
  calc |(mean values).toReal - c| ≤ |(mean values).toReal - q| + |q - c| := by
        rw [hsplit]
        exact abs_add_le _ _
    _ ≤ |q| * 2 ^ (-53 : ℤ) + 2 ^ (-1075 : ℤ) + (values.length + 1) * errorUnit * |c| :=
        add_le_add (hround.abs_sub_le hfinite) hquotient
    _ ≤ (values.length + 3) * errorUnit * |c| + 2 ^ (-1075 : ℤ) := by linarith

/-! ### Exact sums -/

/-- One more addition of a value that is `k` units, to a sum of `j` of them. -/
theorem add_exact {x v : Binary64} {k j : ℤ} {e : ℤ} (hlow : -1074 ≤ e) (hhigh : e ≤ 969)
    (hdigits : |j + k| ≤ 2 ^ 53) (hx : x.isFinite = true) (hv : v.isFinite = true)
    (hxj : x.toReal = j * 2 ^ e) (hvk : v.toReal = k * 2 ^ e) :
    (add x v).isFinite = true ∧ (add x v).toReal = (j + k : ℤ) * 2 ^ e := by
  have hround := rounds_add hx hv
  have hsum : x.toReal + v.toReal = (j + k : ℤ) * 2 ^ e := by
    rw [hxj, hvk]
    push_cast
    ring
  rw [hsum] at hround
  have hfinite := hround.isFinite_of_digits hdigits hhigh
  exact ⟨hfinite, hround.toReal_eq hfinite hdigits hlow rfl⟩

theorem foldl_add_exact {k : ℤ} {e : ℤ} (hlow : -1074 ≤ e) (hhigh : e ≤ 969)
    {values : List Binary64} (h : ∀ v ∈ values, v.isFinite = true ∧ v.toReal = k * 2 ^ e) :
    ∀ (start : Binary64) (n : ℕ), (n + values.length) * |k| ≤ 2 ^ 53 → start.isFinite = true →
      start.toReal = (n * k : ℤ) * 2 ^ e → (values.foldl add start).isFinite = true ∧
        (values.foldl add start).toReal = ((n + values.length) * k : ℤ) * 2 ^ e := by
  induction values with
  | nil =>
    intro start n _ hfinite hstart
    refine ⟨hfinite, ?_⟩
    simpa using hstart
  | cons v values ih =>
    intro start n hdigits hfinite hstart
    obtain ⟨⟨hv, hvk⟩, hvalues⟩ := List.forall_mem_cons.mp h
    rw [List.length_cons] at hdigits ⊢
    push_cast at hdigits ⊢
    have hk := abs_nonneg k
    have hnext : |n * k + k| ≤ 2 ^ 53 := by
      have hfactor : n * k + k = (n + 1) * k := by ring
      rw [hfactor, abs_mul, abs_of_nonneg (by omega : (0 : ℤ) ≤ n + 1)]
      refine (mul_le_mul_of_nonneg_right ?_ hk).trans hdigits
      omega
    obtain ⟨hfinite, hsum⟩ := add_exact hlow hhigh hnext hfinite hv hstart hvk
    have hrest := ih hvalues _ (n + 1) (by push_cast; linarith) hfinite
      (by rw [hsum]; push_cast; ring)
    rw [List.foldl_cons]
    refine ⟨hrest.1, hrest.2.trans ?_⟩
    push_cast
    ring

/-- A mean of equal values is exact if 53 digits suffice for their sum. -/
theorem toReal_mean_eq {k : ℤ} {e : ℤ} (hlow : -1074 ≤ e) (hhigh : e ≤ 969) (hne : values ≠ [])
    (hn : values.length ≤ 2 ^ 53) (hdigits : values.length * |k| ≤ 2 ^ 53)
    (h : ∀ v ∈ values, v.isFinite = true ∧ v.toReal = k * 2 ^ e) :
    (mean values).isFinite = true ∧ (mean values).toReal = k * 2 ^ e := by
  have hstart : (neg (ofParts false 0)).toReal = 0 := toReal_eq_zero_iff.mpr (by decide)
  obtain ⟨hsum, hsum'⟩ := foldl_add_exact hlow hhigh h (neg (ofParts false 0)) 0
    (by simpa using hdigits) (by decide) (by simp [hstart])
  obtain ⟨hcount, hcount'⟩ := toReal_ofNat hn
  have hpos : 0 < values.length := List.length_pos_of_ne_nil hne
  have hpos' : (values.length : ℝ) ≠ 0 := by exact_mod_cast hpos.ne'
  have hround : Rounds (k * 2 ^ e) (mean values) := by
    have hquotient := rounds_div hsum hcount (by rwa [hcount'])
    rw [hsum', hcount', Nat.cast_zero, zero_add, Int.cast_mul, Int.cast_natCast, mul_assoc,
      mul_div_cancel_left₀ _ hpos'] at hquotient
    rw [mean_of_ne_nil hne]
    exact hquotient
  have hk : |k| ≤ 2 ^ 53 := by
    refine le_trans ?_ hdigits
    have : (1 : ℤ) ≤ values.length := by exact_mod_cast hpos
    exact le_mul_of_one_le_left (abs_nonneg k) this
  have hfinite := hround.isFinite_of_digits hk hhigh
  exact ⟨hfinite, hround.toReal_eq hfinite hk hlow rfl⟩

end Mean

end Statistics

end InterRater
