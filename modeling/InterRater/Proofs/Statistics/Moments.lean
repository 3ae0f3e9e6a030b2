import InterRater.Proofs.Number.Exact
import InterRater.Statistics.Moments
import Mathlib.Algebra.BigOperators.Group.Finset.Basic
import Mathlib.Algebra.BigOperators.Ring.List
import Mathlib.Algebra.Order.BigOperators.Group.List
import Mathlib.Tactic.FieldSimp
import Mathlib.Tactic.Ring

/-!
# Means and variances in exact arithmetic

`squaredDeviations_eq_sub` is the identity `∑ (x - x̄)² = ∑ x² - (∑ x)² / n`.  From it follow that
the sum of squared deviations vanishes only on constant lists (`squaredDeviations_eq_zero_iff`),
that deviations within groups are no more than those of the groups together
(`sum_squaredDeviations_le`), and that the squared differences of all ordered pairs add up to
`2 n` times the squared deviations (`sum_sum_sq_sub`), so that values that move closer together
deviate less (`squaredDeviations_map_le`).  The mean of the magnitudes lies between the magnitude of
the mean and the root of the mean of the squares (`abs_mean_le`, `sq_mean_abs_le`).
-/

namespace InterRater

namespace Statistics

/-! ### The formulas -/

theorem mean_eq (l : List ℝ) : mean l = l.sum / l.length := by
  unfold mean
  cases l <;> simp

theorem squaredDeviations_eq (l : List ℝ) :
    squaredDeviations l = (l.map fun x => (x - mean l) ^ 2).sum := by
  simp [squaredDeviations]

theorem populationVariance_eq (l : List ℝ) :
    populationVariance l = squaredDeviations l / l.length := by
  unfold populationVariance
  cases l <;> simp

theorem sampleDeviation_eq (l : List ℝ) :
    sampleDeviation l = √(squaredDeviations l / (l.length - 1 : ℕ)) := by
  unfold sampleDeviation
  split_ifs with h
  · rw [show l.length - 1 = 0 by omega, Nat.cast_zero, div_zero, Real.sqrt_zero]
  · rfl

/-! ### Bounds of the mean -/

theorem cast_length_pos {β : Type*} {l : List β} (hne : l ≠ []) : 0 < (l.length : ℝ) := by
  exact_mod_cast List.length_pos_iff.mpr hne

theorem le_mean {l : List ℝ} (hne : l ≠ []) {c : ℝ} (h : ∀ x ∈ l, c ≤ x) : c ≤ mean l := by
  have hsum := List.card_nsmul_le_sum l c h
  rw [nsmul_eq_mul, mul_comm] at hsum
  rwa [mean_eq, le_div_iff₀ (cast_length_pos hne)]

theorem mean_le {l : List ℝ} (hne : l ≠ []) {c : ℝ} (h : ∀ x ∈ l, x ≤ c) : mean l ≤ c := by
  have hsum := List.sum_le_card_nsmul l c h
  rw [nsmul_eq_mul, mul_comm] at hsum
  rwa [mean_eq, div_le_iff₀ (cast_length_pos hne)]

/-- The mean of all values of some lists is that of their means, weighted by their lengths. -/
theorem mean_flatten (lists : List (List ℝ)) : mean lists.flatten
    = (lists.map fun l => (l.length : ℝ) * mean l).sum / ((lists.map List.length).sum : ℕ) := by
  have hsum : (lists.map fun l => (l.length : ℝ) * mean l) = lists.map List.sum := by
    refine List.map_congr_left fun l _ => ?_
    rw [mean_eq]
    rcases eq_or_ne l [] with rfl | hne
    · simp
    · exact mul_div_cancel₀ _ (cast_length_pos hne).ne'
  rw [mean_eq, hsum, List.sum_flatten, List.length_flatten]

/-- The mean of the means of lists of one length is the mean of all their values. -/
theorem mean_map_mean {lists : List (List ℝ)} {n : ℕ} (h : ∀ l ∈ lists, l.length = n) :
    mean (lists.map mean) = mean lists.flatten := by
  have hmeans : lists.map mean = lists.map fun l => l.sum * (n : ℝ)⁻¹ :=
    List.map_congr_left fun l hl => by rw [mean_eq, h l hl, div_eq_mul_inv]
  have hlength : lists.flatten.length = lists.length * n := by
    rw [List.length_flatten, List.map_congr_left h, List.map_const', List.sum_replicate, smul_eq_mul]
  rw [mean_eq, mean_eq, hmeans, List.sum_map_mul_right, List.length_map, List.sum_flatten, hlength,
    Nat.cast_mul]
  field_simp

/-- A sum over a list, value by value.  Values that do not occur add nothing. -/
theorem sum_map_eq_sum_count {β M : Type*} [DecidableEq β] [Semiring M] {values l : List β}
    (hnodup : values.Nodup) (hsubset : l ⊆ values) (f : β → M) :
    (l.map f).sum = (values.map fun v => (l.count v : M) * f v).sum := by
  rw [Finset.sum_list_map_count, ← List.sum_toFinset _ hnodup]
  simp only [nsmul_eq_mul]
  apply Finset.sum_subset
  · intro v hv
    exact List.mem_toFinset.mpr (hsubset (List.mem_toFinset.mp hv))
  · intro v _ hv
    rw [List.count_eq_zero_of_not_mem (mt List.mem_toFinset.mpr hv), Nat.cast_zero, zero_mul]

/-! ### Squared deviations -/

/-- The squared distances from any center, summed. -/
theorem sum_sq_sub (l : List ℝ) (c : ℝ) :
    (l.map fun x => (x - c) ^ 2).sum = (l.map (· ^ 2)).sum - 2 * c * l.sum + l.length * c ^ 2 := by
  induction l with
  | nil => simp
  | cons x l ih =>
    simp only [List.map_cons, List.sum_cons, List.length_cons, ih]
    push_cast
    ring

theorem squaredDeviations_eq_sub (l : List ℝ) :
    squaredDeviations l = (l.map (· ^ 2)).sum - l.sum ^ 2 / l.length := by
  rw [squaredDeviations_eq, sum_sq_sub, mean_eq]
  rcases eq_or_ne (l.length : ℝ) 0 with h | h
  · rw [h]; simp
  · field_simp
    ring

theorem squaredDeviations_nonneg (l : List ℝ) : 0 ≤ squaredDeviations l := by
  rw [squaredDeviations_eq]
  refine List.sum_nonneg fun a ha => ?_
  obtain ⟨x, _, rfl⟩ := List.mem_map.mp ha
  exact sq_nonneg _

/-- The square of the sample deviation is the variance with divisor `n - 1`. -/
theorem sq_sampleDeviation (l : List ℝ) :
    sampleDeviation l ^ 2 = squaredDeviations l / (l.length - 1 : ℕ) := by
  rw [sampleDeviation_eq, Real.sq_sqrt]
  exact div_nonneg (squaredDeviations_nonneg l) (Nat.cast_nonneg _)

/-- Squares that add up to 0 are the squares of 0. -/
theorem eq_zero_of_sum_sq_eq_zero {β : Type*} {l : List β} {f : β → ℝ}
    (h : (l.map fun x => f x ^ 2).sum = 0) {x : β} (hx : x ∈ l) : f x = 0 := by
  have hle : f x ^ 2 ≤ 0 := by
    rw [← h]
    refine List.single_le_sum (fun a ha => ?_) _ (List.mem_map_of_mem hx)
    obtain ⟨y, _, rfl⟩ := List.mem_map.mp ha
    exact sq_nonneg _
  exact pow_eq_zero_iff two_ne_zero |>.mp (le_antisymm hle (sq_nonneg _))

/-- Only a constant list does not deviate from its mean. -/
theorem squaredDeviations_eq_zero_iff (l : List ℝ) :
    squaredDeviations l = 0 ↔ ∀ x ∈ l, ∀ y ∈ l, x = y := by
  constructor
  · intro h x hx y hy
    rw [squaredDeviations_eq] at h
    have hmean : ∀ z ∈ l, z = mean l := fun z hz =>
      sub_eq_zero.mp (eq_zero_of_sum_sq_eq_zero h hz)
    rw [hmean x hx, hmean y hy]
  · intro h
    rcases l with _ | ⟨a, l⟩
    · simp [squaredDeviations_eq]
    have hconst : a :: l = List.replicate (l.length + 1) a :=
      List.eq_replicate_iff.mpr ⟨rfl, fun b hb => h b hb a List.mem_cons_self⟩
    have hne : (l.length : ℝ) + 1 ≠ 0 := by positivity
    rw [squaredDeviations_eq_sub, hconst]
    simp only [List.map_replicate, List.sum_replicate, List.length_replicate, nsmul_eq_mul,
      Nat.cast_add, Nat.cast_one]
    field_simp
    ring

/-- A single value does not deviate from its mean. -/
theorem squaredDeviations_singleton (x : ℝ) : squaredDeviations [x] = 0 := by
  rw [squaredDeviations_eq_zero_iff]
  simp

/-- Only a constant list has no spread. -/
theorem sampleDeviation_eq_zero_iff (l : List ℝ) :
    sampleDeviation l = 0 ↔ ∀ x ∈ l, ∀ y ∈ l, x = y := by
  rw [← squaredDeviations_eq_zero_iff, ← sq_eq_zero_iff, sq_sampleDeviation, div_eq_zero_iff]
  refine or_iff_left_of_imp fun hone => ?_
  -- With one value or none there is nothing to deviate.
  have hlength : l.length ≤ 1 := by
    have hzero : l.length - 1 = 0 := by exact_mod_cast hone
    omega
  rcases l with _ | ⟨x, _ | ⟨y, l⟩⟩
  · simp [squaredDeviations_eq]
  · exact squaredDeviations_singleton x
  · simp at hlength

/-- The variances with the divisors `n` and `n - 1`. -/
theorem squaredDeviations_div_length (l : List ℝ) : squaredDeviations l / l.length
    = ((l.length : ℝ) - 1) / l.length * sampleDeviation l ^ 2 := by
  rw [sq_sampleDeviation]
  rcases l with _ | ⟨x, _ | ⟨y, l⟩⟩
  · simp
  · simp [squaredDeviations_singleton]
  · have hone : ((x :: y :: l).length - 1 : ℕ) = ((x :: y :: l).length : ℝ) - 1 := by
      rw [Nat.cast_sub (by simp), Nat.cast_one]
    have hne : ((x :: y :: l).length : ℝ) - 1 ≠ 0 := by
      rw [← hone, Nat.cast_ne_zero]
      simp
    rw [hone]
    field_simp

/-- The mean of the squares is the square of the mean, and the variance. -/
theorem mean_map_sq (l : List ℝ) :
    mean (l.map (· ^ 2)) = mean l ^ 2 + squaredDeviations l / l.length := by
  rw [mean_eq, mean_eq, List.length_map, squaredDeviations_eq_sub]
  rcases eq_or_ne (l.length : ℝ) 0 with h | h
  · simp [h]
  · field_simp
    ring

/-! ### Magnitudes -/

theorem abs_mean_le (l : List ℝ) : |mean l| ≤ mean (l.map (|·|)) := by
  rw [mean_eq, mean_eq, List.length_map, abs_div, Nat.abs_cast]
  gcongr
  exact List.le_sum_of_subadditive (|·|) abs_zero.le abs_add_le l

/-- The mean of the magnitudes is at most the root of the mean of the squares. -/
theorem sq_mean_abs_le (l : List ℝ) :
    mean (l.map (|·|)) ^ 2 ≤ mean l ^ 2 + squaredDeviations l / l.length := by
  have hsq : (l.map (|·|)).map (· ^ 2) = l.map (· ^ 2) := by
    rw [List.map_map]
    exact List.map_congr_left fun x _ => sq_abs x
  have hmean := mean_map_sq (l.map (|·|))
  rw [hsq, mean_map_sq, List.length_map] at hmean
  -- The magnitudes have a variance of their own, by which their mean falls short.
  have hvariance : 0 ≤ squaredDeviations (l.map (|·|)) / l.length :=
    div_nonneg (squaredDeviations_nonneg _) (Nat.cast_nonneg _)
  linarith

/-! ### Rescaled values -/

theorem mean_map_mul (c : ℝ) (l : List ℝ) : mean (l.map (c * ·)) = c * mean l := by
  rw [mean_eq, mean_eq, List.sum_map_mul_left, List.map_id', List.length_map, mul_div_assoc]

theorem mean_map_affine (a b : ℝ) {l : List ℝ} (hne : l ≠ []) :
    mean (l.map fun x => a * x + b) = a * mean l + b := by
  have hlength := (cast_length_pos hne).ne'
  rw [mean_eq, mean_eq, List.sum_map_add, List.sum_map_mul_left, List.map_id', List.map_const',
    List.sum_replicate, nsmul_eq_mul, List.length_map]
  field_simp

/-- Deviations do not see where the zero of the values is. -/
theorem squaredDeviations_map_affine (a b : ℝ) (l : List ℝ) :
    squaredDeviations (l.map fun x => a * x + b) = a ^ 2 * squaredDeviations l := by
  rcases eq_or_ne l [] with rfl | hne
  · simp [squaredDeviations_eq]
  rw [squaredDeviations_eq, squaredDeviations_eq, mean_map_affine a b hne, List.map_map,
    ← List.sum_map_mul_left]
  congr 1
  apply List.map_congr_left
  intro x _
  show (a * x + b - (a * mean l + b)) ^ 2 = a ^ 2 * (x - mean l) ^ 2
  ring

theorem squaredDeviations_map_mul (c : ℝ) (l : List ℝ) :
    squaredDeviations (l.map (c * ·)) = c ^ 2 * squaredDeviations l := by
  have haffine := squaredDeviations_map_affine c 0 l
  simpa only [add_zero] using haffine

theorem sampleDeviation_map_mul (c : ℝ) (l : List ℝ) :
    sampleDeviation (l.map (c * ·)) = |c| * sampleDeviation l := by
  rw [sampleDeviation_eq, sampleDeviation_eq, squaredDeviations_map_mul, List.length_map,
    mul_div_assoc, Real.sqrt_mul (sq_nonneg c), Real.sqrt_sq_eq_abs]

theorem map_neg_eq (l : List ℝ) : l.map Neg.neg = l.map (-1 * ·) :=
  List.map_congr_left fun x _ => neg_eq_neg_one_mul x

theorem mean_neg (l : List ℝ) : mean (l.map Neg.neg) = -mean l := by
  rw [map_neg_eq, mean_map_mul, neg_one_mul]

theorem sampleDeviation_neg (l : List ℝ) :
    sampleDeviation (l.map Neg.neg) = sampleDeviation l := by
  rw [map_neg_eq, sampleDeviation_map_mul, abs_neg, abs_one, one_mul]

/-! ### The order of the values -/

theorem mean_perm {l l' : List ℝ} (h : l.Perm l') : mean l = mean l' := by
  rw [mean_eq, mean_eq, h.sum_eq, h.length_eq]

theorem squaredDeviations_perm {l l' : List ℝ} (h : l.Perm l') :
    squaredDeviations l = squaredDeviations l' := by
  rw [squaredDeviations_eq, squaredDeviations_eq, mean_perm h, (h.map _).sum_eq]

theorem populationVariance_perm {l l' : List ℝ} (h : l.Perm l') :
    populationVariance l = populationVariance l' := by
  rw [populationVariance_eq, populationVariance_eq, squaredDeviations_perm h, h.length_eq]

theorem sampleDeviation_perm {l l' : List ℝ} (h : l.Perm l') :
    sampleDeviation l = sampleDeviation l' := by
  rw [sampleDeviation_eq, sampleDeviation_eq, squaredDeviations_perm h, h.length_eq]

/-! ### Differences of two values -/

theorem mean_map_sub {β : Type*} (f g : β → ℝ) (l : List β) :
    mean (l.map fun x => f x - g x) = mean (l.map f) - mean (l.map g) := by
  have hsum : (l.map fun x => f x - g x).sum = (l.map f).sum - (l.map g).sum := by
    induction l with
    | nil => simp
    | cons x l ih =>
      simp only [List.map_cons, List.sum_cons, ih]
      ring
  simp only [mean_eq, List.length_map, hsum, sub_div]

/-! ### Sums over groups and pairs -/

/-- The mean is the center with the least sum of squared distances. -/
theorem squaredDeviations_le (l : List ℝ) (c : ℝ) :
    squaredDeviations l ≤ (l.map fun x => (x - c) ^ 2).sum := by
  rw [squaredDeviations_eq_sub, sum_sq_sub]
  rcases eq_or_ne (l.length : ℝ) 0 with h | h
  · have : l = [] := by simpa using h
    simp [this]
  · have hsq : 0 ≤ l.length * (l.sum / l.length - c) ^ 2 := by positivity
    have : l.length * (l.sum / l.length - c) ^ 2
        = l.sum ^ 2 / l.length - 2 * c * l.sum + l.length * c ^ 2 := by
      field_simp
      ring
    linarith

/-- Deviations within groups are no more than those of the groups taken together. -/
theorem sum_squaredDeviations_le (groups : List (List ℝ)) :
    (groups.map squaredDeviations).sum ≤ squaredDeviations groups.flatten := by
  have hcenter : ∀ c : ℝ, (groups.map squaredDeviations).sum
      ≤ (groups.flatten.map fun x => (x - c) ^ 2).sum := by
    intro c
    induction groups with
    | nil => simp
    | cons g groups ih =>
      rw [List.map_cons, List.sum_cons, List.flatten_cons, List.map_append, List.sum_append]
      exact add_le_add (squaredDeviations_le g c) ih
  rw [squaredDeviations_eq groups.flatten]
  exact hcenter _

/-- The squared differences of all ordered pairs, summed. -/
theorem sum_sum_sq_sub (l : List ℝ) :
    (l.map fun x => (l.map fun y => (x - y) ^ 2).sum).sum
      = 2 * l.length * squaredDeviations l := by
  -- for the second list in place of the first, so that the induction on the first goes through
  have key : ∀ k : List ℝ, (k.map fun x => (l.map fun y => (x - y) ^ 2).sum).sum
      = k.length * (l.map (· ^ 2)).sum - 2 * k.sum * l.sum
        + l.length * (k.map (· ^ 2)).sum := by
    intro k
    induction k with
    | nil => simp
    | cons x k ih =>
      have hx : (l.map fun y => (x - y) ^ 2) = l.map fun y => (y - x) ^ 2 :=
        List.map_congr_left fun y _ => sub_sq_comm x y
      simp only [List.map_cons, List.sum_cons, List.length_cons, ih, hx, sum_sq_sub]
      push_cast
      ring
  rw [key, squaredDeviations_eq_sub]
  rcases eq_or_ne (l.length : ℝ) 0 with h | h
  · have : l = [] := by simpa using h
    simp [this]
  · field_simp
    ring

/-- Of two quantities, the one whose values lie closer together pair by pair deviates less. -/
theorem squaredDeviations_map_le {β : Type*} {l : List β} {f g : β → ℝ}
    (h : ∀ a ∈ l, ∀ b ∈ l, |f a - f b| ≤ |g a - g b|) :
    squaredDeviations (l.map f) ≤ squaredDeviations (l.map g) := by
  rcases eq_or_ne l [] with rfl | hne
  · exact le_rfl
  have hpairs : ∀ k : β → ℝ, 2 * l.length * squaredDeviations (l.map k)
      = (l.map fun a => (l.map fun b => (k a - k b) ^ 2).sum).sum := by
    intro k
    have hcount : (l.map k).length = l.length := List.length_map k
    rw [← hcount, ← sum_sum_sq_sub]
    simp only [List.map_map, Function.comp_def]
  refine le_of_mul_le_mul_left ?_ (mul_pos two_pos (cast_length_pos hne))
  rw [hpairs, hpairs]
  apply List.sum_le_sum
  intro a ha
  apply List.sum_le_sum
  intro b hb
  exact sq_le_sq.mpr (h a ha b hb)

end Statistics

end InterRater
