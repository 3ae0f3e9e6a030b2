import InterRater.Proofs.Number.Exact
import InterRater.Proofs.Statistics.Moments
import InterRater.Proofs.Statistics.Ranks
import InterRater.Statistics.Correlation
import Mathlib.Data.List.Zip

/-!
# Correlations

Neither correlation depends on which of the two series comes first (`pearson_comm`,
`spearman_comm`).  Only a correlation that is defined, not 0 and of three samples or more has
another p-value than 1 (`of_pValue_spearman_ne_one`).
-/

namespace InterRater

namespace Correlation

/-! ### Defined correlations -/

/-- A correlation is undefined, or has the p-value of its coefficient. -/
theorem ofSamples_cases {α : Type} [Scalar α] [Special α] (samples : List (α × α)) :
    ofSamples samples = undefined ∨
      ∃ r, ofSamples samples = ⟨r, significance r samples.length, true⟩ := by
  unfold ofSamples
  dsimp only
  split_ifs
  · exact Or.inl rfl
  · exact Or.inl rfl
  · exact Or.inr ⟨_, rfl⟩

theorem ofSamples_eq_undefined {α : Type} [Scalar α] [Special α] {samples : List (α × α)}
    (h : (ofSamples samples).defined = false) : ofSamples samples = undefined := by
  rcases ofSamples_cases samples with hundefined | ⟨r, hr⟩
  · exact hundefined
  · rw [hr] at h
    cases h

/-- A correlation of two samples or more is undefined where one of the spreads is 0. -/
theorem defined_ofSamples_eq_false_iff {α : Type} [Scalar α] [Special α]
    {samples : List (α × α)} (hmany : 2 ≤ samples.length) :
    (ofSamples samples).defined = false ↔
      (spread (samples.map (·.1)) (Statistics.mean (samples.map (·.1))) == 0) = true ∨
        (spread (samples.map (·.2)) (Statistics.mean (samples.map (·.2))) == 0) = true := by
  have hmean : ∀ f : α × α → α, Statistics.mean (samples.map f)
      = Scalar.sum (samples.map f) / (samples.length : α) := by
    intro f
    have hne : (samples.map f).isEmpty = false :=
      List.isEmpty_eq_false_iff.mpr (List.ne_nil_of_length_pos (by rw [List.length_map]; omega))
    rw [Statistics.mean, hne, if_neg Bool.false_ne_true, List.length_map]
  rw [hmean, hmean, ← Bool.or_eq_true, ofSamples]
  dsimp only
  rw [if_neg (by omega)]
  split_ifs with hflat
  · exact iff_of_true rfl hflat
  · exact iff_of_false id hflat

/-! ### Exact correlations -/

theorem comoment_eq (samples : List (ℝ × ℝ)) (x y : ℝ) :
    comoment samples x y = (samples.map fun s => (s.1 - x) * (s.2 - y)).sum :=
  (Scalar.foldl_add_eq (fun s : ℝ × ℝ => (s.1 - x) * (s.2 - y)) samples 0).trans (zero_add _)

theorem spread_eq (values : List ℝ) (center : ℝ) :
    spread values center = (values.map fun v => (v - center) ^ 2).sum := by
  simp only [pow_two]
  exact (Scalar.foldl_add_eq (fun v => (v - center) * (v - center)) values 0).trans (zero_add _)

theorem comoment_perm {samples samples' : List (ℝ × ℝ)} (h : samples.Perm samples') (x y : ℝ) :
    comoment samples x y = comoment samples' x y := by
  rw [comoment_eq, comoment_eq, (h.map _).sum_eq]

theorem comoment_swap (samples : List (ℝ × ℝ)) (x y : ℝ) :
    comoment (samples.map Prod.swap) y x = comoment samples x y := by
  rw [comoment_eq, comoment_eq, List.map_map]
  congr 1
  exact List.map_congr_left fun s _ => mul_comm _ _

theorem comoment_map_mul (c : ℝ) (samples : List (ℝ × ℝ)) (x y : ℝ) :
    comoment (samples.map fun s => (c * s.1, c * s.2)) (c * x) (c * y)
      = c ^ 2 * comoment samples x y := by
  rw [comoment_eq, comoment_eq, List.map_map, ← List.sum_map_mul_left]
  congr 1
  apply List.map_congr_left
  intro s _
  show (c * s.1 - c * x) * (c * s.2 - c * y) = c ^ 2 * ((s.1 - x) * (s.2 - y))
  ring

variable [Special ℝ]

/-- The correlation by the means and squared deviations of its two series. -/
theorem ofSamples_eq (samples : List (ℝ × ℝ)) :
    ofSamples samples =
      if samples.length < 2 ∨ Statistics.squaredDeviations (samples.map (·.1)) = 0 ∨
          Statistics.squaredDeviations (samples.map (·.2)) = 0 then undefined
      else
        let r := Scalar.clamp
          (comoment samples (Statistics.mean (samples.map (·.1)))
              (Statistics.mean (samples.map (·.2)))
            / √(Statistics.squaredDeviations (samples.map (·.1))
              * Statistics.squaredDeviations (samples.map (·.2)))) (-1) 1
        ⟨r, significance r samples.length, true⟩ := by
  have hmean : ∀ f : ℝ × ℝ → ℝ, Scalar.sum (samples.map f) / (samples.length : ℝ)
      = Statistics.mean (samples.map f) := by
    intro f
    rw [Scalar.sum_eq, Statistics.mean_eq, List.length_map]
  have hspread : ∀ l : List ℝ, spread l (Statistics.mean l) = Statistics.squaredDeviations l :=
    fun l => (spread_eq l _).trans (Statistics.squaredDeviations_eq l).symm
  unfold ofSamples
  simp only [hmean, hspread, Scalar.sqrt_eq, Bool.or_eq_true, beq_iff_eq]
  by_cases hfew : samples.length < 2
  · rw [if_pos hfew, if_pos (Or.inl hfew)]
  · simp only [hfew, false_or, if_false]

/-- The correlation does not depend on the order of the samples. -/
theorem ofSamples_perm {samples samples' : List (ℝ × ℝ)} (h : samples.Perm samples') :
    ofSamples samples = ofSamples samples' := by
  simp only [ofSamples_eq, h.length_eq, Statistics.mean_perm (h.map _),
    Statistics.squaredDeviations_perm (h.map _), comoment_perm h]

/-- The correlation does not depend on the unit of the values. -/
theorem ofSamples_map_mul {c : ℝ} (hc : 0 < c) (samples : List (ℝ × ℝ)) :
    ofSamples (samples.map fun s => (c * s.1, c * s.2)) = ofSamples samples := by
  have hsq : c ^ 2 ≠ 0 := (pow_pos hc 2).ne'
  have hfst : (samples.map fun s => (c * s.1, c * s.2)).map (·.1)
      = (samples.map (·.1)).map (c * ·) := by
    rw [List.map_map, List.map_map]
    rfl
  have hsnd : (samples.map fun s => (c * s.1, c * s.2)).map (·.2)
      = (samples.map (·.2)).map (c * ·) := by
    rw [List.map_map, List.map_map]
    rfl
  have hquotient : ∀ m x y : ℝ, c ^ 2 * m / √(c ^ 2 * x * (c ^ 2 * y)) = m / √(x * y) := by
    intro m x y
    have hroot : √(c ^ 2 * x * (c ^ 2 * y)) = c ^ 2 * √(x * y) := by
      rw [show c ^ 2 * x * (c ^ 2 * y) = (c ^ 2) ^ 2 * (x * y) by ring,
        Real.sqrt_mul (sq_nonneg _), Real.sqrt_sq (sq_nonneg c)]
    rw [hroot, mul_div_mul_left _ _ hsq]
  simp only [ofSamples_eq, hfst, hsnd, List.length_map, Statistics.mean_map_mul,
    Statistics.squaredDeviations_map_mul, comoment_map_mul, hquotient, mul_eq_zero, hsq, false_or]

/-- The correlation of samples with their parts exchanged. -/
theorem ofSamples_swap (samples : List (ℝ × ℝ)) :
    ofSamples (samples.map Prod.swap) = ofSamples samples := by
  have hfst : (samples.map Prod.swap).map (·.1) = samples.map (·.2) := by
    rw [List.map_map]
    rfl
  have hsnd : (samples.map Prod.swap).map (·.2) = samples.map (·.1) := by
    rw [List.map_map]
    rfl
  rw [ofSamples_eq, ofSamples_eq, hfst, hsnd, List.length_map, comoment_swap,
    mul_comm (Statistics.squaredDeviations (samples.map (·.2)))]
  simp only [or_comm (a := Statistics.squaredDeviations (samples.map (·.2)) = 0)]

theorem pearson_comm (x y : List ℝ) : pearson x y = pearson y x := by
  rw [pearson, ← List.zip_swap, ofSamples_swap, pearson]

theorem spearman_comm (x y : List ℝ) : spearman x y = spearman y x :=
  pearson_comm _ _

/-! ### Correlations that are evidence -/

section Evidence

variable (hzero : ∀ degrees : ℝ, 0 < degrees → Special.twoSidedTail 0 degrees = 1)
include hzero

theorem significance_zero (n : ℕ) : significance (0 : ℝ) n = 1 := by
  rw [significance]
  split_ifs with hn
  · rfl
  · have hdegrees : (0 : ℝ) < (n - 2 : ℕ) := by exact_mod_cast (show 0 < n - 2 by omega)
    have hrest : ¬ (1 : ℝ) - 0 * 0 ≤ 0 := by norm_num
    dsimp only
    rw [if_neg hrest, zero_mul, hzero _ hdegrees]

theorem of_pValue_ofSamples_ne_one {samples : List (ℝ × ℝ)} (h : (ofSamples samples).pValue ≠ 1) :
    (ofSamples samples).defined = true ∧ 3 ≤ samples.length ∧
      (ofSamples samples).coefficient ≠ 0 := by
  rcases ofSamples_cases samples with hundefined | ⟨r, hr⟩
  · rw [hundefined] at h
    exact absurd rfl h
  rw [hr] at h ⊢
  refine ⟨rfl, ?_, ?_⟩
  · by_contra hfew
    exact h (if_pos (by omega))
  · rintro rfl
    exact h (significance_zero hzero _)

theorem of_pValue_spearman_ne_one {x y : List ℝ} (hlength : x.length = y.length)
    (h : (spearman x y).pValue ≠ 1) :
    (spearman x y).defined = true ∧ 3 ≤ x.length ∧ (spearman x y).coefficient ≠ 0 := by
  have hzip : ((Statistics.averageRanks x).zip (Statistics.averageRanks y)).length = x.length := by
    rw [List.length_zip, Statistics.length_averageRanks, Statistics.length_averageRanks, hlength,
      min_self]
  rw [← hzip]
  exact of_pValue_ofSamples_ne_one hzero h

end Evidence

end Correlation

end InterRater
