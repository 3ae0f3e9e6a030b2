import InterRater.Proofs.Rating.Coincidence
import InterRater.Proofs.Statistics.Moments
import Mathlib.Algebra.BigOperators.Field

/-!
# Alpha as a quotient of disagreements

The disagreement of some ratings is the sum, over their ordered pairs, of the squared differences
of their mid-ranks, over one less than their number.  `ofUnits_eq_some` says that the coefficient
computed from the coincidence table is one minus the disagreement within the items over the
disagreement of all ratings taken together; `ofUnits_eq_none_iff` that it is absent exactly if all
ratings are equal.
-/

namespace InterRater

namespace Alpha

/-! ### Disagreement -/

/-- The disagreement of the ratings in `l`, by their mid-ranks in `pooled`. -/
noncomputable def disagreement (pooled l : List ℤ) : ℝ :=
  (l.map fun x => (l.map fun y => rankDistance pooled x y).sum).sum / (l.length - 1)

/-- The disagreement within items. -/
noncomputable def withinItems (units : List (List ℤ)) : ℝ :=
  (units.map (disagreement units.flatten)).sum

/-- The disagreement of the ratings of all items, taken together. -/
noncomputable def overall (units : List (List ℤ)) : ℝ :=
  disagreement units.flatten units.flatten

/-- Whether ratings of two values occur in the list. -/
def Varied (l : List ℤ) : Prop :=
  ∃ x ∈ l, ∃ y ∈ l, x ≠ y

theorem not_varied_iff (l : List ℤ) : ¬ Varied l ↔ ∀ x ∈ l, ∀ y ∈ l, x = y := by
  simp only [Varied, not_exists, not_and, not_not]

theorem Varied.two_le_length {l : List ℤ} (h : Varied l) : 2 ≤ l.length := by
  obtain ⟨x, hx, y, hy, hne⟩ := h
  rcases l with _ | ⟨a, _ | ⟨b, l⟩⟩
  · simp at hx
  · rw [List.mem_singleton] at hx hy
    exact absurd (hx.trans hy.symm) hne
  · simp

theorem disagreement_eq (pooled l : List ℤ) :
    disagreement pooled l
      = 2 * l.length * Statistics.squaredDeviations (l.map (Statistics.midRank pooled))
        / (l.length - 1) := by
  have h := Statistics.sum_sum_sq_sub (l.map (Statistics.midRank pooled))
  rw [List.length_map] at h
  rw [disagreement, ← h]
  simp only [List.map_map, Function.comp_def, rankDistance]

theorem disagreement_nonneg (pooled l : List ℤ) : 0 ≤ disagreement pooled l := by
  rw [disagreement_eq]
  rcases Nat.eq_zero_or_pos l.length with h | h
  · rw [h]
    simp
  · have h : (0 : ℝ) ≤ l.length - 1 := by
      have : (1 : ℝ) ≤ l.length := by exact_mod_cast h
      linarith
    have := Statistics.squaredDeviations_nonneg (l.map (Statistics.midRank pooled))
    positivity

/-- Ratings disagree exactly if two of them differ. -/
theorem disagreement_pos_iff {pooled l : List ℤ} (hl : l ⊆ pooled) :
    0 < disagreement pooled l ↔ Varied l := by
  have hzero : Statistics.squaredDeviations (l.map (Statistics.midRank pooled)) = 0
      ↔ ¬ Varied l := by
    rw [Statistics.squaredDeviations_eq_zero_iff, not_varied_iff]
    simp only [List.forall_mem_map]
    exact ⟨fun h x hx y hy => (Statistics.midRank_inj (hl hx) (hl hy)).mp (h x hx y hy),
      fun h x hx y hy => by rw [h x hx y hy]⟩
  constructor
  · intro hpos
    by_contra hl
    rw [disagreement_eq, hzero.mpr hl, mul_zero, zero_div] at hpos
    exact lt_irrefl 0 hpos
  · intro hvar
    have hlen : (2 : ℝ) ≤ l.length := by exact_mod_cast hvar.two_le_length
    have hss := lt_of_le_of_ne (Statistics.squaredDeviations_nonneg _)
      (Ne.symm fun h => hzero.mp h hvar)
    have : (0 : ℝ) < l.length - 1 := by linarith
    rw [disagreement_eq]
    positivity

theorem disagreement_eq_zero_iff {pooled l : List ℤ} (hl : l ⊆ pooled) :
    disagreement pooled l = 0 ↔ ∀ x ∈ l, ∀ y ∈ l, x = y := by
  rw [← not_varied_iff, ← disagreement_pos_iff hl, not_lt]
  exact (disagreement_nonneg _ _).ge_iff_eq'.symm

theorem withinItems_nonneg (units : List (List ℤ)) : 0 ≤ withinItems units := by
  refine List.sum_nonneg fun d hd => ?_
  obtain ⟨unit, _, rfl⟩ := List.mem_map.mp hd
  exact disagreement_nonneg _ _

theorem overall_pos_iff {units : List (List ℤ)} : 0 < overall units ↔ Varied units.flatten :=
  disagreement_pos_iff (List.Subset.refl _)

/-! ### The coefficient -/

/-- A double sum over ratings, value by value. -/
theorem sum_sum_eq_sum_count {units : List (List ℤ)} {l : List ℤ} (hl : l ⊆ units.flatten)
    (g : ℤ → ℤ → ℝ) :
    (l.map fun x => (l.map (g x)).sum).sum
      = ∑ c ∈ (domain units).toFinset, ∑ k ∈ (domain units).toFinset,
          (l.count c : ℝ) * l.count k * g c k := by
  rw [sum_map_eq_sum_count hl]
  refine Finset.sum_congr rfl fun c _ => ?_
  rw [sum_map_eq_sum_count hl, Finset.mul_sum]
  exact Finset.sum_congr rfl fun k _ => (mul_assoc _ _ _).symm

/-- The contributions of an item, weighted by the distances, are its disagreement. -/
theorem sum_contribution_mul_rankDistance {units : List (List ℤ)} {unit : List ℤ}
    (hunit : unit ∈ units) (h : 2 ≤ unit.length) :
    ∑ c ∈ (domain units).toFinset, ∑ k ∈ (domain units).toFinset,
        (contribution unit c k : ℝ) * rankDistance units.flatten c k
      = disagreement units.flatten unit := by
  have hlen : ((unit.length - 1 : ℕ) : ℝ) = unit.length - 1 := by
    rw [Nat.cast_sub (by omega), Nat.cast_one]
  rw [disagreement, sum_sum_eq_sum_count (subset_flatten hunit), Finset.sum_div]
  refine Finset.sum_congr rfl fun c _ => ?_
  rw [Finset.sum_div]
  refine Finset.sum_congr rfl fun k _ => ?_
  rw [contribution_eq, hlen]
  -- The pairs of equal values have no distance, so it does not matter how often they are counted.
  by_cases hck : c = k
  · rw [hck, rankDistance_self]
    simp
  · rw [if_neg hck]
    ring

variable {units : List (List ℤ)}

/-- The observed disagreement is that within the items. -/
theorem observed_eq (h : ∀ unit ∈ units, 2 ≤ unit.length) :
    (valuePairs (table units)).foldl (fun sum p => sum + p.coincidences * p.distance) (0 : ℝ)
      = withinItems units := by
  have hf : ∀ c, (pairOf units c c).coincidences * (pairOf units c c).distance = 0 := fun c => by
    simp only [pairOf, rankDistance_self, mul_zero]
  refine (foldl_valuePairs h (fun p => p.coincidences * p.distance) hf).trans ?_
  simp only [pairOf, coincidence_unitsWith h]
  have hdistance : ∀ c k, (units.map fun unit => (contribution unit c k : ℝ)).sum
      * rankDistance units.flatten c k
      = (units.map fun unit => contribution unit c k * rankDistance units.flatten c k).sum :=
    fun c k => (List.sum_map_mul_right ..).symm
  simp only [hdistance, sum_sum_map]
  rw [withinItems]
  congr 1
  exact List.map_congr_left fun unit hunit =>
    sum_contribution_mul_rankDistance hunit (h unit hunit)

/-- The expected disagreement, before it is divided, is the double sum over all ratings. -/
theorem chance_eq (h : ∀ unit ∈ units, 2 ≤ unit.length) :
    (valuePairs (table units)).foldl (fun sum p => sum + p.first * p.second * p.distance) (0 : ℝ)
      = (units.flatten.map fun x =>
          (units.flatten.map (rankDistance units.flatten x)).sum).sum := by
  have hf : ∀ c, (pairOf units c c).first * (pairOf units c c).second
      * (pairOf units c c).distance = 0 := fun c => by
    simp only [pairOf, rankDistance_self, mul_zero]
  refine (foldl_valuePairs h (fun p => p.first * p.second * p.distance) hf).trans ?_
  rw [sum_sum_eq_sum_count (List.Subset.refl _)]
  simp only [pairOf, marginal_eq h]

/-- The marginals add up to the number of all ratings. -/
theorem total_eq (h : ∀ unit ∈ units, 2 ≤ unit.length) :
    Scalar.sum ((table units).map (·.marginal)) = (units.flatten.length : ℝ) := by
  have hlen := sum_map_eq_sum_count (List.Subset.refl units.flatten) fun _ => 1
  simp only [List.map_const', List.sum_replicate, nsmul_eq_mul, mul_one] at hlen
  rw [Scalar.sum_eq, table_eq, List.map_map, hlen, ← sum_domain_map]
  simp only [Function.comp_def, marginal_eq h]

theorem ofTable_table (h : ∀ unit ∈ units, 2 ≤ unit.length) :
    ofTable (table units)
      = if overall units ≤ 0 then none else some (1 - withinItems units / overall units) := by
  rw [ofTable, observed_eq h, chance_eq h, total_eq h]
  rfl

/-- Alpha of items that have two ratings or more each. -/
theorem ofUnits_eq_some (h : ∀ unit ∈ units, 2 ≤ unit.length) (hvar : Varied units.flatten) :
    ofUnits units = some (1 - withinItems units / overall units) := by
  have hpos := overall_pos_iff.mpr hvar
  have hlen := (two_le_length_domain_iff units).mpr hvar
  rw [ofUnits, if_neg (by omega), ofTable_table h, if_neg hpos.not_ge]

theorem ofUnits_eq_none (hvar : ¬ Varied units.flatten) : ofUnits (α := ℝ) units = none := by
  have hlen : ¬ 2 ≤ (domain units).length := fun hlen =>
    hvar ((two_le_length_domain_iff units).mp hlen)
  rw [ofUnits, if_pos (by omega)]

/-- Alpha is absent exactly if all ratings are equal. -/
theorem ofUnits_eq_none_iff (h : ∀ unit ∈ units, 2 ≤ unit.length) :
    ofUnits (α := ℝ) units = none ↔ ∀ x ∈ units.flatten, ∀ y ∈ units.flatten, x = y := by
  rw [← not_varied_iff]
  refine ⟨fun hnone hvar => ?_, ofUnits_eq_none⟩
  rw [ofUnits_eq_some h hvar] at hnone
  exact absurd hnone (Option.some_ne_none _)

end Alpha

end InterRater
