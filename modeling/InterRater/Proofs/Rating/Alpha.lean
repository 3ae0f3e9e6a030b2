import InterRater.Proofs.Rating.Disagreement
import InterRater.Proofs.Rating.Matrix
import Mathlib.Algebra.BigOperators.Fin

/-!
# Ordinal alpha by pooled mid-ranks

The textbook coefficient of a matrix: rank all its ratings together, then compare the squared
differences of the ranks within the items (`observedDisagreement`) with those between any two
ratings (`expectedDisagreement`).  `ordinalAlpha_eq_one_sub_div` says that this is the coefficient
which is read off the coincidence table.
-/

namespace InterRater

namespace RatingMatrix

variable (m : RatingMatrix)

/-! ### The textbook definition -/

/-- The average ranks of all ratings, rater by rater. -/
noncomputable def pooledRanks : List ℝ :=
  Statistics.averageRanks (m.rows.flatten.map fun (n : ℤ) => (n : ℝ))

theorem length_pooledRanks : m.pooledRanks.length = m.raterCount * m.itemCount := by
  rw [pooledRanks, Statistics.length_averageRanks, List.length_map, length_flatten_rows]

/-- The average rank of the rating of item `u` by rater `i` among all ratings. -/
noncomputable def pooledRank (i : Fin m.raterCount) (u : Fin m.itemCount) : ℝ :=
  m.pooledRanks.get ⟨i * m.itemCount + u, by
    rw [length_pooledRanks]
    calc (i : ℕ) * m.itemCount + u < i * m.itemCount + m.itemCount := by omega
      _ = (i + 1) * m.itemCount := by ring
      _ ≤ m.raterCount * m.itemCount := Nat.mul_le_mul_right _ i.isLt⟩

/-- The disagreement within the items: over the ordered pairs of different raters of an item. -/
noncomputable def observedDisagreement : ℝ :=
  ∑ u, ∑ i, ∑ j ∈ Finset.univ.erase i,
    (m.pooledRank i u - m.pooledRank j u) ^ 2 / (m.raterCount - 1)

/-- The disagreement of all ratings: over the ordered pairs of any two. -/
noncomputable def expectedDisagreement : ℝ :=
  ∑ i, ∑ u, ∑ j, ∑ v,
    (m.pooledRank i u - m.pooledRank j v) ^ 2 / (m.raterCount * m.itemCount - 1)

/-! ### Agreement with the coincidence table -/

theorem pooledRank_eq (i : Fin m.raterCount) (u : Fin m.itemCount) :
    m.pooledRank i u = Statistics.midRank m.columns.flatten (m.rating i u) := by
  -- Ranks see integers as reals, and do not see the order of the ratings.
  have hget : m.pooledRanks[(i * m.itemCount + u : ℕ)]?
      = some (Statistics.midRank m.columns.flatten (m.rating i u)) := by
    rw [pooledRanks, Statistics.averageRanks_eq_map, List.getElem?_map, List.getElem?_map,
      m.getElem?_flatten_rows i u, Option.map_some, Option.map_some,
      Statistics.midRank_map Int.cast_strictMono, Statistics.midRank_perm m.flatten_columns_perm]
  rw [pooledRank, List.get_eq_getElem]
  exact (List.getElem_of_getElem? hget).2

/-- The disagreement of ratings that are given by a function. -/
theorem disagreement_ofFn (pooled : List ℤ) {n : ℕ} (f : Fin n → ℤ) :
    Alpha.disagreement pooled (List.ofFn f)
      = ∑ i, ∑ j, Alpha.rankDistance pooled (f i) (f j) / (n - 1) := by
  rw [Alpha.disagreement, List.map_ofFn, List.sum_ofFn, List.length_ofFn, Finset.sum_div]
  refine Finset.sum_congr rfl fun i _ => ?_
  rw [Function.comp, List.map_ofFn, List.sum_ofFn, Finset.sum_div]
  rfl

theorem observedDisagreement_eq : m.observedDisagreement = Alpha.withinItems m.columns := by
  conv_rhs => rw [Alpha.withinItems, m.columns_eq_ofFn, List.map_ofFn, List.sum_ofFn]
  refine Finset.sum_congr rfl fun u _ => ?_
  rw [Function.comp, disagreement_ofFn, ← columns_eq_ofFn]
  refine Finset.sum_congr rfl fun i _ => ?_
  -- A rating does not differ from itself, so the pairs with itself may be left out or in.
  rw [Finset.sum_erase _ (by simp)]
  refine Finset.sum_congr rfl fun j _ => ?_
  rw [pooledRank_eq, pooledRank_eq, Alpha.rankDistance]

/-- A sum over all ratings, rater by rater. -/
theorem sum_map_flatten_rows (f : ℤ → ℝ) :
    (m.rows.flatten.map f).sum = ∑ i, ∑ u, f (m.rating i u) := by
  rw [rows_eq_ofFn, List.map_flatten, List.sum_flatten, List.map_ofFn, List.map_ofFn,
    List.sum_ofFn]
  refine Finset.sum_congr rfl fun i _ => ?_
  rw [Function.comp, Function.comp, List.map_ofFn, List.sum_ofFn]
  rfl

theorem expectedDisagreement_eq : m.expectedDisagreement = Alpha.overall m.columns := by
  have hperm := m.flatten_columns_perm
  have hlen : (m.columns.flatten.length : ℝ) = m.raterCount * m.itemCount := by
    rw [hperm.length_eq, length_flatten_rows, Nat.cast_mul]
  rw [Alpha.overall, Alpha.disagreement, hlen, (hperm.map _).sum_eq, sum_map_flatten_rows,
    Finset.sum_div]
  refine Finset.sum_congr rfl fun i _ => ?_
  rw [Finset.sum_div]
  refine Finset.sum_congr rfl fun u _ => ?_
  rw [(hperm.map _).sum_eq, sum_map_flatten_rows, Finset.sum_div]
  refine Finset.sum_congr rfl fun j _ => ?_
  rw [Finset.sum_div]
  refine Finset.sum_congr rfl fun v _ => ?_
  rw [pooledRank_eq, pooledRank_eq, Alpha.rankDistance]

theorem varied_flatten_columns_iff :
    Alpha.Varied m.columns.flatten ↔ Alpha.Varied m.rows.flatten := by
  have hmem : ∀ x, x ∈ m.columns.flatten ↔ x ∈ m.rows.flatten :=
    fun x => m.flatten_columns_perm.mem_iff
  simp only [Alpha.Varied, hmem]

/-- **Alpha is the textbook coefficient**: one minus the observed over the expected disagreement of
the pooled ranks, for two raters or more whose ratings are not all equal. -/
theorem ordinalAlpha_eq_one_sub_div {m : RatingMatrix} (hraters : 2 ≤ m.raterCount)
    (hvar : Alpha.Varied m.rows.flatten) :
    0 < m.expectedDisagreement ∧
      m.ordinalAlpha = some (1 - m.observedDisagreement / m.expectedDisagreement) := by
  rw [← varied_flatten_columns_iff] at hvar
  rw [expectedDisagreement_eq, observedDisagreement_eq]
  constructor
  · exact Alpha.overall_pos_iff.mpr hvar
  · exact Alpha.ofUnits_eq_some (two_le_length_of_mem_columns hraters) hvar

/-- Two raters whose ratings of three items run in opposite directions. -/
def reversed : RatingMatrix where
  labels := ["Q1_1", "Q1_2", "Q1_3"]
  rows := [[1, 2, 3], [3, 2, 1]]
  scale := ⟨1, 5⟩
  width_eq := by decide
  contains := by decide

theorem ordinalAlpha_reversed :
    0 < reversed.expectedDisagreement ∧
      reversed.ordinalAlpha
        = some (1 - reversed.observedDisagreement / reversed.expectedDisagreement) :=
  ordinalAlpha_eq_one_sub_div (by decide) ⟨1, by decide, 3, by decide, by decide⟩

end RatingMatrix

end InterRater
