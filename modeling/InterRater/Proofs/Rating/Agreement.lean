import InterRater.Proofs.Config.Sound
import InterRater.Proofs.Statistics.Moments
import InterRater.Rating.Agreement

/-!
# The measures of agreement on an item

The agreement on an item has one formula for each measure, which holds for any number of ratings:
also a single rating has a variance and a range, of 0, and a share of the most frequent rating, of 1
(`varianceAgreement_eq`, `rangeAgreement_eq`, `modeAgreement_eq`).  Each measure is at most 1, so
that the weighted sum is 1 exactly if the raters are unanimous (`rawComposite_eq_one_iff`).
-/

namespace InterRater

namespace ItemAgreement

/-! ### The most frequent rating -/

theorem modeCount_spec {ratings : List ℤ} (h : ratings ≠ []) :
    (∃ x ∈ ratings, ratings.count x = modeCount ratings) ∧
      ∀ x ∈ ratings, ratings.count x ≤ modeCount ratings := by
  have hne : ratings.map ratings.count ≠ [] := by simpa using h
  obtain ⟨k, hk⟩ := Option.isSome_iff_exists.mp (List.isSome_max?_of_ne_nil hne)
  obtain ⟨hmem, hle⟩ := List.max?_eq_some_iff.mp hk
  rw [modeCount, hk, Option.getD_some]
  exact ⟨List.mem_map.mp hmem, fun x hx => hle _ (List.mem_map_of_mem hx)⟩

theorem modeCount_le_length (ratings : List ℤ) : modeCount ratings ≤ ratings.length := by
  rcases eq_or_ne ratings [] with rfl | h
  · exact le_rfl
  · obtain ⟨⟨x, _, hx⟩, -⟩ := modeCount_spec h
    exact hx ▸ List.count_le_length

theorem modeCount_eq_length_iff (ratings : List ℤ) :
    modeCount ratings = ratings.length ↔ ∀ x ∈ ratings, ∀ y ∈ ratings, x = y := by
  rcases eq_or_ne ratings [] with rfl | h
  · simp [modeCount]
  obtain ⟨⟨z, hz, hcount⟩, hle⟩ := modeCount_spec h
  constructor
  · intro hlen
    have hall := List.count_eq_length.mp (hcount.trans hlen)
    exact fun x hx y hy => (hall x hx).symm.trans (hall y hy)
  · intro hall
    refine le_antisymm (modeCount_le_length ratings) ?_
    rw [← List.count_eq_length.mpr fun x hx => hall z hz x hx]
    exact hle z hz

/-! ### The range -/

theorem exists_extremes {ratings : List ℤ} (h : ratings ≠ []) :
    ∃ low high, ratings.min? = some low ∧ ratings.max? = some high := by
  obtain ⟨low, hlow⟩ := Option.isSome_iff_exists.mp (List.isSome_min?_of_ne_nil h)
  obtain ⟨high, hhigh⟩ := Option.isSome_iff_exists.mp (List.isSome_max?_of_ne_nil h)
  exact ⟨low, high, hlow, hhigh⟩

/-- The range is the distance of two ratings that have all others between them. -/
theorem ratingRange_spec {ratings : List ℤ} (h : ratings ≠ []) :
    ∃ low ∈ ratings, ∃ high ∈ ratings, ratingRange ℝ ratings = high - low ∧
      ∀ x ∈ ratings, low ≤ x ∧ x ≤ high := by
  obtain ⟨low, high, hlow, hhigh⟩ := exists_extremes h
  obtain ⟨hlowmem, hlowle⟩ := List.min?_eq_some_iff.mp hlow
  obtain ⟨hhighmem, hlehigh⟩ := List.max?_eq_some_iff.mp hhigh
  refine ⟨low, hlowmem, high, hhighmem, ?_, fun x hx => ⟨hlowle x hx, hlehigh x hx⟩⟩
  rw [ratingRange, hlow, hhigh]
  rfl

theorem ratingRange_nonneg (ratings : List ℤ) : 0 ≤ ratingRange ℝ ratings := by
  rcases eq_or_ne ratings [] with rfl | h
  · exact le_rfl
  obtain ⟨low, hlow, high, -, hrange, hbetween⟩ := ratingRange_spec h
  have hle := (hbetween low hlow).2
  omega

theorem ratingRange_eq_zero {ratings : List ℤ} (h : ∀ x ∈ ratings, ∀ y ∈ ratings, x = y) :
    ratingRange ℝ ratings = 0 := by
  rcases eq_or_ne ratings [] with rfl | hne
  · rfl
  obtain ⟨low, hlow, high, hhigh, hrange, -⟩ := ratingRange_spec hne
  have heq := h high hhigh low hlow
  omega

/-! ### The variance -/

theorem populationVariance_nonneg (ratings : List ℤ) :
    0 ≤ Statistics.populationVariance (ratings.map fun (n : ℤ) => (n : ℝ)) := by
  rw [Statistics.populationVariance_eq]
  exact div_nonneg (Statistics.squaredDeviations_nonneg _) (Nat.cast_nonneg _)

theorem populationVariance_of_unanimous {ratings : List ℤ}
    (h : ∀ x ∈ ratings, ∀ y ∈ ratings, x = y) :
    Statistics.populationVariance (ratings.map fun (n : ℤ) => (n : ℝ)) = 0 := by
  rw [Statistics.populationVariance_eq, div_eq_zero_iff]
  left
  rw [Statistics.squaredDeviations_eq_zero_iff]
  simp only [List.forall_mem_map]
  intro x hx y hy
  rw [h x hx y hy]

/-! ### The measures -/

/-- A measure of what is left of full agreement is at most that. -/
theorem max_one_sub_div_le_one {spread ceiling : ℝ} (h : 0 ≤ spread) (hceiling : 0 < ceiling) :
    max (1 - spread / ceiling) 0 ≤ 1 :=
  max_le (sub_le_self 1 (div_nonneg h hceiling.le)) zero_le_one

theorem max_one_sub_zero_div (ceiling : ℝ) : max (1 - 0 / ceiling) 0 = 1 := by
  simp

/-- Fewer than two ratings are unanimous. -/
theorem unanimous_of_length_le_one {ratings : List ℤ} (h : ratings.length ≤ 1) :
    ∀ x ∈ ratings, ∀ y ∈ ratings, x = y := by
  rcases ratings with _ | ⟨a, _ | ⟨b, ratings⟩⟩
  · simp
  · simp
  · simp at h

section OfRange

variable (config : Config ℝ) (ratings : List ℤ) (range : ℤ)

theorem varianceAgreement_ofRange : (ofRange config ratings range).varianceAgreement
    = max (1 - Statistics.populationVariance (ratings.map fun (n : ℤ) => (n : ℝ))
        / config.varianceCeiling) 0 := by
  rw [ofRange]
  split_ifs with hfew
  · rw [populationVariance_of_unanimous (unanimous_of_length_le_one hfew), max_one_sub_zero_div]
    rfl
  · exact Scalar.larger_eq_max _ _

/-- A single rating is measured as if its range were 0. -/
theorem rangeAgreement_ofRange {ratings : List ℤ} {range : ℤ}
    (h : ratings.length ≤ 1 → range = 0) : (ofRange config ratings range).rangeAgreement
    = max (1 - (range : ℝ) / config.rangeCeiling) 0 := by
  rw [ofRange]
  split_ifs with hfew
  · rw [h hfew, Int.cast_zero, max_one_sub_zero_div]
    rfl
  · exact Scalar.larger_eq_max _ _

theorem modeAgreement_ofRange {ratings : List ℤ} (h : ratings ≠ []) :
    (ofRange config ratings range).modeAgreement = (modeCount ratings : ℝ) / ratings.length := by
  rw [ofRange]
  split_ifs with hfew
  · rw [(modeCount_eq_length_iff ratings).mpr (unanimous_of_length_le_one hfew),
      div_self (Statistics.cast_length_pos h).ne']
    rfl
  · rfl

theorem rawComposite_ofRange : (ofRange config ratings range).rawComposite
    = 2 / 5 * (ofRange config ratings range).varianceAgreement
      + 3 / 10 * (ofRange config ratings range).rangeAgreement
      + 3 / 10 * (ofRange config ratings range).modeAgreement := by
  have hmeasures : ∀ v r k : ℝ,
      (ofMeasures config v r k).rawComposite = 2 / 5 * v + 3 / 10 * r + 3 / 10 * k := by
    intro v r k
    show (0.4 : ℝ) * v + (0.3 : ℝ) * r + (0.3 : ℝ) * k = _
    norm_num
  rw [ofRange]
  split_ifs <;> exact hmeasures _ _ _

end OfRange

section Formulas

variable (config : Config ℝ)

theorem varianceAgreement_eq (ratings : List ℤ) : (score config ratings).varianceAgreement
    = max (1 - Statistics.populationVariance (ratings.map fun (n : ℤ) => (n : ℝ))
        / config.varianceCeiling) 0 :=
  varianceAgreement_ofRange config ratings _

theorem rangeAgreement_eq (ratings : List ℤ) : (score config ratings).rangeAgreement
    = max (1 - (ratingRange ℝ ratings : ℝ) / config.rangeCeiling) 0 := by
  apply rangeAgreement_ofRange
  intro hfew
  exact ratingRange_eq_zero (unanimous_of_length_le_one hfew)

theorem modeAgreement_eq {ratings : List ℤ} (h : ratings ≠ []) :
    (score config ratings).modeAgreement = (modeCount ratings : ℝ) / ratings.length :=
  modeAgreement_ofRange config _ h

theorem rawComposite_eq (ratings : List ℤ) :
    (score config ratings).rawComposite
      = 2 / 5 * (score config ratings).varianceAgreement
        + 3 / 10 * (score config ratings).rangeAgreement
        + 3 / 10 * (score config ratings).modeAgreement :=
  rawComposite_ofRange config ratings _

theorem composite_eq (ratings : List ℤ) : (score config ratings).composite
    = (score config ratings).rawComposite * config.compositeScaleFactor := by
  rw [score, ofRange]
  split_ifs <;> rfl

end Formulas

/-! ### Unanimous raters -/

variable {config : Config ℝ}

theorem varianceAgreement_le_one (h : config.Sound) (ratings : List ℤ) :
    (score config ratings).varianceAgreement ≤ 1 := by
  rw [varianceAgreement_eq]
  exact max_one_sub_div_le_one (populationVariance_nonneg ratings) h.varianceCeiling_pos

theorem rangeAgreement_le_one (h : config.Sound) (ratings : List ℤ) :
    (score config ratings).rangeAgreement ≤ 1 := by
  rw [rangeAgreement_eq]
  exact max_one_sub_div_le_one (Int.cast_nonneg (ratingRange_nonneg ratings)) h.rangeCeiling_pos

theorem modeAgreement_le_one (config : Config ℝ) (ratings : List ℤ) :
    (score config ratings).modeAgreement ≤ 1 := by
  rcases eq_or_ne ratings [] with rfl | hne
  · exact le_rfl
  rw [modeAgreement_eq config hne]
  have hle : (modeCount ratings : ℝ) ≤ ratings.length := by
    exact_mod_cast modeCount_le_length ratings
  exact div_le_one_of_le₀ hle (Nat.cast_nonneg _)

theorem varianceAgreement_of_unanimous (config : Config ℝ) {ratings : List ℤ}
    (h : ∀ x ∈ ratings, ∀ y ∈ ratings, x = y) :
    (score config ratings).varianceAgreement = 1 := by
  rw [varianceAgreement_eq, populationVariance_of_unanimous h, max_one_sub_zero_div]

theorem rangeAgreement_of_unanimous (config : Config ℝ) {ratings : List ℤ}
    (h : ∀ x ∈ ratings, ∀ y ∈ ratings, x = y) :
    (score config ratings).rangeAgreement = 1 := by
  rw [rangeAgreement_eq, ratingRange_eq_zero h, Int.cast_zero, max_one_sub_zero_div]

/-- The share of the most frequent rating is full exactly if there is no other rating. -/
theorem modeAgreement_eq_one_iff (config : Config ℝ) (ratings : List ℤ) :
    (score config ratings).modeAgreement = 1 ↔ ∀ x ∈ ratings, ∀ y ∈ ratings, x = y := by
  rcases eq_or_ne ratings [] with rfl | hne
  · exact iff_of_true rfl (by simp)
  rw [modeAgreement_eq config hne, div_eq_one_iff_eq (Statistics.cast_length_pos hne).ne',
    Nat.cast_inj, modeCount_eq_length_iff]

/-- The weighted agreement on an item is full exactly if its ratings are equal. -/
theorem rawComposite_eq_one_iff (h : config.Sound) (ratings : List ℤ) :
    (score config ratings).rawComposite = 1 ↔ ∀ x ∈ ratings, ∀ y ∈ ratings, x = y := by
  rw [rawComposite_eq]
  constructor
  · intro hone
    have hvar := varianceAgreement_le_one h ratings
    have hrange := rangeAgreement_le_one h ratings
    have hmode := modeAgreement_le_one config ratings
    -- A weighted mean of numbers up to 1 is 1 only if each of them is.
    exact (modeAgreement_eq_one_iff config ratings).mp (by linarith)
  · intro hall
    rw [varianceAgreement_of_unanimous config hall, rangeAgreement_of_unanimous config hall,
      (modeAgreement_eq_one_iff config ratings).mpr hall]
    norm_num

end ItemAgreement

end InterRater
