import InterRater.Proofs.Rating.WordRange
import Mathlib.Order.Interval.Set.Basic

/-!
# The range of the agreement on an item

Under a configuration without a flaw all measures of agreement and their weighted sum are between 0
and 1.  The most frequent rating has a share of `1 / n` at least, so that the composite agreement is
above 0, and it reaches the scale factor exactly for unanimous raters (`bounded_score`).

With a range in words of 64 bits the agreement is within these bounds exactly if the range fits
(`score_bounds`).  The measures by variance and by the most frequent rating do not read the range.
-/

namespace InterRater

namespace ItemAgreement

variable {config : Config ℝ} {ratings : List ℤ}

/-! ### The law -/

/-- The agreement is in its range: the measures and their weighted sum are between 0 and 1, and the
composite is above 0 and at most the scale factor. -/
structure Bounded (config : Config ℝ) (ratings : List ℤ) (agreement : ItemAgreement ℝ) : Prop where
  variance : agreement.varianceAgreement ∈ Set.Icc 0 1
  range : agreement.rangeAgreement ∈ Set.Icc 0 1
  mode : agreement.modeAgreement ∈ Set.Icc 0 1
  raw : agreement.rawComposite ∈ Set.Icc 0 1
  composite : agreement.composite ∈ Set.Ioc 0 config.compositeScaleFactor
  share : 1 ≤ ratings.length → 1 / (ratings.length : ℝ) ≤ agreement.modeAgreement
  /-- Only fewer than two ratings and equal ones reach the scale factor. -/
  top : agreement.composite = config.compositeScaleFactor
    ↔ ratings.length ≤ 1 ∨ ∀ x ∈ ratings, ∀ y ∈ ratings, x = y
  full : agreement.composite = config.compositeScaleFactor →
    agreement.varianceAgreement = 1 ∧ agreement.rangeAgreement = 1 ∧ agreement.modeAgreement = 1

/-! ### Lower bounds -/

theorem varianceAgreement_nonneg (config : Config ℝ) (ratings : List ℤ) :
    0 ≤ (score config ratings).varianceAgreement := by
  rw [varianceAgreement_eq]
  exact le_max_right _ _

theorem rangeAgreement_nonneg (config : Config ℝ) (ratings : List ℤ) :
    0 ≤ (score config ratings).rangeAgreement := by
  rw [rangeAgreement_eq]
  exact le_max_right _ _

/-- Some rating occurs, and that is at least once. -/
theorem one_le_modeCount (h : ratings ≠ []) : 1 ≤ modeCount ratings := by
  obtain ⟨⟨x, hx, hcount⟩, -⟩ := modeCount_spec h
  have hpos := List.count_pos_iff.mpr hx
  omega

theorem one_div_length_le_modeAgreement (config : Config ℝ) (h : ratings ≠ []) :
    1 / (ratings.length : ℝ) ≤ (score config ratings).modeAgreement := by
  rw [modeAgreement_eq config h]
  gcongr
  exact_mod_cast one_le_modeCount h

theorem modeAgreement_pos (config : Config ℝ) (ratings : List ℤ) :
    0 < (score config ratings).modeAgreement := by
  rcases eq_or_ne ratings [] with rfl | hne
  · exact one_pos
  have hshare := one_div_pos.mpr (Statistics.cast_length_pos hne)
  exact hshare.trans_le (one_div_length_le_modeAgreement config hne)

/-! ### The weighted sum -/

theorem rawComposite_pos (config : Config ℝ) (ratings : List ℤ) :
    0 < (score config ratings).rawComposite := by
  have hvariance := varianceAgreement_nonneg config ratings
  have hrange := rangeAgreement_nonneg config ratings
  have hmode := modeAgreement_pos config ratings
  rw [rawComposite_eq]
  positivity

theorem rawComposite_le_one (h : config.Sound) (ratings : List ℤ) :
    (score config ratings).rawComposite ≤ 1 := by
  have hvariance := varianceAgreement_le_one h ratings
  have hrange := rangeAgreement_le_one h ratings
  have hmode := modeAgreement_le_one config ratings
  rw [rawComposite_eq]
  linarith

/-- The composite is the scale factor exactly if the ratings are equal. -/
theorem composite_eq_factor_iff (h : config.Sound) (ratings : List ℤ) :
    (score config ratings).composite = config.compositeScaleFactor
      ↔ ∀ x ∈ ratings, ∀ y ∈ ratings, x = y := by
  rw [composite_eq, mul_eq_right₀ h.compositeScaleFactor_pos.ne', rawComposite_eq_one_iff h]

/-! ### All bounds -/

theorem bounded_score (h : config.Sound) (ratings : List ℤ) :
    Bounded config ratings (score config ratings) := by
  have hraw : (score config ratings).rawComposite ∈ Set.Icc 0 1 :=
    ⟨(rawComposite_pos config ratings).le, rawComposite_le_one h ratings⟩
  constructor
  case variance =>
    exact ⟨varianceAgreement_nonneg config ratings, varianceAgreement_le_one h ratings⟩
  case range => exact ⟨rangeAgreement_nonneg config ratings, rangeAgreement_le_one h ratings⟩
  case mode => exact ⟨(modeAgreement_pos config ratings).le, modeAgreement_le_one config ratings⟩
  case raw => exact hraw
  case composite =>
    have hfactor := h.compositeScaleFactor_pos
    rw [composite_eq]
    constructor
    · exact mul_pos (rawComposite_pos config ratings) hfactor
    · exact mul_le_of_le_one_left hfactor.le hraw.2
  case share =>
    intro hlength
    exact one_div_length_le_modeAgreement config (List.length_pos_iff.mp hlength)
  case top =>
    rw [composite_eq_factor_iff h]
    constructor
    · exact Or.inr
    · rintro (hfew | hall)
      · exact unanimous_of_length_le_one hfew
      · exact hall
  case full =>
    intro hfactor
    have hall := (composite_eq_factor_iff h ratings).mp hfactor
    exact ⟨varianceAgreement_of_unanimous config hall, rangeAgreement_of_unanimous config hall,
      (modeAgreement_eq_one_iff config ratings).mpr hall⟩

theorem bounded_wordScore_iff (h : config.Sound) (hwords : AreWords ratings) :
    Bounded config ratings (wordScore config ratings) ↔ ratingRange ℝ ratings < 2 ^ 63 := by
  constructor
  · intro hbounded
    exact (rangeAgreement_wordScore_le_one_iff h hwords).mp hbounded.range.2
  · intro hfits
    rw [wordScore_eq config hfits]
    exact bounded_score h ratings

theorem varianceAgreement_wordScore (config : Config ℝ) (ratings : List ℤ) :
    (wordScore config ratings).varianceAgreement = (score config ratings).varianceAgreement := by
  rw [varianceAgreement_eq]
  exact varianceAgreement_ofRange config ratings _

theorem modeAgreement_wordScore (config : Config ℝ) (ratings : List ℤ) :
    (wordScore config ratings).modeAgreement = (score config ratings).modeAgreement := by
  rcases eq_or_ne ratings [] with rfl | hne
  · rfl
  rw [modeAgreement_eq config hne]
  exact modeAgreement_ofRange config _ hne

end ItemAgreement

end InterRater
