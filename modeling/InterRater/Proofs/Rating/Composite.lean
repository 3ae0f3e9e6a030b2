import InterRater.Proofs.Config.Sound
import InterRater.Proofs.Number.Comparison
import InterRater.Rating.Agreement

/-!
# The composite agreement in rounded arithmetic

Under a configuration without a flaw the composite agreement of an item is a number without a sign
bit (`unsigned_composite`): the measures are not below 0, and the share of the most frequent rating
has no sign bit, which carries over to the sum.
-/

namespace InterRater

namespace ItemAgreement

open Binary64

/-- What is left of full agreement is never below 0, whatever is taken off. -/
theorem nonneg_larger_zero (x : Binary64) : (Scalar.larger x 0).Nonneg := by
  have hzero : Nonneg 0 := ⟨by decide, by decide⟩
  rw [Scalar.larger]
  split_ifs with hlt hbeq
  · exact hzero
  · obtain ⟨hnan, -, -⟩ := beq_iff.mp hbeq
    refine ⟨hnan, fun hneg => ?_⟩
    rw [lt_iff] at hlt
    have hplace : ¬ x.place < (0 : Binary64).place := fun h => hlt ⟨hnan, by decide, h⟩
    have h0 : (0 : Binary64).place = 0 := by decide
    rw [h0, place, hneg, if_pos rfl] at hplace
    omega
  · exact hzero

/-- A positive finite factor keeps a value from falling below 0. -/
theorem nonneg_weight_mul {weight x : Binary64} (hweight : weight.Unsigned)
    (hfinite : weight.isFinite = true) (hpos : weight.magnitude ≠ 0) (hx : x.Nonneg) :
    (mul weight x).Nonneg ∧ (x.negative = false → (mul weight x).negative = false) := by
  obtain ⟨hnonneg, hnegative⟩ := nonneg_mul hweight.nonneg hx
    (fun hinf => absurd hinf (by rw [not_isInfinite_of_isFinite hfinite]; decide)) (fun _ => hpos)
  exact ⟨hnonneg, hnegative hweight.negative⟩

variable {config : Config Binary64}

theorem unsigned_rawComposite (config : Config Binary64) {variance range mode : Binary64}
    (hvariance : variance.Nonneg) (hrange : range.Nonneg) (hmode : mode.Unsigned) :
    (ofMeasures config variance range mode).rawComposite.Unsigned := by
  have hfirst : (0.4 : Binary64).Unsigned := ⟨by decide, by decide⟩
  have hsecond : (0.3 : Binary64).Unsigned := ⟨by decide, by decide⟩
  obtain ⟨h₁, -⟩ := nonneg_weight_mul hfirst (by decide) (by decide) hvariance
  obtain ⟨h₂, -⟩ := nonneg_weight_mul hsecond (by decide) (by decide) hrange
  obtain ⟨h₃, h₃'⟩ := nonneg_weight_mul hsecond (by decide) (by decide) hmode.nonneg
  obtain ⟨h₁₂, -⟩ := nonneg_add h₁ h₂
  obtain ⟨hsum, hsum'⟩ := nonneg_add h₁₂ h₃
  exact ⟨hsum.isNaN, hsum' (h₃' hmode.negative)⟩

/-- The scale factor that a configuration without a flaw has. -/
theorem unsigned_scaleFactor (h : config.flaw? = none) : config.compositeScaleFactor.Unsigned ∧
    config.compositeScaleFactor.isFinite = true ∧ config.compositeScaleFactor.magnitude ≠ 0 := by
  obtain ⟨hpos, hle⟩ := Config.factor_of_flaw?_eq_none h
  obtain ⟨-, hnan, hplace⟩ := lt_iff.mp hpos
  obtain ⟨-, -, hplace'⟩ := le_iff.mp hle
  have h0 : (0 : Binary64).place = 0 := by decide
  have h1 : (1 : Binary64).place < infiniteMagnitude := by decide
  -- A sign bit would put the factor below 0.
  have hfactor : config.compositeScaleFactor.negative = false := by
    by_contra hneg
    rw [Bool.not_eq_false] at hneg
    rw [h0, place, hneg, if_pos rfl] at hplace
    omega
  have hunsigned : config.compositeScaleFactor.Unsigned := ⟨hnan, hfactor⟩
  rw [h0, hunsigned.place] at hplace
  rw [hunsigned.place] at hplace'
  exact ⟨hunsigned, decide_eq_true (by omega), by omega⟩

theorem unsigned_composite_ofMeasures (h : config.flaw? = none) {variance range mode : Binary64}
    (hvariance : variance.Nonneg) (hrange : range.Nonneg) (hmode : mode.Unsigned) :
    (ofMeasures config variance range mode).composite.Unsigned := by
  have hraw := unsigned_rawComposite config hvariance hrange hmode
  obtain ⟨hfactor, hfinite, hpos⟩ := unsigned_scaleFactor h
  obtain ⟨hnonneg, hnegative⟩ := nonneg_mul hraw.nonneg hfactor.nonneg (fun _ => hpos)
    (fun hinf => absurd hinf (by rw [not_isInfinite_of_isFinite hfinite]; decide))
  exact ⟨hnonneg.isNaN, hnegative hraw.negative hfactor.negative⟩

/-- The composite agreement on an item has no sign bit, if there are no more raters than a word of
64 bits can count. -/
theorem unsigned_composite (h : config.flaw? = none) {ratings : List ℤ}
    (hlength : ratings.length < 2 ^ 64) : (score config ratings).composite.Unsigned := by
  have hone : (1 : Binary64).Unsigned := ⟨by decide, by decide⟩
  rw [score, ofRange]
  split_ifs with hfew
  · exact unsigned_composite_ofMeasures h hone.nonneg hone.nonneg hone
  · refine unsigned_composite_ofMeasures h (nonneg_larger_zero _) (nonneg_larger_zero _) ?_
    exact unsigned_div (unsigned_ofNat _) (unsigned_ofNat _) (isFinite_ofNat hlength)
      (magnitude_ofNat_ne_zero (by omega) hlength)

end ItemAgreement

end InterRater
