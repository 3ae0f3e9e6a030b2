import InterRater.Number.Tail
import InterRater.Proofs.Number.Comparison
import InterRater.Proofs.Statistics.LinearCorrelation
import InterRater.Proofs.Statistics.RankCorrelation

/-!
# Rank correlation on other scales

Ranks depend on the order of the values only.  A function that keeps the order of rounded values,
whatever it does with them otherwise, keeps their ranks to the last bit (`averageRanks_map_of_lt`),
and with them every part of Spearman's correlation.

A function that turns the order over turns each rank `r` of `n` values into `n + 1 - r`
(`rankSamples_map_fst`, `rankSamples_map_snd`): the ranks are on a falling scale.  In exact
arithmetic this changes the sign of the coefficient and nothing else (`ofSamples_extend_falling`).

`spearman_monotone` states both for either series.
-/

namespace InterRater

/-! ### Ranks under a function that keeps the order -/

namespace Statistics

/-- Where no value is sorted otherwise, and the same values are equal, the ranks are the same. -/
theorem averageRanks_map {α : Type} [Scalar α] [RankOrder α] {f : α → α} {values : List α}
    (hself : ∀ v ∈ values, v == v)
    (hbefore : ∀ u ∈ values, ∀ v ∈ values,
      (Scalar.precedes (f u) (f v) && !(f u == f v)) = (Scalar.precedes u v && !(u == v)))
    (hequal : ∀ u ∈ values, ∀ v ∈ values, (f u == f v) = (u == v)) :
    averageRanks (values.map f) = averageRanks values := by
  have hself' : ∀ v ∈ values.map f, v == v :=
    List.forall_mem_map.mpr fun v hv => (hequal v hv v hv).trans (hself v hv)
  rw [averageRanks_eq_map_countedRank hself', averageRanks_eq_map_countedRank hself, List.map_map]
  refine List.map_congr_left fun v hv => ?_
  have hcount : (values.map f).countP (fun u => Scalar.precedes u (f v) && !(u == f v))
      = values.countP fun u => Scalar.precedes u v && !(u == v) := by
    rw [List.countP_map]
    exact List.countP_congr fun u hu => by rw [Function.comp_apply, hbefore u hu v hv]
  have hties : (values.map f).countP (· == f v) = values.countP (· == v) := by
    rw [List.countP_map]
    exact List.countP_congr fun u hu => by rw [Function.comp_apply, hequal u hu v hv]
  rw [Function.comp_apply, countedRank, countedRank, hcount, hties]

section Rounded

variable {u v : Binary64} (hu : u.isNaN = false) (hv : v.isNaN = false)
include hu hv

/-- One number is sorted before another, and not equal to it, if it is less. -/
theorem precedes_and_not_beq_iff :
    (Scalar.precedes u v && !Scalar.beq u v) = true ↔ u < v := by
  rw [Bool.and_eq_true, Bool.not_eq_true', ← Bool.not_eq_true, Binary64.precedes_iff,
    Binary64.beq_iff, Binary64.lt_iff, and_iff_right hu, and_iff_right hv,
    and_iff_right hu, and_iff_right hv]
  constructor
  · rintro ⟨hle, hne⟩
    exact lt_of_le_of_ne (Binary64.place_le_place hle) hne
  · intro hlt
    exact ⟨not_lt.mp fun hgt => hlt.not_ge (Binary64.place_le_place hgt.le), hlt.ne⟩

/-- Two numbers are equal if neither is less. -/
theorem beq_iff_not_lt : Scalar.beq u v = true ↔ ¬ u < v ∧ ¬ v < u := by
  rw [Binary64.beq_iff, Binary64.lt_iff, Binary64.lt_iff, and_iff_right hu, and_iff_right hv,
    and_iff_right hu, and_iff_right hv, and_iff_right hv, and_iff_right hu, not_lt, not_lt,
    le_antisymm_iff, and_comm]

end Rounded

/-- **The ranks of rounded numbers** are the same on every scale that keeps their order. -/
theorem averageRanks_map_of_lt {f : Binary64 → Binary64} {values : List Binary64}
    (hnan : ∀ v ∈ values, v.isNaN = false) (hnan' : ∀ v ∈ values, (f v).isNaN = false)
    (hf : ∀ u ∈ values, ∀ v ∈ values, u < v ↔ f u < f v) :
    averageRanks (values.map f) = averageRanks values := by
  refine averageRanks_map (fun v hv => ?_) (fun u hu v hv => ?_) fun u hu v hv => ?_
  · exact Binary64.beq_iff.mpr ⟨hnan v hv, hnan v hv, rfl⟩
  · exact Bool.eq_iff_iff.mpr ((precedes_and_not_beq_iff (hnan' u hu) (hnan' v hv)).trans
      ((hf u hu v hv).symm.trans (precedes_and_not_beq_iff (hnan u hu) (hnan v hv)).symm))
  · have hnot : ¬ f u < f v ∧ ¬ f v < f u ↔ ¬ u < v ∧ ¬ v < u := by
      rw [hf u hu v hv, hf v hv u hu]
    exact Bool.eq_iff_iff.mpr ((beq_iff_not_lt (hnan' u hu) (hnan' v hv)).trans
      (hnot.trans (beq_iff_not_lt (hnan u hu) (hnan v hv)).symm))

end Statistics

namespace Correlation

/-- The correlation with the opposite sign. -/
def opposite {α : Type} [Scalar α] (correlation : Correlation α) : Correlation α :=
  { correlation with coefficient := -correlation.coefficient }

/-! ### Ranks on a falling scale -/

section Ranks

variable {β γ δ : Type*} [LinearOrder β] [LinearOrder γ] [LinearOrder δ]
  (samples : List (β × γ))

theorem rankSamples_map_fst {f : β → δ}
    (hf : StrictAntiOn f {v | v ∈ samples.map (·.1)}) :
    rankSamples (samples.map (Prod.map f id))
      = rescaled (-1) (samples.length + 1) 1 0 (rankSamples samples) := by
  have hfst : (samples.map (Prod.map f id)).map (·.1) = (samples.map (·.1)).map f := by
    rw [List.map_map, List.map_map]
    rfl
  have hsnd : (samples.map (Prod.map f id)).map (·.2) = samples.map (·.2) := by
    rw [List.map_map]
    rfl
  rw [rankSamples, hfst, hsnd, rescaled, rankSamples]
  refine List.map_map.trans ((List.map_congr_left fun s hs => Prod.ext ?_ ?_).trans
    List.map_map.symm)
  · show Statistics.midRank ((samples.map (·.1)).map f) (f s.1) = _
    rw [Statistics.midRank_map_of_strictAntiOn (fun _ hv => hv) (List.mem_map_of_mem hs) hf,
      List.length_map, Function.comp_apply]
    ring
  · show Statistics.midRank (samples.map (·.2)) s.2 = 1 * Statistics.midRank _ s.2 + 0
    rw [one_mul, add_zero]

theorem rankSamples_map_snd {f : γ → δ}
    (hf : StrictAntiOn f {v | v ∈ samples.map (·.2)}) :
    rankSamples (samples.map (Prod.map id f))
      = rescaled 1 0 (-1) (samples.length + 1) (rankSamples samples) := by
  have hfst : (samples.map (Prod.map id f)).map (·.1) = samples.map (·.1) := by
    rw [List.map_map]
    rfl
  have hsnd : (samples.map (Prod.map id f)).map (·.2) = (samples.map (·.2)).map f := by
    rw [List.map_map, List.map_map]
    rfl
  rw [rankSamples, hfst, hsnd, rescaled, rankSamples]
  refine List.map_map.trans ((List.map_congr_left fun s hs => Prod.ext ?_ ?_).trans
    List.map_map.symm)
  · show Statistics.midRank (samples.map (·.1)) s.1 = 1 * Statistics.midRank _ s.1 + 0
    rw [one_mul, add_zero]
  · show Statistics.midRank ((samples.map (·.2)).map f) (f s.2) = _
    rw [Statistics.midRank_map_of_strictAntiOn (fun _ hv => hv) (List.mem_map_of_mem hs) hf,
      List.length_map, Function.comp_apply]
    ring

end Ranks

/-! ### The sign of the coefficient -/

section Extended

variable [Special EReal]

/-- With the arithmetic of extended numbers too, the p-value does not see the sign of the
coefficient. -/
theorem significance_extended_neg (r : EReal) (n : ℕ) :
    significance (-r) n = significance r n := by
  have htail : ∀ t degrees : EReal,
      Special.twoSidedTail (-t) degrees = Special.twoSidedTail t degrees := by
    intro t degrees
    have hnan : ∀ t : EReal, Scalar.nonFinite? t ≠ some .nan := by
      intro t
      show (if t = ⊤ then some NonFinite.infinity
        else if t = ⊥ then some NonFinite.negativeInfinity else none) ≠ some .nan
      split_ifs <;> simp
    refine Special.twoSidedTail_congr (iff_of_false (hnan _) (hnan _)) ?_ degrees
    show max (-t) (- -t) = max t (-t)
    rw [neg_neg, max_comm]
  simp only [significance, neg_mul_neg]
  simp only [neg_mul, htail]

/-- Samples of which one part is on a falling scale have the opposite correlation. -/
theorem ofSamples_extend_falling {a c : ℝ} (hac : a * c < 0) (b d : ℝ)
    (samples : List (ℝ × ℝ)) :
    ofSamples (extend (rescaled a b c d samples)) = (ofSamples (extend samples)).opposite := by
  have ha : a ≠ 0 := left_ne_zero_of_mul hac.ne
  have hc : c ≠ 0 := right_ne_zero_of_mul hac.ne
  have hlength : (rescaled a b c d samples).length = samples.length := List.length_map _
  have hquotient : ((quotient (rescaled a b c d samples) : ℝ) : EReal)
      = -(quotient samples : EReal) := by
    rw [quotient_rescaled b d samples ha hc, sign_neg hac, SignType.coe_neg_one, neg_one_mul,
      EReal.coe_neg]
  simp only [ofSamples_extend, hlength, xDeviations_rescaled, yDeviations_rescaled, mul_eq_zero,
    pow_ne_zero 2 ha, pow_ne_zero 2 hc, false_or, hquotient, significance_extended_neg]
  split_ifs
  · show (⟨0, 1, false⟩ : Correlation EReal) = ⟨-0, 1, false⟩
    rw [neg_zero]
  · rfl

end Extended

/-! ### Spearman's correlation -/

/-- **Spearman's correlation does not depend on the scale of a series**, but on the order of its
values.  A function of rounded numbers that keeps their order, so that it tells the two zeros as
little apart as the order does, keeps the correlation to the last bit.  In exact arithmetic a
function that turns the order over makes it the opposite one: the coefficient changes its sign, and
the p-value stays. -/
theorem spearman_monotone [Special EReal] :
    (∀ (x y : List Binary64) (f : Binary64 → Binary64),
      (∀ v ∈ x, v.isNaN = false) → (∀ v ∈ x, (f v).isNaN = false) →
      (∀ u ∈ x, ∀ v ∈ x, u < v ↔ f u < f v) →
      spearman (x.map f) y = spearman x y ∧ spearman y (x.map f) = spearman y x) ∧
    (∀ (x y : List EReal) (f : EReal → EReal), x.length = y.length →
      StrictAntiOn f {v | v ∈ x} →
      spearman (x.map f) y = (spearman x y).opposite ∧
        spearman y (x.map f) = (spearman y x).opposite) := by
  constructor
  · intro x y f hnan hnan' hf
    have hranks := Statistics.averageRanks_map_of_lt hnan hnan' hf
    exact ⟨by rw [spearman, hranks, spearman], by rw [spearman, hranks, spearman]⟩
  · intro x y f hlength hf
    have hlength' : (x.map f).length = y.length := (List.length_map f).trans hlength
    constructor
    · have hzip : (x.map f).zip y = (x.zip y).map (Prod.map f id) := by
        rw [← List.zip_map, List.map_id]
      have hfst : StrictAntiOn f {v | v ∈ (x.zip y).map (·.1)} := by
        rwa [List.map_fst_zip hlength.le]
      rw [spearman_eq hlength', hzip, rankSamples_map_fst _ hfst, spearman_eq hlength]
      exact ofSamples_extend_falling (by norm_num) _ _ _
    · have hzip : y.zip (x.map f) = (y.zip x).map (Prod.map id f) := by
        rw [← List.zip_map, List.map_id]
      have hsnd : StrictAntiOn f {v | v ∈ (y.zip x).map (·.2)} := by
        rwa [List.map_snd_zip hlength.le]
      rw [spearman_eq hlength'.symm, hzip, rankSamples_map_snd _ hsnd, spearman_eq hlength.symm]
      exact ofSamples_extend_falling (by norm_num) _ _ _

/-- Rounded numbers with a tie of the two zeros, shifted by 1, and extended ones, turned over. -/
theorem spearman_shifted :
    let x : List Binary64 := [.infinity false, .ofParts false 0, .ofNat 3, .ofParts true 0]
    let y : List EReal := [0, ⊤, ⊥]
    spearman (x.map fun v => v + Binary64.ofNat 1) x = spearman x x ∧
      spearman (y.map fun v => -v) y = (spearman y y).opposite := by
  intro x y
  have hanti : StrictAntiOn (fun v : EReal => -v) {v | v ∈ y} :=
    fun _ _ _ _ h => EReal.neg_lt_neg_iff.mpr h
  obtain ⟨hrounded, hexact⟩ := spearman_monotone
  exact ⟨(hrounded x x (fun v => v + Binary64.ofNat 1) (by decide) (by decide +kernel)
    (by decide +kernel)).1, (hexact y y (fun v => -v) rfl hanti).1⟩

end Correlation

end InterRater
