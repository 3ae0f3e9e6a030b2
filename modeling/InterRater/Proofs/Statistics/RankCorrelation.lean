import InterRater.Proofs.Number.Extended
import InterRater.Proofs.Statistics.CauchySchwarz

/-!
# What a rank correlation says

Spearman's correlation is that of the ranks.  Ranks are on a rising line exactly if the two series
are in the same order, ties included: the ranks are then the same.  They are on a falling line
exactly if the series are in opposite orders, and the ranks of the one are those of the other
counted from the other end.  So `spearman_outcome` follows from the equality cases of the
Cauchy-Schwarz inequality.

The values are extended real numbers, of which only the order matters; the ranks are real numbers,
and so is every number computed from them (`ofSamples_extend`).
-/

namespace InterRater

namespace Correlation

/-! ### Samples of extended real numbers -/

section Extended

/-- Samples of real numbers, as extended ones. -/
noncomputable def extend (samples : List (ℝ × ℝ)) : List (EReal × EReal) :=
  samples.map fun s => ((s.1 : EReal), (s.2 : EReal))

theorem comoment_extend (samples : List (ℝ × ℝ)) (x y : ℝ) :
    comoment (extend samples) (x : EReal) (y : EReal) = (comoment samples x y : ℝ) := by
  have hcoe := Scalar.foldl_add_coe (fun s : ℝ × ℝ => (s.1 - x) * (s.2 - y)) samples 0
  simp only [EReal.coe_mul, EReal.coe_sub, EReal.coe_zero] at hcoe
  rw [comoment, extend, List.foldl_map, comoment_eq, ← zero_add (List.sum _)]
  exact hcoe

theorem spread_mean_coe (values : List ℝ) :
    spread (values.map ((↑) : ℝ → EReal)) ((Statistics.mean values : ℝ) : EReal)
      = (Statistics.squaredDeviations values : ℝ) := by
  set center := Statistics.mean values
  have hcoe := Scalar.foldl_add_coe (fun v => (v - center) * (v - center)) values 0
  simp only [EReal.coe_mul, EReal.coe_sub, EReal.coe_zero] at hcoe
  rw [spread, List.foldl_map, Statistics.squaredDeviations_eq, ← zero_add (List.sum _)]
  simp only [pow_two]
  exact hcoe

theorem mean_coe (values : List ℝ) :
    Scalar.sum (values.map ((↑) : ℝ → EReal)) / (values.length : EReal)
      = (Statistics.mean values : ℝ) := by
  rw [Scalar.sum_coe, Statistics.mean_eq, EReal.coe_div]
  rfl

theorem significance_of_sq_eq_one [Special EReal] {r : ℝ} (hr : r ^ 2 = 1) {n : ℕ} (hn : 3 ≤ n) :
    significance (r : EReal) n = 0 := by
  have hrest : (1 : EReal) - r * r = 0 := by
    rw [← EReal.coe_mul, ← pow_two, hr, EReal.coe_one]
    exact EReal.sub_self (by decide) (by decide)
  unfold significance
  rw [if_neg (by omega)]
  exact if_pos hrest.le

theorem clamp_coe {r : ℝ} (hr : r ^ 2 ≤ 1) : Scalar.clamp (r : EReal) (-1) 1 = r := by
  have hmem : r ∈ Set.Icc (-1) 1 := abs_le.mp ((sq_le_one_iff_abs_le_one r).mp hr)
  exact Scalar.clamp_of_mem (Special.coe_mem_Icc hmem)

/-- The correlation of real numbers, with the arithmetic of extended ones. -/
theorem ofSamples_extend [Special EReal] (samples : List (ℝ × ℝ)) :
    ofSamples (extend samples) =
      if samples.length < 2 ∨ xDeviations samples = 0 ∨ yDeviations samples = 0 then undefined
      else
        let r : EReal := quotient samples
        ⟨r, significance r samples.length, true⟩ := by
  have hxs : (extend samples).map (·.1) = (samples.map (·.1)).map ((↑) : ℝ → EReal) := by
    rw [extend, List.map_map, List.map_map]
    rfl
  have hys : (extend samples).map (·.2) = (samples.map (·.2)).map ((↑) : ℝ → EReal) := by
    rw [extend, List.map_map, List.map_map]
    rfl
  have hlength : (extend samples).length = samples.length := List.length_map _
  have hxmean := mean_coe (samples.map (·.1))
  have hymean := mean_coe (samples.map (·.2))
  rw [List.length_map] at hxmean hymean
  have hx : spread ((samples.map (·.1)).map ((↑) : ℝ → EReal))
      ((Statistics.mean (samples.map (·.1)) : ℝ) : EReal) = xDeviations samples :=
    spread_mean_coe _
  have hy : spread ((samples.map (·.2)).map ((↑) : ℝ → EReal))
      ((Statistics.mean (samples.map (·.2)) : ℝ) : EReal) = yDeviations samples :=
    spread_mean_coe _
  have hxy : comoment (extend samples) ((Statistics.mean (samples.map (·.1)) : ℝ) : EReal)
      ((Statistics.mean (samples.map (·.2)) : ℝ) : EReal) = codeviations samples :=
    comoment_extend samples _ _
  have hquotient : (codeviations samples : EReal)
      / Scalar.sqrt ((xDeviations samples : EReal) * (yDeviations samples : EReal))
        = quotient samples := by
    rw [← EReal.coe_mul, Scalar.sqrt_coe, ← EReal.coe_div, quotient]
  unfold ofSamples
  simp only [hxs, hys, hlength, hxmean, hymean, hx, hy, hxy, hquotient, Bool.or_eq_true,
    beq_iff_eq, EReal.coe_eq_zero]
  by_cases hfew : samples.length < 2
  · rw [if_pos hfew, if_pos (Or.inl hfew)]
  · simp only [hfew, false_or, if_false]
    refine ite_congr rfl (fun _ => rfl) fun hvary => ?_
    rw [clamp_coe (sq_quotient_le_one fun hx => hvary (Or.inl hx))]

end Extended

/-! ### Samples and their ranks -/

section Ranks

variable {β γ : Type*} [LinearOrder β] [LinearOrder γ]

/-- The samples with each value replaced by its rank. -/
noncomputable def rankSamples (samples : List (β × γ)) : List (ℝ × ℝ) :=
  samples.map fun s => (Statistics.midRank (samples.map (·.1)) s.1,
    Statistics.midRank (samples.map (·.2)) s.2)

/-- Ranks vary where the values do. -/
theorem squaredDeviations_midRank_eq_zero_iff (l : List β) :
    Statistics.squaredDeviations (l.map (Statistics.midRank l)) = 0 ↔
      ∀ u ∈ l, ∀ v ∈ l, u = v := by
  rw [Statistics.squaredDeviations_eq_zero_iff]
  simp only [List.forall_mem_map]
  exact forall₂_congr fun u hu => forall₂_congr fun v hv => Statistics.midRank_inj hu hv

variable (samples : List (β × γ))

theorem xDeviations_rankSamples_eq_zero_iff : xDeviations (rankSamples samples) = 0 ↔
    ∀ u ∈ samples.map (·.1), ∀ v ∈ samples.map (·.1), u = v := by
  rw [xDeviations, ← squaredDeviations_midRank_eq_zero_iff, rankSamples, List.map_map,
    List.map_map]
  rfl

theorem yDeviations_rankSamples_eq_zero_iff : yDeviations (rankSamples samples) = 0 ↔
    ∀ u ∈ samples.map (·.2), ∀ v ∈ samples.map (·.2), u = v := by
  rw [yDeviations, ← squaredDeviations_midRank_eq_zero_iff, rankSamples, List.map_map,
    List.map_map]
  rfl

variable {samples}

/-- Values in the same order have the same ranks. -/
theorem midRank_eq_midRank
    (horder : ∀ s ∈ samples, ∀ t ∈ samples, s.1 < t.1 ↔ s.2 < t.2) {s : β × γ} (hs : s ∈ samples) :
    Statistics.midRank (samples.map (·.2)) s.2 = Statistics.midRank (samples.map (·.1)) s.1 := by
  have hbelow : (samples.map (·.2)).countP (· < s.2) = (samples.map (·.1)).countP (· < s.1) := by
    rw [List.countP_map, List.countP_map]
    exact List.countP_congr fun t ht => by simpa using (horder t ht s hs).symm
  have hties : (samples.map (·.2)).count s.2 = (samples.map (·.1)).count s.1 := by
    rw [List.count, List.count, List.countP_map, List.countP_map]
    refine List.countP_congr fun t ht => ?_
    -- Two values are equal if neither is below the other.
    have heq : t.2 = s.2 ↔ t.1 = s.1 := by
      simp only [le_antisymm_iff, ← not_lt, horder s hs t ht, horder t ht s hs]
    simpa using heq
  rw [Statistics.midRank_eq, Statistics.midRank_eq, hbelow, hties]

/-- Values in opposite orders have the ranks that count from the other end. -/
theorem midRank_eq_sub_midRank
    (horder : ∀ s ∈ samples, ∀ t ∈ samples, s.1 < t.1 ↔ t.2 < s.2) {s : β × γ} (hs : s ∈ samples) :
    Statistics.midRank (samples.map (·.2)) s.2
      = samples.length + 1 - Statistics.midRank (samples.map (·.1)) s.1 := by
  have hdual : Statistics.midRank ((samples.map (·.2)).map OrderDual.toDual) (OrderDual.toDual s.2)
      = Statistics.midRank (samples.map (·.1)) s.1 := by
    have hsame := @midRank_eq_midRank _ _ _ _ (samples.map fun s => (s.1, OrderDual.toDual s.2))
      (by simpa only [List.forall_mem_map, OrderDual.toDual_lt_toDual] using horder) _
      (List.mem_map_of_mem hs)
    rw [List.map_map]
    rwa [List.map_map, List.map_map] at hsame
  have hanti : StrictAntiOn OrderDual.toDual {v | v ∈ samples.map (·.2)} :=
    fun v _ w _ h => OrderDual.toDual_lt_toDual.mpr h
  rw [Statistics.midRank_map_of_strictAntiOn (fun _ hv => hv) (List.mem_map_of_mem hs) hanti,
    List.length_map] at hdual
  linarith

theorem quotient_rankSamples_eq_one_iff (hvary : xDeviations (rankSamples samples) ≠ 0) :
    quotient (rankSamples samples) = 1 ↔
      ∀ s ∈ samples, ∀ t ∈ samples, s.1 < t.1 ↔ s.2 < t.2 := by
  have hx := Statistics.strictMonoOn_midRank (samples.map (·.1))
  have hy := Statistics.strictMonoOn_midRank (samples.map (·.2))
  rw [quotient_eq_one_iff hvary]
  simp only [rankSamples, List.forall_mem_map]
  constructor
  · rintro ⟨a, b, ha, hline⟩ s hs t ht
    rw [← hx.lt_iff_lt (List.mem_map_of_mem hs) (List.mem_map_of_mem ht),
      ← hy.lt_iff_lt (List.mem_map_of_mem hs) (List.mem_map_of_mem ht), hline s hs, hline t ht,
      add_lt_add_iff_right, mul_lt_mul_iff_right₀ ha]
  · intro horder
    refine ⟨1, 0, one_pos, fun s hs => ?_⟩
    rw [midRank_eq_midRank horder hs, one_mul, add_zero]

theorem quotient_rankSamples_eq_neg_one_iff (hvary : xDeviations (rankSamples samples) ≠ 0) :
    quotient (rankSamples samples) = -1 ↔
      ∀ s ∈ samples, ∀ t ∈ samples, s.1 < t.1 ↔ t.2 < s.2 := by
  have hx := Statistics.strictMonoOn_midRank (samples.map (·.1))
  have hy := Statistics.strictMonoOn_midRank (samples.map (·.2))
  rw [quotient_eq_neg_one_iff hvary]
  simp only [rankSamples, List.forall_mem_map]
  constructor
  · rintro ⟨a, b, ha, hline⟩ s hs t ht
    rw [← hx.lt_iff_lt (List.mem_map_of_mem hs) (List.mem_map_of_mem ht),
      ← hy.lt_iff_lt (List.mem_map_of_mem ht) (List.mem_map_of_mem hs), hline s hs, hline t ht,
      add_lt_add_iff_right, mul_lt_mul_left_of_neg ha]
  · intro horder
    refine ⟨-1, samples.length + 1, neg_one_lt_zero, fun s hs => ?_⟩
    rw [midRank_eq_sub_midRank horder hs]
    ring

end Ranks

/-! ### Rank correlation of extended real numbers -/

section Spearman

theorem averageRanks_extended (values : List EReal) :
    Statistics.averageRanks values
      = values.map fun v => (Statistics.midRank values v : EReal) := by
  rw [Statistics.averageRanks_eq_map_countedRank fun v _ => beq_self_eq_true v]
  refine List.map_congr_left fun v _ => ?_
  rw [Statistics.countedRank_of_linearOrder (fun _ _ => rfl) (fun _ _ => rfl),
    Statistics.midRank_eq]
  set k := values.countP (· < v)
  have hhalf : (k : ℝ) + (values.count v + 1) / 2 = ((2 * k + values.count v + 1 : ℕ) : ℝ) / 2 := by
    push_cast
    ring
  rw [hhalf, EReal.coe_div]
  rfl

variable [Special EReal]

theorem spearman_eq {x y : List EReal} (hlength : x.length = y.length) :
    spearman x y = ofSamples (extend (rankSamples (x.zip y))) := by
  rw [spearman, pearson, averageRanks_extended, averageRanks_extended, List.zip_map, extend,
    rankSamples, List.map_fst_zip hlength.le, List.map_snd_zip hlength.ge, List.map_map]
  rfl

/-- **Spearman's correlation tells whether two series are in the same order.**  It is undefined, and
reported as 0 with p-value 1, exactly if one of them is constant.  Otherwise the coefficient is
between -1 and 1, and it is 1 exactly if the two are in the same order, and -1 exactly if they are
in opposite orders.  Of three samples or more this has p-value 0. -/
theorem spearman_outcome {x y : List EReal} (hlength : x.length = y.length)
    (htwo : 2 ≤ x.length) :
    ((spearman x y).defined = false ↔
      (∀ u ∈ x, ∀ v ∈ x, u = v) ∨ (∀ u ∈ y, ∀ v ∈ y, u = v)) ∧
    ((spearman x y).defined = false → spearman x y = ⟨0, 1, false⟩) ∧
    ((spearman x y).defined = true →
      -1 ≤ (spearman x y).coefficient ∧ (spearman x y).coefficient ≤ 1 ∧
      ((spearman x y).coefficient = 1 ↔
        ∀ s ∈ x.zip y, ∀ t ∈ x.zip y, s.1 < t.1 ↔ s.2 < t.2) ∧
      ((spearman x y).coefficient = -1 ↔
        ∀ s ∈ x.zip y, ∀ t ∈ x.zip y, s.1 < t.1 ↔ t.2 < s.2) ∧
      (3 ≤ x.length → (spearman x y).coefficient = 1 ∨ (spearman x y).coefficient = -1 →
        (spearman x y).pValue = 0)) := by
  set samples := x.zip y
  have hx : samples.map (·.1) = x := List.map_fst_zip hlength.le
  have hy : samples.map (·.2) = y := List.map_snd_zip hlength.ge
  have hcount : (rankSamples samples).length = x.length := by
    rw [rankSamples, List.length_map, ← hx, List.length_map]
  have hconstant : xDeviations (rankSamples samples) = 0 ∨ yDeviations (rankSamples samples) = 0 ↔
      (∀ u ∈ x, ∀ v ∈ x, u = v) ∨ (∀ u ∈ y, ∀ v ∈ y, u = v) := by
    rw [xDeviations_rankSamples_eq_zero_iff, yDeviations_rankSamples_eq_zero_iff, hx, hy]
  have heq := (spearman_eq hlength).trans (ofSamples_extend (rankSamples samples))
  rw [hcount] at heq
  simp only [htwo.not_gt, false_or] at heq
  rw [← hconstant]
  by_cases hvary : xDeviations (rankSamples samples) = 0 ∨ yDeviations (rankSamples samples) = 0
  · rw [if_pos hvary] at heq
    rw [heq]
    exact ⟨iff_of_true rfl hvary, fun _ => rfl, fun h => absurd h Bool.false_ne_true⟩
  rw [if_neg hvary] at heq
  have hxvary : xDeviations (rankSamples samples) ≠ 0 := fun hzero => hvary (Or.inl hzero)
  obtain ⟨hlow, hhigh⟩ := abs_le.mp
    ((sq_le_one_iff_abs_le_one _).mp (sq_quotient_le_one hxvary))
  have hone : ((quotient (rankSamples samples) : ℝ) : EReal) = 1 ↔
      quotient (rankSamples samples) = 1 := EReal.coe_eq_one
  have hneg : ((quotient (rankSamples samples) : ℝ) : EReal) = -1 ↔
      quotient (rankSamples samples) = -1 := by
    rw [← EReal.coe_one, ← EReal.coe_neg, EReal.coe_eq_coe_iff]
  rw [heq]
  have hdefined : ¬ true = false := Bool.noConfusion
  refine ⟨iff_of_false hdefined hvary, fun h => absurd h hdefined, fun _ => ⟨?_, ?_, ?_, ?_, ?_⟩⟩
  · rw [← EReal.coe_one, ← EReal.coe_neg]
    exact EReal.coe_le_coe_iff.mpr hlow
  · rw [← EReal.coe_one]
    exact EReal.coe_le_coe_iff.mpr hhigh
  · exact hone.trans (quotient_rankSamples_eq_one_iff hxvary)
  · exact hneg.trans (quotient_rankSamples_eq_neg_one_iff hxvary)
  · intro hthree hend
    refine significance_of_sq_eq_one ?_ hthree
    rcases hend with h | h
    · rw [hone.mp h, one_pow]
    · rw [hneg.mp h, neg_one_sq]

end Spearman

theorem spearman_sameOrder :
    let x : List EReal := [0, ⊤, ⊥]
    let y : List EReal := [0, 1, ⊥]
    x.length = y.length ∧ 3 ≤ x.length ∧ (spearman x y).coefficient = 1 ∧
      (spearman x y).pValue = 0 := by
  intro x y
  have hthree : 3 ≤ x.length := by decide
  obtain ⟨hundefined, -, hdefined⟩ :=
    spearman_outcome (show x.length = y.length from rfl) (show 2 ≤ x.length by decide)
  have hvary : (spearman x y).defined ≠ false := by
    rw [ne_eq, hundefined]
    simp [x, y]
  obtain ⟨-, -, hone, -, hpValue⟩ := hdefined (Bool.eq_true_of_not_eq_false hvary)
  have hcoefficient : (spearman x y).coefficient = 1 := by
    have hlow : (⊥ : EReal) < 1 := EReal.bot_lt_coe 1
    exact hone.mpr (by simp [x, y, hlow])
  exact ⟨rfl, hthree, hcoefficient, hpValue hthree (Or.inl hcoefficient)⟩

end Correlation

end InterRater
