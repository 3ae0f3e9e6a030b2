import InterRater.Paired.Comparison
import InterRater.Proofs.Config.Sound
import InterRater.Proofs.Number.Extended

/-!
# The confidence interval of a correlation

Fisher's interval is symmetric around the coefficient on the scale of the inverse hyperbolic
tangent, and its half width there is a positive real number that falls with the number of samples
(`halfWidth_pos`, `halfWidth_antitone`).  The hyperbolic tangent is increasing and odd, so the
interval surrounds the coefficient, the opposite coefficient has the interval mirrored at 0, and
more samples give an interval within that of fewer (`Comparison.fisherInterval_surrounds`).

A coefficient of 1 or -1 is at an infinity of that scale.  No step of a real width leads away from
it, so there the interval is a single point.

The arithmetic is that of the extended real numbers, with the exact functions.  Settings that are
accepted as real numbers are accepted in it too (`Config.flaw?_extended`).
-/

namespace InterRater

namespace Config

/-- The settings as extended real numbers. -/
def extended (config : Config ℝ) : Config EReal :=
  { config with
    varianceCeiling := config.varianceCeiling
    rangeCeiling := config.rangeCeiling
    compositeScaleFactor := config.compositeScaleFactor
    highThreshold := config.highThreshold
    moderateThreshold := config.moderateThreshold
    reliabilityAcceptable := config.reliabilityAcceptable
    reliabilityTentative := config.reliabilityTentative
    significanceLevel := config.significanceLevel
    ciZCritical := config.ciZCritical
    exactAgreementTolerance := config.exactAgreementTolerance
    closeAgreementTolerance := config.closeAgreementTolerance }

theorem positiveFlaw?_coe (field : String) {x : ℝ} (h : 0 < x) :
    positiveFlaw? field (x : EReal) = none := by
  have hfinite : Scalar.isFinite (x : EReal) = true := (Scalar.isFinite_iff _).mpr ⟨x, rfl⟩
  have hpos : (0 : EReal) < x := EReal.coe_pos.mpr h
  exact if_pos (by rw [hfinite, decide_eq_true hpos]; rfl)

/-- Settings that are accepted as real numbers are accepted as extended ones. -/
theorem flaw?_extended {config : Config ℝ} (h : config.Sound) :
    config.extended.flaw? = none := by
  have hlt : ∀ {x y : ℝ}, x < y → (x : EReal) < y := EReal.coe_lt_coe_iff.mpr
  have hle : ∀ {x y : ℝ}, x ≤ y → (x : EReal) ≤ y := EReal.coe_le_coe_iff.mpr
  have hpattern : config.extended.patternFlaw? = none :=
    (patternFlaw?_eq_none_iff _).mpr ((patternFlaw?_eq_none_iff config).mp h.pattern)
  unfold flaw?
  simp only [List.findSome?_eq_none_iff, List.forall_mem_cons, id_eq]
  exact ⟨if_neg h.scale_lt.not_ge, positiveFlaw?_coe _ h.varianceCeiling_pos,
    positiveFlaw?_coe _ h.rangeCeiling_pos, positiveFlaw?_coe _ h.ciZCritical_pos,
    if_pos ⟨hlt h.compositeScaleFactor_pos, hle h.compositeScaleFactor_le⟩,
    if_neg (hle h.moderate_le_high).not_gt, if_neg (hle h.tentative_le_acceptable).not_gt,
    if_pos ⟨hlt h.significanceLevel_pos, hlt h.significanceLevel_lt⟩,
    if_neg (not_or.mpr ⟨(hle h.exactAgreementTolerance_nonneg).not_gt,
      (hle h.closeAgreementTolerance_nonneg).not_gt⟩), hpattern, List.forall_mem_nil _⟩

end Config

namespace ConfidenceInterval

/-- The interval seen from the other side of 0. -/
def mirror {α : Type} [Neg α] (interval : ConfidenceInterval α) : ConfidenceInterval α :=
  ⟨-interval.upper, -interval.lower, interval.zCritical⟩

/-- The interval lies around a coefficient, among the values of coefficients.  Only a perfect
coefficient is at an end of its interval. -/
structure Surrounds (interval : ConfidenceInterval EReal) (r : EReal) : Prop where
  neg_one_le : -1 ≤ interval.lower
  lower_le : interval.lower ≤ r
  le_upper : r ≤ interval.upper
  upper_le : interval.upper ≤ 1
  lower_lt_iff : interval.lower < r ↔ -1 < r ∧ r < 1
  lt_upper_iff : r < interval.upper ↔ -1 < r ∧ r < 1

end ConfidenceInterval

namespace Comparison

/-! ### The half width -/

/-- Half the width of the interval of `n` samples, before the hyperbolic tangent. -/
noncomputable def halfWidth (critical : ℝ) (n : ℕ) : ℝ :=
  critical / √((n - 3 : ℕ) : ℝ)

theorem sqrt_samples_pos {n : ℕ} (hn : 4 ≤ n) : 0 < √((n - 3 : ℕ) : ℝ) := by
  have : 0 < n - 3 := by omega
  exact Real.sqrt_pos.mpr (Nat.cast_pos.mpr this)

theorem halfWidth_pos {critical : ℝ} (hc : 0 < critical) {n : ℕ} (hn : 4 ≤ n) :
    0 < halfWidth critical n :=
  div_pos hc (sqrt_samples_pos hn)

theorem halfWidth_antitone {critical : ℝ} (hc : 0 < critical) {n m : ℕ} (hn : 4 ≤ n)
    (hnm : n ≤ m) : halfWidth critical m ≤ halfWidth critical n := by
  have hsub : n - 3 ≤ m - 3 := by omega
  have hroot : √((n - 3 : ℕ) : ℝ) ≤ √((m - 3 : ℕ) : ℝ) :=
    Real.sqrt_le_sqrt (Nat.cast_le.mpr hsub)
  exact div_le_div_of_nonneg_left hc.le (sqrt_samples_pos hn) hroot

/-! ### The interval around a coefficient -/

/-- The values whose inverse hyperbolic tangent is at most `half` away from that of `r`. -/
noncomputable def around (r : EReal) (half critical : ℝ) : ConfidenceInterval EReal :=
  ⟨Special.tanh (Special.atanh r - half), Special.tanh (Special.atanh r + half), critical⟩

section Around

variable {r : EReal} {half : ℝ}

theorem around_neg (hr : r ∈ Set.Icc (-1) 1) (half critical : ℝ) :
    around (-r) half critical = (around r half critical).mirror := by
  have hlower : -Special.atanh r - half = -(Special.atanh r + half) :=
    (EReal.neg_add (.inr (EReal.coe_ne_top half)) (.inr (EReal.coe_ne_bot half))).symm
  have hupper : -Special.atanh r + half = -(Special.atanh r - half) := by
    rw [EReal.neg_sub (.inr (EReal.coe_ne_bot half)) (.inr (EReal.coe_ne_top half))]
  rw [around, around, ConfidenceInterval.mirror, Special.atanh_neg hr, hlower, hupper,
    Special.tanh_neg, Special.tanh_neg]

/-- A step of a real width leads down from real numbers only. -/
theorem sub_coe_lt_iff {z : EReal} (hpos : 0 < half) : z - half < z ↔ z ≠ ⊥ ∧ z ≠ ⊤ := by
  induction z with
  | bot => simp
  | coe z =>
    rw [← EReal.coe_sub, EReal.coe_lt_coe_iff]
    exact iff_of_true (by linarith) ⟨EReal.coe_ne_bot z, EReal.coe_ne_top z⟩
  | top => simp

theorem lower_around_le (hr : r ∈ Set.Icc (-1) 1) (hpos : 0 < half) (critical : ℝ) :
    (around r half critical).lower ≤ r := by
  have hstep : Special.atanh r - half ≤ Special.atanh r := by
    have hnonneg : (0 : EReal) ≤ half := EReal.coe_nonneg.mpr hpos.le
    calc Special.atanh r - half ≤ Special.atanh r - 0 := EReal.sub_le_sub le_rfl hnonneg
      _ = Special.atanh r := sub_zero _
  exact (Special.tanh_strictMono.monotone hstep).trans_eq (Special.tanh_atanh hr)

theorem lower_around_lt_iff (hr : r ∈ Set.Icc (-1) 1) (hpos : 0 < half) (critical : ℝ) :
    (around r half critical).lower < r ↔ -1 < r ∧ r < 1 := by
  -- The transform of a coefficient is infinite exactly if the coefficient is perfect.
  have hbot : Special.atanh r ≠ ⊥ ↔ r ≠ -1 := by
    rw [← Special.tanh_strictMono.injective.ne_iff, Special.tanh_atanh hr, Special.tanh_bot]
  have htop : Special.atanh r ≠ ⊤ ↔ r ≠ 1 := by
    rw [← Special.tanh_strictMono.injective.ne_iff, Special.tanh_atanh hr, Special.tanh_top]
  calc Special.tanh (Special.atanh r - half) < r
      ↔ Special.tanh (Special.atanh r - half) < Special.tanh (Special.atanh r) := by
        rw [Special.tanh_atanh hr]
    _ ↔ Special.atanh r - half < Special.atanh r := Special.tanh_strictMono.lt_iff_lt
    _ ↔ r ≠ -1 ∧ r ≠ 1 := by rw [sub_coe_lt_iff hpos, hbot, htop]
    _ ↔ -1 < r ∧ r < 1 := and_congr hr.1.lt_iff_ne'.symm hr.2.lt_iff_ne.symm

theorem around_surrounds (hr : r ∈ Set.Icc (-1) 1) (hpos : 0 < half) (critical : ℝ) :
    (around r half critical).Surrounds r := by
  -- The upper end is the lower one of the opposite coefficient, with the other sign.
  have hupper : (around r half critical).upper = -(around (-r) half critical).lower := by
    rw [around_neg hr, ConfidenceInterval.mirror, neg_neg]
  have hneg := Special.neg_mem_Icc hr
  refine ⟨(Special.tanh_mem_Icc _).1, lower_around_le hr hpos critical, ?_,
    (Special.tanh_mem_Icc _).2, lower_around_lt_iff hr hpos critical, ?_⟩
  · rw [hupper, EReal.le_neg]
    exact lower_around_le hneg hpos critical
  · rw [hupper, EReal.lt_neg_comm, lower_around_lt_iff hneg hpos, EReal.neg_lt_neg_iff,
      EReal.neg_lt_comm, and_comm]

theorem around_mono (r : EReal) {half half' : ℝ} (h : half' ≤ half) (critical : ℝ) :
    (around r half critical).lower ≤ (around r half' critical).lower ∧
      (around r half' critical).upper ≤ (around r half critical).upper := by
  have hcoe : (half' : EReal) ≤ half := EReal.coe_le_coe_iff.mpr h
  constructor
  · exact Special.tanh_strictMono.monotone (EReal.sub_le_sub le_rfl hcoe)
  · exact Special.tanh_strictMono.monotone (add_le_add le_rfl hcoe)

end Around

/-! ### Fisher's interval -/

theorem exists_critical {config : Config EReal} (hflaw : config.flaw? = none) :
    ∃ critical : ℝ, 0 < critical ∧ config.ciZCritical = critical := by
  obtain ⟨hfinite, hpos⟩ := Config.ciZCritical_of_flaw?_eq_none hflaw
  obtain ⟨critical, hcritical⟩ := (Scalar.isFinite_iff _).mp hfinite
  rw [hcritical] at hpos
  exact ⟨critical, EReal.coe_pos.mp hpos, hcritical⟩

theorem fisherInterval_eq {config : Config EReal} {critical : ℝ}
    (hcritical : config.ciZCritical = critical) {r : EReal} (hr : r ∈ Set.Icc (-1) 1) (n : ℕ) :
    fisherInterval config r n =
      if n < 4 then none else some (around r (halfWidth critical n) critical) := by
  have hhalf : config.ciZCritical / Scalar.sqrt ((n - 3 : ℕ) : EReal) = halfWidth critical n := by
    rw [hcritical, Scalar.sqrt_natCast, ← EReal.coe_div, halfWidth]
  have hclamp : Scalar.clamp r (-1) 1 = r := Scalar.clamp_of_mem hr
  rw [around, ← hcritical, ← hhalf]
  unfold fisherInterval
  rw [hclamp]

/-- **Fisher's interval** exists from four samples on.  It surrounds the coefficient, that of the
opposite coefficient is its mirror image, and more samples give an interval within that of fewer. -/
theorem fisherInterval_surrounds (config : Config EReal) (hflaw : config.flaw? = none) (r : EReal)
    (hr : r ∈ Set.Icc (-1) 1) :
    (∀ n, fisherInterval config r n = none ↔ n < 4) ∧
    (∀ n interval, fisherInterval config r n = some interval → interval.Surrounds r) ∧
    (∀ n, fisherInterval config (-r) n
      = (fisherInterval config r n).map ConfidenceInterval.mirror) ∧
    ∀ n m wide narrow, n ≤ m → fisherInterval config r n = some wide →
      fisherInterval config r m = some narrow →
      wide.lower ≤ narrow.lower ∧ narrow.upper ≤ wide.upper := by
  obtain ⟨critical, hc, hcritical⟩ := exists_critical hflaw
  have hsome : ∀ {n interval}, fisherInterval config r n = some interval →
      4 ≤ n ∧ interval = around r (halfWidth critical n) critical := by
    intro n interval h
    rw [fisherInterval_eq hcritical hr] at h
    split_ifs at h with hn
    exact ⟨not_lt.mp hn, (Option.some.inj h).symm⟩
  refine ⟨fun n => ?_, fun n interval h => ?_, fun n => ?_, ?_⟩
  · rw [fisherInterval_eq hcritical hr]
    simp
  · obtain ⟨hn, rfl⟩ := hsome h
    exact around_surrounds hr (halfWidth_pos hc hn) critical
  · rw [fisherInterval_eq hcritical hr, fisherInterval_eq hcritical (Special.neg_mem_Icc hr),
      around_neg hr]
    split_ifs <;> rfl
  · intro n m wide narrow hnm hwide hnarrow
    obtain ⟨hn, rfl⟩ := hsome hwide
    obtain ⟨-, rfl⟩ := hsome hnarrow
    exact around_mono r (halfWidth_antitone hc hn hnm) critical

/-- The settings without a file give an interval around 1/2 from 28 samples, and 1/2 is in its
interior. -/
theorem fisherInterval_surrounds_half :
    (Config.standard : Config ℝ).extended.flaw? = none ∧
    ((1 / 2 : ℝ) : EReal) ∈ Set.Icc (-1) 1 ∧
    ∃ interval, fisherInterval (Config.standard : Config ℝ).extended ((1 / 2 : ℝ) : EReal) 28
        = some interval ∧
      interval.lower < ((1 / 2 : ℝ) : EReal) ∧ ((1 / 2 : ℝ) : EReal) < interval.upper := by
  have hflaw := Config.flaw?_extended Config.sound_standard
  have hmem : ((1 / 2 : ℝ) : EReal) ∈ Set.Icc (-1) 1 := Special.coe_mem_Icc (by norm_num)
  have hinner : -1 < ((1 / 2 : ℝ) : EReal) ∧ ((1 / 2 : ℝ) : EReal) < 1 := by
    rw [← Special.coe_neg_one, ← EReal.coe_one, EReal.coe_lt_coe_iff, EReal.coe_lt_coe_iff]
    norm_num
  obtain ⟨hnone, hsurrounds, -⟩ := fisherInterval_surrounds _ hflaw _ hmem
  obtain ⟨interval, hinterval⟩ := Option.ne_none_iff_exists'.mp (mt (hnone 28).mp (by decide))
  have h := hsurrounds 28 interval hinterval
  exact ⟨hflaw, hmem, interval, hinterval, h.lower_lt_iff.mpr hinner, h.lt_upper_iff.mpr hinner⟩

end Comparison

end InterRater
