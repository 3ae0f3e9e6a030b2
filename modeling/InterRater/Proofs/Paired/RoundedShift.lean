import InterRater.Number.Tail
import InterRater.Proofs.Config.Sound
import InterRater.Proofs.Paired.Tolerance
import InterRater.Proofs.Statistics.RoundedNoise

/-!
# A constant shift in rounded arithmetic

If all differences of a series are one number `c`, their deviation is the noise of rounding, and the
comparison is to take it for no deviation (`Comparison.ofSeries_shifted`).  That it does so rests on
two estimates.  The mean of `n` differences errs by about `(n + 3)|c| / 2` units of `2⁻⁵³`, and the
deviation by 1.45 times as much, which is within the tolerance for `(n + 3)|c|` up to 22 times the
largest score: for seven samples whatever the shift, and for more of them if it is small.  And the
mean falls on the same side of the tolerance as `c`, because a shift that is as small as the
tolerance is a difference of scores that cancel, and has so few digits that its mean is exact.

Beyond that the noise is taken for a deviation (`Comparison.ofSeries_shifted_long`).
-/

namespace InterRater

open Binary64

namespace PairedSeries

/-! ### The law -/

/-- All differences are the number `c`. -/
structure ShiftedBy (series : PairedSeries Binary64) (c : Binary64) : Prop where
  finite : c.isFinite = true
  differences : ∀ d ∈ series.differences, Scalar.beq d c = true

/-- Sizes at which the noise of rounding stays within the tolerance. -/
structure Quiet (series : PairedSeries Binary64) (c : Binary64) : Prop where
  size_le : series.size ≤ 2 ^ 32
  /-- No square of a score overflows. -/
  largest_le : series.largest.toReal ≤ 2 ^ (400 : ℤ)
  noise_le : (series.size + 3) * |c.toReal| ≤ 22 * series.largest.toReal
  /-- There are scores of 1 or more, to which the tolerance is relative, or the shift is not as near
  to the tolerance as the error of its mean. -/
  apart : (∃ v ∈ series.scores, 1 ≤ |v.toReal|) ∨
    series.size * 2 ^ (-52 : ℤ) * |c.toReal|
      ≤ |(|c.toReal| - (Comparison.roundingTolerance series).toReal)|

variable {series : PairedSeries Binary64} {c : Binary64}

theorem length_differences (series : PairedSeries Binary64) :
    series.differences.length = series.size :=
  List.length_map _

theorem ShiftedBy.toReal_eq (h : series.ShiftedBy c) :
    ∀ d ∈ series.differences, d.isFinite = true ∧ d.toReal = c.toReal := by
  intro d hd
  have hbeq := h.differences d hd
  have hfinite := isFinite_of_beq hbeq h.finite
  exact ⟨hfinite, (beq_iff_toReal hfinite h.finite).mp hbeq⟩

theorem exists_sample_of_mem_scores {v : Binary64} (hv : v ∈ series.scores) :
    ∃ s ∈ series.samples, v = s.1 ∨ v = s.2 := by
  rcases List.mem_append.mp hv with hv | hv
  all_goals
    obtain ⟨s, hs, rfl⟩ := List.mem_map.mp hv
    exact ⟨s, hs, by simp⟩

/-- The largest score is reached by a sample if there are scores of 1 or more. -/
theorem exists_largest (hscores : ∃ v ∈ series.scores, 1 ≤ |v.toReal|) :
    ∃ s ∈ series.samples, series.largest.toReal = |s.1.toReal| ∨
      series.largest.toReal = |s.2.toReal| := by
  obtain ⟨v, hv, heq⟩ := series.largest_spec.1
  have hvalue : series.largest.toReal = |v.toReal| := by rw [heq, toReal_abs]
  obtain ⟨w, hw, hwv⟩ : ∃ w ∈ series.scores, series.largest.toReal = |w.toReal| := by
    rcases List.mem_cons.mp hv with rfl | hv
    · obtain ⟨w, hw, hone⟩ := hscores
      refine ⟨w, hw, le_antisymm ?_ (series.abs_le_largest hw)⟩
      rwa [hvalue, (toReal_ofNat (n := 1) (by norm_num)).2, Nat.cast_one, abs_one]
    · exact ⟨v, hv, hvalue⟩
  obtain ⟨s, hs, rfl | rfl⟩ := exists_sample_of_mem_scores hw
  · exact ⟨s, hs, Or.inl hwv⟩
  · exact ⟨s, hs, Or.inr hwv⟩

/-- The noise of seven samples is small whatever the shift. -/
theorem ShiftedBy.noise_le (hshift : series.ShiftedBy c) (hsize : series.size ≤ 7) :
    (series.size + 3) * |c.toReal| ≤ 22 * series.largest.toReal := by
  obtain ⟨s, hs⟩ := List.exists_mem_of_length_pos (Nat.zero_lt_two.trans_le series.two_le)
  obtain ⟨hx, hy⟩ := forall_mem_scores.mp series.isFinite_of_mem_scores s hs
  obtain ⟨hx', hy'⟩ := forall_mem_scores.mp (fun v hv => series.abs_le_largest hv) s hs
  obtain ⟨hd, hdc⟩ := hshift.toReal_eq _ (List.mem_map_of_mem hs)
  have hdifference : (sub s.1 s.2).toReal = c.toReal := hdc
  have hone := series.one_le_largest
  have herror := abs_toReal_sub_sub_le hx hy hd
  have hsize : (series.size : ℝ) ≤ 7 := by exact_mod_cast hsize
  have hcount := mul_le_mul_of_nonneg_right hsize (abs_nonneg c.toReal)
  have habs := abs_sub_abs_le_abs_sub c.toReal (s.1.toReal - s.2.toReal)
  have htriangle := abs_sub s.1.toReal s.2.toReal
  rw [hdifference] at herror
  norm_num at herror
  linarith

/-- A shift as small as the tolerance is a difference of scores that cancel. -/
theorem ShiftedBy.exists_digits (hshift : series.ShiftedBy c)
    (hscores : ∃ v ∈ series.scores, 1 ≤ |v.toReal|)
    (hlargest : series.largest.toReal ≤ 2 ^ (400 : ℤ))
    (hsmall : |c.toReal| ≤ 2 ^ (-48 : ℤ) * series.largest.toReal) :
    ∃ (k : ℤ) (e : ℤ), |k| ≤ 2 ^ 7 ∧ -1074 ≤ e ∧ e ≤ 969 ∧ c.toReal = k * 2 ^ e := by
  obtain ⟨s, hs, hlargest_eq⟩ := exists_largest hscores
  have hone := series.one_le_largest
  obtain ⟨hx, hy⟩ := forall_mem_scores.mp series.isFinite_of_mem_scores s hs
  obtain ⟨hd, hdc⟩ := hshift.toReal_eq _ (List.mem_map_of_mem hs)
  have hround : Rounds (s.1.toReal - s.2.toReal) (sub s.1 s.2) := rounds_sub hx hy
  have hclose : |s.1.toReal - s.2.toReal| ≤ 2 ^ (-47 : ℤ) * series.largest.toReal := by
    have herror := abs_toReal_sub_sub_le hx hy hd
    have hdifference : (sub s.1 s.2).toReal = c.toReal := hdc
    have habs := abs_sub_abs_le_abs_sub (s.1.toReal - s.2.toReal) c.toReal
    rw [hdifference, abs_sub_comm] at herror
    norm_num at herror hsmall ⊢
    linarith
  obtain ⟨k, e, hk, he, he', hdigits⟩ : ∃ (k : ℤ) (e : ℤ), |k| ≤ 2 ^ 7 ∧ -1074 ≤ e ∧ e ≤ 969 ∧
      s.1.toReal - s.2.toReal = k * 2 ^ e := by
    rcases hlargest_eq with heq | heq
    · rw [heq] at hclose hone hlargest
      exact exists_place_of_close hone hlargest hclose
    · rw [heq] at hclose hone hlargest
      rw [abs_sub_comm] at hclose
      obtain ⟨k, e, hk, he, he', hdigits⟩ := exists_place_of_close hone hlargest hclose
      refine ⟨-k, e, by rwa [abs_neg], he, he', ?_⟩
      rw [← neg_sub, hdigits]
      push_cast
      ring
  refine ⟨k, e, hk, he, he', ?_⟩
  rw [← hdc, ← hdigits]
  exact hround.toReal_eq hd (hk.trans (by norm_num)) he hdigits

/-! ### The mean of the differences -/

theorem differences_ne_nil (series : PairedSeries Binary64) : series.differences ≠ [] := by
  refine List.ne_nil_of_length_pos ?_
  rw [length_differences]
  exact Nat.zero_lt_two.trans_le series.two_le

theorem Quiet.abs_le (h : series.Quiet c) : |c.toReal| ≤ 22 * series.largest.toReal := by
  refine le_trans ?_ h.noise_le
  have hcount : (0 : ℝ) ≤ series.size := Nat.cast_nonneg _
  exact le_mul_of_one_le_left (abs_nonneg _) (by linarith)

theorem tolerance_ge (series : PairedSeries Binary64) :
    (2 : ℝ) ^ (-49 : ℤ) ≤ (Comparison.roundingTolerance series).toReal := by
  rw [(Comparison.toReal_roundingTolerance series).2]
  exact le_mul_of_one_le_right (zpow_pos two_pos _).le series.one_le_largest

/-- The least positive values are far below the tolerance. -/
theorem least_le : (2 : ℝ) ^ (-1075 : ℤ) ≤ 2 ^ (-120 : ℤ) :=
  zpow_le_zpow_right₀ one_le_two (by norm_num)

section Mean

variable (hshift : series.ShiftedBy c) (hquiet : series.Quiet c)
include hshift hquiet

theorem mean_differences_near : (Statistics.mean series.differences).isFinite = true ∧
    |(Statistics.mean series.differences).toReal - c.toReal|
      ≤ (series.size + 3) * Statistics.errorUnit * |c.toReal| + 2 ^ (-1075 : ℤ) := by
  have hlength := series.length_differences
  have hfactor : (22 : ℝ) ≤ 2 ^ (5 : ℤ) := by norm_num
  have hsmall : |c.toReal| ≤ 2 ^ (900 : ℤ) :=
    calc |c.toReal| ≤ 22 * series.largest.toReal := hquiet.abs_le
      _ ≤ 2 ^ (5 + 400 : ℤ) :=
          mul_le_zpow hfactor hquiet.largest_le (zero_le_one.trans series.one_le_largest)
      _ ≤ 2 ^ (900 : ℤ) := zpow_le_zpow_right₀ one_le_two (by norm_num)
  have hmean := Statistics.abs_toReal_mean_sub_le series.differences_ne_nil
    (hlength ▸ hquiet.size_le) hsmall hshift.toReal_eq
  rwa [hlength] at hmean

/-- The mean of a shift that has few digits is exact. -/
theorem mean_differences_eq (hscores : ∃ v ∈ series.scores, 1 ≤ |v.toReal|)
    (hsmall : |c.toReal| ≤ 2 ^ (-48 : ℤ) * series.largest.toReal) :
    (Statistics.mean series.differences).toReal = c.toReal := by
  obtain ⟨k, e, hk, he, he', hdigits⟩ := hshift.exists_digits hscores hquiet.largest_le hsmall
  have hsize := hquiet.size_le
  have hlength := series.length_differences
  have hsum : series.differences.length * |k| ≤ 2 ^ 53 := by
    have hcount : (series.differences.length : ℤ) ≤ 2 ^ 32 := by rw [hlength]; exact_mod_cast hsize
    calc (series.differences.length : ℤ) * |k| ≤ 2 ^ 32 * 2 ^ 7 :=
          mul_le_mul hcount hk (abs_nonneg k) (by norm_num)
      _ ≤ 2 ^ 53 := by norm_num
  rw [hdigits]
  refine (Statistics.toReal_mean_eq he he' series.differences_ne_nil (by omega) hsum ?_).2
  rw [← hdigits]
  exact hshift.toReal_eq

end Mean

/-- The error of the mean is less than the distance of the shift from the tolerance, if the latter
is not as near as to be a small number of digits. -/
theorem Quiet.meanError_lt_gap (hquiet : series.Quiet c)
    (hapart : 2 ^ (-48 : ℤ) * series.largest.toReal < |c.toReal| ∨
      series.size * 2 ^ (-52 : ℤ) * |c.toReal|
        ≤ |(|c.toReal| - (Comparison.roundingTolerance series).toReal)|) :
    (series.size + 3) * Statistics.errorUnit * |c.toReal| + 2 ^ (-1075 : ℤ)
      < |(|c.toReal| - (Comparison.roundingTolerance series).toReal)| := by
  have htolerance := tolerance_ge series
  have hlargest := (Comparison.toReal_roundingTolerance series).2
  have hleast := least_le
  have hshift0 := abs_nonneg c.toReal
  have hcount : (2 : ℝ) ≤ series.size := by exact_mod_cast series.two_le
  have hsize := hquiet.size_le
  generalize (Comparison.roundingTolerance series).toReal = tolerance at *
  generalize |c.toReal| = shift at *
  generalize (2 : ℝ) ^ (-1075 : ℤ) = least at *
  have herror : (series.size + 3) * Statistics.errorUnit * shift ≤ 2 ^ (-20 : ℤ) * shift :=
    mul_le_mul_of_nonneg_right (Statistics.add_three_mul_errorUnit_le hsize) hshift0
  rcases le_or_gt shift (tolerance / 2) with hlow | hlow
  · refine lt_of_lt_of_le ?_ (neg_le_abs _)
    norm_num at herror htolerance hleast ⊢
    linarith
  rcases le_or_gt (2 * tolerance) shift with hhigh | hhigh
  · refine lt_of_lt_of_le ?_ (le_abs_self _)
    norm_num at herror htolerance hleast ⊢
    linarith
  · -- A shift near the tolerance: of `n + 3` errors at most `5n / 2` count.
    refine lt_of_lt_of_le ?_ (hapart.resolve_left ?_)
    · have hfew : (series.size + 3) * Statistics.errorUnit
          ≤ 13 / 20 * (series.size * 2 ^ (-52 : ℤ)) := by
        rw [Statistics.errorUnit_eq]
        norm_num
        linarith
      have herror := mul_le_mul_of_nonneg_right hfew hshift0
      have hcount := mul_le_mul_of_nonneg_right hcount hshift0
      norm_num at herror htolerance hleast ⊢
      linarith
    · rw [hlargest] at hhigh
      norm_num at hhigh ⊢
      linarith

/-- What is nearer to `r` than the tolerance lies on the same side of the tolerance. -/
theorem same_side {m r error tolerance : ℝ} (h : 0 ≤ tolerance) (hnear : |m - r| ≤ error)
    (hgap : error < |(|r| - tolerance)|) :
    (|m| ≤ tolerance ↔ |r| ≤ tolerance) ∧ (tolerance < |r| → (0 < m ↔ 0 < r)) := by
  have hmr := abs_sub_abs_le_abs_sub m r
  have hrm := abs_sub_abs_le_abs_sub r m
  rw [abs_sub_comm r m] at hrm
  rcases le_or_gt |r| tolerance with hr | hr
  · rw [abs_of_nonpos (by linarith)] at hgap
    exact ⟨iff_of_true (by linarith) hr, fun hlt => absurd hr hlt.not_ge⟩
  · rw [abs_of_pos (by linarith)] at hgap
    refine ⟨iff_of_false (by linarith) hr.not_ge, fun _ => ?_⟩
    have hdistance := abs_le.mp hnear
    rcases abs_cases r with ⟨habs, -⟩ | ⟨habs, hneg⟩
    · exact iff_of_true (by linarith) (by linarith)
    · exact iff_of_false (by linarith) (by linarith)

section Deviation

variable (hshift : series.ShiftedBy c) (hquiet : series.Quiet c)
include hshift hquiet

/-- The deviation of a constant shift is within the tolerance. -/
theorem deviation_differences_le :
    (Statistics.sampleDeviation series.differences).isFinite = true ∧
      (Statistics.sampleDeviation series.differences).toReal
        ≤ (Comparison.roundingTolerance series).toReal := by
  obtain ⟨hmean, hnear⟩ := mean_differences_near hshift hquiet
  have hone := series.one_le_largest
  have hleast := least_le
  set δ := 11 * (1 + 2 ^ (-18 : ℤ)) * 2 ^ (-53 : ℤ) * series.largest.toReal with hδ
  have hmoderate : Statistics.Moderate δ := by
    constructor
    · calc (2 : ℝ) ^ (-500 : ℤ) ≤ 2 ^ (-53 : ℤ) := zpow_le_zpow_right₀ one_le_two (by norm_num)
        _ ≤ δ := by
          rw [hδ]
          norm_num
          linarith
    · refine le_trans ?_ hquiet.largest_le
      rw [hδ]
      norm_num
      linarith
  have herror : ∀ d ∈ series.differences,
      |d.toReal - (Statistics.mean series.differences).toReal| ≤ δ := by
    intro d hd
    rw [(hshift.toReal_eq d hd).2, abs_sub_comm]
    have hnoise := mul_le_mul_of_nonneg_right hquiet.noise_le Statistics.errorUnit_pos.le
    have hroom : 22 * series.largest.toReal * Statistics.errorUnit + 2 ^ (-1075 : ℤ) ≤ δ := by
      generalize (2 : ℝ) ^ (-1075 : ℤ) = least at *
      rw [hδ, Statistics.errorUnit_eq]
      norm_num at hleast ⊢
      linarith
    linarith
  have hlength := series.length_differences
  obtain ⟨hfinite, hle⟩ := Statistics.toReal_sampleDeviation_le hmoderate
    (hlength ▸ series.two_le) (hlength ▸ hquiet.size_le) (fun d hd => (hshift.toReal_eq d hd).1)
    hmean herror
  refine ⟨hfinite, hle.trans ?_⟩
  rw [(Comparison.toReal_roundingTolerance series).2, hδ]
  norm_num
  linarith

end Deviation

end PairedSeries

namespace Comparison

variable {config : Config Binary64} {series : PairedSeries Binary64} {c : Binary64}

/-- The mean of a constant shift is on the side of the tolerance that the shift is on. -/
theorem mean_differences_side (hshift : series.ShiftedBy c) (hquiet : series.Quiet c) :
    (|(Statistics.mean series.differences).toReal| ≤ (roundingTolerance series).toReal
        ↔ |c.toReal| ≤ (roundingTolerance series).toReal) ∧
      ((roundingTolerance series).toReal < |c.toReal| →
        (0 < (Statistics.mean series.differences).toReal ↔ 0 < c.toReal)) := by
  have htolerance := (zpow_pos two_pos (-49)).le.trans (PairedSeries.tolerance_ge series)
  obtain ⟨-, hnear⟩ := PairedSeries.mean_differences_near hshift hquiet
  by_cases hlarge : 2 ^ (-48 : ℤ) * series.largest.toReal < |c.toReal|
  · exact PairedSeries.same_side htolerance hnear (hquiet.meanError_lt_gap (Or.inl hlarge))
  · rcases hquiet.apart with hscores | hclear
    · rw [PairedSeries.mean_differences_eq hshift hquiet hscores (not_lt.mp hlarge)]
      exact ⟨Iff.rfl, fun _ => Iff.rfl⟩
    · exact PairedSeries.same_side htolerance hnear (hquiet.meanError_lt_gap (Or.inr hclear))

/-- The deviation is taken for none, and the shift itself decides between the two tests for that. -/
theorem test_ofSeries_shifted (hshift : series.ShiftedBy c) (hquiet : series.Quiet c) :
    (ofSeries config series).test = if Scalar.abs c ≤ roundingTolerance series
      then ⟨some 0, some 1, some 0⟩ else ⟨none, some 0, none⟩ := by
  obtain ⟨hmean, -⟩ := PairedSeries.mean_differences_near hshift hquiet
  obtain ⟨hfinite, hle⟩ := PairedSeries.deviation_differences_le hshift hquiet
  have hspread : Statistics.sampleDeviation series.differences ≤ roundingTolerance series :=
    (le_iff_toReal hfinite (toReal_roundingTolerance series).1).mpr hle
  have htest : (ofSeries config series).test
      = if Scalar.abs (Statistics.mean series.differences) ≤ roundingTolerance series
        then ⟨some 0, some 1, some 0⟩ else ⟨none, some 0, none⟩ := if_pos hspread
  have hside : Scalar.abs (Statistics.mean series.differences) ≤ roundingTolerance series
      ↔ Scalar.abs c ≤ roundingTolerance series := by
    rw [abs_le_roundingTolerance_iff hmean, abs_le_roundingTolerance_iff hshift.finite]
    exact (mean_differences_side hshift hquiet).1
  rw [htest]
  simp only [hside]

/-- **A constant shift** is certain.  Whatever noise rounding leaves, a shift within the tolerance
is no difference at all, and one beyond it is significant and large, with the bias of its sign. -/
theorem ofSeries_shifted (hconfig : config.flaw? = none) (hshift : series.ShiftedBy c)
    (hquiet : series.Quiet c) :
    (Scalar.abs c ≤ roundingTolerance series →
      (ofSeries config series).test = ⟨some 0, some 1, some 0⟩) ∧
    (roundingTolerance series < Scalar.abs c →
      (ofSeries config series).test = ⟨none, some 0, none⟩ ∧
      (ofSeries config series).differenceSignificant = true ∧
      (ofSeries config series).effectSize = .large ∧
      (ofSeries config series).bias = if 0 < c then .automatedHigher else .automatedLower) := by
  have htest : (ofSeries config series).test = _ := test_ofSeries_shifted hshift hquiet
  refine ⟨fun hc => htest.trans (if_pos hc), fun hc => ?_⟩
  have hbeyond := (roundingTolerance_lt_abs_iff hshift.finite).mp hc
  have hnot : ¬ Scalar.abs c ≤ roundingTolerance series := by
    rw [abs_le_roundingTolerance_iff hshift.finite]
    exact hbeyond.not_ge
  rw [if_neg hnot] at htest
  have hsignificant : (ofSeries config series).differenceSignificant = true := by
    have hlevel := (Config.significanceLevel_of_flaw?_eq_none hconfig).1
    show (ofSeries config series).test.pValue.any (fun p => p < config.significanceLevel) = true
    rw [htest]
    exact decide_eq_true hlevel
  refine ⟨htest, hsignificant, ?_, ?_⟩
  · show ((ofSeries config series).test.cohensD.map EffectSize.ofCohensD).getD .large = .large
    rw [htest]
    rfl
  · obtain ⟨hmean, -⟩ := PairedSeries.mean_differences_near hshift hquiet
    have hpos : 0 < Statistics.mean series.differences ↔ 0 < c := by
      rw [zero_lt_iff_toReal hmean, zero_lt_iff_toReal hshift.finite]
      exact (mean_differences_side hshift hquiet).2 hbeyond
    show biasOf (ofSeries config series).differenceSignificant
      (Statistics.mean series.differences) = _
    rw [hsignificant, biasOf, Bool.not_true, if_neg Bool.false_ne_true]
    simp only [hpos]

/-- Three samples, each automated score higher by 1. -/
def raised : PairedSeries Binary64 where
  samples := [(ofNat 2, ofNat 1), (ofNat 3, ofNat 2), (ofNat 4, ofNat 3)]
  two_le := by decide
  finite := by decide +kernel

theorem quiet_raised (hshift : raised.ShiftedBy 1) : raised.Quiet 1 := by
  have hvalue : ∀ n ≤ 2 ^ 53, (ofNat n).toReal = n := fun n hn => (toReal_ofNat hn).2
  have hone : (1 : Binary64).toReal = 1 := (hvalue 1 (by norm_num)).trans Nat.cast_one
  refine ⟨by decide, ?_, hshift.noise_le (by decide), Or.inl ⟨1, by decide +kernel, ?_⟩⟩
  · have hfour : raised.largest = ofNat 4 := by decide +kernel
    rw [hfour, hvalue 4 (by norm_num)]
    have hle : (2 : ℝ) ^ (2 : ℤ) ≤ 2 ^ (400 : ℤ) := zpow_le_zpow_right₀ one_le_two (by norm_num)
    exact_mod_cast hle
  · rw [hone, abs_one]

theorem ofSeries_raised :
    (ofSeries Config.standard raised).test = ⟨none, some 0, none⟩ ∧
    (ofSeries Config.standard raised).bias = .automatedHigher := by
  have hshift : raised.ShiftedBy 1 := ⟨by decide +kernel, by decide +kernel⟩
  have hconfig : (Config.standard : Config Binary64).flaw? = none := by decide +kernel
  obtain ⟨-, hbeyond⟩ := ofSeries_shifted hconfig hshift (quiet_raised hshift)
  obtain ⟨htest, -, -, hbias⟩ := hbeyond (by decide +kernel)
  exact ⟨htest, hbias.trans (if_pos (by decide +kernel))⟩

/-- Thirty-two samples, each automated score higher by the same number, which is about 1.91. -/
def raisedLong : PairedSeries Binary64 where
  samples := (List.replicate 16 [(0.99, -0.92), (1, -0.91)]).flatten
  two_le := by decide
  finite := by decide +kernel

/-- In a long series the noise of rounding is taken for a deviation. -/
theorem ofSeries_shifted_long :
    (∀ d ∈ raisedLong.differences, d = (1 : Binary64) - -0.91) ∧
    roundingTolerance raisedLong < Scalar.abs ((1 : Binary64) - -0.91) ∧
    (ofSeries Config.standard raisedLong).test.statistic ≠ none ∧
    (ofSeries Config.standard raisedLong).test.cohensD ≠ none := by
  refine ⟨by decide +kernel, by decide +kernel, ?_, ?_⟩
  · rw [← Option.isSome_iff_ne_none]
    decide +kernel
  · rw [← Option.isSome_iff_ne_none]
    decide +kernel

end Comparison

end InterRater
