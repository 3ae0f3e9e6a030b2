import InterRater.Number.Binary64
import Mathlib.Data.Real.Basic
import Mathlib.Tactic.FieldSimp
import Mathlib.Tactic.Linarith
import Mathlib.Tactic.Positivity
import Mathlib.Tactic.Ring

/-!
# The error of rounding

`absValue` is the real number that a finite pattern stands for, without its sign.  A ratio that is
rounded to a finite value changes by at most half a unit in the last place
(`abs_absValue_ofRatio_sub_le`), hence grows by at most a factor of `1 + 2⁻⁵³`, apart from the least
positive values (`absValue_ofRatio_le`), and not at all if 53 binary digits suffice for it
(`absValue_ofRatio_eq`).
-/

namespace InterRater

namespace Binary64

/-! ### Powers of two -/

theorem zpow_of_neg {e : ℤ} (h : e < 0) : (2 : ℝ) ^ e = 1 / (twoPow e.natAbs : ℕ) := by
  have he : e = -(e.natAbs : ℤ) := by omega
  conv_lhs => rw [he, zpow_neg, zpow_natCast]
  rw [twoPow, Nat.pow_eq, Nat.cast_pow, Nat.cast_ofNat, one_div]

theorem zpow_of_nonneg {e : ℤ} (h : 0 ≤ e) : (2 : ℝ) ^ e = (twoPow e.natAbs : ℕ) := by
  have he : e = (e.natAbs : ℤ) := by omega
  conv_lhs => rw [he, zpow_natCast]
  rw [twoPow, Nat.pow_eq, Nat.cast_pow, Nat.cast_ofNat]

theorem zpow_div_two (e : ℤ) : (2 : ℝ) ^ e / 2 = 2 ^ (e - 1) := by
  rw [zpow_sub_one₀ two_ne_zero, div_eq_mul_inv]

theorem twoPow_pos (n : ℕ) : 0 < twoPow n := Nat.two_pow_pos n

/-! ### Rounding to an integer -/

theorem abs_roundDiv_sub_le (num : ℕ) {den : ℕ} (h : 0 < den) :
    |(roundDiv num den : ℝ) - num / den| ≤ 1 / 2 := by
  have hden : (0 : ℝ) < den := by exact_mod_cast h
  have hsplit : (num : ℝ) / den = (num / den : ℕ) + (num % den : ℕ) / (den : ℝ) := by
    have hdiv : ((den * (num / den) + num % den : ℕ) : ℝ) = num := by rw [Nat.div_add_mod]
    push_cast at hdiv
    rw [eq_comm, ← hdiv]
    field_simp
  have hrest : ((num % den : ℕ) : ℝ) / den < 1 := by
    rw [div_lt_one hden]
    exact_mod_cast Nat.mod_lt num h
  have hrest' : 0 ≤ ((num % den : ℕ) : ℝ) / den := by positivity
  rw [hsplit, roundDiv, abs_le]
  split_ifs with hlow hhigh
  · have hlow : ((num % den : ℕ) : ℝ) / den < 1 / 2 := by
      rw [div_lt_iff₀ hden]
      have : (2 : ℝ) * (num % den : ℕ) < den := by exact_mod_cast hlow
      linarith
    constructor <;> linarith
  · have hhigh : 1 / 2 < ((num % den : ℕ) : ℝ) / den := by
      rw [lt_div_iff₀ hden]
      have : (den : ℝ) < 2 * (num % den : ℕ) := by exact_mod_cast hhigh
      linarith
    push_cast
    constructor <;> linarith
  · -- The ratio lies half way: either neighbour is as near.
    have hhalf : ((num % den : ℕ) : ℝ) / den = 1 / 2 := by
      rw [div_eq_iff hden.ne']
      have : (2 : ℝ) * (num % den : ℕ) = den := by
        exact_mod_cast le_antisymm (not_lt.mp hhigh) (not_lt.mp hlow)
      linarith
    rw [hhalf]
    rcases Nat.mod_two_eq_zero_or_one (num / den) with hmod | hmod
    · rw [hmod]
      norm_num
    · rw [hmod]
      push_cast
      constructor <;> linarith

/-- The quotient by a power of two, rounded to an integer. -/
theorem abs_roundScaled_sub_le (num : ℕ) {den : ℕ} (h : 0 < den) (e : ℤ) :
    |(roundScaled num den e : ℝ) - num / den / 2 ^ e| ≤ 1 / 2 := by
  have hpow := twoPow_pos e.natAbs
  rw [roundScaled]
  split_ifs with he
  · have hround := abs_roundDiv_sub_le (num * twoPow e.natAbs) h
    rw [zpow_of_neg he]
    convert hround using 3
    push_cast
    field_simp
  · have hround := abs_roundDiv_sub_le num (Nat.mul_pos h hpow)
    rw [zpow_of_nonneg (not_lt.mp he)]
    convert hround using 3
    push_cast
    rw [div_div]

/-! ### The last place -/

theorem ratioBelow_iff (num : ℕ) {den : ℕ} (h : 0 < den) (e : ℤ) :
    ratioBelow num den e = true ↔ (num : ℝ) / den < 2 ^ e := by
  have hden : (0 : ℝ) < den := by exact_mod_cast h
  have hpow : (0 : ℝ) < (twoPow e.natAbs : ℕ) := by exact_mod_cast twoPow_pos e.natAbs
  rw [ratioBelow, div_lt_iff₀ hden]
  split_ifs with he
  · rw [zpow_of_neg he, one_div_mul_eq_div, lt_div_iff₀ hpow, decide_eq_true_eq]
    exact_mod_cast Iff.rfl
  · rw [zpow_of_nonneg (not_lt.mp he), decide_eq_true_eq, mul_comm]
    exact_mod_cast Iff.rfl

theorem zpow_log2_le {n : ℕ} (h : 0 < n) : (2 : ℝ) ^ (n.log2 : ℤ) ≤ n := by
  rw [zpow_natCast]
  exact_mod_cast Nat.log2_self_le h.ne'

theorem lt_zpow_log2_add_one (n : ℕ) : (n : ℝ) < 2 ^ ((n.log2 : ℤ) + 1) := by
  have hlt : n < 2 ^ (n.log2 + 1) := Nat.lt_log2_self
  have hcast : (2 : ℝ) ^ ((n.log2 : ℤ) + 1) = ((2 ^ (n.log2 + 1) : ℕ) : ℝ) := by
    push_cast
    rw [← zpow_natCast]
    push_cast
    rfl
  rw [hcast]
  exact_mod_cast hlt

/-- The digits of a positive ratio that are kept: it has 53 above the last place, or fewer if the
last place is the least there is. -/
theorem lastPlace_spec {num den : ℕ} (hnum : 0 < num) (hden : 0 < den) :
    -1074 ≤ lastPlace num den ∧ (num : ℝ) / den < 2 ^ (lastPlace num den + 53) ∧
      (lastPlace num den = -1074 ∨ (2 : ℝ) ^ (lastPlace num den + 52) ≤ num / den) := by
  have hnum' : (0 : ℝ) < num := by exact_mod_cast hnum
  have hden' : (0 : ℝ) < den := by exact_mod_cast hden
  set e : ℤ := num.log2 - den.log2 with he
  have hupper : (num : ℝ) / den < 2 ^ (e + 1) := by
    rw [div_lt_iff₀ hden']
    calc (num : ℝ) < 2 ^ ((num.log2 : ℤ) + 1) := lt_zpow_log2_add_one num
      _ = 2 ^ (e + 1) * 2 ^ (den.log2 : ℤ) := by
        rw [← zpow_add₀ two_ne_zero]
        congr 1
        omega
      _ ≤ 2 ^ (e + 1) * den := mul_le_mul_of_nonneg_left (zpow_log2_le hden) (zpow_pos two_pos _).le
  have hlower : (2 : ℝ) ^ (e - 1) ≤ num / den := by
    rw [le_div_iff₀ hden']
    calc (2 : ℝ) ^ (e - 1) * den
        ≤ 2 ^ (e - 1) * 2 ^ ((den.log2 : ℤ) + 1) :=
          mul_le_mul_of_nonneg_left (lt_zpow_log2_add_one den).le (zpow_pos two_pos _).le
      _ = 2 ^ (num.log2 : ℤ) := by
        rw [← zpow_add₀ two_ne_zero]
        congr 1
        omega
      _ ≤ num := zpow_log2_le hnum
  -- The power of two at the first digit is one of two, and the comparison finds out which.
  obtain ⟨k, hk, hbelow, habove⟩ : ∃ k : ℤ, lastPlace num den = max (k - 52) (-1074) ∧
      (num : ℝ) / den < 2 ^ (k + 1) ∧ (2 : ℝ) ^ k ≤ num / den := by
    by_cases hlt : (num : ℝ) / den < 2 ^ e
    · refine ⟨e - 1, ?_, by rwa [sub_add_cancel], hlower⟩
      rw [lastPlace, if_pos ((ratioBelow_iff num hden _).mpr hlt)]
    · refine ⟨e, ?_, hupper, not_lt.mp hlt⟩
      rw [lastPlace, if_neg fun h => hlt ((ratioBelow_iff num hden _).mp h)]
  rw [hk]
  refine ⟨le_max_right _ _, hbelow.trans_le ?_, ?_⟩
  · exact zpow_le_zpow_right₀ one_le_two (by omega)
  · rcases le_total (-1074) (k - 52) with hle | hle
    · right
      rwa [max_eq_left hle, sub_add_cancel]
    · left
      exact max_eq_right hle

/-! ### Patterns and values -/

/-- The number that a finite pattern stands for, without the sign. -/
noncomputable def absValue (x : Binary64) : ℝ :=
  x.significand * 2 ^ x.exponent

theorem toNat_bits_ofParts (negative : Bool) {magnitude : ℕ} (h : magnitude < twoPow 63) :
    (ofParts negative magnitude).bits.toNat = magnitude + if negative then twoPow 63 else 0 := by
  have hpow : twoPow 63 = 2 ^ 63 := rfl
  refine Nat.mod_eq_of_lt ?_
  show _ < 2 ^ 64
  split_ifs <;> omega

theorem magnitude_ofParts (negative : Bool) {magnitude : ℕ} (h : magnitude < twoPow 63) :
    (ofParts negative magnitude).magnitude = magnitude := by
  rw [Binary64.magnitude, toNat_bits_ofParts negative h]
  split_ifs
  · rw [Nat.add_mod_right, Nat.mod_eq_of_lt h]
  · rw [Nat.add_zero, Nat.mod_eq_of_lt h]

theorem negative_ofParts (negative : Bool) {magnitude : ℕ} (h : magnitude < twoPow 63) :
    (ofParts negative magnitude).negative = negative := by
  rw [Binary64.negative, toNat_bits_ofParts negative h]
  cases negative
  · exact decide_eq_false h.not_ge
  · exact decide_eq_true (Nat.le_add_left _ _)

/-- A significand of at most 53 digits at some place is the value of the pattern that counts the
places and the significand together.  A significand of `2 ^ 53` is one of `2 ^ 52` a place up. -/
theorem absValue_ofParts (negative : Bool) {e : ℤ} {r : ℕ} (he : -1074 ≤ e) (hr : r ≤ 2 ^ 53)
    (hnormal : e = -1074 ∨ 2 ^ 52 ≤ r)
    (hlt : (e + 1074).toNat * twoPow 52 + r < infiniteMagnitude) :
    (ofParts negative ((e + 1074).toNat * twoPow 52 + r)).absValue = r * 2 ^ e := by
  have hinf : infiniteMagnitude < twoPow 63 := by decide
  have hpow : twoPow 52 = 2 ^ 52 := rfl
  have hmag := magnitude_ofParts negative (hlt.trans hinf)
  rw [absValue, significand, exponent, hmag, hpow]
  rcases lt_trichotomy r (2 ^ 53) with hr53 | rfl | hr53
  · rcases lt_or_ge r (2 ^ 52) with hr52 | hr52
    · -- a subnormal value: the magnitude is the significand
      obtain rfl := hnormal.resolve_right hr52.not_ge
      have hzero : (-1074 + 1074 : ℤ).toNat * 2 ^ 52 + r = r := by norm_num
      rw [hzero, Nat.mod_eq_of_lt hr52, if_pos hr52, Nat.div_eq_of_lt hr52, Nat.add_zero]
      norm_num
    · -- a normal value: its first digit counts as one place
      have hdiv : ((e + 1074).toNat * 2 ^ 52 + r) / 2 ^ 52 = (e + 1074).toNat + 1 := by omega
      have hmod : ((e + 1074).toNat * 2 ^ 52 + r) % 2 ^ 52 = r - 2 ^ 52 := by omega
      rw [hdiv, hmod, if_neg (by omega), Nat.sub_add_cancel hr52, max_eq_left (by omega)]
      congr 2
      omega
  · -- the carry into the exponent
    have hdiv : ((e + 1074).toNat * 2 ^ 52 + 2 ^ 53) / 2 ^ 52 = (e + 1074).toNat + 2 := by omega
    have hmod : ((e + 1074).toNat * 2 ^ 52 + 2 ^ 53) % 2 ^ 52 = 0 := by omega
    have hplace : (((e + 1074).toNat + 2 : ℕ) : ℤ) - 1075 = e + 1 := by omega
    rw [hdiv, hmod, if_neg (by omega), Nat.zero_add, max_eq_left (by omega), hplace,
      zpow_add_one₀ two_ne_zero]
    push_cast
    ring
  · omega

/-! ### Rounding a ratio -/

theorem nearestMagnitude_le (num den : ℕ) : nearestMagnitude num den ≤ infiniteMagnitude := by
  rw [nearestMagnitude]
  split_ifs
  · exact Nat.zero_le _
  · exact min_le_right _ _

theorem magnitude_ofRatio (negative : Bool) (num den : ℕ) :
    (ofRatio negative num den).magnitude = nearestMagnitude num den :=
  magnitude_ofParts negative ((nearestMagnitude_le num den).trans_lt (by decide))

theorem negative_ofRatio (negative : Bool) (num den : ℕ) :
    (ofRatio negative num den).negative = negative :=
  negative_ofParts negative ((nearestMagnitude_le num den).trans_lt (by decide))

theorem isNaN_ofRatio (negative : Bool) (num den : ℕ) :
    (ofRatio negative num den).isNaN = false := by
  rw [isNaN, magnitude_ofRatio]
  exact decide_eq_false (nearestMagnitude_le num den).not_gt

/-- The digits that are kept make a significand, or the carry to the next place. -/
theorem roundScaled_lastPlace_le {num den : ℕ} (hnum : 0 < num) (hden : 0 < den) :
    roundScaled num den (lastPlace num den) ≤ 2 ^ 53 := by
  obtain ⟨-, hupper, -⟩ := lastPlace_spec hnum hden
  have hround := (abs_le.mp (abs_roundScaled_sub_le num hden (lastPlace num den))).2
  have hquot : (num : ℝ) / den / 2 ^ lastPlace num den < 2 ^ 53 := by
    rw [div_lt_iff₀ (zpow_pos two_pos _)]
    rw [zpow_add₀ two_ne_zero, mul_comm] at hupper
    exact_mod_cast hupper
  have : (roundScaled num den (lastPlace num den) : ℝ) < 2 ^ 53 + 1 := by linarith
  exact Nat.lt_succ_iff.mp (by exact_mod_cast this)

/-- The value of a rounded ratio, if it is finite. -/
theorem absValue_ofRatio {negative : Bool} {num den : ℕ} (hnum : 0 < num) (hden : 0 < den)
    (hfinite : (ofRatio negative num den).isFinite = true) :
    (ofRatio negative num den).absValue
      = roundScaled num den (lastPlace num den) * 2 ^ lastPlace num den := by
  obtain ⟨hleast, -, hlower⟩ := lastPlace_spec hnum hden
  have hround := abs_roundScaled_sub_le num hden (lastPlace num den)
  set e := lastPlace num den with he
  have hpos : (0 : ℝ) < 2 ^ e := zpow_pos two_pos e
  rw [abs_le] at hround
  have hr : roundScaled num den e ≤ 2 ^ 53 := roundScaled_lastPlace_le hnum hden
  have hnormal : e = -1074 ∨ 2 ^ 52 ≤ roundScaled num den e := by
    refine hlower.imp_right fun hlower => ?_
    have hquot : (2 : ℝ) ^ 52 ≤ num / den / 2 ^ e := by
      rw [le_div_iff₀ hpos]
      rw [zpow_add₀ two_ne_zero, mul_comm] at hlower
      exact_mod_cast hlower
    have : (2 : ℝ) ^ 52 < roundScaled num den e + 1 := by linarith
    exact Nat.lt_succ_iff.mp (by exact_mod_cast this)
  have hmag : nearestMagnitude num den
      = min ((e + 1074).toNat * twoPow 52 + roundScaled num den e) infiniteMagnitude := by
    rw [nearestMagnitude, if_neg hnum.ne']
  rw [isFinite, magnitude_ofRatio, decide_eq_true_eq, hmag, min_lt_iff,
    or_iff_left (lt_irrefl _)] at hfinite
  rw [ofRatio, hmag, min_eq_left hfinite.le]
  exact absValue_ofParts negative hleast hr hnormal hfinite

/-- A ratio below `2 ^ 1023` is rounded to a finite value. -/
theorem isFinite_ofRatio (negative : Bool) (num : ℕ) {den : ℕ} (hden : 0 < den)
    (hlt : (num : ℝ) / den < 2 ^ (1023 : ℤ)) : (ofRatio negative num den).isFinite = true := by
  rw [isFinite, magnitude_ofRatio]
  refine decide_eq_true ?_
  rcases Nat.eq_zero_or_pos num with rfl | hnum
  · rw [nearestMagnitude, if_pos rfl]
    decide
  obtain ⟨hleast, -, hlower⟩ := lastPlace_spec hnum hden
  have hround := roundScaled_lastPlace_le hnum hden
  have hplace : lastPlace num den ≤ 970 := by
    rcases hlower with heq | hlower
    · omega
    · have := (zpow_lt_zpow_iff_right₀ one_lt_two).mp (hlower.trans_lt hlt)
      omega
  have hpow : twoPow 52 = 2 ^ 52 := rfl
  simp only [nearestMagnitude, if_neg hnum.ne', infiniteMagnitude, hpow]
  generalize lastPlace num den = e at *
  generalize roundScaled num den e = r at *
  omega

/-- A ratio with at most 53 binary digits is a multiple of its last place. -/
theorem exists_div_lastPlace_eq {num den m : ℕ} {e : ℤ} (hnum : 0 < num) (hden : 0 < den)
    (hm : m ≤ 2 ^ 53) (he : -1074 ≤ e) (h : (num : ℝ) / den = m * 2 ^ e) :
    ∃ k : ℕ, (num : ℝ) / den / 2 ^ lastPlace num den = k := by
  obtain ⟨-, -, hlower⟩ := lastPlace_spec hnum hden
  have hm' : (m : ℝ) ≤ 2 ^ (53 : ℤ) := by exact_mod_cast hm
  rcases le_or_gt (lastPlace num den) e with hle | hgt
  · refine ⟨m * 2 ^ (e - lastPlace num den).toNat, ?_⟩
    rw [h, mul_div_assoc, ← zpow_sub₀ two_ne_zero]
    push_cast
    rw [← zpow_natCast, Int.toNat_of_nonneg (by omega)]
  · -- Only a carry puts the last place above, and then the digits are zeros behind a one.
    have hlower : (2 : ℝ) ^ (lastPlace num den + 52) ≤ m * 2 ^ e := by
      rw [← h]
      exact hlower.resolve_left (by omega)
    have hupper : (m : ℝ) * 2 ^ e ≤ 2 ^ (53 + e) := by
      rw [zpow_add₀ two_ne_zero]
      exact mul_le_mul_of_nonneg_right hm' (zpow_pos two_pos e).le
    have hplace : lastPlace num den = e + 1 := by
      have := (zpow_le_zpow_iff_right₀ one_lt_two).mp (hlower.trans hupper)
      omega
    have heq : (m : ℝ) * 2 ^ e = 2 ^ (53 + e) := by
      refine le_antisymm hupper ?_
      rwa [hplace, show e + 1 + 52 = 53 + e by ring] at hlower
    refine ⟨2 ^ 52, ?_⟩
    rw [h, heq, hplace, ← zpow_sub₀ two_ne_zero, show 53 + e - (e + 1) = 52 by ring]
    norm_num

/-- A ratio with at most 53 binary digits is not changed by rounding. -/
theorem absValue_ofRatio_eq {negative : Bool} {num den m : ℕ} {e : ℤ} (hnum : 0 < num)
    (hden : 0 < den) (hm : m ≤ 2 ^ 53) (he : -1074 ≤ e) (h : (num : ℝ) / den = m * 2 ^ e)
    (hfinite : (ofRatio negative num den).isFinite = true) :
    (ofRatio negative num den).absValue = num / den := by
  obtain ⟨k, hk⟩ := exists_div_lastPlace_eq hnum hden hm he h
  have hround := abs_roundScaled_sub_le num hden (lastPlace num den)
  rw [hk] at hround
  have hle : (roundScaled num den (lastPlace num den) : ℝ) < k + 1 := by
    have := (abs_le.mp hround).2
    linarith
  have hge : (k : ℝ) < roundScaled num den (lastPlace num den) + 1 := by
    have := (abs_le.mp hround).1
    linarith
  have hexact : roundScaled num den (lastPlace num den) = k :=
    le_antisymm (Nat.lt_succ_iff.mp (by exact_mod_cast hle))
      (Nat.lt_succ_iff.mp (by exact_mod_cast hge))
  rw [absValue_ofRatio hnum hden hfinite, hexact, ← hk,
    div_mul_cancel₀ _ (zpow_pos two_pos _).ne']

/-- Rounding moves a ratio by half a unit in the last place at most. -/
theorem abs_absValue_ofRatio_sub_le {negative : Bool} {num den : ℕ} (hnum : 0 < num)
    (hden : 0 < den) (hfinite : (ofRatio negative num den).isFinite = true) :
    |(ofRatio negative num den).absValue - num / den| ≤ 2 ^ lastPlace num den / 2 := by
  have hround := abs_roundScaled_sub_le num hden (lastPlace num den)
  rw [absValue_ofRatio hnum hden hfinite]
  have hpos : (0 : ℝ) < 2 ^ lastPlace num den := zpow_pos two_pos _
  calc |(roundScaled num den (lastPlace num den) : ℝ) * 2 ^ lastPlace num den - num / den|
      = |(roundScaled num den (lastPlace num den) : ℝ) - num / den / 2 ^ lastPlace num den|
          * 2 ^ lastPlace num den := by
        rw [← abs_of_pos hpos, ← abs_mul, abs_of_pos hpos, sub_mul, div_mul_cancel₀ _ hpos.ne']
    _ ≤ 1 / 2 * 2 ^ lastPlace num den := mul_le_mul_of_nonneg_right hround hpos.le
    _ = 2 ^ lastPlace num den / 2 := by ring

/-- Half a unit in the last place is `2⁻⁵³` of a ratio with 53 digits at most. -/
theorem half_lastPlace_le_mul {num den : ℕ}
    (hlower : (2 : ℝ) ^ (lastPlace num den + 52) ≤ num / den) :
    (2 : ℝ) ^ lastPlace num den / 2 ≤ num / den * 2 ^ (-53 : ℤ) :=
  calc (2 : ℝ) ^ lastPlace num den / 2
      = 2 ^ (lastPlace num den + 52) * 2 ^ (-53 : ℤ) := by
        rw [zpow_div_two, ← zpow_add₀ two_ne_zero]
        congr 1
        omega
    _ ≤ num / den * 2 ^ (-53 : ℤ) := mul_le_mul_of_nonneg_right hlower (zpow_pos two_pos _).le

/-- Half a unit in the last place is `2⁻⁵³` of the ratio at most, or half of the least place. -/
theorem half_lastPlace_le {num den : ℕ} (hnum : 0 < num) (hden : 0 < den) :
    (2 : ℝ) ^ lastPlace num den / 2 ≤ num / den * 2 ^ (-53 : ℤ) + 2 ^ (-1075 : ℤ) := by
  have hratio : (0 : ℝ) ≤ num / den := by positivity
  rcases (lastPlace_spec hnum hden).2.2 with hleast | hlower
  · rw [hleast, zpow_div_two, show (-1074 - 1 : ℤ) = -1075 by norm_num]
    exact le_add_of_nonneg_left (mul_nonneg hratio (zpow_pos two_pos _).le)
  · exact (half_lastPlace_le_mul hlower).trans (le_add_of_nonneg_right (zpow_pos two_pos _).le)

theorem absValue_ofRatio_zero (negative : Bool) (den : ℕ) :
    (ofRatio negative 0 den).absValue = 0 := by
  rw [absValue, significand, magnitude_ofRatio, nearestMagnitude, if_pos rfl]
  simp [twoPow_pos]

/-- The relative error of rounding is `2⁻⁵³` at most, apart from the least values. -/
theorem abs_absValue_ofRatio_sub_le_mul {negative : Bool} (num : ℕ) {den : ℕ} (hden : 0 < den)
    (hfinite : (ofRatio negative num den).isFinite = true) :
    |(ofRatio negative num den).absValue - num / den|
      ≤ num / den * 2 ^ (-53 : ℤ) + 2 ^ (-1075 : ℤ) := by
  rcases Nat.eq_zero_or_pos num with rfl | hnum
  · rw [absValue_ofRatio_zero, Nat.cast_zero, zero_div, sub_zero, abs_zero, zero_mul, zero_add]
    exact (zpow_pos two_pos _).le
  · exact (abs_absValue_ofRatio_sub_le hnum hden hfinite).trans (half_lastPlace_le hnum hden)

/-- A ratio that has 53 digits above the last place is rounded with a relative error. -/
theorem abs_absValue_ofRatio_sub_le_of_normal {negative : Bool} {num den : ℕ} (hden : 0 < den)
    (hnormal : (2 : ℝ) ^ (-1022 : ℤ) ≤ num / den)
    (hfinite : (ofRatio negative num den).isFinite = true) :
    |(ofRatio negative num den).absValue - num / den| ≤ num / den * 2 ^ (-53 : ℤ) := by
  have hnum : 0 < num := by
    rw [Nat.pos_iff_ne_zero]
    rintro rfl
    rw [Nat.cast_zero, zero_div] at hnormal
    exact absurd hnormal (zpow_pos two_pos _).not_ge
  have hlower : (2 : ℝ) ^ (lastPlace num den + 52) ≤ num / den := by
    rcases (lastPlace_spec hnum hden).2.2 with hleast | hlower
    · rwa [hleast, show (-1074 + 52 : ℤ) = -1022 by norm_num]
    · exact hlower
  exact (abs_absValue_ofRatio_sub_le hnum hden hfinite).trans (half_lastPlace_le_mul hlower)

/-- A ratio grows little when it is rounded. -/
theorem absValue_ofRatio_le {negative : Bool} (num : ℕ) {den : ℕ} (hden : 0 < den)
    (hfinite : (ofRatio negative num den).isFinite = true) :
    (ofRatio negative num den).absValue ≤ num / den * (1 + 2 ^ (-53 : ℤ)) + 2 ^ (-1075 : ℤ) := by
  have hround := (abs_le.mp (abs_absValue_ofRatio_sub_le_mul num hden hfinite)).2
  linarith

/-! ### Operations -/

theorem absValue_nonneg (x : Binary64) : 0 ≤ x.absValue :=
  mul_nonneg (Nat.cast_nonneg _) (zpow_pos two_pos _).le

/-- A value with places behind the point, compared with a fraction. -/
theorem absValue_le_div {x : Binary64} {num den : ℕ} (hden : 0 < den) (hexponent : x.exponent < 0)
    (h : den * x.significand ≤ num * twoPow x.exponent.natAbs) : x.absValue ≤ num / den := by
  have hden : (0 : ℝ) < den := by exact_mod_cast hden
  have hpow : (0 : ℝ) < (twoPow x.exponent.natAbs : ℕ) := by exact_mod_cast twoPow_pos _
  rw [absValue, zpow_of_neg hexponent, mul_one_div, div_le_div_iff₀ hpow hden, mul_comm]
  exact_mod_cast h

theorem absValue_ofNat_le {n : ℕ} (hfinite : (ofNat n).isFinite = true) :
    (ofNat n).absValue ≤ n * (1 + 2 ^ (-53 : ℤ)) + 2 ^ (-1075 : ℤ) := by
  have hround := absValue_ofRatio_le n Nat.one_pos hfinite
  rwa [Nat.cast_one, div_one] at hround

theorem absValue_ofScaled_le {negative : Bool} (m : ℕ) {e : ℤ}
    (hfinite : (ofScaled negative m e).isFinite = true) :
    (ofScaled negative m e).absValue
      ≤ m * 2 ^ e * (1 + 2 ^ (-53 : ℤ)) + 2 ^ (-1075 : ℤ) := by
  rw [ofScaled] at hfinite ⊢
  split_ifs at hfinite ⊢ with he
  · have hround := absValue_ofRatio_le m (twoPow_pos e.natAbs) hfinite
    rwa [zpow_of_neg he, mul_one_div]
  · have hround := absValue_ofRatio_le (m * twoPow e.natAbs) Nat.one_pos hfinite
    rw [Nat.cast_one, div_one, Nat.cast_mul] at hround
    rwa [zpow_of_nonneg (not_lt.mp he)]

theorem not_isNaN_of_isFinite {x : Binary64} (h : x.isFinite = true) : x.isNaN = false := by
  rw [isFinite, decide_eq_true_eq] at h
  exact decide_eq_false h.not_gt

theorem not_isInfinite_of_isFinite {x : Binary64} (h : x.isFinite = true) :
    x.isInfinite = false := by
  rw [isFinite, decide_eq_true_eq] at h
  exact beq_eq_false_iff_ne.mpr h.ne

/-- A product with a finite value is finite only if the other factor is. -/
theorem isFinite_of_isFinite_mul {x y : Binary64} (hx : x.isFinite = true)
    (hfinite : (mul x y).isFinite = true) : y.isFinite = true := by
  rw [isFinite, decide_eq_true_eq]
  by_contra hlarge
  rcases eq_or_lt_of_le (not_lt.mp hlarge) with hinf | hnan
  · have hmul : mul x y = if x.magnitude = 0 then invalid
        else infinity (x.negative != y.negative) := by
      have hnan : y.isNaN = false := decide_eq_false hinf.not_lt
      have hinf : y.isInfinite = true := beq_iff_eq.mpr hinf.symm
      simp [mul, not_isNaN_of_isFinite hx, not_isInfinite_of_isFinite hx, hnan, hinf]
    have hinvalid : invalid.isFinite = false := by decide
    have hinfinity : ∀ negative, (infinity negative).isFinite = false := by decide
    rw [hmul] at hfinite
    split_ifs at hfinite
    · exact absurd hfinite (by rw [hinvalid]; decide)
    · exact absurd hfinite (by rw [hinfinity]; decide)
  · have hnan : y.isNaN = true := decide_eq_true hnan
    have hmul : mul x y = y := by
      simp [mul, not_isNaN_of_isFinite hx, hnan]
    rw [hmul] at hfinite
    exact absurd hnan (by rw [not_isNaN_of_isFinite hfinite]; decide)

theorem absValue_mul_le {x y : Binary64} (hx : x.isFinite = true) (hy : y.isFinite = true)
    (hfinite : (mul x y).isFinite = true) :
    (mul x y).absValue
      ≤ x.absValue * y.absValue * (1 + 2 ^ (-53 : ℤ)) + 2 ^ (-1075 : ℤ) := by
  have hmul : mul x y = ofScaled (x.negative != y.negative) (x.significand * y.significand)
      (x.exponent + y.exponent) := by
    simp [mul, not_isNaN_of_isFinite hx, not_isNaN_of_isFinite hy, not_isInfinite_of_isFinite hx,
      not_isInfinite_of_isFinite hy]
  have hproduct : ((x.significand * y.significand : ℕ) : ℝ) * 2 ^ (x.exponent + y.exponent)
      = x.absValue * y.absValue := by
    rw [absValue, absValue, zpow_add₀ two_ne_zero]
    push_cast
    ring
  rw [hmul] at hfinite ⊢
  rw [← hproduct]
  exact absValue_ofScaled_le _ hfinite

/-! ### Integers around a value -/

theorem ceil_le {x : Binary64} {n : ℕ} (h : x.isFinite = true → x.absValue ≤ n) :
    x.ceil ≤ n := by
  rw [ceil]
  split_ifs with hnot he
  · exact Nat.zero_le n
  all_goals
    have hfinite : x.isFinite = true := by
      by_contra hfinite
      exact hnot (by simp [hfinite])
    have hle := h hfinite
    rw [absValue] at hle
  · rw [zpow_of_nonneg he] at hle
    exact_mod_cast hle
  · have hpow := twoPow_pos x.exponent.natAbs
    have hpow' : (0 : ℝ) < (twoPow x.exponent.natAbs : ℕ) := by exact_mod_cast hpow
    rw [zpow_of_neg (not_le.mp he), mul_one_div, div_le_iff₀ hpow'] at hle
    have hle : x.significand ≤ n * twoPow x.exponent.natAbs := by exact_mod_cast hle
    exact Nat.lt_succ_iff.mp (Nat.div_lt_of_lt_mul (by rw [mul_comm, Nat.succ_mul]; omega))

theorem floor_le_ceil (x : Binary64) : x.floor ≤ x.ceil := by
  rw [floor, ceil]
  split_ifs with hnot he
  · exact le_rfl
  · exact le_rfl
  · have hpow := twoPow_pos x.exponent.natAbs
    exact Nat.div_le_div_right (by omega)

end Binary64

end InterRater
