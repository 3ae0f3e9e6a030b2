import InterRater.Number.Numeral
import InterRater.Proofs.Number.Sign

/-!
# Integers among the binary numbers

A ratio is rounded to the same value however it is written (`ofRatio_mul_mul`), so that zeros behind
the point of a decimal do not count (`ofDecimal_mul_tenPow`): a numeral that writes an integer is
read as the value nearest to it (`Numeral.read?_toString`).  An integer of at most 53 binary digits
is its own nearest value (`toInt?_ofInt`).
-/

namespace InterRater

/-! ### Digits -/

theorem isDigit_eq (c : Char) : isDigit c = c.isDigit :=
  rfl

theorem digitsValue_toDigits (n : ℕ) : digitsValue (Nat.toDigits 10 n) = n :=
  Nat.ofDigitChars_ten_toDigits

theorem digitsValue_append_zeros (digits : List Char) (k : ℕ) :
    digitsValue (digits ++ List.replicate k '0') = digitsValue digits * tenPow k := by
  show Nat.ofDigitChars 10 (digits ++ List.replicate k '0') 0 = Nat.ofDigitChars 10 digits 0 * 10 ^ k
  rw [Nat.ofDigitChars_append, Nat.ofDigitChars_replicate_zero, Nat.mul_comm]

theorem isDigit_of_mem_toDigits {n : ℕ} {c : Char} (h : c ∈ Nat.toDigits 10 n) :
    isDigit c = true := by
  rw [isDigit_eq]
  exact Nat.isDigit_of_mem_toDigits (by decide) (by decide) h

theorem isDigit_of_mem_replicate_zero {k : ℕ} {c : Char} (h : c ∈ List.replicate k '0') :
    isDigit c = true := by
  rw [List.eq_of_mem_replicate h]
  rfl

theorem toDigits_ne_nil (n : ℕ) : Nat.toDigits 10 n ≠ [] :=
  List.ne_nil_of_length_pos Nat.length_toDigits_pos

/-- An integer is written by its digits, after a sign if it is negative. -/
theorem toList_toString (n : ℤ) : (toString n).toList =
    if n < 0 then '-' :: Nat.toDigits 10 n.natAbs else Nat.toDigits 10 n.natAbs := by
  rw [Int.toString_eq_repr, Int.repr_eq_if]
  by_cases hneg : n < 0
  · have habs : (-n).toNat = n.natAbs := by omega
    rw [if_pos hneg, if_neg (not_le.mpr hneg), Nat.repr_eq_ofList_toDigits, habs,
      String.toList_append, String.toList_ofList, String.toList_ofList]
    rfl
  · have habs : n.toNat = n.natAbs := by omega
    rw [if_neg hneg, if_pos (not_lt.mp hneg), Nat.repr_eq_ofList_toDigits, habs,
      String.toList_ofList]

namespace Binary64

/-! ### Ratios -/

theorem roundDiv_mul_mul (num den : ℕ) {k : ℕ} (hk : 0 < k) :
    roundDiv (num * k) (den * k) = roundDiv num den := by
  have hlow : 2 * (num % den * k) < den * k ↔ 2 * (num % den) < den := by
    rw [← Nat.mul_assoc, Nat.mul_lt_mul_right hk]
  have hhigh : den * k < 2 * (num % den * k) ↔ den < 2 * (num % den) := by
    rw [← Nat.mul_assoc, Nat.mul_lt_mul_right hk]
  rw [roundDiv, roundDiv, Nat.mul_div_mul_right num den hk, Nat.mul_mod_mul_right k num den]
  simp only [hlow, hhigh]

theorem roundScaled_mul_mul (num den : ℕ) {k : ℕ} (hk : 0 < k) (e : ℤ) :
    roundScaled (num * k) (den * k) e = roundScaled num den e := by
  rw [roundScaled, roundScaled, Nat.mul_right_comm num, Nat.mul_right_comm den,
    roundDiv_mul_mul _ _ hk, roundDiv_mul_mul _ _ hk]

/-- There is one place for the last digit of a ratio. -/
theorem lastPlace_le_lastPlace {num den num' den' : ℕ} (hnum : 0 < num) (hden : 0 < den)
    (hnum' : 0 < num') (hden' : 0 < den') (h : (num : ℝ) / den = num' / den') :
    lastPlace num den ≤ lastPlace num' den' := by
  obtain ⟨-, -, hlower⟩ := lastPlace_spec hnum hden
  obtain ⟨hleast, hupper, -⟩ := lastPlace_spec hnum' hden'
  rcases hlower with heq | hlower
  · rw [heq]
    exact hleast
  · have hlt : (2 : ℝ) ^ (lastPlace num den + 52) < 2 ^ (lastPlace num' den' + 53) :=
      (hlower.trans_eq h).trans_lt hupper
    have := (zpow_lt_zpow_iff_right₀ one_lt_two).mp hlt
    omega

theorem lastPlace_mul_mul {num den k : ℕ} (hnum : 0 < num) (hden : 0 < den) (hk : 0 < k) :
    lastPlace (num * k) (den * k) = lastPlace num den := by
  have hk' : (k : ℝ) ≠ 0 := by exact_mod_cast hk.ne'
  have hratio : ((num * k : ℕ) : ℝ) / (den * k : ℕ) = num / den := by
    push_cast
    rw [mul_div_mul_right _ _ hk']
  exact le_antisymm
    (lastPlace_le_lastPlace (Nat.mul_pos hnum hk) (Nat.mul_pos hden hk) hnum hden hratio)
    (lastPlace_le_lastPlace hnum hden (Nat.mul_pos hnum hk) (Nat.mul_pos hden hk) hratio.symm)

/-- Rounding does not depend on how a ratio is written. -/
theorem ofRatio_mul_mul (negative : Bool) (num : ℕ) {den k : ℕ} (hden : 0 < den) (hk : 0 < k) :
    ofRatio negative (num * k) (den * k) = ofRatio negative num den := by
  rcases Nat.eq_zero_or_pos num with rfl | hnum
  · rw [Nat.zero_mul, ofRatio, ofRatio, nearestMagnitude, nearestMagnitude, if_pos rfl, if_pos rfl]
  · rw [ofRatio, ofRatio, nearestMagnitude, nearestMagnitude, if_neg (Nat.mul_pos hnum hk).ne',
      if_neg hnum.ne', lastPlace_mul_mul hnum hden hk]
    simp only [roundScaled_mul_mul num den hk]

/-! ### Decimals -/

theorem tenPow_pos (n : ℕ) : 0 < tenPow n :=
  Nat.pow_pos (by decide)

theorem tenPow_le_tenPow {m n : ℕ} (h : m ≤ n) : tenPow m ≤ tenPow n :=
  Nat.pow_le_pow_right (by decide) h

/-- The powers of ten that `ofDecimal` looks at go beyond the exact integers. -/
theorem lt_tenPow_of_le {n : ℕ} (h : n ≤ 2 ^ 53) : n < tenPow 400 := by
  have hlt : n < tenPow 16 := Nat.lt_of_le_of_lt h (by decide)
  exact Nat.lt_of_lt_of_le hlt (tenPow_le_tenPow (by decide))

theorem lt_digitCount_mul_tenPow {n : ℕ} (hn : 0 < n) (k : ℕ) : k < digitCount (n * tenPow k) := by
  rw [digitCount]
  rcases Nat.eq_zero_or_pos k with rfl | hk
  · exact Nat.length_toDigits_pos
  · rw [← Nat.not_le, Nat.length_toDigits_le_iff (by decide) hk, Nat.not_lt]
    exact Nat.le_mul_of_pos_left _ hn

theorem digitCount_mul_tenPow_le {n m : ℕ} (hm : 0 < m) (hn : n < tenPow m) (k : ℕ) :
    digitCount (n * tenPow k) ≤ m + k := by
  rw [digitCount, Nat.length_toDigits_le_iff (by decide) (by omega), Nat.pow_add]
  exact Nat.mul_lt_mul_of_pos_right hn (tenPow_pos k)

/-- An integer with zeros behind the point. -/
theorem ofDecimal_mul_tenPow (negative : Bool) {n : ℕ} (hn : n < tenPow 400) (k : ℕ) :
    ofDecimal negative (n * tenPow k) (-k) = ofRatio negative n 1 := by
  rcases Nat.eq_zero_or_pos n with rfl | hpos
  · rw [Nat.zero_mul, ofDecimal, if_pos rfl]
    rfl
  · have hlow := lt_digitCount_mul_tenPow hpos k
    have hhigh := digitCount_mul_tenPow_le (by decide) hn k
    have hk := tenPow_pos k
    rw [ofDecimal, if_neg (Nat.mul_pos hpos hk).ne', if_neg (by omega), if_neg (by omega),
      Int.natAbs_neg, Int.natAbs_natCast]
    split_ifs with hneg
    · have hone := ofRatio_mul_mul negative n Nat.one_pos hk
      rwa [Nat.one_mul] at hone
    · obtain rfl : k = 0 := by omega
      show ofRatio negative (n * 1 * 1) 1 = _
      rw [Nat.mul_one, Nat.mul_one]

/-! ### Exact integers -/

theorem absValue_ofRatio_one_of_pos (negative : Bool) {m : ℕ} (hpos : 0 < m) (hle : m ≤ 2 ^ 53) :
    (ofRatio negative m 1).isFinite = true ∧ (ofRatio negative m 1).absValue = m := by
  have hsmall : (m : ℝ) / (1 : ℕ) < 2 ^ (1023 : ℤ) := by
    rw [Nat.cast_one, div_one]
    calc (m : ℝ) ≤ 2 ^ (53 : ℤ) := by exact_mod_cast hle
      _ < 2 ^ (1023 : ℤ) := zpow_lt_zpow_right₀ one_lt_two (by norm_num)
  have hfinite := isFinite_ofRatio negative m Nat.one_pos hsmall
  have habs := absValue_ofRatio_eq (e := 0) hpos Nat.one_pos hle (by norm_num) (by simp) hfinite
  rw [Nat.cast_one, div_one] at habs
  exact ⟨hfinite, habs⟩

theorem absValue_ofRatio_one (negative : Bool) {m : ℕ} (hle : m ≤ 2 ^ 53) :
    (ofRatio negative m 1).isFinite = true ∧ (ofRatio negative m 1).absValue = m := by
  rcases Nat.eq_zero_or_pos m with rfl | hpos
  · have hfinite : ∀ negative, (ofRatio negative 0 1).isFinite = true := by decide
    exact ⟨hfinite negative, by rw [absValue_ofRatio_zero, Nat.cast_zero]⟩
  · exact absValue_ofRatio_one_of_pos negative hpos hle

theorem toInt?_of_absValue {x : Binary64} {m : ℕ} (hfinite : x.isFinite = true)
    (h : x.absValue = m) : x.toInt? = some (if x.negative then -(m : ℤ) else m) := by
  rw [absValue] at h
  rw [toInt?, hfinite, Bool.not_true, if_neg Bool.false_ne_true]
  by_cases he : 0 ≤ x.exponent
  · rw [zpow_of_nonneg he] at h
    have h : x.significand * twoPow x.exponent.natAbs = m := by exact_mod_cast h
    rw [if_pos he, signedSignificand, ← h]
    cases x.negative
    · rfl
    · simp
  · have hpow : (0 : ℝ) < (twoPow x.exponent.natAbs : ℕ) := by exact_mod_cast twoPow_pos _
    rw [zpow_of_neg (not_le.mp he), mul_one_div, div_eq_iff hpow.ne'] at h
    have h : x.significand = m * twoPow x.exponent.natAbs := by exact_mod_cast h
    simp only [if_neg he, h, Nat.mul_mod_left, if_true, Nat.mul_div_cancel _ (twoPow_pos _)]

/-- An integer of 53 binary digits is its own nearest value. -/
theorem toInt?_ofInt {n : ℤ} (h : n.natAbs ≤ 2 ^ 53) : (ofInt n).toInt? = some n := by
  obtain ⟨hfinite, habs⟩ := absValue_ofRatio_one (decide (n < 0)) h
  rw [ofInt, toInt?_of_absValue hfinite habs, negative_ofRatio]
  congr 1
  by_cases hneg : n < 0
  · rw [decide_eq_true hneg, if_pos rfl]
    omega
  · rw [decide_eq_false hneg, if_neg Bool.false_ne_true]
    omega

end Binary64

/-! ### Numerals -/

namespace Numeral

theorem splitSign_of_isDigit {c : Char} (h : isDigit c = true) (rest : List Char) :
    splitSign (c :: rest) = (false, c :: rest) := by
  have hminus : c ≠ '-' := by
    rintro rfl
    cases h
  have hplus : c ≠ '+' := by
    rintro rfl
    cases h
  simp [splitSign, hminus, hplus]

/-- Digits end where another character follows. -/
theorem span_isDigit {digits rest : List Char} (hdigits : ∀ c ∈ digits, isDigit c = true)
    (hrest : ∀ c ∈ rest.head?, isDigit c = false) :
    (digits ++ rest).span isDigit = (digits, rest) := by
  rw [List.span_eq_takeWhile_dropWhile, List.takeWhile_append_of_pos hdigits,
    List.dropWhile_append_of_pos hdigits]
  cases rest with
  | nil => rw [List.takeWhile_nil, List.dropWhile_nil, List.append_nil]
  | cons c rest =>
    have hc : isDigit c = false := hrest c rfl
    simp [hc]

/-- The zeros behind the point of an integer count as digits, and the power of ten undoes that. -/
theorem unsigned?_toDigits (negative : Bool) {m : ℕ} (hm : m < tenPow 400) {rest : List Char}
    (hrest : rest = [] ∨ ∃ k, rest = '.' :: List.replicate k '0') :
    unsigned? negative (Nat.toDigits 10 m ++ rest) = some (.ofRatio negative m 1) := by
  have hdigits : ∀ c ∈ Nat.toDigits 10 m, isDigit c = true := fun c => isDigit_of_mem_toDigits
  have hspan : (Nat.toDigits 10 m ++ rest).span isDigit = (Nat.toDigits 10 m, rest) := by
    refine span_isDigit hdigits ?_
    rcases hrest with rfl | ⟨k, rfl⟩
    · nofun
    · rintro c ⟨⟩
      rfl
  have hfraction : ∃ k, splitFraction rest = (List.replicate k '0', []) := by
    rcases hrest with rfl | ⟨k, rfl⟩
    · exact ⟨0, rfl⟩
    · refine ⟨k, ?_⟩
      have hzeros : (List.replicate k '0' ++ []).span isDigit = (List.replicate k '0', []) :=
        span_isDigit (fun c => isDigit_of_mem_replicate_zero) nofun
      rwa [List.append_nil] at hzeros
  obtain ⟨k, hfraction⟩ := hfraction
  have hfilled : (Nat.toDigits 10 m).isEmpty = false :=
    List.isEmpty_eq_false_iff.mpr (toDigits_ne_nil m)
  unfold unsigned?
  simp only [hspan, hfraction, hfilled, Bool.false_and, Bool.false_eq_true, if_false]
  show some (Binary64.ofDecimal negative (digitsValue (Nat.toDigits 10 m ++ List.replicate k '0'))
    (0 - (List.replicate k '0').length)) = _
  rw [digitsValue_append_zeros, digitsValue_toDigits, List.length_replicate, zero_sub,
    Binary64.ofDecimal_mul_tenPow negative hm]

/-- **Reading an integer.**  A numeral that writes an integer, with a point and zeros behind it or
without, is read as the value nearest to the integer. -/
theorem read?_toString {n : ℤ} (hn : n.natAbs < tenPow 400) {rest : List Char}
    (hrest : rest = [] ∨ ∃ k, rest = '.' :: List.replicate k '0') :
    read? ((toString n).toList ++ rest) = some (.ofInt n) := by
  have hsplit : splitSign ((toString n).toList ++ rest) =
      (decide (n < 0), Nat.toDigits 10 n.natAbs ++ rest) := by
    rw [toList_toString]
    by_cases hneg : n < 0
    · rw [if_pos hneg, decide_eq_true hneg]
      rfl
    · -- The first digit stands where a sign would.
      rw [if_neg hneg, decide_eq_false hneg]
      obtain ⟨c, cs, hcs⟩ := List.exists_cons_of_ne_nil (toDigits_ne_nil n.natAbs)
      have hc : isDigit c = true := isDigit_of_mem_toDigits (hcs ▸ List.mem_cons_self)
      rw [hcs]
      exact splitSign_of_isDigit hc _
  unfold read?
  rw [hsplit]
  show Option.orElse (unsigned? (decide (n < 0)) (Nat.toDigits 10 n.natAbs ++ rest)) _ = _
  rw [unsigned?_toDigits _ hn hrest]
  rfl

end Numeral

end InterRater
