import InterRater.Proofs.Number.Value
import InterRater.Proofs.Rating.Numbers

/-!
# The rating that a number is

A number is a rating of a scale if it is an integer on the scale, and every other number is reported
as it was given (`OrdinalScale.rating_outcome`).  Only where a scale reaches to the end of the
integers of 64 bits is more accepted: there a number beyond all of them counts as the last rating
(`OrdinalScale.rating_beyond_words`).
-/

namespace InterRater

namespace OrdinalScale

variable {scale : OrdinalScale} {value : Binary64} {r : ℤ}

theorem contains_iff : scale.contains r = true ↔ scale.least ≤ r ∧ r ≤ scale.greatest := by
  rw [contains, Bool.and_eq_true, decide_eq_true_eq, decide_eq_true_eq]

theorem rating?_eq_some_iff : scale.rating? value = some r ↔
    ∃ n, value.toInt? = some n ∧ toWord n = r ∧ scale.contains r = true := by
  rw [rating?, Option.bind_eq_some_iff]
  refine exists_congr fun n => and_congr_right fun _ => ?_
  rw [Option.ite_none_right_eq_some, Option.some_inj]
  constructor
  · rintro ⟨hcontains, rfl⟩
    exact ⟨rfl, hcontains⟩
  · rintro ⟨rfl, hcontains⟩
    exact ⟨hcontains, rfl⟩

/-- An integer counts as itself, or as the last integer of 64 bits before it. -/
theorem toWord_eq_iff {n : ℤ} (hlow : Int64.minValue.toInt ≤ r) (hhigh : r ≤ Int64.maxValue.toInt) :
    toWord n = r ↔ n = r ∨ (r = Int64.maxValue.toInt ∧ r < n ∨ r = Int64.minValue.toInt ∧ n < r) := by
  have hmax : Int64.maxValue.toInt = 2 ^ 63 - 1 := rfl
  have hmin : Int64.minValue.toInt = -2 ^ 63 := rfl
  rw [toWord]
  omega

/-- The number of an integer that it has exactly is that integer as a rating, if it is on the
scale. -/
theorem rating?_ofInt {n : ℤ} (hn : n.natAbs ≤ 2 ^ 53) :
    scale.rating? (.ofInt n) = if scale.contains n = true then some n else none := by
  have hword : toWord n = n := by
    have hleast : Int64.minValue.toInt ≤ n := Int.le_trans (by decide) (show -2 ^ 53 ≤ n by omega)
    have hgreatest : n ≤ Int64.maxValue.toInt :=
      Int.le_trans (show n ≤ 2 ^ 53 by omega) (by decide)
    rw [toWord, min_eq_left hgreatest, max_eq_right hleast]
  rw [rating?, Binary64.toInt?_ofInt hn, Option.bind_some, hword]

/-- **The rating of a number** on a scale of integers of 64 bits is the integer that the number is
equal to, if that is on the scale.  A number beyond all integers of 64 bits counts as the last of
them.  Every other number is a fault, which names it, the item, the rater and the scale. -/
theorem rating_outcome (scale : OrdinalScale) (hlow : Int64.minValue.toInt ≤ scale.least)
    (hhigh : scale.greatest ≤ Int64.maxValue.toInt) (value : Binary64) (item : String)
    (rater : ℕ) :
    (∀ r, scale.rating value item rater = .ok r ↔ value.isFinite = true ∧
      scale.least ≤ r ∧ r ≤ scale.greatest ∧ ∃ n : ℤ, value.toReal = n ∧
        (n = r ∨ r = Int64.maxValue.toInt ∧ r < n ∨ r = Int64.minValue.toInt ∧ n < r)) ∧
    (Int64.minValue.toInt < scale.least → scale.greatest < Int64.maxValue.toInt →
      ∀ r, scale.rating value item rater = .ok r ↔
        value.isFinite = true ∧ value.toReal = r ∧ scale.least ≤ r ∧ r ≤ scale.greatest) ∧
    ∀ e, scale.rating value item rater = .error e ↔
      (∀ r, scale.rating value item rater ≠ .ok r) ∧ e = .offScale value item rater scale := by
  have hok : ∀ r, scale.rating value item rater = .ok r ↔ value.isFinite = true ∧
      scale.least ≤ r ∧ r ≤ scale.greatest ∧ ∃ n : ℤ, value.toReal = n ∧
        (n = r ∨ r = Int64.maxValue.toInt ∧ r < n ∨ r = Int64.minValue.toInt ∧ n < r) := by
    intro r
    rw [rating_eq_ok_iff, rating?_eq_some_iff]
    constructor
    · rintro ⟨n, hn, hword, hcontains⟩
      obtain ⟨hfinite, hreal⟩ := Binary64.toInt?_eq_some_iff.mp hn
      obtain ⟨hleast, hgreatest⟩ := contains_iff.mp hcontains
      exact ⟨hfinite, hleast, hgreatest, n, hreal,
        (toWord_eq_iff (hlow.trans hleast) (hgreatest.trans hhigh)).mp hword⟩
    · rintro ⟨hfinite, hleast, hgreatest, n, hreal, hcounts⟩
      exact ⟨n, Binary64.toInt?_eq_some_iff.mpr ⟨hfinite, hreal⟩,
        (toWord_eq_iff (hlow.trans hleast) (hgreatest.trans hhigh)).mpr hcounts,
        contains_iff.mpr ⟨hleast, hgreatest⟩⟩
  refine ⟨hok, ?_, ?_⟩
  · intro hlow hhigh r
    rw [hok]
    constructor
    · rintro ⟨hfinite, hleast, hgreatest, n, hreal, hcounts⟩
      -- The scale does not reach the ends, so that its ratings count for themselves.
      obtain rfl : n = r := by omega
      exact ⟨hfinite, hreal, hleast, hgreatest⟩
    · rintro ⟨hfinite, hreal, hleast, hgreatest⟩
      exact ⟨hfinite, hleast, hgreatest, r, hreal, .inl rfl⟩
  · intro e
    rw [rating_eq_error_iff]
    refine and_congr_left fun _ => ?_
    simp only [ne_eq, rating_eq_ok_iff]
    rw [Option.eq_none_iff_forall_ne_some]

theorem rating_outcome_five :
    let scale : OrdinalScale := ⟨1, 5⟩
    Int64.minValue.toInt < scale.least ∧ scale.greatest < Int64.maxValue.toInt ∧
      scale.rating (.ofInt 4) "Q1_1" 0 = .ok 4 ∧
      scale.rating (.ofInt 6) "Q1_1" 0 = .error (.offScale (.ofInt 6) "Q1_1" 0 scale) := by
  have hlow : Int64.minValue.toInt < 1 := by decide
  have hhigh : (5 : ℤ) < Int64.maxValue.toInt := by decide
  have hreal : ∀ n : ℤ, n.natAbs ≤ 2 ^ 53 → (Binary64.ofInt n).isFinite = true ∧
      (Binary64.ofInt n).toReal = n := fun n hn =>
    Binary64.toInt?_eq_some_iff.mp (Binary64.toInt?_ofInt hn)
  obtain ⟨hfour, hfour'⟩ := hreal 4 (by decide)
  obtain ⟨-, hsix⟩ := hreal 6 (by decide)
  obtain ⟨-, hinside, -⟩ :=
    rating_outcome ⟨1, 5⟩ hlow.le hhigh.le (.ofInt 4) "Q1_1" 0
  obtain ⟨-, hoff, hfault⟩ :=
    rating_outcome ⟨1, 5⟩ hlow.le hhigh.le (.ofInt 6) "Q1_1" 0
  refine ⟨hlow, hhigh, (hinside hlow hhigh 4).mpr ⟨hfour, hfour', by decide, by decide⟩, ?_⟩
  refine (hfault _).mpr ⟨fun r hr => ?_, rfl⟩
  obtain ⟨-, hr, -, hle⟩ := (hoff hlow hhigh r).mp hr
  have hsix : r = 6 := by
    rw [hsix] at hr
    exact_mod_cast hr.symm
  rw [hsix] at hle
  exact absurd hle (by decide)

/-- A number that is not on the scale is a rating of it: `2 ^ 63`, where `2 ^ 63 - 1` is the last
rating. -/
theorem rating_beyond_words :
    let scale : OrdinalScale := ⟨1, 2 ^ 63 - 1⟩
    let value : Binary64 := ⟨0x43E0000000000000⟩
    value.toReal = (2 ^ 63 : ℤ) ∧ scale.contains (2 ^ 63) = false ∧
      scale.rating value "Q1_1" 0 = .ok (2 ^ 63 - 1) ∧ value.toReal ≠ (2 ^ 63 - 1 : ℤ) := by
  have hreal : (⟨0x43E0000000000000⟩ : Binary64).toReal = (2 ^ 63 : ℤ) :=
    (Binary64.toInt?_eq_some_iff.mp (by decide)).2
  refine ⟨hreal, by decide, ?_, ?_⟩
  · rw [rating_eq_ok_iff]
    decide
  · rw [hreal]
    exact_mod_cast (by decide : (2 ^ 63 : ℤ) ≠ 2 ^ 63 - 1)

end OrdinalScale

end InterRater
