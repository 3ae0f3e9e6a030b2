import InterRater.Number.Binary64
import InterRater.Proofs.Rating.Agreement

/-!
# Ranges in words of 64 bits

The program takes the range of the ratings in words of 64 bits, as the balanced residue of the exact
one (`ratingRange_word`).  A range below `2 ^ 63` is its own residue.  Two words can be further
apart than that, and then the range comes out negative (`ratingRange_word_neg`): taken off 1, it
leaves an agreement by range above 1.

`wordScore` is the agreement with the range of the program and exact arithmetic for the rest.  It is
`score` where the range fits (`wordScore_eq`), and for words its agreement by range is at most 1
only there (`rangeAgreement_wordScore_le_one_iff`).
-/

namespace InterRater

theorem Binary64.wordSub_eq (a b : ℤ) : wordSub a b = (a - b).bmod (2 ^ 64) := by
  rw [wordSub, ← Int64.ofInt_sub]
  exact Int64.toInt_ofInt

namespace ItemAgreement

variable {ratings : List ℤ}

/-- The ratings are words of 64 bits. -/
def AreWords (ratings : List ℤ) : Prop :=
  ∀ x ∈ ratings, Int64.minValue.toInt ≤ x ∧ x ≤ Int64.maxValue.toInt

instance (ratings : List ℤ) : Decidable (AreWords ratings) :=
  List.decidableBAll _ ratings

/-! ### The range -/

theorem ratingRange_word (ratings : List ℤ) :
    ratingRange Binary64 ratings = (ratingRange ℝ ratings).bmod (2 ^ 64) :=
  Binary64.wordSub_eq _ _

theorem ratingRange_word_of_lt (h : ratingRange ℝ ratings < 2 ^ 63) :
    ratingRange Binary64 ratings = ratingRange ℝ ratings := by
  have hnonneg := ratingRange_nonneg ratings
  rw [ratingRange_word]
  apply Int.bmod_eq_of_le_mul_two
  · push_cast
    omega
  · push_cast
    omega

theorem ratingRange_word_neg (hwords : AreWords ratings)
    (hwide : 2 ^ 63 ≤ ratingRange ℝ ratings) : ratingRange Binary64 ratings < 0 := by
  have hne : ratings ≠ [] := by
    rintro rfl
    exact absurd hwide (by decide)
  obtain ⟨low, hlow, high, hhigh, hrange, -⟩ := ratingRange_spec hne
  -- Two words are less than `2 ^ 64` apart, so that the residue is below 0.
  have hleast : -2 ^ 63 ≤ low := (hwords low hlow).1
  have hgreatest : high ≤ 2 ^ 63 - 1 := (hwords high hhigh).2
  rw [ratingRange_word, Int.bmod_def]
  omega

/-! ### The agreement -/

/-- The agreement of a list of ratings whose range is taken in words of 64 bits.  The rest of the
arithmetic is exact. -/
noncomputable def wordScore (config : Config ℝ) (ratings : List ℤ) : ItemAgreement ℝ :=
  ofRange config ratings (ratingRange Binary64 ratings)

theorem wordScore_eq (config : Config ℝ) (h : ratingRange ℝ ratings < 2 ^ 63) :
    wordScore config ratings = score config ratings := by
  rw [wordScore, score, ratingRange_word_of_lt h]

theorem wordScore_of_unanimous (config : Config ℝ) (h : ∀ x ∈ ratings, ∀ y ∈ ratings, x = y) :
    wordScore config ratings = score config ratings := by
  apply wordScore_eq
  rw [ratingRange_eq_zero h]
  decide

theorem rangeAgreement_wordScore (config : Config ℝ) (ratings : List ℤ) :
    (wordScore config ratings).rangeAgreement
      = max (1 - (ratingRange Binary64 ratings : ℝ) / config.rangeCeiling) 0 := by
  apply rangeAgreement_ofRange
  intro hfew
  have hzero := ratingRange_eq_zero (unanimous_of_length_le_one hfew)
  rw [ratingRange_word, hzero, Int.zero_bmod]

/-- A range that does not fit counts as more than full agreement. -/
theorem rangeAgreement_wordScore_le_one_iff {config : Config ℝ} (h : config.Sound)
    (hwords : AreWords ratings) :
    (wordScore config ratings).rangeAgreement ≤ 1 ↔ ratingRange ℝ ratings < 2 ^ 63 := by
  constructor
  · intro hle
    by_contra hwide
    -- What is taken off 1 is negative.
    have hneg : (ratingRange Binary64 ratings : ℝ) < 0 := by
      exact_mod_cast ratingRange_word_neg hwords (not_lt.mp hwide)
    have hquotient := div_neg_of_neg_of_pos hneg h.rangeCeiling_pos
    rw [rangeAgreement_wordScore, max_le_iff] at hle
    linarith [hle.1]
  · intro hfits
    rw [wordScore_eq config hfits]
    exact rangeAgreement_le_one h ratings

end ItemAgreement

end InterRater
