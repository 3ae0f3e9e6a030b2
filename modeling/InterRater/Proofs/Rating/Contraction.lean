import InterRater.Proofs.Rating.Coherence
import InterRater.Proofs.Rating.RaterOrder
import InterRater.Proofs.Rating.WordRange

/-!
# Ratings that move closer together

When ratings move so that no two of them get further apart, no part of the agreement on the item
drops (`noLower_of_closer`): clamping, shifting, turning the scale over and merging neighbouring
ratings are such moves.  The variance is a sum over pairs of ratings, the range is the distance of
one pair, and ratings that were equal stay equal, so that the most frequent one gains.  A move that
keeps all distances keeps the variance, the range and the counts, and so the whole agreement
(`score_congr`).

With a range in words of 64 bits the second law holds as it stands (`wordScore_congr`), and the
first one where the range fits (`contracts_wordScore_iff`).  Ratings that are further apart count as
more than full agreement, which they lose when they are merged.
-/

namespace InterRater

namespace ItemAgreement

/-! ### The law -/

/-- No part of the second agreement is lower than that of the first. -/
structure NoLower (first second : ItemAgreement ℝ) : Prop where
  variance : first.varianceAgreement ≤ second.varianceAgreement
  range : first.rangeAgreement ≤ second.rangeAgreement
  mode : first.modeAgreement ≤ second.modeAgreement
  raw : first.rawComposite ≤ second.rawComposite
  composite : first.composite ≤ second.composite
  /-- Levels are counted from the best. -/
  level : second.level.place ≤ first.level.place

/-- No map that takes none of the ratings further apart lowers their agreement. -/
def Contracts (agreement : List ℤ → ItemAgreement ℝ) (ratings : List ℤ) : Prop :=
  ∀ f : ℤ → ℤ, (∀ a ∈ ratings, ∀ b ∈ ratings, |f a - f b| ≤ |a - b|) →
    NoLower (agreement ratings) (agreement (ratings.map f))

/-- Shifting the ratings, turning them over and rearranging them change nothing. -/
structure Invariant (agreement : List ℤ → ItemAgreement ℝ) (ratings : List ℤ) : Prop where
  shift : ∀ c, agreement (ratings.map fun a => a + c) = agreement ratings
  reflection : ∀ c, agreement (ratings.map fun a => c - a) = agreement ratings
  perm : ∀ ratings' : List ℤ, ratings'.Perm ratings → agreement ratings' = agreement ratings

/-! ### Ratings before and after -/

section Moves

variable {β : Type*} {l : List β} {before after : β → ℤ}
  (hcloser : ∀ a ∈ l, ∀ b ∈ l, |after a - after b| ≤ |before a - before b|)
include hcloser

theorem populationVariance_le_of_closer :
    Statistics.populationVariance ((l.map after).map fun (n : ℤ) => (n : ℝ))
      ≤ Statistics.populationVariance ((l.map before).map fun (n : ℤ) => (n : ℝ)) := by
  simp only [Statistics.populationVariance_eq, List.map_map, List.length_map]
  gcongr
  apply Statistics.squaredDeviations_map_le
  intro a ha b hb
  simp only [Function.comp_apply]
  exact_mod_cast hcloser a ha b hb

theorem ratingRange_le_of_closer :
    ratingRange ℝ (l.map after) ≤ ratingRange ℝ (l.map before) := by
  rcases eq_or_ne l [] with rfl | hne
  · exact le_rfl
  have hafter : l.map after ≠ [] := by simpa using hne
  have hbefore : l.map before ≠ [] := by simpa using hne
  obtain ⟨low, hlow, high, hhigh, hrange, -⟩ := ratingRange_spec hafter
  obtain ⟨low', -, high', -, hrange', hbetween⟩ := ratingRange_spec hbefore
  obtain ⟨a, ha, rfl⟩ := List.mem_map.mp hlow
  obtain ⟨b, hb, rfl⟩ := List.mem_map.mp hhigh
  have hwithin : |before b - before a| ≤ high' - low' := by
    have hboth := hbetween _ (List.mem_map_of_mem ha)
    have hboth' := hbetween _ (List.mem_map_of_mem hb)
    rw [abs_sub_le_iff]
    omega
  calc ratingRange ℝ (l.map after) = after b - after a := hrange
    _ ≤ |after b - after a| := le_abs_self _
    _ ≤ |before b - before a| := hcloser b hb a ha
    _ ≤ high' - low' := hwithin
    _ = ratingRange ℝ (l.map before) := hrange'.symm

/-- Equal ratings stay equal, so that each of them still occurs as often. -/
theorem count_le_of_closer {a : β} (ha : a ∈ l) :
    (l.map before).count (before a) ≤ (l.map after).count (after a) := by
  rw [List.count, List.count, List.countP_map, List.countP_map]
  apply List.countP_mono_left
  intro b hb heq
  have hdistance := hcloser b hb a ha
  simp only [Function.comp_apply, beq_iff_eq] at heq ⊢
  rw [heq, sub_self, abs_zero, abs_nonpos_iff] at hdistance
  omega

theorem modeCount_le_of_closer : modeCount (l.map before) ≤ modeCount (l.map after) := by
  rcases eq_or_ne l [] with rfl | hne
  · exact le_rfl
  have hafter : l.map after ≠ [] := by simpa using hne
  have hbefore : l.map before ≠ [] := by simpa using hne
  obtain ⟨⟨x, hx, hcount⟩, -⟩ := modeCount_spec hbefore
  obtain ⟨-, hle⟩ := modeCount_spec hafter
  obtain ⟨a, ha, rfl⟩ := List.mem_map.mp hx
  rw [← hcount]
  exact (count_le_of_closer hcloser ha).trans (hle _ (List.mem_map_of_mem ha))

variable {config : Config ℝ} (hsound : config.Sound)
include hsound

/-- **Ratings that move closer together** lower no part of the agreement. -/
theorem noLower_of_closer :
    NoLower (score config (l.map before)) (score config (l.map after)) := by
  have hvariance : (score config (l.map before)).varianceAgreement
      ≤ (score config (l.map after)).varianceAgreement := by
    have hceiling := hsound.varianceCeiling_pos
    have hle := populationVariance_le_of_closer hcloser
    rw [varianceAgreement_eq, varianceAgreement_eq]
    gcongr
  have hrange : (score config (l.map before)).rangeAgreement
      ≤ (score config (l.map after)).rangeAgreement := by
    have hceiling := hsound.rangeCeiling_pos
    have hle := ratingRange_le_of_closer hcloser
    rw [rangeAgreement_eq, rangeAgreement_eq]
    gcongr
  have hmode : (score config (l.map before)).modeAgreement
      ≤ (score config (l.map after)).modeAgreement := by
    rcases eq_or_ne l [] with rfl | hne
    · exact le_rfl
    have hle := modeCount_le_of_closer hcloser
    rw [modeAgreement_eq config (by simpa using hne), modeAgreement_eq config (by simpa using hne),
      List.length_map, List.length_map]
    gcongr
  have hraw : (score config (l.map before)).rawComposite
      ≤ (score config (l.map after)).rawComposite := by
    rw [rawComposite_eq, rawComposite_eq]
    gcongr
  have hcomposite : (score config (l.map before)).composite
      ≤ (score config (l.map after)).composite := by
    have hfactor := hsound.compositeScaleFactor_pos
    rw [composite_eq, composite_eq]
    gcongr
  refine ⟨hvariance, hrange, hmode, hraw, hcomposite, ?_⟩
  rw [level_score, level_score]
  exact place_classify_le comparable_exact config trivial trivial (decide_eq_true hcomposite)

end Moves

/-! ### Moves that keep all distances -/

section Rigid

variable {β : Type*} {l : List β} {before after : β → ℤ}
  (hequal : ∀ a ∈ l, ∀ b ∈ l, |after a - after b| = |before a - before b|)
include hequal

theorem ratingRange_congr : ratingRange ℝ (l.map after) = ratingRange ℝ (l.map before) := by
  apply le_antisymm
  · exact ratingRange_le_of_closer fun a ha b hb => (hequal a ha b hb).le
  · exact ratingRange_le_of_closer fun a ha b hb => (hequal a ha b hb).ge

theorem ofRange_congr (config : Config ℝ) (range : ℤ) :
    ofRange config (l.map after) range = ofRange config (l.map before) range := by
  have hcloser : ∀ a ∈ l, ∀ b ∈ l, |after a - after b| ≤ |before a - before b| :=
    fun a ha b hb => (hequal a ha b hb).le
  have hfurther : ∀ a ∈ l, ∀ b ∈ l, |before a - before b| ≤ |after a - after b| :=
    fun a ha b hb => (hequal a ha b hb).ge
  have hvariance := le_antisymm (populationVariance_le_of_closer hcloser)
    (populationVariance_le_of_closer hfurther)
  have hmode := le_antisymm (modeCount_le_of_closer hfurther) (modeCount_le_of_closer hcloser)
  simp only [ofRange, hvariance, hmode, List.length_map]

theorem score_congr (config : Config ℝ) :
    score config (l.map after) = score config (l.map before) := by
  rw [score, score, ratingRange_congr hequal, ofRange_congr hequal]

/-- The residue of the range is kept with the range. -/
theorem wordScore_congr (config : Config ℝ) :
    wordScore config (l.map after) = wordScore config (l.map before) := by
  rw [wordScore, wordScore, ratingRange_word, ratingRange_word, ratingRange_congr hequal,
    ofRange_congr hequal]

end Rigid

/-- Shifts and reflections keep all distances. -/
theorem invariant_of_congr {agreement : List ℤ → ItemAgreement ℝ}
    (hmap : ∀ (l : List ℤ) (f : ℤ → ℤ), (∀ a ∈ l, ∀ b ∈ l, |f a - f b| = |a - b|) →
      agreement (l.map f) = agreement l)
    (hperm : ∀ l l' : List ℤ, l.Perm l' → agreement l = agreement l') (ratings : List ℤ) :
    Invariant agreement ratings := by
  constructor
  case shift =>
    intro c
    apply hmap
    intro a _ b _
    rw [add_sub_add_right_eq_sub]
  case reflection =>
    intro c
    apply hmap
    intro a _ b _
    rw [sub_sub_sub_cancel_left, abs_sub_comm]
  case perm =>
    intro ratings' h
    exact hperm ratings' ratings h

theorem invariant_score (config : Config ℝ) (ratings : List ℤ) :
    Invariant (score config) ratings := by
  apply invariant_of_congr
  · intro l f h
    have hmap : score config (l.map f) = score config (l.map id) := score_congr h config
    rwa [List.map_id] at hmap
  · intro l l' h
    exact score_perm config h

theorem invariant_wordScore (config : Config ℝ) (ratings : List ℤ) :
    Invariant (wordScore config) ratings := by
  apply invariant_of_congr
  · intro l f h
    have hmap : wordScore config (l.map f) = wordScore config (l.map id) := wordScore_congr h config
    rwa [List.map_id] at hmap
  · intro l l' h
    rw [wordScore, wordScore, ratingRange_perm Binary64 h, ofRange_perm config h]

/-! ### Every move -/

section Contractions

variable {config : Config ℝ} (hsound : config.Sound) {ratings : List ℤ}
include hsound

theorem contracts_score (ratings : List ℤ) : Contracts (score config) ratings := by
  intro f hf
  have hcloser : NoLower (score config (ratings.map id)) (score config (ratings.map f)) :=
    noLower_of_closer hf hsound
  rwa [List.map_id] at hcloser

/-- Merging all ratings ends in full agreement, so that no more than that can have been before. -/
theorem ratingRange_lt_of_noLower (hwords : AreWords ratings)
    (hmerged : NoLower (wordScore config ratings) (wordScore config (ratings.map fun _ => 0))) :
    ratingRange ℝ ratings < 2 ^ 63 := by
  have hequal : ∀ x ∈ ratings.map fun _ => 0, ∀ y ∈ ratings.map fun _ => (0 : ℤ), x = y := by simp
  rw [wordScore_of_unanimous config hequal] at hmerged
  rw [← rangeAgreement_wordScore_le_one_iff hsound hwords]
  exact hmerged.range.trans (rangeAgreement_le_one hsound _)

theorem contracts_wordScore_iff (hwords : AreWords ratings) :
    Contracts (wordScore config) ratings ↔ ratingRange ℝ ratings < 2 ^ 63 := by
  constructor
  · intro hcontracts
    exact ratingRange_lt_of_noLower hsound hwords (hcontracts (fun _ => 0) (by simp))
  · intro hfits f hf
    -- The range fits after the move as well.
    have hmoved : ratingRange ℝ (ratings.map f) ≤ ratingRange ℝ (ratings.map id) :=
      ratingRange_le_of_closer hf
    rw [List.map_id] at hmoved
    rw [wordScore_eq config hfits, wordScore_eq config (hmoved.trans_lt hfits)]
    exact contracts_score hsound ratings f hf

end Contractions

end ItemAgreement

end InterRater
