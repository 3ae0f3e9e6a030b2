import InterRater.Proofs.Rating.Agreement
import InterRater.Proofs.Rating.Scale
import InterRater.Proofs.Rating.Summary

/-!
# What the statistics of an item account for

The statistics of a list of ratings are found in two ways: the counts and the mode from the values
of the scale, the extremes and the moments from the ratings themselves.  Both see every rating.  The
distribution has each value of the scale once and counts the ratings that have it, so that a sum
over the ratings is a sum over the distribution, and the extremes of the ratings are the first and
the last value with a count (`RatingSummary.accounts_ofRatings`,
`RatingSummary.balances_ofRatings`).

`RatingSummary.describe_outcome` says this of every list that has statistics, and which lists have
none.
-/

namespace InterRater

namespace RatingSummary

/-! ### The law -/

/-- What is wrong with a list of ratings: there are none, or one is off the scale and none before it
is. -/
inductive FirstProblem (label : String) (ratings : List ℤ) (scale : OrdinalScale) :
    AnalysisError → Prop
  | empty (hempty : ratings = []) : FirstProblem label ratings scale (.tooFew .ratings 0)
  | offScale {rater : ℕ} {rating : ℤ} (hrating : ratings[rater]? = some rating)
      (hoff : scale.contains rating = false)
      (hbefore : ∀ i < rater, ∀ r, ratings[i]? = some r → scale.contains r = true) :
      FirstProblem label ratings scale (.offScale (.ofInt rating) label rater scale)

/-- The counts account for the ratings, value by value. -/
structure Accounts {α : Type} (ratings : List ℤ) (scale : OrdinalScale)
    (summary : RatingSummary α) : Prop where
  count : summary.count = ratings.length
  /-- The distribution has no value twice, and the values are in ascending order. -/
  ascending : summary.distribution.Pairwise fun s t => s.value < t.value
  /-- The values are those of the scale. -/
  values : ∀ v, v ∈ summary.distribution.map (·.value) ↔ scale.least ≤ v ∧ v ≤ scale.greatest
  counts : ∀ s ∈ summary.distribution, s.count = ratings.count s.value
  total : (summary.distribution.map (·.count)).sum = summary.count
  /-- The mode is the smallest of the most frequent values, and it occurs. -/
  mode : ∃ s ∈ summary.distribution, s.value = summary.mode ∧ 1 ≤ s.count ∧
    ∀ t ∈ summary.distribution, t.count ≤ s.count ∧ (t.count = s.count → s.value ≤ t.value)
  /-- The first value with a count. -/
  min : ∃ s ∈ summary.distribution, s.value = summary.min ∧ s.count ≠ 0 ∧
    ∀ t ∈ summary.distribution, t.count ≠ 0 → s.value ≤ t.value
  /-- The last value with a count. -/
  max : ∃ s ∈ summary.distribution, s.value = summary.max ∧ s.count ≠ 0 ∧
    ∀ t ∈ summary.distribution, t.count ≠ 0 → t.value ≤ s.value

/-- The moments and percentages in exact arithmetic. -/
structure Balances (ratings : List ℤ) (summary : RatingSummary ℝ) : Prop where
  percentages : (summary.distribution.map (·.percentage)).sum = 100
  mean : summary.mean * summary.count
    = (summary.distribution.map fun s => (s.value : ℝ) * s.count).sum
  min_le_mean : (summary.min : ℝ) ≤ summary.mean
  mean_le_max : summary.mean ≤ summary.max
  stdDev : summary.stdDev = 0 ↔ ∀ x ∈ ratings, ∀ y ∈ ratings, x = y

/-- What becomes of a list of ratings. -/
structure Outcome (α : Type) [Scalar α] (label : String) (ratings : List ℤ)
    (scale : OrdinalScale) : Prop where
  fails : (∃ e, describe (α := α) label ratings scale = .error e) ↔
    ratings = [] ∨ ∃ rating ∈ ratings, scale.contains rating = false
  /-- The first rating off the scale is the one that is named. -/
  names : ∀ e, describe (α := α) label ratings scale = .error e ↔
    FirstProblem label ratings scale e
  accounts : ∀ summary, describe (α := α) label ratings scale = .ok summary →
    Accounts ratings scale summary

/-! ### Failure -/

section Failure

variable {α : Type} [Scalar α] {label : String} {ratings : List ℤ} {scale : OrdinalScale}

theorem describe_eq_error_iff {e : AnalysisError} :
    describe (α := α) label ratings scale = .error e ↔ FirstProblem label ratings scale e := by
  unfold describe
  split_ifs with hempty
  · -- Without ratings none is off the scale.
    rw [List.isEmpty_iff] at hempty
    constructor
    · intro h
      cases h
      exact .empty hempty
    · intro h
      cases h with
      | empty => rfl
      | offScale hrating =>
        rw [hempty] at hrating
        cases hrating
  · rw [List.isEmpty_iff] at hempty
    have hfault : fault? label ratings scale = some e ↔ FirstProblem label ratings scale e := by
      rw [fault?_eq_some_iff]
      constructor
      · rintro ⟨rater, rating, hrating, ⟨hoff, rfl⟩, hbefore⟩
        exact .offScale hrating hoff hbefore
      · intro h
        cases h with
        | empty h => exact absurd h hempty
        | offScale hrating hoff hbefore => exact ⟨_, _, hrating, ⟨hoff, rfl⟩, hbefore⟩
    rw [← hfault]
    cases fault? label ratings scale <;> simp

/-- The ratings of a list that has statistics are on the scale, and there are some. -/
theorem describe_eq_ok_iff {summary : RatingSummary α} :
    describe label ratings scale = .ok summary ↔ (ratings ≠ [] ∧
      ∀ rating ∈ ratings, scale.contains rating = true) ∧ summary = ofRatings ratings scale := by
  unfold describe
  split_ifs with hempty
  · rw [List.isEmpty_iff] at hempty
    simp [hempty]
  · rw [List.isEmpty_iff] at hempty
    have hfault : fault? label ratings scale = none ↔ ∀ rating ∈ ratings,
        scale.contains rating = true := fault?_eq_none_iff
    rw [and_iff_right hempty, ← hfault]
    cases fault? label ratings scale <;> simp [eq_comm]

theorem exists_error_iff : (∃ e, describe (α := α) label ratings scale = .error e) ↔
    ratings = [] ∨ ∃ rating ∈ ratings, scale.contains rating = false := by
  cases h : describe (α := α) label ratings scale with
  | ok summary =>
    obtain ⟨⟨hne, hscale⟩, -⟩ := describe_eq_ok_iff.mp h
    refine iff_of_false nofun ?_
    rintro (hempty | ⟨rating, hrating, hoff⟩)
    · exact hne hempty
    · rw [hscale rating hrating] at hoff
      cases hoff
  | error e =>
    refine iff_of_true ⟨e, rfl⟩ ?_
    cases describe_eq_error_iff.mp h with
    | empty hempty => exact .inl hempty
    | offScale hrating hoff => exact .inr ⟨_, List.mem_of_getElem? hrating, hoff⟩

end Failure

/-! ### The distribution -/

section Distribution

variable {α : Type} [Scalar α] {ratings : List ℤ} {scale : OrdinalScale}

theorem map_value_shares : (shares (α := α) ratings scale).map (·.value) = scale.ratings := by
  simp [shares, Function.comp_def]

theorem map_count_shares :
    (shares (α := α) ratings scale).map (·.count) = scale.ratings.map ratings.count := by
  simp [shares, Function.comp_def]

theorem pairwise_shares :
    (shares (α := α) ratings scale).Pairwise fun s t => s.value < t.value := by
  rw [← List.pairwise_map (f := ValueShare.value) (R := (· < ·)), map_value_shares]
  exact scale.pairwise_ratings

theorem count_of_mem_shares {s : ValueShare α} (h : s ∈ shares ratings scale) :
    s.count = ratings.count s.value := by
  obtain ⟨value, -, rfl⟩ := List.mem_map.mp h
  rfl

/-- A rating on the scale is counted. -/
theorem exists_share (ratings : List ℤ) {rating : ℤ} (h : scale.contains rating = true) :
    ∃ s ∈ shares (α := α) ratings scale, s.value = rating ∧ s.count = ratings.count rating :=
  ⟨_, List.mem_map_of_mem (OrdinalScale.mem_ratings_iff.mpr h), rfl, rfl⟩

/-- The values that are counted are the ratings. -/
theorem count_ne_zero_iff {s : ValueShare α} (h : s ∈ shares ratings scale) :
    s.count ≠ 0 ↔ s.value ∈ ratings := by
  rw [count_of_mem_shares h, Ne, List.count_eq_zero, not_not]

/-- A sum over the ratings is a sum over the scale. -/
theorem sum_map_ratings {M : Type*} [Semiring M]
    (hscale : ∀ rating ∈ ratings, scale.contains rating = true) (f : ℤ → M) :
    (ratings.map f).sum = (scale.ratings.map fun v => (ratings.count v : M) * f v).sum := by
  apply Statistics.sum_map_eq_sum_count scale.nodup_ratings
  intro rating hrating
  exact OrdinalScale.mem_ratings_iff.mpr (hscale rating hrating)

theorem sum_count_shares (hscale : ∀ rating ∈ ratings, scale.contains rating = true) :
    ((shares (α := α) ratings scale).map (·.count)).sum = ratings.length := by
  have hsum := sum_map_ratings hscale fun _ => 1
  simp only [List.map_const', List.sum_replicate, smul_eq_mul, mul_one, Nat.cast_id] at hsum
  rw [map_count_shares, hsum]

/-- **The counts** of ratings on the scale account for all of them. -/
theorem accounts_ofRatings (hne : ratings ≠ [])
    (hscale : ∀ rating ∈ ratings, scale.contains rating = true) :
    Accounts ratings scale (ofRatings (α := α) ratings scale) := by
  obtain ⟨low, high, hmin, hmax⟩ := ItemAgreement.exists_extremes hne
  obtain ⟨hlow, hlowest⟩ := List.min?_eq_some_iff.mp hmin
  obtain ⟨hhigh, hhighest⟩ := List.max?_eq_some_iff.mp hmax
  -- The share of a rating, whose count is not 0.
  have hshare : ∀ rating ∈ ratings, ∃ s ∈ shares (α := α) ratings scale,
      s.value = rating ∧ s.count ≠ 0 := by
    intro rating hrating
    obtain ⟨s, hs, hvalue, -⟩ := exists_share (α := α) ratings (hscale rating hrating)
    exact ⟨s, hs, hvalue, (count_ne_zero_iff hs).mpr (hvalue ▸ hrating)⟩
  constructor
  case count => rfl
  case ascending => exact pairwise_shares
  case values =>
    intro v
    show v ∈ (shares ratings scale).map (·.value) ↔ _
    rw [map_value_shares, OrdinalScale.mem_ratings_iff, OrdinalScale.contains_iff]
  case counts => exact fun s hs => count_of_mem_shares hs
  case total => exact sum_count_shares hscale
  case mode =>
    obtain ⟨s, hs, -, hcount⟩ := hshare low hlow
    obtain ⟨s, hs, hmode, hpos, hgreatest⟩ := modeOf_eq_first scale.least
      (pairwise_shares (α := α)) ⟨s, hs, Nat.pos_of_ne_zero hcount⟩
    exact ⟨s, hs, congrArg Prod.fst hmode.symm, hpos, hgreatest⟩
  case min =>
    have hvalue : (ofRatings (α := α) ratings scale).min = low := by
      show ratings.min?.getD scale.least = low
      rw [hmin, Option.getD_some]
    obtain ⟨s, hs, rfl, hcount⟩ := hshare low hlow
    refine ⟨s, hs, hvalue.symm, hcount, ?_⟩
    intro t ht htcount
    exact hlowest _ ((count_ne_zero_iff ht).mp htcount)
  case max =>
    have hvalue : (ofRatings (α := α) ratings scale).max = high := by
      show ratings.max?.getD scale.greatest = high
      rw [hmax, Option.getD_some]
    obtain ⟨s, hs, rfl, hcount⟩ := hshare high hhigh
    refine ⟨s, hs, hvalue.symm, hcount, ?_⟩
    intro t ht htcount
    exact hhighest _ ((count_ne_zero_iff ht).mp htcount)

end Distribution

/-! ### Moments in exact arithmetic -/

section Exact

variable {ratings : List ℤ} {scale : OrdinalScale}

theorem map_percentage_shares : (shares (α := ℝ) ratings scale).map (·.percentage)
    = ((shares (α := ℝ) ratings scale).map (·.count)).map fun count =>
        percentage count ratings.length := by
  simp [shares, Function.comp_def]

/-- **The moments** of ratings on the scale are those of their distribution. -/
theorem balances_ofRatings (hne : ratings ≠ [])
    (hscale : ∀ rating ∈ ratings, scale.contains rating = true) :
    Balances ratings (ofRatings (α := ℝ) ratings scale) := by
  obtain ⟨low, high, hmin, hmax⟩ := ItemAgreement.exists_extremes hne
  have hvalues : ratings.map (fun n : ℤ => (n : ℝ)) ≠ [] := mt List.map_eq_nil_iff.mp hne
  constructor
  case percentages =>
    show ((shares ratings scale).map (·.percentage)).sum = 100
    rw [map_percentage_shares]
    exact sum_percentage (mt List.length_eq_zero_iff.mp hne) (sum_count_shares hscale)
  case mean =>
    have hdistribution : (shares (α := ℝ) ratings scale).map (fun s => (s.value : ℝ) * s.count)
        = scale.ratings.map fun v => (ratings.count v : ℝ) * v := by
      simp [shares, Function.comp_def, mul_comm]
    show Statistics.mean (ratings.map fun n : ℤ => (n : ℝ)) * ratings.length
      = ((shares ratings scale).map fun s => (s.value : ℝ) * s.count).sum
    rw [hdistribution, ← sum_map_ratings hscale, Statistics.mean_eq, List.length_map,
      div_mul_cancel₀ _ (Statistics.cast_length_pos hne).ne']
  case min_le_mean =>
    show ((ratings.min?.getD scale.least : ℤ) : ℝ) ≤ Statistics.mean _
    rw [hmin, Option.getD_some]
    apply Statistics.le_mean hvalues
    intro x hx
    obtain ⟨rating, hrating, rfl⟩ := List.mem_map.mp hx
    exact Int.cast_le.mpr ((List.min?_eq_some_iff.mp hmin).2 rating hrating)
  case mean_le_max =>
    show Statistics.mean _ ≤ ((ratings.max?.getD scale.greatest : ℤ) : ℝ)
    rw [hmax, Option.getD_some]
    apply Statistics.mean_le hvalues
    intro x hx
    obtain ⟨rating, hrating, rfl⟩ := List.mem_map.mp hx
    exact Int.cast_le.mpr ((List.max?_eq_some_iff.mp hmax).2 rating hrating)
  case stdDev =>
    show Statistics.sampleDeviation (ratings.map fun n : ℤ => (n : ℝ)) = 0 ↔ _
    rw [Statistics.sampleDeviation_eq_zero_iff]
    simp only [List.forall_mem_map, Int.cast_inj]

end Exact

/-! ### Every list of ratings -/

/-- **The statistics of a list of ratings** are missing exactly if there are no ratings or one is
off the scale, and the first such one is named.  Else the distribution, the mode and the extremes
account for all ratings, and in exact arithmetic so do the percentages, the mean and the
deviation. -/
theorem describe_outcome (label : String) (ratings : List ℤ) (scale : OrdinalScale) :
    (∀ (α : Type) [Scalar α], Outcome α label ratings scale) ∧
    ∀ summary : RatingSummary ℝ, describe label ratings scale = .ok summary →
      Balances ratings summary := by
  constructor
  · intro α _
    constructor
    case fails => exact exists_error_iff
    case names => exact fun e => describe_eq_error_iff
    case accounts =>
      intro summary h
      obtain ⟨⟨hne, hscale⟩, rfl⟩ := describe_eq_ok_iff.mp h
      exact accounts_ofRatings hne hscale
  · intro summary h
    obtain ⟨⟨hne, hscale⟩, rfl⟩ := describe_eq_ok_iff.mp h
    exact balances_ofRatings hne hscale

/-- Of two values that occur twice the smaller one is the mode, and the second rating of another
list is off the scale. -/
theorem describe_outcome_tied :
    (∃ summary : RatingSummary ℝ, describe "Q1_2" [5, 2, 5, 2, 3] ⟨1, 5⟩ = .ok summary ∧
      Accounts [5, 2, 5, 2, 3] ⟨1, 5⟩ summary ∧ summary.mode = 2 ∧ summary.mean * 5 = 17) ∧
    describe (α := ℝ) "Q1_3" [3, 6, 0] ⟨1, 5⟩ = .error (.offScale (.ofInt 6) "Q1_3" 1 ⟨1, 5⟩) := by
  constructor
  · obtain ⟨houtcome, hexact⟩ := describe_outcome "Q1_2" [5, 2, 5, 2, 3] ⟨1, 5⟩
    have hok : describe (α := ℝ) "Q1_2" [5, 2, 5, 2, 3] ⟨1, 5⟩
        = .ok (ofRatings [5, 2, 5, 2, 3] ⟨1, 5⟩) :=
      describe_of_contains "Q1_2" (by decide) (by decide)
    have hscale : OrdinalScale.ratings ⟨1, 5⟩ = [1, 2, 3, 4, 5] := by decide
    have hsum : ((shares (α := ℝ) [5, 2, 5, 2, 3] ⟨1, 5⟩).map
        fun s => (s.value : ℝ) * s.count).sum = 17 := by
      simp only [shares, hscale, List.map_cons, List.map_nil, List.sum_cons, List.sum_nil]
      norm_num
    exact ⟨_, hok, (houtcome ℝ).accounts _ hok, rfl, (hexact _ hok).mean.trans hsum⟩
  · obtain ⟨houtcome, -⟩ := describe_outcome "Q1_3" [3, 6, 0] ⟨1, 5⟩
    rw [(houtcome ℝ).names]
    refine .offScale rfl (by decide) ?_
    intro i hi r hr
    obtain rfl : i = 0 := by omega
    cases hr
    decide

end RatingSummary

end InterRater
