import InterRater.Proofs.Rating.Numbers
import InterRater.Proofs.Statistics.Moments
import InterRater.Rating.Summary

/-!
# Statistics of the ratings of a scale

Ratings of a scale have statistics, unless there are none (`RatingSummary.describe_of_contains`);
else the first rating off the scale is at fault (`RatingSummary.fault?_eq_some_iff`).  The scan of
their distribution finds the greatest count (`RatingSummary.modeOf_spec`), and of several values
with it the first (`RatingSummary.modeOf_eq_first`).
-/

namespace InterRater

namespace OrdinalScale

theorem mem_ratings_iff {scale : OrdinalScale} {rating : ℤ} :
    rating ∈ scale.ratings ↔ scale.contains rating = true := by
  simp only [ratings, contains, List.mem_map, List.mem_range, Bool.and_eq_true, decide_eq_true_eq]
  constructor
  · rintro ⟨i, hi, rfl⟩
    omega
  · rintro ⟨hleast, hgreatest⟩
    exact ⟨(rating - scale.least).toNat, by omega, by omega⟩

theorem pairwise_ratings (scale : OrdinalScale) : scale.ratings.Pairwise (· < ·) := by
  unfold ratings
  rw [List.pairwise_map]
  apply List.pairwise_lt_range.imp
  intro i j hij
  omega

theorem nodup_ratings (scale : OrdinalScale) : scale.ratings.Nodup :=
  scale.pairwise_ratings.imp fun h => h.ne

end OrdinalScale

namespace RatingSummary

variable {α : Type} [Scalar α]

/-! ### Success -/

theorem fault?_eq (label : String) (ratings : List ℤ) (scale : OrdinalScale) :
    fault? label ratings scale = ratings.zipIdx.findSome? fun p => scale.offFault? p.1 label p.2 :=
  congrArg (List.findSome? · ratings.zipIdx) <| funext fun p => scale.fault_of_check p.1 label p.2

theorem fault?_eq_none_iff {label : String} {ratings : List ℤ} {scale : OrdinalScale} :
    fault? label ratings scale = none ↔ ∀ rating ∈ ratings, scale.contains rating = true := by
  simp only [fault?_eq, List.findSome?_eq_none_iff, OrdinalScale.offFault?_eq_none_iff]
  constructor
  · intro h rating hrating
    obtain ⟨rater, hrater, rfl⟩ := List.mem_iff_getElem.mp hrating
    apply h (ratings[rater], rater)
    rw [List.mk_mem_zipIdx_iff_getElem?]
    exact List.getElem?_eq_getElem hrater
  · intro h p hp
    exact h p.1 (List.fst_mem_of_mem_zipIdx hp)

/-- The fault of a list of ratings is that of the first one that is off the scale. -/
theorem fault?_eq_some_iff {label : String} {ratings : List ℤ} {scale : OrdinalScale}
    {e : AnalysisError} : fault? label ratings scale = some e ↔
      ∃ (rater : ℕ) (rating : ℤ), ratings[rater]? = some rating ∧
        (scale.contains rating = false ∧ e = .offScale (.ofInt rating) label rater scale) ∧
        ∀ i < rater, ∀ r, ratings[i]? = some r → scale.contains r = true := by
  rw [fault?_eq, Traversal.findSome?_zipIdx_eq_some_iff]
  simp only [OrdinalScale.offFault?_eq_some_iff, OrdinalScale.offFault?_eq_none_iff]

theorem describe_of_contains {ratings : List ℤ} {scale : OrdinalScale} (label : String)
    (hne : ratings ≠ []) (hscale : ∀ rating ∈ ratings, scale.contains rating = true) :
    describe label ratings scale = .ok (ofRatings (α := α) ratings scale) := by
  rw [describe, List.isEmpty_eq_false_iff.mpr hne, if_neg Bool.false_ne_true,
    fault?_eq_none_iff.mpr hscale]

/-! ### The sorted ratings -/

theorem length_sortedValues (ratings : List ℤ) :
    (sortedValues (α := α) ratings).length = ratings.length := by
  rw [sortedValues, List.length_map, List.length_mergeSort]

/-! ### The mode -/

omit [Scalar α] in
/-- A count that is not exceeded stays the best. -/
theorem foldl_best_of_le (shares : List (ValueShare α)) (best : ℤ × ℕ)
    (h : ∀ s ∈ shares, s.count ≤ best.2) :
    shares.foldl (fun best s => if best.2 < s.count then (s.value, s.count) else best) best
      = best := by
  induction shares with
  | nil => rfl
  | cons s shares ih =>
    obtain ⟨hs, hrest⟩ := List.forall_mem_cons.mp h
    rw [List.foldl_cons, if_neg (Nat.not_lt.mpr hs), ih hrest]

omit [Scalar α] in
/-- If a count exceeds the best so far, the scan stops at the first of the greatest counts. -/
theorem foldl_best_eq_first (shares : List (ValueShare α)) (best : ℤ × ℕ)
    (h : ∃ s ∈ shares, best.2 < s.count) :
    ∃ before s after, shares = before ++ s :: after ∧
      shares.foldl (fun best s => if best.2 < s.count then (s.value, s.count) else best) best
        = (s.value, s.count) ∧
      best.2 < s.count ∧ (∀ t ∈ before, t.count < s.count) ∧ ∀ t ∈ after, t.count ≤ s.count := by
  induction shares generalizing best with
  | nil => simp at h
  | cons u shares ih =>
    rw [List.foldl_cons]
    by_cases hu : best.2 < u.count
    · rw [if_pos hu]
      by_cases hrest : ∃ s ∈ shares, u.count < s.count
      · -- The new best is exceeded in its turn.
        obtain ⟨before, s, after, rfl, hscan, hlt, hbefore, hafter⟩ := ih (u.value, u.count) hrest
        refine ⟨u :: before, s, after, rfl, hscan, hu.trans hlt, ?_, hafter⟩
        exact List.forall_mem_cons.mpr ⟨hlt, hbefore⟩
      · have hle : ∀ s ∈ shares, s.count ≤ u.count := by
          intro s hs
          exact Nat.not_lt.mp fun hlt => hrest ⟨s, hs, hlt⟩
        exact ⟨[], u, shares, rfl, foldl_best_of_le shares (u.value, u.count) hle, hu, nofun, hle⟩
    · rw [if_neg hu]
      have hrest : ∃ s ∈ shares, best.2 < s.count := by
        obtain ⟨s, hs, hlt⟩ := h
        rcases List.mem_cons.mp hs with rfl | hs
        · exact absurd hlt hu
        · exact ⟨s, hs, hlt⟩
      obtain ⟨before, s, after, rfl, hscan, hlt, hbefore, hafter⟩ := ih best hrest
      refine ⟨u :: before, s, after, rfl, hscan, hlt, ?_, hafter⟩
      refine List.forall_mem_cons.mpr ⟨?_, hbefore⟩
      omega

omit [Scalar α] in
/-- The scan for the mode stops at a value of the distribution, or at the start with the count 0,
and no count is greater. -/
theorem modeOf_spec (start : ℤ) (shares : List (ValueShare α)) :
    modeOf start shares ∈ (start, 0) :: shares.map (fun s => (s.value, s.count)) ∧
      ∀ s ∈ shares, s.count ≤ (modeOf start shares).2 := by
  unfold modeOf
  by_cases h : ∃ s ∈ shares, 0 < s.count
  · obtain ⟨before, s, after, rfl, hscan, -, hbefore, hafter⟩ :=
      foldl_best_eq_first shares (start, 0) h
    rw [hscan]
    refine ⟨by simp, ?_⟩
    intro t ht
    rcases List.mem_append.mp ht with ht | ht
    · exact (hbefore t ht).le
    · rcases List.mem_cons.mp ht with rfl | ht
      · exact le_rfl
      · exact hafter t ht
  · have hle : ∀ s ∈ shares, s.count ≤ 0 := by
      intro s hs
      exact Nat.not_lt.mp fun hpos => h ⟨s, hs, hpos⟩
    rw [foldl_best_of_le shares (start, 0) hle]
    exact ⟨List.mem_cons_self, hle⟩

omit [Scalar α] in
/-- In a distribution in ascending order, the scan finds the smallest of the most frequent
values. -/
theorem modeOf_eq_first (start : ℤ) {shares : List (ValueShare α)}
    (hascending : shares.Pairwise fun s t => s.value < t.value) (h : ∃ s ∈ shares, 0 < s.count) :
    ∃ s ∈ shares, modeOf start shares = (s.value, s.count) ∧ 1 ≤ s.count ∧
      ∀ t ∈ shares, t.count ≤ s.count ∧ (t.count = s.count → s.value ≤ t.value) := by
  obtain ⟨before, s, after, rfl, hscan, hpos, hbefore, hafter⟩ :=
    foldl_best_eq_first shares (start, 0) h
  refine ⟨s, by simp, hscan, hpos, ?_⟩
  obtain ⟨-, hfrom, -⟩ := List.pairwise_append.mp hascending
  have hbehind := (List.pairwise_cons.mp hfrom).1
  intro t ht
  rcases List.mem_append.mp ht with ht | ht
  · have hlt := hbefore t ht
    exact ⟨hlt.le, fun heq => absurd heq hlt.ne⟩
  · rcases List.mem_cons.mp ht with rfl | ht
    · exact ⟨le_rfl, fun _ => le_rfl⟩
    · exact ⟨hafter t ht, fun _ => (hbehind t ht).le⟩

/-! ### Percentages -/

/-- The percentages of counts that add up to the total add up to 100. -/
theorem sum_percentage {counts : List ℕ} {total : ℕ} (htotal : total ≠ 0)
    (hsum : counts.sum = total) :
    (counts.map fun count => percentage (α := ℝ) count total).sum = 100 := by
  -- A percentage is a count times a factor that all of them share.
  have hfactor : ∀ count : ℕ, percentage (α := ℝ) count total = (count : ℝ) * (100 / total) := by
    intro count
    show (count : ℝ) / total * ((100 : ℕ) : ℝ) = _
    rw [Nat.cast_ofNat, div_mul_eq_mul_div, mul_div_assoc]
  have hne : (total : ℝ) ≠ 0 := Nat.cast_ne_zero.mpr htotal
  simp only [hfactor]
  rw [List.sum_map_mul_right, ← Nat.cast_list_sum, hsum, mul_div_cancel₀ _ hne]

end RatingSummary

end InterRater
