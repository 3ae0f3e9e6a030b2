import InterRater.Proofs.Order.Reorder
import InterRater.Proofs.Rating.Reliability

/-!
# The order of the raters

The report on a matrix does not depend on the order of its rows
(`ReliabilityReport.exists_report_reorderRaters`).  Two matrices with the rows of one in different
orders have the same items, with the ratings of each item in different orders.  The statistics and
the agreement of an item are functions of the ratings that do not see their order, and all else in
the report is computed from these and from alpha.  Alpha counts the values of each item, so that it
is the same even in rounded arithmetic (`Alpha.ofUnits_forall₂_perm`).
-/

namespace InterRater

/-! ### Statistics and agreement of an item -/

namespace RatingSummary

variable {α : Type} [Scalar α] {ratings ratings' : List ℤ}

theorem sortedValues_perm (h : ratings.Perm ratings') :
    (sortedValues ratings : List α) = sortedValues ratings' := by
  rw [sortedValues, Sorting.mergeSort_congr h, sortedValues]

theorem shares_perm (h : ratings.Perm ratings') (scale : OrdinalScale) :
    (shares ratings scale : List (ValueShare α)) = shares ratings' scale := by
  rw [shares, shares, h.length_eq]
  exact List.map_congr_left fun value _ => by rw [h.count_eq]

theorem ofRatings_perm (h : ratings.Perm ratings') (scale : OrdinalScale) :
    ofRatings (α := ℝ) ratings scale = ofRatings ratings' scale := by
  have hvalues := h.map fun (n : ℤ) => (n : ℝ)
  have hsorted : sortedValues ratings = (sortedValues ratings' : List ℝ) := sortedValues_perm h
  have hshares : shares ratings scale = (shares ratings' scale : List (ValueShare ℝ)) :=
    shares_perm h scale
  simp only [ofRatings, Statistics.mean_perm hvalues, Statistics.sampleDeviation_perm hvalues,
    hsorted, hshares, Sorting.min?_congr h, Sorting.max?_congr h, h.length_eq]

end RatingSummary

namespace ItemAgreement

variable {ratings ratings' : List ℤ}

theorem ratingRange_perm (α : Type) [Scalar α] (h : ratings.Perm ratings') :
    ratingRange α ratings = ratingRange α ratings' := by
  rw [ratingRange, ratingRange, Sorting.min?_congr h, Sorting.max?_congr h]

theorem modeCount_perm (h : ratings.Perm ratings') : modeCount ratings = modeCount ratings' := by
  have hcount : ratings.count = ratings'.count := funext fun value => h.count_eq value
  rw [modeCount, modeCount, hcount, Sorting.max?_congr (h.map _)]

theorem ofRange_perm (config : Config ℝ) (h : ratings.Perm ratings') (range : ℤ) :
    ofRange config ratings range = ofRange config ratings' range := by
  have hvalues := h.map fun (n : ℤ) => (n : ℝ)
  simp only [ofRange, Statistics.populationVariance_perm hvalues, modeCount_perm h, h.length_eq]

theorem score_perm (config : Config ℝ) (h : ratings.Perm ratings') :
    score config ratings = score config ratings' := by
  rw [score, score, ratingRange_perm ℝ h, ofRange_perm config h]

end ItemAgreement

/-! ### Alpha -/

namespace Alpha

variable {α : Type} [Scalar α] {units units' : List (List ℤ)}

theorem flatten_perm (h : List.Forall₂ List.Perm units units') :
    units.flatten.Perm units'.flatten := by
  induction h with
  | nil => exact List.Perm.refl _
  | cons hunit _ ih => exact hunit.append ih

theorem domain_perm (h : units.flatten.Perm units'.flatten) : domain units = domain units' := by
  rw [domain, Sorting.mergeSort_congr h, domain]

theorem contains_perm {unit unit' : List ℤ} (h : unit.Perm unit') (c : ℤ) :
    unit.contains c = unit'.contains c := by
  rw [Bool.eq_iff_iff, List.contains_iff_mem, List.contains_iff_mem, h.mem_iff]

theorem contribution_perm {unit unit' : List ℤ} (h : unit.Perm unit') (c k : ℤ) :
    (contribution unit c k : α) = contribution unit' c k := by
  simp only [contribution, h.count_eq, h.length_eq]

theorem unitsWith_forall₂_perm (h : List.Forall₂ List.Perm units units') (c : ℤ) :
    List.Forall₂ List.Perm (unitsWith units c) (unitsWith units' c) := by
  induction h with
  | nil => exact List.Forall₂.nil
  | @cons unit unit' _ _ hunit _ ih =>
    rw [unitsWith, unitsWith, List.filter_cons, List.filter_cons, hunit.length_eq,
      contains_perm hunit]
    split
    · exact List.Forall₂.cons hunit ih
    · exact ih

theorem coincidence_forall₂_perm (h : List.Forall₂ List.Perm units units') (c k : ℤ) :
    (coincidence units c k : α) = coincidence units' c k := by
  rw [coincidence, coincidence]
  generalize (0 : α) = total
  induction h generalizing total with
  | nil => rfl
  | cons hunit _ ih =>
    rw [List.foldl_cons, List.foldl_cons, contains_perm hunit, contribution_perm hunit, ih]

/-- Alpha counts the values of an item, and does not see their order. -/
theorem ofUnits_forall₂_perm (h : List.Forall₂ List.Perm units units') :
    (ofUnits units : Option α) = ofUnits units' := by
  have htable : (table units : List (Row α)) = table units' := by
    rw [table, table, domain_perm (flatten_perm h)]
    simp only [fun c k => coincidence_forall₂_perm (α := α) (unitsWith_forall₂_perm h c) c k]
  rw [ofUnits, ofUnits, domain_perm (flatten_perm h), htable]

end Alpha

/-! ### Matrices with the raters in another order -/

/-- The item with the ratings in another order. -/
def RatingItem.reorder (order : List ℕ) (item : RatingItem) : RatingItem :=
  { item with ratings := InterRater.reorder order item.ratings }

namespace RatingMatrix

/-- The matrix of the given rows. -/
def reorderRaters (order : List ℕ) (m : RatingMatrix) : RatingMatrix where
  labels := m.labels
  rows := reorder order m.rows
  scale := m.scale
  width_eq := fun row hrow => m.width_eq row (mem_of_mem_reorder hrow)
  contains := fun row hrow => m.contains row (mem_of_mem_reorder hrow)

variable {m : RatingMatrix} {order : List ℕ}

theorem raterCount_reorderRaters (h : order.Perm (List.range m.raterCount)) :
    (m.reorderRaters order).raterCount = m.raterCount :=
  (reorder_perm h).length_eq

theorem column_eq_map {index : ℕ} (h : index < m.itemCount) :
    m.column index = m.rows.map fun row => row.getD index 0 := by
  rw [column, ← List.filterMap_eq_map]
  refine List.filterMap_congr fun row hrow => ?_
  have hlt : index < row.length := (m.width_eq row hrow).symm ▸ h
  simp [List.getD_eq_getElem?_getD, List.getElem?_eq_getElem hlt]

theorem column_reorderRaters (order : List ℕ) {index : ℕ} (h : index < m.itemCount) :
    (m.reorderRaters order).column index = reorder order (m.column index) := by
  rw [column_eq_map h, column_eq_map (m := m.reorderRaters order) h, reorder_map]
  rfl

theorem items_reorderRaters (order : List ℕ) (m : RatingMatrix) :
    (m.reorderRaters order).items = m.items.map (RatingItem.reorder order) := by
  rw [items, items, List.map_map]
  refine List.map_congr_left ?_
  rintro ⟨label, index⟩ hentry
  have hlt : index < m.itemCount := List.snd_lt_of_mem_zipIdx hentry
  simp only [column_reorderRaters order hlt]
  rfl

theorem ratings_reorder_perm (h : order.Perm (List.range m.raterCount)) {item : RatingItem}
    (hitem : item ∈ m.items) : (item.reorder order).ratings.Perm item.ratings :=
  reorder_perm ((length_ratings hitem).symm ▸ h)

theorem ordinalAlpha_reorderRaters {α : Type} [Scalar α]
    (h : order.Perm (List.range m.raterCount)) :
    ((m.reorderRaters order).ordinalAlpha : Option α) = m.ordinalAlpha := by
  refine Alpha.ofUnits_forall₂_perm ?_
  rw [items_reorderRaters, List.map_map, List.forall₂_map_left_iff, List.forall₂_map_right_iff,
    List.forall₂_same]
  exact fun item hitem => ratings_reorder_perm h hitem

end RatingMatrix

/-! ### The report -/

/-- The diagnostics with the ratings of the item in another order. -/
def ItemDiagnostics.reorder {α : Type} (order : List ℕ) (d : ItemDiagnostics α) :
    ItemDiagnostics α :=
  { d with item := d.item.reorder order }

namespace ReliabilityReport

/-- The report with the ratings of each item in another order. -/
def reorderRatings {α : Type} (order : List ℕ) (report : ReliabilityReport α) :
    ReliabilityReport α :=
  { report with items := report.items.map (ItemDiagnostics.reorder order) }

section Summaries

variable {α : Type} [Scalar α] (order : List ℕ) (items : List (ItemDiagnostics α))

theorem rank_reorder : rank (items.map (ItemDiagnostics.reorder order)) = rank items := by
  -- The sort compares the composites, which are the same.
  have hsort := List.map_mergeSort (f := ItemDiagnostics.reorder order) (l := items)
    (r := fun a b => Scalar.precedes b.agreement.composite a.agreement.composite)
    (s := fun a b => Scalar.precedes b.agreement.composite a.agreement.composite)
    fun _ _ _ _ => rfl
  rw [rank, ← hsort, List.zipIdx_map, List.map_map]
  rfl

theorem countBands_reorder :
    countBands (items.map (ItemDiagnostics.reorder order)) = countBands items := by
  simp only [countBands, List.countP_map, List.isEmpty_map, List.length_map]
  rfl

theorem spreadOf_reorder :
    spreadOf (items.map (ItemDiagnostics.reorder order)) = spreadOf items := by
  simp only [spreadOf, List.map_map]
  rfl

end Summaries

variable {m : RatingMatrix} {config : Config ℝ} {order : List ℕ}

theorem diagnosis_reorder (h : order.Perm (List.range m.raterCount)) {item : RatingItem}
    (hitem : item ∈ m.items) :
    diagnosis config m.scale (item.reorder order)
      = (diagnosis config m.scale item).reorder order := by
  have hperm := RatingMatrix.ratings_reorder_perm h hitem
  rw [diagnosis, RatingSummary.ofRatings_perm hperm, ItemAgreement.score_perm config hperm]
  rfl

theorem ofDiagnostics_reorder (h : order.Perm (List.range m.raterCount))
    (items : List (ItemDiagnostics ℝ)) :
    ofDiagnostics config (m.reorderRaters order) (items.map (ItemDiagnostics.reorder order))
      = (ofDiagnostics config m items).reorderRatings order := by
  simp only [ofDiagnostics, rank_reorder, countBands_reorder, spreadOf_reorder,
    RatingMatrix.ordinalAlpha_reorderRaters h, RatingMatrix.raterCount_reorderRaters h]
  rfl

/-- **The order of the raters** does not matter: from the rows of a matrix in any order, the same
report is made, but for the ratings of each item, which stand in that order too. -/
theorem exists_report_reorderRaters (hraters : 2 ≤ m.raterCount) (hitems : 1 ≤ m.itemCount)
    (horder : order.Perm (List.range m.raterCount)) :
    ∃ m' report, RatingMatrix.ofRatings m.labels (reorder order m.rows) m.scale = .ok m' ∧
      ofMatrix config m = .ok report ∧ ofMatrix config m' = .ok (report.reorderRatings order) := by
  have hraters' := RatingMatrix.raterCount_reorderRaters horder
  have hdiagnoses : (m.items.map (RatingItem.reorder order)).map (diagnosis config m.scale)
      = (m.items.map (diagnosis config m.scale)).map (ItemDiagnostics.reorder order) := by
    rw [List.map_map, List.map_map]
    exact List.map_congr_left fun item hitem => diagnosis_reorder horder hitem
  have hreordered := ofMatrix_eq_ok config (m := m.reorderRaters order) (by omega)
    (Nat.pos_iff_ne_zero.mp hitems)
  refine ⟨m.reorderRaters order, _, RatingMatrix.ofRatings_rows (m.reorderRaters order),
    ofMatrix_eq_ok config hraters (Nat.pos_iff_ne_zero.mp hitems), ?_⟩
  rw [hreordered, RatingMatrix.items_reorderRaters, ← ofDiagnostics_reorder horder, ← hdiagnoses]
  rfl

/-- Three raters of two items. -/
def mixed : RatingMatrix where
  labels := ["Q1_1", "Q2_1"]
  rows := [[1, 4], [2, 2], [5, 3]]
  scale := ⟨1, 5⟩
  width_eq := by decide
  contains := by decide

theorem exists_report_mixed_reordered :
    ∃ m' report, RatingMatrix.ofRatings ["Q1_1", "Q2_1"] [[5, 3], [1, 4], [2, 2]] ⟨1, 5⟩ = .ok m' ∧
      ofMatrix (α := ℝ) Config.standard mixed = .ok report ∧
      ofMatrix Config.standard m' = .ok (report.reorderRatings [2, 0, 1]) := by
  have horder : [2, 0, 1].Perm (List.range mixed.raterCount) := by decide
  exact exists_report_reorderRaters (m := mixed) (by decide) (by decide) horder

end ReliabilityReport

end InterRater
