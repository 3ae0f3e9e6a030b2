import InterRater.Proofs.Order.Traversal
import InterRater.Proofs.Rating.Alpha
import InterRater.Proofs.Rating.Summary
import InterRater.Proofs.Statistics.Percentile
import InterRater.Rating.Reliability

/-!
# When a matrix has a report, and when a coefficient

The analysis of a matrix fails only for want of raters or items: the invariants of a matrix keep
the statistics of its items from failing (`describe_eq_ok`), and all its lookups in range
(`Lookups`).  In exact arithmetic the coefficient is absent exactly if all ratings are equal
(`ofMatrix_outcome`).
-/

namespace InterRater

/-! ### Statistics of an item -/

namespace RatingSummary

theorem describe_eq_ok {α : Type} [Scalar α] {m : RatingMatrix} {item : RatingItem}
    (hitem : item ∈ m.items) (hraters : 1 ≤ m.raterCount) :
    describe item.label item.ratings m.scale = .ok (ofRatings (α := α) item.ratings m.scale) := by
  have hne : item.ratings ≠ [] := by
    rw [← List.length_pos_iff, RatingMatrix.length_ratings hitem]
    exact hraters
  exact describe_of_contains item.label hne fun _ => RatingMatrix.contains_of_mem_ratings hitem

end RatingSummary

namespace ReliabilityReport

section Scalar

variable {α : Type} [Scalar α]

/-! ### Success and failure -/

/-- The diagnostics of an item whose ratings are on the scale. -/
def diagnosis (config : Config α) (scale : OrdinalScale) (item : RatingItem) :
    ItemDiagnostics α :=
  ⟨item, RatingSummary.ofRatings item.ratings scale, ItemAgreement.score config item.ratings⟩

theorem diagnose_eq_ok (config : Config α) {m : RatingMatrix} {item : RatingItem}
    (hitem : item ∈ m.items) (hraters : 1 ≤ m.raterCount) :
    diagnose config m.scale item = .ok (diagnosis config m.scale item) := by
  rw [diagnose, RatingSummary.describe_eq_ok hitem hraters]
  rfl

variable (config : Config α) {m : RatingMatrix}

theorem ofMatrix_of_raterCount_lt (h : m.raterCount < 2) :
    ofMatrix config m = .error (.tooFew .raters m.raterCount) := by
  unfold ofMatrix
  rw [if_pos h]
  rfl

theorem ofMatrix_of_itemCount_eq_zero (hraters : 2 ≤ m.raterCount) (hitems : m.itemCount = 0) :
    ofMatrix config m = .error (.tooFew .items 0) := by
  unfold ofMatrix
  rw [if_neg (by omega), if_pos hitems]
  rfl

theorem ofMatrix_eq_ok (hraters : 2 ≤ m.raterCount) (hitems : m.itemCount ≠ 0) :
    ofMatrix config m
      = .ok (ofDiagnostics config m (m.items.map (diagnosis config m.scale))) := by
  have hdiagnose : m.items.mapM (diagnose config m.scale)
      = .ok (m.items.map (diagnosis config m.scale)) :=
    Traversal.mapM_eq_ok fun item hitem => diagnose_eq_ok config hitem (by omega)
  unfold ofMatrix
  rw [if_neg (by omega), if_neg hitems, hdiagnose]
  rfl

/-- The three ways in which an analysis ends. -/
theorem ofMatrix_cases (config : Config α) (m : RatingMatrix) :
    (m.raterCount < 2 ∧ ofMatrix config m = .error (.tooFew .raters m.raterCount)) ∨
      (2 ≤ m.raterCount ∧ m.itemCount = 0 ∧ ofMatrix config m = .error (.tooFew .items 0)) ∨
      (2 ≤ m.raterCount ∧ 1 ≤ m.itemCount ∧ ofMatrix config m
        = .ok (ofDiagnostics config m (m.items.map (diagnosis config m.scale)))) := by
  rcases Nat.lt_or_ge m.raterCount 2 with hraters | hraters
  · exact .inl ⟨hraters, ofMatrix_of_raterCount_lt config hraters⟩
  rcases Nat.eq_zero_or_pos m.itemCount with hitems | hitems
  · exact .inr (.inl ⟨hraters, hitems, ofMatrix_of_itemCount_eq_zero config hraters hitems⟩)
  · exact .inr (.inr ⟨hraters, hitems, ofMatrix_eq_ok config hraters hitems.ne'⟩)

/-- A report is the one on the diagnostics of all items. -/
theorem eq_ofDiagnostics {report : ReliabilityReport α} (h : ofMatrix config m = .ok report) :
    2 ≤ m.raterCount ∧ 1 ≤ m.itemCount ∧
      report = ofDiagnostics config m (m.items.map (diagnosis config m.scale)) := by
  rcases ofMatrix_cases config m with ⟨-, herror⟩ | ⟨-, -, herror⟩ | ⟨hraters, hitems, hok⟩
  · rw [herror] at h
    cases h
  · rw [herror] at h
    cases h
  · rw [hok] at h
    cases h
    exact ⟨hraters, hitems, rfl⟩

theorem length_rank (items : List (ItemDiagnostics α)) : (rank items).length = items.length := by
  rw [rank, List.length_map, List.length_zipIdx, List.length_mergeSort]

/-- The best and the worst items are as many as there are to be, or all. -/
theorem length_best_worst {report : ReliabilityReport α}
    (h : ofMatrix config m = .ok report) :
    report.best.length = min config.rankingSize m.itemCount ∧
      report.worst.length = min config.rankingSize m.itemCount := by
  obtain ⟨-, -, rfl⟩ := eq_ofDiagnostics config h
  have hlength : (rank (m.items.map (diagnosis config m.scale))).length = m.itemCount := by
    rw [length_rank, List.length_map, RatingMatrix.length_items]
  simp only [ofDiagnostics, List.length_take, List.length_drop, hlength]
  omega

/-! ### Lookups -/

/-- All that the analysis of a matrix looks up by a place is there. -/
structure Lookups (α : Type) [Scalar α] (m : RatingMatrix) : Prop where
  /-- Every rater has a rating of every item. -/
  rating : ∀ row ∈ m.rows, ∀ item ∈ m.items, item.index < row.length
  /-- Every rating has its row in the coincidence table. -/
  value : ∀ row ∈ m.rows, ∀ rating ∈ row, rating ∈ Alpha.domain m.columns
  /-- Any two rows of the table have a distance. -/
  distance : ∀ i < (Alpha.domain m.columns).length, ∀ j < (Alpha.domain m.columns).length,
    ∃ entries d, (Alpha.distances (Alpha.table m.columns : List (Alpha.Row α)))[min i j]?
      = some entries ∧ entries[max i j - min i j]? = some d
  /-- A quartile of an item stands between two of its ratings. -/
  quartile : ∀ item ∈ m.items, ∀ quantile ∈ [(0.25 : α), 0.5, 0.75],
    let sorted : List α := RatingSummary.sortedValues item.ratings
    Scalar.floor (Statistics.quantilePlace sorted.length quantile) < sorted.length ∧
      Scalar.ceil (Statistics.quantilePlace sorted.length quantile) < sorted.length

/-- The lookups succeed in an arithmetic that keeps the quartiles inside a list. -/
theorem lookups_of_quartile (hraters : 2 ≤ m.raterCount)
    (hfloor : ∀ x : α, Scalar.floor x ≤ Scalar.ceil x)
    (hceil : ∀ {length : ℕ}, 2 ≤ length → ∀ quantile ∈ [(0.25 : α), 0.5, 0.75],
      Scalar.ceil (Statistics.quantilePlace length quantile) < length) :
    Lookups α m where
  rating row hrow item hitem := by
    rw [m.width_eq row hrow]
    exact RatingMatrix.index_lt_of_mem_items hitem
  value row hrow rating hrating := by
    rw [Alpha.mem_domain, m.flatten_columns_perm.mem_iff]
    exact List.mem_flatten.mpr ⟨row, hrow, hrating⟩
  distance i hi j hj := by
    refine Alpha.exists_distance _ ?_ ?_
    · rwa [Alpha.table, List.length_map]
    · rwa [Alpha.table, List.length_map]
  quartile item hitem quantile hquantile := by
    have hlength : 2 ≤ (RatingSummary.sortedValues (α := α) item.ratings).length := by
      rwa [RatingSummary.length_sortedValues, RatingMatrix.length_ratings hitem]
    have hlt := hceil hlength quantile hquantile
    exact ⟨(hfloor _).trans_lt hlt, hlt⟩

/-! ### Outcomes -/

/-- What the analysis of a matrix comes to. -/
structure Outcome (config : Config α) (m : RatingMatrix) : Prop where
  fewRaters : ofMatrix config m = .error (.tooFew .raters m.raterCount) ↔ m.raterCount < 2
  /-- A want of items is reported only where there are raters. -/
  noItems : ofMatrix config m = .error (.tooFew .items 0) ↔ 2 ≤ m.raterCount ∧ m.itemCount = 0
  fails : (∃ e, ofMatrix config m = .error e) ↔ m.raterCount < 2 ∨ m.itemCount = 0
  succeeds : (∃ report, ofMatrix config m = .ok report) ↔ 2 ≤ m.raterCount ∧ 1 ≤ m.itemCount
  /-- No item is without statistics. -/
  describes : 2 ≤ m.raterCount → ∀ item ∈ m.items, ∃ summary : RatingSummary α,
    RatingSummary.describe item.label item.ratings m.scale = .ok summary
  lookups : 2 ≤ m.raterCount → Lookups α m
  /-- The ranking has the items that are named best and worst. -/
  ranking : ∀ report, ofMatrix config m = .ok report →
    report.best.length = min config.rankingSize m.itemCount ∧
      report.worst.length = min config.rankingSize m.itemCount

theorem outcome_of_lookups (hlookups : 2 ≤ m.raterCount → Lookups α m) : Outcome config m where
  fewRaters := by
    rcases ofMatrix_cases config m with ⟨hraters, h⟩ | ⟨hraters, -, h⟩ | ⟨hraters, -, h⟩
    · exact iff_of_true h hraters
    · refine iff_of_false (fun herror => ?_) hraters.not_gt
      rw [h] at herror
      cases herror
    · refine iff_of_false (fun herror => ?_) hraters.not_gt
      rw [h] at herror
      cases herror
  noItems := by
    rcases ofMatrix_cases config m with ⟨hraters, h⟩ | ⟨hraters, hitems, h⟩ | ⟨-, hitems, h⟩
    · refine iff_of_false (fun herror => ?_) (fun hand => hand.1.not_gt hraters)
      rw [h] at herror
      cases herror
    · exact iff_of_true h ⟨hraters, hitems⟩
    · refine iff_of_false (fun herror => ?_) (by omega)
      rw [h] at herror
      cases herror
  fails := by
    rcases ofMatrix_cases config m with ⟨hraters, h⟩ | ⟨-, hitems, h⟩ | ⟨hraters, hitems, h⟩
    · exact iff_of_true ⟨_, h⟩ (Or.inl hraters)
    · exact iff_of_true ⟨_, h⟩ (Or.inr hitems)
    · refine iff_of_false ?_ (by omega)
      rintro ⟨e, herror⟩
      rw [h] at herror
      cases herror
  succeeds := by
    constructor
    · rintro ⟨report, hok⟩
      obtain ⟨hraters, hitems, -⟩ := eq_ofDiagnostics config hok
      exact ⟨hraters, hitems⟩
    · rintro ⟨hraters, hitems⟩
      exact ⟨_, ofMatrix_eq_ok config hraters (by omega)⟩
  describes hraters item hitem := ⟨_, RatingSummary.describe_eq_ok hitem (by omega)⟩
  lookups := hlookups
  ranking _ := length_best_worst config

end Scalar

/-! ### The coefficient -/

section Exact

variable {m : RatingMatrix} {config : Config ℝ} {report : ReliabilityReport ℝ}

theorem coefficient_eq_none_iff (h : ofMatrix config m = .ok report) :
    report.coefficient = none
      ↔ ∀ x ∈ m.rows.flatten, ∀ y ∈ m.rows.flatten, x = y := by
  obtain ⟨hraters, -, rfl⟩ := eq_ofDiagnostics config h
  -- The coefficient is computed from the columns, which hold the ratings of the rows.
  rw [← Alpha.not_varied_iff, ← RatingMatrix.varied_flatten_columns_iff, Alpha.not_varied_iff]
  exact Alpha.ofUnits_eq_none_iff (RatingMatrix.two_le_length_of_mem_columns hraters)

theorem classify_ne_undefined (config : Config ℝ) (coefficient : ℝ) :
    ReliabilityLevel.classify config coefficient ≠ .undefined := by
  rw [ReliabilityLevel.classify]
  split_ifs <;> decide

/-- All ratings are equal: there is no coefficient, and the level says so. -/
theorem undefined_iff (h : ofMatrix config m = .ok report) :
    report.coefficient = none ∧ report.level = .undefined
      ↔ ∀ x ∈ m.rows.flatten, ∀ y ∈ m.rows.flatten, x = y := by
  rw [← coefficient_eq_none_iff h, and_iff_left_iff_imp]
  obtain ⟨-, -, rfl⟩ := eq_ofDiagnostics config h
  intro hnone
  show (Option.map _ _).getD _ = _
  rw [show m.ordinalAlpha = (none : Option ℝ) from hnone]
  rfl

/-- Ratings of two values have a coefficient, and the level is read off it. -/
theorem exists_coefficient (h : ofMatrix config m = .ok report)
    (hvar : Alpha.Varied m.rows.flatten) :
    ∃ coefficient, report.coefficient = some coefficient ∧
      report.level = .classify config coefficient ∧ report.level ≠ .undefined := by
  have hsome : report.coefficient ≠ none := by
    rw [Ne, coefficient_eq_none_iff h, ← Alpha.not_varied_iff, not_not]
    exact hvar
  obtain ⟨coefficient, hcoefficient⟩ := Option.ne_none_iff_exists'.mp hsome
  have hlevel : report.level = .classify config coefficient := by
    obtain ⟨-, -, rfl⟩ := eq_ofDiagnostics config h
    show (Option.map _ _).getD _ = _
    rw [show m.ordinalAlpha = some coefficient from hcoefficient]
    rfl
  refine ⟨coefficient, hcoefficient, hlevel, ?_⟩
  rw [hlevel]
  exact classify_ne_undefined config coefficient

end Exact

/-! ### The analysis of any matrix -/

theorem lookups_exact {m : RatingMatrix} (hraters : 2 ≤ m.raterCount) : Lookups ℝ m :=
  lookups_of_quartile hraters Statistics.floor_le_ceil_exact fun hlength quantile _ =>
    Statistics.ceil_quantilePlace_lt (by omega) quantile

theorem lookups_binary64 {m : RatingMatrix} (hraters : 2 ≤ m.raterCount) : Lookups Binary64 m :=
  lookups_of_quartile hraters Binary64.floor_le_ceil fun hlength _ hquantile =>
    Statistics.ceil_quartilePlace_lt hlength hquantile

/-- **The analysis of a matrix** fails exactly if there are fewer than two raters, which is reported
first, or no items.  Else it yields a report, without a lookup that misses.  In exact arithmetic
the coefficient is absent and the level undefined exactly if all ratings are equal; else the level
is that of the coefficient. -/
theorem ofMatrix_outcome (m : RatingMatrix) :
    (∀ config : Config Binary64, Outcome config m) ∧
      ∀ config : Config ℝ, Outcome config m ∧
        ∀ report, ofMatrix config m = .ok report →
          (report.coefficient = none ∧ report.level = .undefined
            ↔ ∀ x ∈ m.rows.flatten, ∀ y ∈ m.rows.flatten, x = y) ∧
          (Alpha.Varied m.rows.flatten →
            ∃ coefficient, report.coefficient = some coefficient ∧
              report.level = .classify config coefficient ∧ report.level ≠ .undefined) := by
  refine ⟨fun config => outcome_of_lookups config lookups_binary64, fun config =>
    ⟨outcome_of_lookups config lookups_exact, fun report h => ?_⟩⟩
  exact ⟨undefined_iff h, exists_coefficient h⟩

theorem exists_report_reversed :
    ∃ report : ReliabilityReport ℝ, ofMatrix Config.standard RatingMatrix.reversed = .ok report ∧
      ∃ coefficient, report.coefficient = some coefficient ∧ report.level ≠ .undefined := by
  obtain ⟨-, hexact⟩ := ofMatrix_outcome RatingMatrix.reversed
  obtain ⟨houtcome, hreport⟩ := hexact Config.standard
  obtain ⟨report, hok⟩ := houtcome.succeeds.mpr (by decide)
  obtain ⟨coefficient, hcoefficient, -, hlevel⟩ :=
    (hreport report hok).2 ⟨1, by decide, 3, by decide, by decide⟩
  exact ⟨report, hok, coefficient, hcoefficient, hlevel⟩

end ReliabilityReport

end InterRater
