import InterRater.Proofs.Order.Traversal
import InterRater.Proofs.Rating.Matrix

/-!
# Matrices made of numbers

A row of numbers is read exactly if all of them are ratings of the scale
(`exists_ratingsOfRow_iff`); else the first of the others is reported (`ratingsOfRow_eq_error_iff`).
Ratings that are found in this way are on the scale already, so that a second check of them finds
nothing (`exists_ofRatings`) and a matrix fails only by its numbers (`ofNumbers_eq_error_iff`).
-/

namespace InterRater

namespace OrdinalScale

variable {scale : OrdinalScale} {x : Binary64}

theorem rating_eq_ok_iff {item : String} {rater : ℕ} {n : ℤ} :
    scale.rating x item rater = .ok n ↔ scale.rating? x = some n := by
  rw [rating]
  cases scale.rating? x <;> simp

theorem rating_eq_error_iff {item : String} {rater : ℕ} {e : AnalysisError} :
    scale.rating x item rater = .error e ↔
      scale.rating? x = none ∧ e = .offScale x item rater scale := by
  rw [rating]
  cases scale.rating? x <;> simp [eq_comm]

/-- What a number stands for is on the scale. -/
theorem contains_of_rating? {n : ℤ} (h : scale.rating? x = some n) : scale.contains n = true := by
  obtain ⟨k, -, hk⟩ := Option.bind_eq_some_iff.mp h
  split_ifs at hk with hcontains
  cases hk
  exact hcontains

/-- The fault of a rating that is off the scale. -/
def offFault? (scale : OrdinalScale) (rating : ℤ) (item : String) (rater : ℕ) :
    Option AnalysisError :=
  if scale.contains rating then none else some (.offScale (.ofInt rating) item rater scale)

@[simp]
theorem offFault?_eq_none_iff {rating : ℤ} {item : String} {rater : ℕ} :
    scale.offFault? rating item rater = none ↔ scale.contains rating = true := by
  unfold offFault?
  split_ifs with h <;> simp [h]

@[simp]
theorem offFault?_eq_some_iff {rating : ℤ} {item : String} {rater : ℕ} {e : AnalysisError} :
    scale.offFault? rating item rater = some e ↔
      scale.contains rating = false ∧ e = .offScale (.ofInt rating) item rater scale := by
  unfold offFault?
  split_ifs with h <;> simp [h, eq_comm]

/-- A check finds the fault of the rating, and nothing else. -/
theorem fault_of_check (scale : OrdinalScale) (rating : ℤ) (item : String) (rater : ℕ) :
    (match scale.check rating item rater with
      | .ok _ => none
      | .error e => some e) = scale.offFault? rating item rater := by
  unfold check offFault?
  split_ifs <;> rfl

end OrdinalScale

namespace RatingMatrix

variable {labels : List String} {scale : OrdinalScale}

/-! ### One row -/

theorem ratingsOfRow_eq_ok_iff {rater : ℕ} {row : List Binary64} {ratings : List ℤ} :
    ratingsOfRow labels scale rater row = .ok ratings ↔
      row.length = labels.length ∧ row.map scale.rating? = ratings.map some := by
  rw [ratingsOfRow]
  by_cases hwidth : row.length = labels.length
  · have hrating : ∀ (x : Binary64) (label : String) (n : ℤ),
        scale.rating x label rater = .ok n ↔ scale.rating? x = some n :=
      fun _ _ _ => OrdinalScale.rating_eq_ok_iff
    rw [if_neg (not_not.mpr hwidth), and_iff_right hwidth]
    exact Traversal.mapM_zip_eq_ok_iff hrating hwidth
  · rw [if_pos hwidth]
    exact iff_of_false nofun fun h => hwidth h.1

/-- A row of the right width is refused for its first number that is no rating. -/
theorem ratingsOfRow_eq_error_iff {rater : ℕ} {row : List Binary64} {e : AnalysisError}
    (hwidth : row.length = labels.length) :
    ratingsOfRow labels scale rater row = .error e ↔
      ∃ (column : ℕ) (x : Binary64) (label : String), row[column]? = some x ∧
        labels[column]? = some label ∧ scale.rating? x = none ∧
        e = .offScale x label rater scale ∧
        ∀ j < column, ∀ y, row[j]? = some y → ∃ n, scale.rating? y = some n := by
  have hrating : ∀ (x : Binary64) (label : String) (n : ℤ),
      scale.rating x label rater = .ok n ↔ scale.rating? x = some n :=
    fun _ _ _ => OrdinalScale.rating_eq_ok_iff
  rw [ratingsOfRow, if_neg (not_not.mpr hwidth)]
  refine (Traversal.mapM_zip_eq_error_iff hrating hwidth).trans ?_
  simp only [OrdinalScale.rating_eq_error_iff, and_assoc]

/-- A row of the right width is read exactly if each number in it is a rating. -/
theorem exists_ratingsOfRow_iff {rater : ℕ} {row : List Binary64}
    (hwidth : row.length = labels.length) :
    (∃ ratings, ratingsOfRow labels scale rater row = .ok ratings) ↔
      ∀ x ∈ row, ∃ n, scale.rating? x = some n := by
  constructor
  · rintro ⟨ratings, h⟩ x hx
    have hmap := (ratingsOfRow_eq_ok_iff.mp h).2
    have hmem : scale.rating? x ∈ ratings.map some := hmap ▸ List.mem_map_of_mem hx
    obtain ⟨n, -, hn⟩ := List.mem_map.mp hmem
    exact ⟨n, hn.symm⟩
  · intro h
    cases hrow : ratingsOfRow labels scale rater row with
    | ok ratings => exact ⟨ratings, rfl⟩
    | error e =>
      obtain ⟨column, x, -, hx, -, hnone, -⟩ := (ratingsOfRow_eq_error_iff hwidth).mp hrow
      obtain ⟨n, hn⟩ := h x (List.mem_of_getElem? hx)
      rw [hnone] at hn
      cases hn

/-! ### All rows -/

theorem map_rating?_of_ratings {rows : List (List Binary64)} {ratings : List (List ℤ)}
    (h : rows.zipIdx.mapM (fun (row, rater) => ratingsOfRow labels scale rater row)
      = .ok ratings) :
    rows.map (·.map scale.rating?) = ratings.map (·.map some) :=
  Traversal.map_eq_of_mapM_zipIdx_eq_ok h fun _ _ _ hrow => (ratingsOfRow_eq_ok_iff.mp hrow).2

/-- Ratings that numbers stand for make a matrix. -/
theorem exists_ofRatings {rows : List (List Binary64)} {ratings : List (List ℤ)}
    (h : rows.zipIdx.mapM (fun (row, rater) => ratingsOfRow labels scale rater row)
      = .ok ratings) :
    ∃ m, ofRatings labels ratings scale = .ok m ∧ m.labels = labels ∧ m.rows = ratings ∧
      m.scale = scale := by
  have hrows : ∀ row ∈ ratings, row.length = labels.length ∧
      ∀ n ∈ row, scale.contains n = true := by
    intro row hrow
    obtain ⟨⟨numbers, rater⟩, -, hnumbers⟩ := (Traversal.mem_iff_of_mapM_eq_ok h row).mp hrow
    obtain ⟨hwidth, hmap⟩ := ratingsOfRow_eq_ok_iff.mp hnumbers
    have hlength := congrArg List.length hmap
    rw [List.length_map, List.length_map] at hlength
    refine ⟨hlength ▸ hwidth, ?_⟩
    intro n hn
    have hmem : some n ∈ numbers.map scale.rating? := hmap ▸ List.mem_map_of_mem hn
    obtain ⟨x, -, hx⟩ := List.mem_map.mp hmem
    exact OrdinalScale.contains_of_rating? hx
  let m : RatingMatrix := ⟨labels, ratings, scale, fun row hrow => (hrows row hrow).1,
    fun row hrow => (hrows row hrow).2⟩
  exact ⟨m, ofRatings_rows m, rfl, rfl, rfl⟩

/-- The second check finds nothing, so that only the numbers can be at fault. -/
theorem ofNumbers_eq_error_iff {rows : List (List Binary64)} {e : AnalysisError} :
    ofNumbers labels rows scale = .error e ↔
      rows.zipIdx.mapM (fun (row, rater) => ratingsOfRow labels scale rater row) = .error e := by
  rw [ofNumbers]
  cases h : rows.zipIdx.mapM fun (row, rater) => ratingsOfRow labels scale rater row with
  | error e' => exact ⟨fun he => by cases he; rfl, fun he => by cases he; rfl⟩
  | ok ratings =>
    obtain ⟨m, hm, -⟩ := exists_ofRatings h
    refine iff_of_false ?_ nofun
    show ofRatings labels ratings scale ≠ .error e
    rw [hm]
    nofun

/-- A matrix holds the ratings that the numbers it is made of stand for. -/
theorem of_ofNumbers_eq_ok {rows : List (List Binary64)} {m : RatingMatrix}
    (h : ofNumbers labels rows scale = .ok m) :
    m.labels = labels ∧ m.scale = scale ∧
      rows.map (·.map scale.rating?) = m.rows.map (·.map some) := by
  rw [ofNumbers] at h
  obtain ⟨ratings, hratings, h⟩ := Traversal.bind_eq_ok_iff.mp h
  obtain ⟨m', hm', hlabels, rfl, hscale⟩ := exists_ofRatings hratings
  obtain rfl := Except.ok.inj (hm'.symm.trans h)
  exact ⟨hlabels, hscale, map_rating?_of_ratings hratings⟩

end RatingMatrix

end InterRater
