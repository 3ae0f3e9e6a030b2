import InterRater.Proofs.Order.Reorder
import InterRater.Proofs.Rating.Scale

/-!
# The two ways to make a matrix

A matrix is made of integers (`RatingMatrix.ofRatings`) or of numbers (`RatingMatrix.ofNumbers`).
Both look for the first fault row by row, and in each row at its width before its values, though by
different means: a search for faults, and a traversal that stops at one.  On integers that the
numbers have exactly they are one function (`RatingMatrix.ofNumbers_map_ofInt`).

A matrix that either of them yields is a table: its items are its columns, and each item has a
rating in every row (`RatingMatrix.tabulates`).  `RatingMatrix.constructors_agree` is all of it
together.
-/

namespace InterRater

namespace RatingMatrix

variable {labels : List String} {scale : OrdinalScale} {rows : List (List ℤ)}

/-! ### The law -/

/-- The row has a rating on the scale for every label. -/
structure Fits (labels : List String) (scale : OrdinalScale) (row : List ℤ) : Prop where
  width : row.length = labels.length
  contains : ∀ n ∈ row, scale.contains n = true

/-- The first fault of the rows: no row before it has one, and in its own row the width is looked at
before the ratings, and these from left to right. -/
inductive FirstFault (labels : List String) (scale : OrdinalScale) (rows : List (List ℤ)) :
    AnalysisError → Prop
  | width {rater : ℕ} {row : List ℤ} (hrow : rows[rater]? = some row)
      (hbefore : ∀ i < rater, ∀ r, rows[i]? = some r → Fits labels scale r)
      (hwidth : row.length ≠ labels.length) :
      FirstFault labels scale rows (.raggedRatings rater row.length labels.length)
  | rating {rater column : ℕ} {row : List ℤ} {n : ℤ} {label : String}
      (hrow : rows[rater]? = some row)
      (hbefore : ∀ i < rater, ∀ r, rows[i]? = some r → Fits labels scale r)
      (hwidth : row.length = labels.length)
      (hrating : row[column]? = some n) (hlabel : labels[column]? = some label)
      (hoff : scale.contains n = false)
      (hleft : ∀ j < column, ∀ k, row[j]? = some k → scale.contains k = true) :
      FirstFault labels scale rows (.offScale (.ofInt n) label rater scale)

/-- The matrix is a table whose columns are its items. -/
structure Tabulates (m : RatingMatrix) : Prop where
  rows : ∀ row ∈ m.rows, row.length = m.itemCount ∧ ∀ n ∈ row, m.scale.contains n = true
  /-- An item has the label of its column and, in the order of the rows, their entries there. -/
  item : ∀ i < m.itemCount, ∃ label ratings, m.item? i = some ⟨i, label, ratings⟩ ∧
    m.labels[i]? = some label ∧ ratings.map some = m.rows.map (·[i]?)
  outside : ∀ i, m.itemCount ≤ i → m.item? i = none
  items : m.items.map some = (List.range m.itemCount).map m.item?

/-! ### The first fault -/

theorem rowFault?_eq (labels : List String) (scale : OrdinalScale) (row : List ℤ) (rater : ℕ) :
    rowFault? labels scale row rater =
      if row.length ≠ labels.length then some (.raggedRatings rater row.length labels.length)
      else (row.zip labels).findSome? fun p => scale.offFault? p.1 p.2 rater := by
  unfold rowFault?
  apply congrArg (ite _ _)
  exact congrArg (List.findSome? · (row.zip labels)) <|
    funext fun p => scale.fault_of_check p.1 p.2 rater

theorem rowFault?_eq_none_iff {row : List ℤ} {rater : ℕ} :
    rowFault? labels scale row rater = none ↔ Fits labels scale row := by
  constructor
  · intro h
    obtain ⟨hwidth, hcontains⟩ := of_rowFault?_eq_none h
    exact ⟨hwidth, hcontains⟩
  · rintro ⟨hwidth, hcontains⟩
    rw [rowFault?_eq, if_neg (not_not.mpr hwidth), List.findSome?_eq_none_iff]
    intro p hp
    exact OrdinalScale.offFault?_eq_none_iff.mpr (hcontains p.1 (List.of_mem_zip hp).1)

theorem rowFault?_eq_some_iff {row : List ℤ} {rater : ℕ} {e : AnalysisError} :
    rowFault? labels scale row rater = some e ↔
      row.length ≠ labels.length ∧ e = .raggedRatings rater row.length labels.length ∨
      row.length = labels.length ∧ ∃ (column : ℕ) (n : ℤ) (label : String),
        row[column]? = some n ∧ labels[column]? = some label ∧
        (scale.contains n = false ∧ e = .offScale (.ofInt n) label rater scale) ∧
        ∀ j < column, ∀ k, row[j]? = some k → scale.contains k = true := by
  rw [rowFault?_eq]
  split_ifs with hwidth
  · simp only [hwidth, ne_eq, not_false_eq_true, true_and, false_and, or_false, Option.some_inj]
    exact eq_comm
  · have hsound : ∀ (n : ℤ) (label : String), scale.offFault? n label rater = none ↔
        scale.contains n = true := fun _ _ => OrdinalScale.offFault?_eq_none_iff
    have hwidth := not_not.mp hwidth
    rw [Traversal.findSome?_zip_eq_some_iff hsound hwidth]
    simp [hwidth]

theorem fault?_eq_some_iff {e : AnalysisError} :
    fault? labels scale rows = some e ↔ FirstFault labels scale rows e := by
  unfold fault?
  rw [Traversal.findSome?_zipIdx_eq_some_iff]
  simp only [rowFault?_eq_some_iff, rowFault?_eq_none_iff]
  constructor
  · rintro ⟨rater, row, hrow, ⟨hwidth, rfl⟩ | ⟨hwidth, column, n, label, hn, hlabel, ⟨hoff, rfl⟩,
      hleft⟩, hbefore⟩
    · exact .width hrow hbefore hwidth
    · exact .rating hrow hbefore hwidth hn hlabel hoff hleft
  · intro h
    cases h with
    | width hrow hbefore hwidth => exact ⟨_, _, hrow, .inl ⟨hwidth, rfl⟩, hbefore⟩
    | rating hrow hbefore hwidth hn hlabel hoff hleft =>
      exact ⟨_, _, hrow, .inr ⟨hwidth, _, _, _, hn, hlabel, ⟨hoff, rfl⟩, hleft⟩, hbefore⟩

theorem ofRatings_eq_error_iff {e : AnalysisError} :
    ofRatings labels rows scale = .error e ↔ fault? labels scale rows = some e := by
  unfold ofRatings
  split <;> simp_all

theorem ofRatings_eq_ok_iff {m : RatingMatrix} : ofRatings labels rows scale = .ok m ↔
    m.labels = labels ∧ m.rows = rows ∧ m.scale = scale := by
  constructor
  · intro h
    unfold ofRatings at h
    split at h
    · cases h
    · cases h
      exact ⟨rfl, rfl, rfl⟩
  · rintro ⟨rfl, rfl, rfl⟩
    exact ofRatings_rows m

/-! ### Integers as numbers -/

theorem rating_ofInt {n : ℤ} (hn : n.natAbs ≤ 2 ^ 53) (item : String) (rater : ℕ) :
    scale.rating (.ofInt n) item rater = (scale.offFault? n item rater).elim (.ok n) .error := by
  unfold OrdinalScale.rating OrdinalScale.offFault?
  rw [OrdinalScale.rating?_ofInt hn]
  split_ifs <;> rfl

/-- A row is read, or refused for the fault that a search finds in it. -/
theorem ratingsOfRow_map_ofInt {row : List ℤ} (hrow : ∀ n ∈ row, n.natAbs ≤ 2 ^ 53) (rater : ℕ) :
    ratingsOfRow labels scale rater (row.map .ofInt)
      = (rowFault? labels scale row rater).elim (.ok row) .error := by
  unfold ratingsOfRow
  rw [rowFault?_eq, List.length_map]
  split_ifs with hwidth
  · rfl
  have hrating : ∀ p ∈ row.zip labels, scale.rating (.ofInt p.1) p.2 rater
      = (scale.offFault? p.1 p.2 rater).elim (.ok p.1) .error :=
    fun p hp => rating_ofInt (hrow p.1 (List.of_mem_zip hp).1) p.2 rater
  have hratings := Traversal.mapM_eq_elim hrating
  rw [List.map_fst_zip (not_not.mp hwidth).le] at hratings
  rw [← hratings, List.zip_map_left, List.mapM_map]
  rfl

/-- The constructors agree on integers that the numbers have exactly. -/
theorem ofNumbers_map_ofInt (h : ∀ row ∈ rows, ∀ n ∈ row, n.natAbs ≤ 2 ^ 53) :
    ofNumbers labels (rows.map (·.map .ofInt)) scale = ofRatings labels rows scale := by
  have hrow : ∀ p ∈ rows.zipIdx, ratingsOfRow labels scale p.2 (p.1.map .ofInt)
      = (rowFault? labels scale p.1 p.2).elim (.ok p.1) .error :=
    fun p hp => ratingsOfRow_map_ofInt (h p.1 (List.fst_mem_of_mem_zipIdx hp)) p.2
  have hrows := Traversal.mapM_eq_elim hrow
  rw [List.zipIdx_map_fst] at hrows
  have hread : (rows.map (·.map Binary64.ofInt)).zipIdx.mapM
      (fun p => ratingsOfRow labels scale p.2 p.1)
        = (fault? labels scale rows).elim (.ok rows) .error := by
    rw [List.zipIdx_map, List.mapM_map]
    exact hrows
  refine (congrArg (· >>= fun ratings => ofRatings labels ratings scale) hread).trans ?_
  cases hfault : fault? labels scale rows with
  | none => rfl
  | some e => exact (ofRatings_eq_error_iff.mpr hfault).symm

/-! ### Items -/

theorem map_some_column (m : RatingMatrix) {i : ℕ} (hi : i < m.itemCount) :
    (m.column i).map some = m.rows.map (·[i]?) := by
  apply map_some_filterMap
  intro row hrow
  -- No row is too short.
  have hlength : i < row.length := by rwa [m.width_eq row hrow]
  exact ⟨_, List.getElem?_eq_getElem hlength⟩

theorem tabulates (m : RatingMatrix) : Tabulates m where
  rows := fun row hrow => ⟨m.width_eq row hrow, m.contains row hrow⟩
  item := by
    intro i hi
    have hlabel : m.labels[i]? = some m.labels[i] := List.getElem?_eq_getElem hi
    refine ⟨m.labels[i], m.column i, ?_, hlabel, m.map_some_column hi⟩
    rw [item?, hlabel, Option.map_some]
  outside := by
    intro i hi
    rw [item?, List.getElem?_eq_none hi, Option.map_none]
  items := by
    have hget : m.item? = fun i => m.items[i]? := funext m.item?_eq_getElem?
    have hrange : ∀ i ∈ List.range m.itemCount, i < m.items.length := by
      intro i hi
      rw [length_items]
      exact List.mem_range.mp hi
    rw [hget, ← map_some_reorder hrange, ← length_items, reorder_range]

/-! ### Both constructors -/

/-- **The constructors agree.**  Rows of integers that the numbers have exactly make the same
matrix, or the same error, as the numbers do.  The error is the first fault of the rows.  A matrix
has the labels, the scale and the ratings that it is made of, and it is a table whose columns are
its items. -/
theorem constructors_agree (labels : List String) (scale : OrdinalScale) :
    (∀ rows : List (List ℤ), (∀ row ∈ rows, ∀ n ∈ row, n.natAbs ≤ 2 ^ 53) →
      ofNumbers labels (rows.map (·.map .ofInt)) scale = ofRatings labels rows scale) ∧
    (∀ rows e, ofRatings labels rows scale = .error e ↔ FirstFault labels scale rows e) ∧
    (∀ rows m, ofRatings labels rows scale = .ok m →
      m.labels = labels ∧ m.rows = rows ∧ m.scale = scale ∧ Tabulates m) ∧
    ∀ numbers m, ofNumbers labels numbers scale = .ok m →
      m.labels = labels ∧ m.scale = scale ∧
        numbers.map (·.map scale.rating?) = m.rows.map (·.map some) ∧ Tabulates m := by
  refine ⟨fun rows h => ofNumbers_map_ofInt h, ?_, ?_, ?_⟩
  · intro rows e
    rw [ofRatings_eq_error_iff, fault?_eq_some_iff]
  · intro rows m h
    obtain ⟨hlabels, hrows, hscale⟩ := ofRatings_eq_ok_iff.mp h
    exact ⟨hlabels, hrows, hscale, tabulates m⟩
  · intro numbers m h
    obtain ⟨hlabels, hscale, hratings⟩ := of_ofNumbers_eq_ok h
    exact ⟨hlabels, hscale, hratings, tabulates m⟩

/-- A row that is too short before a rating off the scale; and three raters of two items. -/
theorem constructors_agree_ragged :
    ofNumbers ["Q1_1", "Q1_2"] ([[5, 2], [4], [9, 9]].map (·.map .ofInt)) ⟨1, 5⟩
      = .error (.raggedRatings 1 1 2) ∧
    ∃ m, ofNumbers ["Q1_1", "Q1_2"] ([[5, 2], [4, 2], [5, 3]].map (·.map .ofInt)) ⟨1, 5⟩ = .ok m ∧
      ofRatings ["Q1_1", "Q1_2"] [[5, 2], [4, 2], [5, 3]] ⟨1, 5⟩ = .ok m ∧
      m.item? 1 = some ⟨1, "Q1_2", [2, 2, 3]⟩ ∧ m.item? 2 = none := by
  obtain ⟨hagree, herror, hmatrix, -⟩ := constructors_agree ["Q1_1", "Q1_2"] ⟨1, 5⟩
  constructor
  · rw [hagree _ (by decide), herror]
    have hshort : ([[5, 2], [4], [9, 9]] : List (List ℤ))[1]? = some [4] := rfl
    refine .width hshort ?_ (by decide)
    intro i hi row hrow
    obtain rfl : i = 0 := by omega
    cases hrow
    exact ⟨rfl, by decide⟩
  · rw [hagree _ (by decide)]
    have hok : (ofRatings ["Q1_1", "Q1_2"] [[5, 2], [4, 2], [5, 3]] ⟨1, 5⟩).isOk = true := by decide
    cases h : ofRatings ["Q1_1", "Q1_2"] [[5, 2], [4, 2], [5, 3]] ⟨1, 5⟩ with
    | error e =>
      rw [h] at hok
      cases hok
    | ok m =>
      obtain ⟨hlabels, hrows, -, htable⟩ := hmatrix _ m h
      refine ⟨m, rfl, rfl, ?_, htable.outside 2 (by rw [itemCount, hlabels]; decide)⟩
      obtain ⟨label, ratings, hitem, hlabel, hcolumn⟩ :=
        htable.item 1 (by rw [itemCount, hlabels]; decide)
      rw [hlabels] at hlabel
      rw [hrows] at hcolumn
      have hratings : ratings = [2, 2, 3] :=
        (List.map_inj_right fun _ _ => Option.some.inj).mp hcolumn
      cases hlabel
      rw [hitem, hratings]

end RatingMatrix

end InterRater
