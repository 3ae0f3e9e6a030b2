import InterRater.Error

/-!
# Matrices of ratings

A `RatingMatrix` has a row for each rater and a column for each item.  Its rows are as wide as the
list of labels, and all its ratings are on its scale.
-/

namespace InterRater

namespace OrdinalScale

/-- The rating that `rater` gave to `item` by the number `value`. -/
def rating (scale : OrdinalScale) (value : Binary64) (item : String) (rater : Nat) :
    Except AnalysisError Int :=
  match scale.rating? value with
  | some n => .ok n
  | none => .error (.offScale value item rater scale)

/-- Whether the integer `rating` of `item` by `rater` is on the scale. -/
def check (scale : OrdinalScale) (rating : Int) (item : String) (rater : Nat) :
    Except AnalysisError Unit :=
  if scale.contains rating then .ok ()
  else .error (.offScale (Binary64.ofInt rating) item rater scale)

end OrdinalScale

/-- One item and the ratings that the raters gave it. -/
structure RatingItem where
  index : Nat
  label : String
  ratings : List Int
  deriving DecidableEq, Repr

/-- The ratings of raters (rows) for items (columns). -/
structure RatingMatrix where
  labels : List String
  rows : List (List Int)
  scale : OrdinalScale
  /-- Every rater has rated every item. -/
  width_eq : ∀ row ∈ rows, row.length = labels.length
  /-- Every rating is on the scale. -/
  contains : ∀ row ∈ rows, ∀ rating ∈ row, scale.contains rating
  deriving DecidableEq

namespace RatingMatrix

/-- The first fault of the row of `rater`: its width, or a rating. -/
def rowFault? (labels : List String) (scale : OrdinalScale) (row : List Int) (rater : Nat) :
    Option AnalysisError :=
  if row.length ≠ labels.length then some (.raggedRatings rater row.length labels.length)
  else (row.zip labels).findSome? fun (rating, label) =>
    match scale.check rating label rater with
    | .ok _ => none
    | .error e => some e

/-- The first fault of the rows, in the order of the raters. -/
def fault? (labels : List String) (scale : OrdinalScale) (rows : List (List Int)) :
    Option AnalysisError :=
  rows.zipIdx.findSome? fun (row, rater) => rowFault? labels scale row rater

/-- A row without a fault is as wide as the labels, and its ratings are on the scale. -/
theorem of_rowFault?_eq_none {labels : List String} {scale : OrdinalScale} {row : List Int}
    {rater : Nat} (h : rowFault? labels scale row rater = none) :
    row.length = labels.length ∧ ∀ rating ∈ row, scale.contains rating = true := by
  unfold rowFault? at h
  split at h
  · simp at h
  · rename_i hw
    have hw : row.length = labels.length := by simpa using hw
    refine ⟨hw, fun rating hr => ?_⟩
    obtain ⟨i, hi, rfl⟩ := List.mem_iff_getElem.mp hr
    have hl : i < labels.length := hw ▸ hi
    have hz : (row[i], labels[i]) ∈ row.zip labels :=
      List.mem_iff_getElem.mpr ⟨i, by simp [hw, hl], by simp⟩
    have := List.findSome?_eq_none_iff.mp h _ hz
    simp only [OrdinalScale.check] at this
    by_cases hc : scale.contains row[i] = true
    · exact hc
    · simp [hc] at this

/-- Rows without a fault fit the labels and the scale. -/
theorem of_fault?_eq_none {labels : List String} {scale : OrdinalScale} {rows : List (List Int)}
    (h : fault? labels scale rows = none) :
    ∀ row ∈ rows, row.length = labels.length ∧ ∀ rating ∈ row, scale.contains rating = true := by
  intro row hr
  obtain ⟨i, hi, rfl⟩ := List.mem_iff_getElem.mp hr
  have hz : (rows[i], i) ∈ rows.zipIdx :=
    List.mem_iff_getElem.mpr ⟨i, by simpa using hi, by simp⟩
  exact of_rowFault?_eq_none (List.findSome?_eq_none_iff.mp h _ hz)

/-- The matrix of integer ratings, or the first fault in the order of the rows. -/
def ofRatings (labels : List String) (rows : List (List Int)) (scale : OrdinalScale) :
    Except AnalysisError RatingMatrix :=
  match h : fault? labels scale rows with
  | some e => .error e
  | none => .ok ⟨labels, rows, scale, fun row hr => (of_fault?_eq_none h row hr).1,
      fun row hr => (of_fault?_eq_none h row hr).2⟩

/-- The ratings that the numbers in the row of `rater` stand for. -/
def ratingsOfRow (labels : List String) (scale : OrdinalScale) (rater : Nat)
    (row : List Binary64) : Except AnalysisError (List Int) :=
  if row.length ≠ labels.length then .error (.raggedRatings rater row.length labels.length)
  else (row.zip labels).mapM fun (value, label) => scale.rating value label rater

/-- The matrix of the ratings that numbers stand for, or the first fault in the order of the
rows. -/
def ofNumbers (labels : List String) (rows : List (List Binary64)) (scale : OrdinalScale) :
    Except AnalysisError RatingMatrix := do
  let ratings ← rows.zipIdx.mapM fun (row, rater) => ratingsOfRow labels scale rater row
  ofRatings labels ratings scale

def raterCount (m : RatingMatrix) : Nat :=
  m.rows.length

def itemCount (m : RatingMatrix) : Nat :=
  m.labels.length

/-- The ratings of the item with the given index, by rater. -/
def column (m : RatingMatrix) (index : Nat) : List Int :=
  m.rows.filterMap fun row => row[index]?

/-- The item with the given index. -/
def item? (m : RatingMatrix) (index : Nat) : Option RatingItem :=
  m.labels[index]?.map fun label => ⟨index, label, m.column index⟩

/-- The items, in the order of the columns. -/
def items (m : RatingMatrix) : List RatingItem :=
  m.labels.zipIdx.map fun (label, index) => ⟨index, label, m.column index⟩

end RatingMatrix

end InterRater
