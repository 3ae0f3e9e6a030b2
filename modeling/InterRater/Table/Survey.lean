import InterRater.Rating.Matrix
import InterRater.Table.Lines

/-!
# Survey tables

A survey table has a header with the labels of the items, and a line with a rating for each item
for every rater.
-/

namespace InterRater

namespace Survey

/-- The labels in the cells of a header, all of which must be filled. -/
def labels (header : List (List Char)) : Except AnalysisError (List String) :=
  match header.findIdx? (·.isEmpty) with
  | some column => .error (.unlabelledColumn column)
  | none => .ok (header.map String.ofList)

/-- The numbers in the line of `rater`. -/
def numbers (labels : List String) (line : List Char) (rater : Nat) :
    Except AnalysisError (List Binary64) :=
  let cells := Table.cells line
  if cells.length ≠ labels.length then
    .error (.raggedCells rater cells.length labels.length)
  else (cells.zip labels).mapM fun (cell, label) => Table.number .survey rater label cell

/-- The matrix written in the text of a survey table.  All lines are decoded before the ratings
are looked at. -/
def parse (text : List Char) (scale : OrdinalScale) : Except AnalysisError RatingMatrix :=
  match Table.dataLines text with
  | [] => .error (.noHeader .survey)
  | header :: lines => do
    let labels ← labels (Table.cells header)
    let rows ← lines.zipIdx.mapM fun (line, rater) => numbers labels line rater
    RatingMatrix.ofNumbers labels rows scale

/-- A line of cells. -/
def renderLine (cells : List (List Char)) : List Char :=
  ['\t'].intercalate cells ++ ['\n']

/-- The text of a survey table. -/
def render (labels : List String) (rows : List (List Int)) : List Char :=
  renderLine (labels.map String.toList) ++
    rows.flatMap fun row => renderLine (row.map fun n => (toString n).toList)

end Survey

end InterRater
