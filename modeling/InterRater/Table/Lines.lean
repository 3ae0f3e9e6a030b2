import InterRater.Error
import InterRater.Number.Numeral
import InterRater.Text.Blank
import InterRater.Text.Split

/-!
# Lines and cells of a table

A table is a text of lines, of which those that consist of blanks are skipped.  Its cells are
separated by tabs; blanks around them do not belong to them.
-/

namespace InterRater

namespace Table

/-- The lines of a text that do not consist of blanks. -/
def dataLines (text : List Char) : List (List Char) :=
  (splitOn '\n' text).filter fun line => !line.all isBlank

/-- The cells of a line. -/
def cells (line : List Char) : List (List Char) :=
  (splitOn '\t' line).map trim

/-- The number in a cell. -/
def number (table : TableKind) (row : Nat) (column : String) (cell : List Char) :
    Except AnalysisError Binary64 :=
  if cell.isEmpty then .error (.blankCell table row column)
  else
    match Numeral.read? cell with
    | some value => .ok value
    | none => .error (.notANumber table row column (String.ofList cell))

end Table

end InterRater
