import InterRater.Paired.Series
import InterRater.Table.Lines

/-!
# Score tables

A score table has an automated and a human score in each line, in columns found by their names in
the header, and may have a column of labels.
-/

namespace InterRater

/-- The names of the columns that are read from a score table. -/
structure ScoreColumns where
  automated : String
  human : String
  label : String
  deriving DecidableEq, Repr

namespace ScoreColumns

/-- The names where none are given. -/
def standard : ScoreColumns :=
  ⟨"AI_Result", "Average_Developer_Result", "Question"⟩

end ScoreColumns

/-- One line of a score table. -/
structure ScoreRow (α : Type) where
  label : String
  automated : α
  human : α
  deriving DecidableEq, Repr

/-- The lines of a score table. -/
abbrev ScoreTable (α : Type) := List (ScoreRow α)

namespace ScoreTable

variable {α : Type}

def labels (table : ScoreTable α) : List String :=
  List.map ScoreRow.label table

def automated (table : ScoreTable α) : List α :=
  List.map ScoreRow.automated table

def human (table : ScoreTable α) : List α :=
  List.map ScoreRow.human table

/-- The paired series of the scores. -/
def series [Scalar α] (table : ScoreTable α) : Except AnalysisError (PairedSeries α) :=
  PairedSeries.ofScores table.automated table.human

/-- The first column with the given name. -/
def column (header : List (List Char)) (name : String) : Except AnalysisError Nat :=
  match header.findIdx? (· = name.toList) with
  | some i => .ok i
  | none => .error (.missingColumn name (header.map String.ofList))

/-- The label of a line: its cell in the label column, or a name made of its position. -/
def rowLabel (labelColumn : Option Nat) (cells : List (List Char)) (row : Nat) : String :=
  match labelColumn.bind fun i => cells[i]? with
  | some (c :: rest) => String.ofList (c :: rest)
  | _ => s!"row_{row}"

/-- The scores in a line. -/
def readRow (columns : ScoreColumns) (automatedAt humanAt : Nat) (labelAt : Option Nat)
    (line : List Char) (row : Nat) : Except AnalysisError (ScoreRow Binary64) := do
  let cells := Table.cells line
  let automated ← Table.number .scores row columns.automated (cells.getD automatedAt [])
  let human ← Table.number .scores row columns.human (cells.getD humanAt [])
  return ⟨rowLabel labelAt cells row, automated, human⟩

/-- The scores written in the text of a score table. -/
def parse (text : List Char) (columns : ScoreColumns) :
    Except AnalysisError (ScoreTable Binary64) :=
  match Table.dataLines text with
  | [] => .error (.noHeader .scores)
  | header :: lines => do
    let header := Table.cells header
    let automatedAt ← column header columns.automated
    let humanAt ← column header columns.human
    let labelAt := header.findIdx? (· = columns.label.toList)
    lines.zipIdx.mapM fun (line, row) => readRow columns automatedAt humanAt labelAt line row

end ScoreTable

end InterRater
