import InterRater.Number.Shortest
import InterRater.Rating.Scale
import InterRater.Text.Quoted

/-!
# What can be wrong with the data

`AnalysisError` lists the faults that tables, matrices and series of scores can have.  Each is
found before any statistic is computed from the faulty data, and each has one wording, `message`.
-/

namespace InterRater

/-- The two tables the library reads. -/
inductive TableKind where
  | survey
  | scores
  deriving DecidableEq, Repr

/-- The two series of a paired comparison. -/
inductive SeriesKind where
  | automated
  | human
  deriving DecidableEq, Repr

/-- The least amounts of data that analyses ask for. -/
inductive Requirement where
  /-- A reliability coefficient needs two raters. -/
  | raters
  /-- A reliability coefficient needs an item. -/
  | items
  /-- Statistics of an item need a rating. -/
  | ratings
  /-- A paired comparison needs two samples. -/
  | observations
  deriving DecidableEq, Repr

/-- A fault of the data. -/
inductive AnalysisError where
  /-- The number that `rater` gave to `item` is not a rating of the scale. -/
  | offScale (value : Binary64) (item : String) (rater : Nat) (scale : OrdinalScale)
  | tooFew (requirement : Requirement) (found : Nat)
  | raggedRatings (rater width items : Nat)
  | unequalSeries (automated human : Nat)
  | nonFiniteScore (series : SeriesKind) (position : Nat) (kind : NonFinite)
  | noHeader (table : TableKind)
  | unlabelledColumn (column : Nat)
  | raggedCells (rater cells items : Nat)
  | blankCell (table : TableKind) (row : Nat) (column : String)
  | notANumber (table : TableKind) (row : Nat) (column : String) (cell : String)
  | missingColumn (name : String) (header : List String)
  deriving DecidableEq, Repr

namespace TableKind

def name : TableKind → String
  | .survey => "survey table"
  | .scores => "scores table"

end TableKind

namespace SeriesKind

def name : SeriesKind → String
  | .automated => "automated series"
  | .human => "human series"

end SeriesKind

namespace Requirement

/-- What cannot be computed without the data. -/
def statistic : Requirement → String
  | .raters | .items => "corpus reliability"
  | .ratings => "scale statistics"
  | .observations => "paired comparison"

/-- What there is too little of. -/
def unit : Requirement → String
  | .raters => "raters"
  | .items => "items"
  | .ratings => "ratings"
  | .observations => "observations"

/-- The least amount. -/
def least : Requirement → Nat
  | .raters | .observations => 2
  | .items | .ratings => 1

end Requirement

namespace AnalysisError

/-- The three sorts of faults. -/
inductive Category where
  | scaleValue
  | insufficientData
  | validation
  deriving DecidableEq, Repr

def category : AnalysisError → Category
  | .offScale .. => .scaleValue
  | .tooFew .. => .insufficientData
  | _ => .validation

/-- The wording of a fault of the named data. -/
def invalid (data reason : String) : String :=
  s!"invalid {data}: {reason}"

/-- The wording of a fault. -/
def message : AnalysisError → String
  | .offScale value item rater scale =>
    let shown := NumberLayout.message.text value
    s!"rating {shown} for item {item} (rater row {rater}) is outside the ordinal scale " ++
      s!"{scale.least}..={scale.greatest} or not integral"
  | .tooFew requirement found =>
    s!"insufficient data for {requirement.statistic}: need at least {requirement.least} " ++
      s!"{requirement.unit}, found {found}"
  | .raggedRatings rater width items =>
    invalid "rating matrix" s!"rater row {rater} has {width} ratings but there are {items} items"
  | .unequalSeries automated human =>
    invalid "paired series" s!"automated has {automated} scores but human has {human}"
  | .nonFiniteScore series position kind =>
    invalid series.name s!"entry {position} is {kind.text}, scores must be finite"
  | .noHeader table => invalid table.name "missing header row"
  | .unlabelledColumn column =>
    invalid TableKind.survey.name s!"header column {column} has no item label"
  | .raggedCells rater cells items =>
    invalid TableKind.survey.name
      s!"rater row {rater} has {cells} cells but the header has {items} items"
  | .blankCell table row column => invalid table.name s!"row {row} column {column} is blank"
  | .notANumber table row column cell =>
    let shown := Quoted.text cell
    invalid table.name s!"row {row} column {column} is not a number: {shown}"
  | .missingColumn name header =>
    let names := ", ".intercalate header
    invalid TableKind.scores.name s!"column {name} not found in header [{names}]"

end AnalysisError

end InterRater
