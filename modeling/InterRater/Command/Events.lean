import InterRater.Failure
import InterRater.Log
import InterRater.Paired.Report
import InterRater.Rating.Description
import InterRater.Rating.Reliability

/-!
# What the commands tell of their results

The log events of tables, reports and comparisons, in the order in which they are told.
-/

namespace InterRater

namespace Failure

/-- The events of a failure: what has failed, and each thing that it is caused by. -/
def events (failure : Failure) : List LogEvent :=
  match failure.messages with
  | [] => []
  | first :: causes =>
    ⟨.error, "command failed", [("error", .text first)]⟩ ::
      causes.map fun cause => ⟨.error, "caused by", [("cause", .text cause)]⟩

end Failure

namespace RatingMatrix

/-- The event of a survey table that has been read. -/
def loadedEvent (m : RatingMatrix) (path : String) : LogEvent :=
  .info "loaded survey table"
    [("path", .text path), ("raters", .integer m.raterCount), ("items", .integer m.itemCount)]

/-- A warning, in the given words, if there is a single rater. -/
def singleRaterEvents (m : RatingMatrix) (message : String) : List LogEvent :=
  if m.raterCount = 1 then [.warn message []] else []

end RatingMatrix

namespace ScoreTable

/-- The event of a score table that has been read. -/
def loadedEvent (table : ScoreTable Binary64) (path : String) (columns : ScoreColumns) :
    LogEvent :=
  .info "loaded scores table"
    [("path", .text path), ("samples", .integer table.length),
      ("automated", .text columns.automated), ("human", .text columns.human)]

end ScoreTable

namespace ReliabilityReport

/-- A coefficient that may be absent, as text. -/
def coefficientText : Option Binary64 → String
  | some x =>
    let shown := NumberLayout.literal.text x
    s!"Some({shown})"
  | none => "None"

/-- The event of the coefficient. -/
def coefficientEvent (r : ReliabilityReport Binary64) : LogEvent :=
  match r.coefficient with
  | some x =>
    .debug "computed ordinal reliability"
      [("coefficient", .number x), ("level", .text r.level.name)]
  | none => .warn "every rating has the same value, ordinal reliability is undefined" []

def bandEvent (b : BandCount Binary64) : LogEvent :=
  .info "item agreement band"
    [("level", .text b.level.name), ("items", .integer b.count),
      ("percentage", .number b.percentage)]

def rankedEvent (message : String) (r : RankedItem Binary64) : LogEvent :=
  .info message
    [("rank", .integer r.rank), ("item", .text r.label), ("composite", .number r.composite)]

/-- The events of a report. -/
def events (r : ReliabilityReport Binary64) : List LogEvent :=
  [.info "corpus reliability"
    [("raters", .integer r.raterCount), ("items", .integer r.itemCount),
      ("coefficient", .text (coefficientText r.coefficient)), ("level", .text r.level.name)]] ++
  r.bands.map bandEvent ++
  [.info "composite agreement spread"
    [("mean", .number r.spread.mean), ("min", .number r.spread.min), ("max", .number r.spread.max),
      ("std_dev", .number r.spread.stdDev)]] ++
  r.best.map (rankedEvent "highest agreement") ++
  r.worst.map (rankedEvent "lowest agreement")

end ReliabilityReport

namespace Comparison

/-- The event of a rank correlation that is undefined, found while comparing. -/
def undefinedEvents (c : Comparison Binary64) : List LogEvent :=
  if c.correlation.defined then []
  else [.debug "rank correlation undefined for constant series"
    [("observations", .integer c.observations)]]

/-- A warning if the rank correlation is undefined. -/
def constantEvents (c : Comparison Binary64) (scope : String) : List LogEvent :=
  if c.correlation.defined then []
  else [.warn "one series is constant, rank correlation reported as 0 with p = 1"
    [("scope", .text scope)]]

def correlationEvent (c : Comparison Binary64) (scope : String) : LogEvent :=
  .info "rank correlation"
    [("scope", .text scope), ("samples", .integer c.observations),
      ("correlation", .number c.correlation.coefficient),
      ("p_value", .number c.correlation.pValue),
      ("interpretation", .text c.interpretation.phrase), ("significant", .bool c.significant)]

def intervalEvent (c : Comparison Binary64) (scope : String) : LogEvent :=
  match c.confidenceInterval with
  | some interval =>
    .info "correlation confidence interval"
      [("scope", .text scope), ("lower", .number interval.lower), ("upper", .number interval.upper)]
  | none =>
    .warn "too few samples for a correlation confidence interval"
      [("scope", .text scope), ("samples", .integer c.observations)]

def differenceEvent (c : Comparison Binary64) (scope : String) : LogEvent :=
  match c.test.statistic, c.test.pValue with
  | some t, some p =>
    .info "paired difference"
      [("scope", .text scope), ("t_statistic", .number t), ("p_value", .number p),
        ("mean_difference", .number c.meanDifference), ("effect_size", .text c.effectSize.name),
        ("bias", .text c.bias.name)]
  | _, _ =>
    .warn "every sample differs by the same amount, treating the shift as certain"
      [("scope", .text scope), ("mean_difference", .number c.meanDifference),
        ("bias", .text c.bias.name)]

def agreementEvent (c : Comparison Binary64) (scope : String) : LogEvent :=
  .info "score agreement"
    [("scope", .text scope), ("mean_abs_difference", .number c.agreement.meanAbsDifference),
      ("exact", .integer c.agreement.exactCount), ("close", .integer c.agreement.closeCount),
      ("total", .integer c.agreement.total)]

/-- The events of a comparison of the named scope. -/
def events (c : Comparison Binary64) (scope : String) : List LogEvent :=
  c.constantEvents scope ++
    [c.correlationEvent scope, c.intervalEvent scope, c.differenceEvent scope,
      c.agreementEvent scope]

end Comparison

namespace ComparisonReport

/-- The name of the scope of all lines. -/
def overallScope : String :=
  "all"

/-- The events of a group while it is compared or skipped. -/
def outcomeEvents : GroupOutcome Binary64 → List LogEvent
  | .compared result => result.comparison.undefinedEvents
  | .skipped name lines =>
    [.warn "skipping metric group with too few samples"
      [("metric", .text name), ("samples", .integer lines)]]

/-- The events of a report. -/
def events (r : ComparisonReport Binary64) : List LogEvent :=
  r.overall.events overallScope ++ r.byMetric.flatMap fun m => m.comparison.events m.name

end ComparisonReport

namespace DescribeReport

def itemEvent (d : ItemDescription Binary64) : LogEvent :=
  .debug "item statistics"
    [("item", .text d.label), ("mean", .number d.summary.mean),
      ("median", .number d.summary.median), ("mode", .integer d.summary.mode),
      ("range", .integer d.summary.range)]

def metricEvents (m : MetricDescription Binary64) : List LogEvent :=
  [.info "metric summary"
      [("metric", .text m.name), ("items", .integer m.items.length),
        ("mean", .number m.meanOfMeans), ("std_dev", .number m.meanStdDev),
        ("consensus", .number m.meanConsensusPercentage)],
    .info "metric variability"
      [("metric", .text m.name), ("most_variable", .text (Quoted.list m.mostVariable)),
        ("least_variable", .text (Quoted.list m.leastVariable))]] ++
  m.items.map itemEvent

/-- The events of a report. -/
def events (r : DescribeReport Binary64) : List LogEvent :=
  r.metrics.flatMap metricEvents

end DescribeReport

end InterRater
