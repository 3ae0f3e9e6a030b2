import InterRater.Json.Basic
import InterRater.Paired.Report
import InterRater.Rating.Description
import InterRater.Rating.Reliability

/-!
# Results as JSON

The JSON form of every result, with the keys in the order in which reports show them.  What is
absent is `null`, except the groups of a comparison, which are left out.
-/

namespace InterRater

namespace Correlation

def toJson (c : Correlation Binary64) : Json :=
  .object [("coefficient", .number c.coefficient), ("p_value", .number c.pValue),
    ("defined", .bool c.defined)]

end Correlation

namespace RatingSummary

def shareToJson (s : ValueShare Binary64) : Json :=
  .object [("value", .integer s.value), ("count", .ofNat s.count),
    ("percentage", .number s.percentage)]

def toJson (s : RatingSummary Binary64) : Json :=
  .object [
    ("count", .ofNat s.count),
    ("mean", .number s.mean),
    ("std_dev", .number s.stdDev),
    ("median", .number s.median),
    ("mode", .integer s.mode),
    ("min", .integer s.min),
    ("max", .integer s.max),
    ("range", .integer s.range),
    ("iqr", .number s.iqr),
    ("consensus_percentage", .number s.consensusPercentage),
    ("distribution", .ofList shareToJson s.distribution)]

end RatingSummary

namespace ItemAgreement

def toJson (a : ItemAgreement Binary64) : Json :=
  .object [
    ("variance_agreement", .number a.varianceAgreement),
    ("range_agreement", .number a.rangeAgreement),
    ("mode_agreement", .number a.modeAgreement),
    ("raw_composite", .number a.rawComposite),
    ("composite", .number a.composite),
    ("level", .string a.level.name)]

end ItemAgreement

namespace ReliabilityReport

def itemToJson (d : ItemDiagnostics Binary64) : Json :=
  .object [
    ("index", .ofNat d.item.index),
    ("label", .string d.item.label),
    ("ratings", .ofList .integer d.item.ratings),
    ("statistics", d.summary.toJson),
    ("agreement", d.agreement.toJson)]

def bandToJson (b : BandCount Binary64) : Json :=
  .object [("level", .string b.level.name), ("count", .ofNat b.count),
    ("percentage", .number b.percentage)]

def rankedToJson (r : RankedItem Binary64) : Json :=
  .object [("rank", .ofNat r.rank), ("index", .ofNat r.index), ("label", .string r.label),
    ("composite", .number r.composite)]

def spreadToJson (s : CompositeSpread Binary64) : Json :=
  .object [("mean", .number s.mean), ("min", .number s.min), ("max", .number s.max),
    ("std_dev", .number s.stdDev)]

def toJson (r : ReliabilityReport Binary64) : Json :=
  .object [
    ("rater_count", .ofNat r.raterCount),
    ("item_count", .ofNat r.itemCount),
    ("coefficient", .ofOption .number r.coefficient),
    ("level", .string r.level.name),
    ("items", .ofList itemToJson r.items),
    ("bands", .ofList bandToJson r.bands),
    ("spread", spreadToJson r.spread),
    ("ranking", .ofList rankedToJson r.ranking),
    ("best", .ofList rankedToJson r.best),
    ("worst", .ofList rankedToJson r.worst)]

end ReliabilityReport

namespace Comparison

def intervalToJson (i : ConfidenceInterval Binary64) : Json :=
  .object [("lower", .number i.lower), ("upper", .number i.upper),
    ("z_critical", .number i.zCritical)]

def seriesToJson (s : SeriesSummary Binary64) : Json :=
  .object [("mean", .number s.mean), ("std_dev", .number s.stdDev)]

def agreementToJson (a : SeriesAgreement Binary64) : Json :=
  .object [
    ("automated", seriesToJson a.automated),
    ("human", seriesToJson a.human),
    ("pearson", a.pearson.toJson),
    ("mean_abs_difference", .number a.meanAbsDifference),
    ("std_difference", .number a.stdDifference),
    ("exact_agreement_count", .ofNat a.exactCount),
    ("close_agreement_count", .ofNat a.closeCount),
    ("total_comparisons", .ofNat a.total)]

def toJson (c : Comparison Binary64) : Json :=
  .object [
    ("observations", .ofNat c.observations),
    ("correlation", .number c.correlation.coefficient),
    ("correlation_p_value", .number c.correlation.pValue),
    ("correlation_defined", .bool c.correlation.defined),
    ("interpretation", .string c.interpretation.phrase),
    ("significant", .bool c.significant),
    ("correlation_effect", .string c.correlationEffect.key),
    ("confidence_interval", .ofOption intervalToJson c.confidenceInterval),
    ("t_statistic", .ofOption .number c.test.statistic),
    ("t_p_value", .ofOption .number c.test.pValue),
    ("degrees_of_freedom", .ofNat c.degreesOfFreedom),
    ("difference_significant", .bool c.differenceSignificant),
    ("mean_difference", .number c.meanDifference),
    ("cohens_d", .ofOption .number c.test.cohensD),
    ("effect_size", .string c.effectSize.key),
    ("bias", .string c.bias.key),
    ("agreement", agreementToJson c.agreement)]

end Comparison

namespace ComparisonReport

def metricToJson (m : MetricComparison Binary64) : Json :=
  .object [
    ("metric", .ofOption .ofNat m.metric),
    ("name", .string m.name),
    ("labels", .ofList .string m.labels),
    ("comparison", m.comparison.toJson)]

/-- A member with a list, left out if the list is empty. -/
def listMember {β : Type} (key : String) (toJson : β → Json) (items : List β) :
    List (String × Json) :=
  if items.isEmpty then [] else [(key, .ofList toJson items)]

def toJson (r : ComparisonReport Binary64) : Json :=
  .object (("overall", r.overall.toJson) :: listMember "by_metric" metricToJson r.byMetric ++
    listMember "skipped_groups" .string r.skippedGroups)

end ComparisonReport

namespace DescribeReport

def itemToJson (d : ItemDescription Binary64) : Json :=
  .object [("index", .ofNat d.index), ("label", .string d.label),
    ("statistics", d.summary.toJson)]

def metricToJson (m : MetricDescription Binary64) : Json :=
  .object [
    ("metric", .ofOption .ofNat m.metric),
    ("name", .string m.name),
    ("items", .ofList itemToJson m.items),
    ("mean_of_means", .number m.meanOfMeans),
    ("mean_std_dev", .number m.meanStdDev),
    ("mean_consensus_percentage", .number m.meanConsensusPercentage),
    ("most_variable", .ofList .string m.mostVariable),
    ("least_variable", .ofList .string m.leastVariable)]

def toJson (r : DescribeReport Binary64) : Json :=
  .object [
    ("rater_count", .ofNat r.raterCount),
    ("item_count", .ofNat r.itemCount),
    ("metrics", .ofList metricToJson r.metrics)]

end DescribeReport

end InterRater
