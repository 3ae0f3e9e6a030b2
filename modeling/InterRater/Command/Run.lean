import InterRater.Command.Basic
import InterRater.Command.Load
import InterRater.Number.Tail
import InterRater.Report.File

/-!
# Running commands

`Command.evaluate` computes what a command prints and reports from the files it reads; it changes
nothing.  `Command.run` does that in a file system and then writes the report file, if one is asked
for and the command has not failed.
-/

namespace InterRater

open Telling

/-- What a command comes to. -/
structure CommandProduct where
  printed : String
  report : Option ReportFile

namespace Failure

/-- The failure when scores cannot be compared. -/
def ofComparison : ComparisonFault → Failure
  | .series e => ⟨[], .data e⟩
  | .grouping e => ⟨[], .grouping e⟩
  | .group name e => ⟨[.compareGroup name], .data e⟩

/-- The failure when a survey cannot be described. -/
def ofDescription : DescriptionFault → Failure
  | .grouping e => ⟨[], .grouping e⟩
  | .item e => ⟨[], .data e⟩

end Failure

namespace Command

/-! ### Analyses -/

/-- The reliability of a survey. -/
def measure (config : Config Binary64) (path : String) (m : RatingMatrix) :
    Telling (ReliabilityReport Binary64) := do
  tell (m.singleRaterEvents "a single rater row cannot measure agreement between raters")
  let report ← ofResult (.inStage (.measureReliability path) .data)
    (ReliabilityReport.ofMatrix config m)
  tell (report.coefficientEvent :: report.events)
  return report

/-- The description of a survey. -/
def describeSurvey (config : Config Binary64) (path : String) (m : RatingMatrix) :
    Telling (DescribeReport Binary64) := do
  tell (m.singleRaterEvents "single rater row, every item has zero spread")
  let report ← ofResult (fun e => (Failure.ofDescription e).within (.describeSurvey path))
    (DescribeReport.ofMatrix config m)
  tell report.events
  return report

/-- The comparison of a score table. -/
def compareTable (config : Config Binary64) (path : String) (byMetric : Bool)
    (table : ScoreTable Binary64) : Telling (ComparisonReport Binary64) := do
  let failure (e : ComparisonFault) := (Failure.ofComparison e).within (.compareScores path)
  let overall ← ofResult failure (ComparisonReport.compareAll config table)
  tell overall.undefinedEvents
  let groups ← if byMetric then
      ofResult failure (ComparisonReport.compareGroups config table)
    else pure []
  tell (groups.flatMap ComparisonReport.outcomeEvents)
  let report : ComparisonReport Binary64 := ⟨overall, groups⟩
  tell report.events
  return report

/-! ### Commands -/

/-- The report file of a command, if one is asked for.  The table is read once more for its digest,
after the analysis. -/
def reportFile (command : Command) (generatedAt : String) (reader : FileReader)
    (config : Config Binary64) (source : String) (result : Json) :
    Telling (Option ReportFile) :=
  match command.reportPath? with
  | none => return none
  | some path => do
    let sourceSha256 ← readDigest reader source
    return some {
      path
      manifest := {
        generatedAt
        command := command.name.text
        sourcePath := source
        sourceSha256
        config
        result } }

/-- What a command comes to when it reads files by `reader`. -/
def evaluate (command : Command) (generatedAt : String) (reader : FileReader) :
    Telling CommandProduct := do
  let config ← Config.load reader command.configPath?
  match command with
  | .reliability arguments => do
    let source := arguments.surveyPath
    let m ← readSurvey reader source config.scale
    let report ← measure config source m
    return ⟨"", ← command.reportFile generatedAt reader config source report.toJson⟩
  | .describe arguments => do
    let source := arguments.surveyPath
    let m ← readSurvey reader source config.scale
    let report ← describeSurvey config source m
    return ⟨"", ← command.reportFile generatedAt reader config source report.toJson⟩
  | .compare arguments => do
    let source := arguments.scoresPath
    let table ← readScores reader source arguments.columns
    let report ← compareTable config source arguments.byMetric table
    return ⟨"", ← command.reportFile generatedAt reader config source report.toJson⟩
  | .config path => do
    tell [.info "effective analysis config" [("source", .text (path.getD "defaults"))]]
    return ⟨config.toJson.fileText, none⟩

end Command

/-! ### In a file system -/

/-- What is left of a command that has run. -/
structure CommandOutcome where
  /-- What is printed, or why the command has failed. -/
  result : Except Failure String
  events : List LogEvent
  files : FileSystem

namespace Command

/-- Runs a command in a file system. -/
def run (command : Command) (generatedAt : String) (files : FileSystem) : CommandOutcome :=
  match (command.evaluate generatedAt files.read).run [] with
  | (.error failure, events) => ⟨.error failure, events, files⟩
  | (.ok product, events) =>
    match product.report with
    | none => ⟨.ok product.printed, events, files⟩
    | some report =>
      match report.write files with
      | .error stopped => ⟨.error stopped.fault, events, stopped.files⟩
      | .ok written => ⟨.ok product.printed, events ++ [report.writtenEvent], written⟩

end Command

end InterRater
