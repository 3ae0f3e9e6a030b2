import InterRater.Config.File
import InterRater.Error
import InterRater.Files.FileSystem
import InterRater.Label.Group

/-!
# Failures

A `Failure` says why a command has failed, its cause, and what the command was doing, its stages
from the outermost on.  Its message names the stages and then the cause.
-/

namespace InterRater

/-- What a command is doing. -/
inductive Stage where
  | read (path : String)
  | openForDigest (path : String)
  | parseConfig (path : String)
  | checkConfig (path : String)
  | loadTable (table : TableKind) (path : String)
  | measureReliability (path : String)
  | compareScores (path : String)
  | compareGroup (name : String)
  | describeSurvey (path : String)
  | makeReportDirectory (path : String)
  | createReport (path : String)
  deriving DecidableEq, Repr

namespace Stage

/-- The wording of what has failed. -/
def message : Stage → String
  | read path => s!"failed to read {path}"
  | openForDigest path => s!"failed to open {path} for hashing"
  | parseConfig path => s!"failed to parse config {path}"
  | checkConfig path => s!"invalid config {path}"
  | loadTable table path => s!"failed to load {table.name} {path}"
  | measureReliability path => s!"reliability analysis failed for {path}"
  | compareScores path => s!"paired comparison failed for {path}"
  | compareGroup name => s!"invalid scores in metric group {name}"
  | describeSurvey path => s!"failed to describe {path}"
  | makeReportDirectory path => s!"failed to create report directory {path}"
  | createReport path => s!"failed to create report {path}"

end Stage

/-- Why a command fails. -/
inductive Cause where
  | file (e : OsError)
  | configFile (e : ConfigFileFault)
  | config (e : ConfigFlaw Binary64)
  | data (e : AnalysisError)
  | grouping (e : GroupingFault)
  deriving DecidableEq, Repr

namespace Cause

/-- The wording of a cause, in parts.  A text that is no JSON is left without one. -/
def messages : Cause → List String
  | file e => [e.message]
  | configFile e => e.message?.toList
  | config e => [e.message]
  | data e => [e.message]
  | grouping e => e.messages

end Cause

/-- The failure of a command. -/
structure Failure where
  /-- What the command was doing, outermost first. -/
  stages : List Stage
  cause : Cause
  deriving DecidableEq, Repr

namespace Failure

/-- The wording of a failure, in parts. -/
def messages (failure : Failure) : List String :=
  failure.stages.map Stage.message ++ failure.cause.messages

/-- The wording of a failure. -/
def message (failure : Failure) : String :=
  ": ".intercalate failure.messages

/-- The failure seen from the stage it happened in. -/
def within (failure : Failure) (stage : Stage) : Failure :=
  { failure with stages := stage :: failure.stages }

/-- The failure for a cause in one stage. -/
def inStage {ε : Type} (stage : Stage) (cause : ε → Cause) (e : ε) : Failure :=
  ⟨[stage], cause e⟩

end Failure

end InterRater
