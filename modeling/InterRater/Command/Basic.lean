import InterRater.Table.Scores

/-!
# Commands

What can be asked for: the reliability or the description of a survey table, the comparison of the
two columns of a score table, and the configuration in effect.
-/

namespace InterRater

/-- The arguments of the commands on survey tables. -/
structure SurveyArguments where
  surveyPath : String
  configPath : Option String
  reportPath : Option String
  deriving DecidableEq, Repr

/-- The arguments of the comparison of a score table. -/
structure CompareArguments where
  scoresPath : String
  columns : ScoreColumns
  byMetric : Bool
  configPath : Option String
  reportPath : Option String
  deriving DecidableEq, Repr

/-- A command with its arguments. -/
inductive Command where
  | reliability (arguments : SurveyArguments)
  | compare (arguments : CompareArguments)
  | describe (arguments : SurveyArguments)
  | config (configPath : Option String)
  deriving DecidableEq, Repr

/-- The names of the commands. -/
inductive CommandName where
  | reliability
  | compare
  | describe
  | config
  deriving DecidableEq, Repr

namespace CommandName

def all : List CommandName :=
  [reliability, compare, describe, config]

def text : CommandName → String
  | reliability => "reliability"
  | compare => "compare"
  | describe => "describe"
  | config => "config"

/-- The command with the given name. -/
def ofText? (text : String) : Option CommandName :=
  all.find? fun name => name.text = text

end CommandName

namespace Command

def name : Command → CommandName
  | reliability _ => .reliability
  | compare _ => .compare
  | describe _ => .describe
  | config _ => .config

/-- The path of the table that the command reads. -/
def tablePath? : Command → Option String
  | reliability arguments | describe arguments => some arguments.surveyPath
  | compare arguments => some arguments.scoresPath
  | config _ => none

def configPath? : Command → Option String
  | reliability arguments | describe arguments => arguments.configPath
  | compare arguments => arguments.configPath
  | config path => path

def reportPath? : Command → Option String
  | reliability arguments | describe arguments => arguments.reportPath
  | compare arguments => arguments.reportPath
  | config _ => none

end Command

end InterRater
