import InterRater.Command.Line

/-!
# Usage

What is shown when a command line asks for help or the version, or cannot be understood.
-/

namespace InterRater

/-- The name and version of the program. -/
def programVersion : String :=
  "interrater 0.1.0"

/-- How the program is called. -/
def usage : String :=
  "\n".intercalate [
    "Inter-rater reliability and agreement of automated and human scores",
    "",
    "  reliability --survey-path FILE [--config-path FILE] [--report-path FILE]",
    "  compare --scores-path FILE [--automated-column NAME] [--human-column NAME]",
    "    [--label-column NAME] [--by-metric] [--config-path FILE] [--report-path FILE]",
    "  describe --survey-path FILE [--config-path FILE] [--report-path FILE]",
    "  config [--config-path FILE]"]

namespace LineFault

/-- What is shown for a line that is no command. -/
def message : LineFault → String
  | empty | help => usage
  | version => programVersion
  | unknownCommand => "there is no such command"
  | missingOption => "a required option is missing"
  | missingValue => "an option has no value"
  | repeatedOption => "an option is given twice"
  | surplusValue => "an option that takes no value has one"
  | unknownWord => "there is an unexpected argument"

/-- Whether the line asks for something that can be shown. -/
def isRequest : LineFault → Bool
  | help | version => true
  | _ => false

end LineFault

end InterRater
