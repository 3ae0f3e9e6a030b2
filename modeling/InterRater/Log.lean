import InterRater.Number.Shortest

/-!
# Log events

What the commands tell while they run.  An event has a level, a message and named values.
-/

namespace InterRater

/-- How grave an event is. -/
inductive LogLevel where
  | error
  | warn
  | info
  | debug
  deriving DecidableEq, Repr

namespace LogLevel

def name : LogLevel → String
  | error => "ERROR"
  | warn => "WARN"
  | info => "INFO"
  | debug => "DEBUG"

/-- The number of graver levels. -/
def rank : LogLevel → Nat
  | error => 0
  | warn => 1
  | info => 2
  | debug => 3

end LogLevel

/-- The value of a field. -/
inductive LogValue where
  | text (s : String)
  | integer (n : Int)
  | bool (b : Bool)
  | number (x : Binary64)
  deriving DecidableEq, Repr

/-- Something that has happened. -/
structure LogEvent where
  level : LogLevel
  message : String
  fields : List (String × LogValue)
  deriving DecidableEq, Repr

namespace LogValue

/-- A value as text. -/
def toText : LogValue → String
  | text s => s
  | integer n => toString n
  | bool b => toString b
  | number x => NumberLayout.literal.text x

end LogValue

namespace LogEvent

/-- An event on a line. -/
def text (event : LogEvent) : String :=
  " ".intercalate
    (event.level.name :: event.message :: event.fields.map fun (key, value) =>
      s!"{key}={value.toText}")

/-- Whether the event is shown where events of `level` are. -/
def isShown (event : LogEvent) (level : LogLevel) : Bool :=
  event.level.rank ≤ level.rank

def info (message : String) (fields : List (String × LogValue)) : LogEvent :=
  ⟨.info, message, fields⟩

def warn (message : String) (fields : List (String × LogValue)) : LogEvent :=
  ⟨.warn, message, fields⟩

def debug (message : String) (fields : List (String × LogValue)) : LogEvent :=
  ⟨.debug, message, fields⟩

end LogEvent

end InterRater
