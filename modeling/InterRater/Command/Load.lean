import InterRater.Command.Events
import InterRater.Digest.Sha256
import InterRater.Failure
import InterRater.Table.Survey
import InterRater.Text.Utf8

/-!
# Reading what a command needs

The configuration and the table of a command are read from files.  What is read is told, and what
cannot be read makes the command fail.
-/

namespace InterRater

/-- A computation that may fail and that tells events while it runs. -/
abbrev Telling := ExceptT Failure (StateM (List LogEvent))

namespace Telling

/-- Tells events. -/
def tell (events : List LogEvent) : Telling Unit :=
  modify (· ++ events)

/-- A value, or the failure that is made of a fault. -/
def ofResult {ε β : Type} (failure : ε → Failure) : Except ε β → Telling β
  | .ok b => pure b
  | .error e => throw (failure e)

end Telling

open Telling

/-- How a file is read. -/
abbrev FileReader := String → Except OsError ByteArray

namespace Config

/-- The configuration in a file. -/
def ofFile (path : String) (bytes : ByteArray) : Except Failure (Config Binary64) := do
  let (text, complete) := Utf8.readable bytes
  let config ← (parse text.toList complete).mapError (.inStage (.parseConfig path) .configFile)
  match config.flaw? with
  | some flaw => throw (.inStage (.checkConfig path) .config flaw)
  | none => return config

/-- The configuration in effect: that of the file, if one is given, or the standard one. -/
def load (reader : FileReader) : Option String → Telling (Config Binary64)
  | none => pure standard
  | some path => do
    let bytes ← ofResult (.inStage (.read path) .file) (reader path)
    let config ← ofResult id (ofFile path bytes)
    tell [.info "loaded analysis config" [("path", .text path)]]
    return config

end Config

/-- The text of a table. -/
def readTable (reader : FileReader) (path : String) : Telling String := do
  let bytes ← ofResult (.inStage (.read path) .file) (reader path)
  match Utf8.decode? bytes with
  | some text => return text
  | none => throw (.inStage (.read path) .file .notText)

/-- The ratings of a survey table. -/
def readSurvey (reader : FileReader) (path : String) (scale : OrdinalScale) :
    Telling RatingMatrix := do
  let text ← readTable reader path
  let m ← ofResult (.inStage (.loadTable .survey path) .data) (Survey.parse text.toList scale)
  tell [m.loadedEvent path]
  return m

/-- The scores of a score table. -/
def readScores (reader : FileReader) (path : String) (columns : ScoreColumns) :
    Telling (ScoreTable Binary64) := do
  let text ← readTable reader path
  let table ← ofResult (.inStage (.loadTable .scores path) .data)
    (ScoreTable.parse text.toList columns)
  tell [table.loadedEvent path columns]
  return table

/-- The digest of a file. -/
def readDigest (reader : FileReader) (path : String) : Telling String := do
  let bytes ← ofResult (.inStage (.openForDigest path) .file) (reader path)
  return Sha256.hex bytes.data.toList

end InterRater
