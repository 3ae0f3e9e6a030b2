import InterRater.Command.Run
import InterRater.Command.Usage
import InterRater.Report.Timestamp
import Std.Time.DateTime.Timestamp

/-!
# The program

Reads the files that a command names, evaluates the command, and writes what it comes to.
-/

namespace InterRater

namespace Program

/-- Why an operation on a file has failed. -/
def reason : IO.Error → OsError
  | .noFileOrDirectory .. => .notFound
  | .alreadyExists .. => .alreadyExists
  | e => .other (toString e)

/-- The contents of a file. -/
def readFile (path : String) : IO (Except OsError ByteArray) := do
  try
    return .ok (← IO.FS.readBinFile path)
  catch e =>
    return .error (reason e)

/-- Writes a report file, with its directory. -/
def writeReport (report : ReportFile) : IO (Except Failure Unit) := do
  if let some directory := FilePath.directory? report.path then
    try
      IO.FS.createDirAll directory
    catch e =>
      return .error (.inStage (.makeReportDirectory directory) .file (reason e))
  try
    IO.FS.writeFile report.path report.manifest.toJson.fileText
    return .ok ()
  catch e =>
    return .error (.inStage (.createReport report.path) .file (reason e))

/-- Prints events to the error output. -/
def printEvents (events : List LogEvent) : IO Unit :=
  for event in events do
    if event.isShown .info then IO.eprintln event.text

/-- Prints why a command has failed. -/
def printFailure (failure : Failure) : IO UInt32 := do
  printEvents failure.events
  return 1

/-- The time on the clock. -/
def now : IO String := do
  let seconds := (← Std.Time.Timestamp.now).toSecondsSinceUnixEpoch.val
  return Timestamp.text seconds.toNat

/-- Runs a command. -/
def runCommand (command : Command) : IO UInt32 := do
  let paths := command.configPath?.toList ++ command.tablePath?.toList
  let contents ← paths.mapM fun path => return (path, ← readFile path)
  let reader (path : String) := (contents.lookup path).getD (.error .notFound)
  let (result, events) := (command.evaluate (← now) reader).run []
  printEvents events
  match result with
  | .error failure => printFailure failure
  | .ok product =>
    IO.print product.printed
    match product.report with
    | none => return 0
    | some report =>
      match ← writeReport report with
      | .error failure => printFailure failure
      | .ok _ =>
        printEvents [report.writtenEvent]
        return 0

/-- Shows what a line that is no command asks for. -/
def showFault (fault : LineFault) : IO UInt32 := do
  if fault.isRequest then
    IO.println fault.message
    return 0
  else
    IO.eprintln fault.message
    return 2

end Program

end InterRater

open InterRater in
/-- The command line is the name of a command and its options. -/
def main (arguments : List String) : IO UInt32 :=
  match Command.ofLine arguments with
  | .ok command => Program.runCommand command
  | .error fault => Program.showFault fault
