import InterRater.Failure
import InterRater.Log
import InterRater.Report.Manifest

/-!
# Report files

A report file holds one manifest.  The directories on the way to it are made if they are missing.
-/

namespace InterRater

namespace FileSystem

/-- The file system with the directory made that the file at a path is in. -/
def makeParent (files : FileSystem) (path : String) : Except (Stopped Failure) FileSystem :=
  match FilePath.directory? path with
  | none => .ok files
  | some directory => (files.makeDirectories directory).mapError
      (Stopped.mapFault (.inStage (.makeReportDirectory directory) .file))

/-- The file system with a JSON value saved in the file at a path.  Directories that have been made
stay if the file cannot be created. -/
def saveJson (files : FileSystem) (path : String) (value : Json) :
    Except (Stopped Failure) FileSystem := do
  let files ← files.makeParent path
  (files.write path value.fileText.toUTF8).mapError fun e =>
    ⟨.inStage (.createReport path) .file e, files⟩

/-- The file system with a JSON value saved, or only why it could not be. -/
def writeJson (files : FileSystem) (path : String) (value : Json) : Except Failure FileSystem :=
  (files.saveJson path value).mapError Stopped.fault

end FileSystem

/-- A report that is to be written. -/
structure ReportFile where
  path : String
  manifest : Manifest

namespace ReportFile

/-- The file system with the report written. -/
def write (report : ReportFile) (files : FileSystem) : Except (Stopped Failure) FileSystem :=
  files.saveJson report.path report.manifest.toJson

/-- The event of a report that has been written. -/
def writtenEvent (report : ReportFile) : LogEvent :=
  .info "wrote report" [("command", .text report.manifest.command), ("path", .text report.path)]

end ReportFile

end InterRater
