import InterRater.Config.File
import InterRater.Report.Encode

/-!
# Manifests

A manifest is the result of a command, with the configuration it was computed under and the digest
of the table it was computed from.
-/

namespace InterRater

/-- A result and where it comes from. -/
structure Manifest where
  generatedAt : String
  command : String
  sourcePath : String
  sourceSha256 : String
  config : Config Binary64
  result : Json

namespace Manifest

/-- The version of the form of manifests. -/
def version : Nat :=
  1

def toJson (m : Manifest) : Json :=
  .object [
    ("manifest_version", .ofNat version),
    ("generated_at", .string m.generatedAt),
    ("command", .string m.command),
    ("source_path", .string m.sourcePath),
    ("source_sha256", .string m.sourceSha256),
    ("config", m.config.toJson),
    ("result", m.result)]

end Manifest

end InterRater
