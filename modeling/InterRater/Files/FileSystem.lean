import InterRater.Files.Path

/-!
# File systems

A `FileSystem` says for every location what is there.  Locations are lists of names from the root
on; a path is followed step by step, from the working directory or from the root.
-/

namespace InterRater

/-- Why a file cannot be read or written. -/
inductive OsError where
  | notFound
  | alreadyExists
  | notDirectory
  | isDirectory
  /-- The bytes of the file are no text. -/
  | notText
  /-- Any other reason, in its own words. -/
  | other (reason : String)
  deriving DecidableEq, Repr

namespace OsError

/-- The wording of a reason. -/
def message : OsError → String
  | notFound => "No such file or directory (os error 2)"
  | alreadyExists => "File exists (os error 17)"
  | notDirectory => "Not a directory (os error 20)"
  | isDirectory => "Is a directory (os error 21)"
  | notText => "stream did not contain valid UTF-8"
  | other reason => reason

end OsError

/-- What is at a location. -/
inductive Entry where
  | file (contents : ByteArray)
  | directory

/-- Files and directories by their locations. -/
structure FileSystem where
  entry? : List String → Option Entry
  workingDirectory : List String

/-- Why an operation on files has stopped, and the files as it has left them. -/
structure Stopped (ε : Type) where
  fault : ε
  files : FileSystem

namespace Stopped

def mapFault {ε δ : Type} (f : ε → δ) (stopped : Stopped ε) : Stopped δ :=
  ⟨f stopped.fault, stopped.files⟩

end Stopped

namespace FileSystem

/-- The file system with nothing but a working directory. -/
def empty (workingDirectory : List String) : FileSystem :=
  ⟨fun location => if location <+: workingDirectory then some .directory else none,
    workingDirectory⟩

/-- The file system with `entry` at a location. -/
def insert (files : FileSystem) (location : List String) (entry : Entry) : FileSystem :=
  { files with entry? := fun l => if l = location then some entry else files.entry? l }

/-- Where a path starts. -/
def start (files : FileSystem) (path : String) : List String :=
  if FilePath.isAbsolute path then [] else files.workingDirectory

/-- One step from a location, which must be a directory. -/
def step (files : FileSystem) (here : List String) (name : String) :
    Except OsError (List String) :=
  match files.entry? here with
  | none => .error .notFound
  | some (.file _) => .error .notDirectory
  | some .directory =>
    if FilePath.stays name then .ok here
    else if name = ".." then .ok here.dropLast
    else .ok (here ++ [name])

/-- The location that a path leads to, where there may be nothing. -/
def locate (files : FileSystem) (path : String) : Except OsError (List String) :=
  (FilePath.steps path).foldlM files.step (files.start path)

/-- The contents of a file. -/
def read (files : FileSystem) (path : String) : Except OsError ByteArray := do
  let location ← files.locate path
  match files.entry? location with
  | none => throw .notFound
  | some .directory => throw .isDirectory
  | some (.file contents) => return contents

/-- The file system with the file at a path created or replaced. -/
def write (files : FileSystem) (path : String) (contents : ByteArray) :
    Except OsError FileSystem := do
  if (FilePath.steps path).getLast? = some "" then throw .isDirectory
  let location ← files.locate path
  match files.entry? location with
  | some .directory => throw .isDirectory
  | _ => return files.insert location (.file contents)

/-- The file system with all directories made that steps from `here` lead through.  A file in the
way stops it; what has been made is left.  `made` says whether some directory has been made: then
the file itself is found in the way, else a path through it. -/
def makeDirectoriesFrom (files : FileSystem) (made : Bool) (here : List String) :
    List String → Except (Stopped OsError) FileSystem
  | [] => .ok files
  | name :: rest =>
    if FilePath.stays name then makeDirectoriesFrom files made here rest
    else if name = ".." then makeDirectoriesFrom files made here.dropLast rest
    else
      let next := here ++ [name]
      match files.entry? next with
      | none => makeDirectoriesFrom (files.insert next .directory) true next rest
      | some .directory => makeDirectoriesFrom files made next rest
      | some (.file _) =>
        .error ⟨if made || rest.isEmpty then .alreadyExists else .notDirectory, files⟩

/-- The file system with a directory made, and those it is in. -/
def makeDirectories (files : FileSystem) (path : String) : Except (Stopped OsError) FileSystem :=
  files.makeDirectoriesFrom false (files.start path) (FilePath.steps path)

end FileSystem

end InterRater
