import InterRater.Text.Split

/-!
# Paths

A path is a text of steps that slashes separate.  It is kept as it is written, because messages
and reports show it that way.
-/

namespace InterRater

namespace FilePath

/-- The steps of a path. -/
def steps (path : String) : List String :=
  (splitOn '/' path.toList).map String.ofList

/-- Whether a step leads nowhere. -/
def stays (step : String) : Bool :=
  step = "" || step = "."

def isAbsolute (path : String) : Bool :=
  path.toList.head? = some '/'

/-- Steps without those at the end that lead nowhere.  The first step is kept. -/
def trimEnd : List String → List String
  | [] => []
  | first :: rest => first :: (rest.reverse.dropWhile stays).reverse

/-- The directory that a path names a member of, `none` if the path has no directory in it. -/
def directory? (path : String) : Option String :=
  let directory := "/".intercalate (trimEnd (trimEnd (steps path)).dropLast)
  if directory = "" then none else some directory

end FilePath

end InterRater
