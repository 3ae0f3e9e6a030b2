/-!
# Splitting texts

`splitOn` cuts a text at a separator.  A text has one part more than it has separators.
-/

namespace InterRater

/-- The parts of a text between the separators. -/
def splitOn (separator : Char) : List Char → List (List Char)
  | [] => [[]]
  | c :: rest =>
    if c = separator then [] :: splitOn separator rest
    else
      match splitOn separator rest with
      | [] => [[c]]
      | part :: parts => (c :: part) :: parts

end InterRater
