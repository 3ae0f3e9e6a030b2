import InterRater.Number.Digits
import InterRater.Pattern.Basic
import InterRater.Text.Blank
import InterRater.Text.CaseFold
import InterRater.Text.DecimalDigit
import InterRater.Text.Property

/-!
# Escapes in patterns

The options a part of a pattern is read under, and what a backslash and the characters behind it
stand for under them: a character, a set of characters or an assertion.
-/

namespace InterRater

namespace Pattern

/-! ### Options -/

/-- The options a part of a pattern is read under. -/
structure Options where
  /-- Letters stand for all their cases. -/
  caseless : Bool
  /-- The anchors match at line breaks. -/
  multiline : Bool
  /-- The dot matches a line break. -/
  dotAll : Bool
  /-- Repetitions are lazy unless marked. -/
  swapGreed : Bool
  /-- Blanks and comments between the signs are skipped. -/
  spaced : Bool
  /-- Sets are those of all scripts, else they are of ASCII characters. -/
  unicode : Bool
  /-- A carriage return is a line break. -/
  returns : Bool

namespace Options

def standard : Options :=
  ⟨false, false, false, false, false, true, false⟩

/-- The options after setting the one with the given letter. -/
def set (o : Options) (letter : Char) (value : Bool) : Option Options :=
  match letter with
  | 'i' => some { o with caseless := value }
  | 'm' => some { o with multiline := value }
  | 's' => some { o with dotAll := value }
  | 'U' => some { o with swapGreed := value }
  | 'x' => some { o with spaced := value }
  | 'u' => some { o with unicode := value }
  | 'R' => some { o with returns := value }
  | _ => none

/-- The characters that words consist of. -/
def wordChars (o : Options) : WordChars :=
  if o.unicode then .unicode else .ascii

/-- The set with all cases of its members, if letters stand for them. -/
def fold (o : Options) (s : CharSet) : CharSet :=
  if !o.caseless then s else if o.unicode then s.closeCase else s.closeAsciiCase

/-- The set or its complement.  Without the sets of all scripts there is no complement. -/
def negate (o : Options) (negated : Bool) (s : CharSet) : Option CharSet :=
  if !negated then some s else if o.unicode then some s.complement else none

/-- The pattern of a character that stands for itself and perhaps for its other cases. -/
def char (o : Options) (c : Char) : Pattern :=
  if !o.caseless then Pattern.char c
  else ofSet (.ofList (if o.unicode then caseVariants c else asciiCaseVariants c))

end Options

/-- The text without the blanks and comments at its start, `fuel` comments at most. -/
def skipComments : (fuel : Nat) → List Char → List Char
  | 0, text => text
  | fuel + 1, text =>
    match trimLeft text with
    | '#' :: rest => skipComments fuel (rest.dropWhile (· ≠ '\n'))
    | rest => rest

/-- The text at the next sign. -/
def skip (o : Options) (text : List Char) : List Char :=
  if o.spaced then skipComments (text.length + 1) text else text

/-! ### Code points -/

/-- The character whose code point is written in hexadecimal digits. -/
def codePoint? (digits : List Char) : Option Char := do
  if digits.isEmpty then none
  else
    let code ← hexValue? digits
    if code.isValidChar then some (Char.ofNat code) else none

/-- The next `count` signs. -/
def readSigns (o : Options) : (count : Nat) → List Char → Option (List Char × List Char)
  | 0, rest => some ([], rest)
  | count + 1, text =>
    match skip o text with
    | [] => none
    | c :: rest => do
      let (signs, rest) ← readSigns o count rest
      return (c :: signs, rest)

/-- The signs up to a closing brace, `fuel` at most. -/
def readBraced (o : Options) : (fuel : Nat) → List Char → Option (List Char × List Char)
  | 0, _ => none
  | fuel + 1, text =>
    match skip o text with
    | [] => none
    | '\x7d' :: rest => some ([], rest)
    | c :: rest => do
      let (signs, rest) ← readBraced o fuel rest
      return (c :: signs, rest)

/-- A code point of `count` digits, or of any number of digits in braces. -/
def readCodePoint (o : Options) (count : Nat) (text : List Char) : Option (Char × List Char) := do
  let (digits, rest) ← match skip o text with
    | '\x7b' :: rest => readBraced o (rest.length + 1) rest
    | rest => readSigns o count rest
  return (← codePoint? digits, rest)

/-- A code point of two digits, or of any number of digits in braces.  Without the sets of all
scripts, two digits stand for a byte, and only an ASCII character is one. -/
def readByte (o : Options) (text : List Char) : Option (Char × List Char) := do
  let (c, rest) ← readCodePoint o 2 text
  let braced := (skip o text).head? = some '\x7b'
  if o.unicode || braced || c.toNat < 128 then return (c, rest) else none

/-! ### Sets by name -/

/-- The set of characters with a property, which has a name in braces or of one letter. -/
def readProperty (o : Options) (negated : Bool) (text : List Char) :
    Option (CharSet × List Char) := do
  let (name, rest) ← match skip o text with
    | '\x7b' :: rest => readBraced o (rest.length + 1) rest
    | c :: rest => if c = '\\' then none else some ([c], rest)
    | [] => none
  if !o.unicode then none
  else
    let s ← CharSet.withProperty? name
    return (← o.negate negated (o.fold s), rest)

/-- The sets that are written by a small letter. -/
def lettered (o : Options) : Char → Option CharSet
  | 'd' => some (if o.unicode then decimalDigits else .range '0' '9')
  | 's' => some (if o.unicode then blanks else .union (.range '\t' '\r') (.single ' '))
  | 'w' => some o.wordChars.set
  | _ => none

/-! ### Places -/

/-- Whether the character may stand in the name of an edge of words. -/
def isEdgeNameChar (c : Char) : Bool :=
  c.isAlpha || c = '-'

/-- The signs that may stand in the name of an edge of words, `fuel` at most. -/
def readEdgeName (o : Options) : (fuel : Nat) → List Char → List Char × List Char
  | 0, text => ([], text)
  | fuel + 1, text =>
    match skip o text with
    | c :: rest =>
      if isEdgeNameChar c then
        let (name, rest) := readEdgeName o fuel rest
        (c :: name, rest)
      else ([], c :: rest)
    | [] => ([], [])

/-- The edge of words with the given name. -/
def namedEdge? (w : WordChars) (name : List Char) : Option Assertion :=
  if name = "start".toList then some (.wordStart w)
  else if name = "end".toList then some (.wordEnd w)
  else if name = "start-half".toList then some (.wordStartHalf w)
  else if name = "end-half".toList then some (.wordEndHalf w)
  else none

/-- An edge of words.  A name in braces says which one; braces that start with no name are a
repetition of the edge. -/
def readEdge (o : Options) (text : List Char) : Option (Assertion × List Char) :=
  match text with
  | '\x7b' :: rest =>
    match readEdgeName o (rest.length + 1) rest, skip o rest with
    | _, [] => none
    | ([], _), _ => some (.wordEdge o.wordChars, text)
    | (name, '\x7d' :: rest), _ => (namedEdge? o.wordChars name).map (·, rest)
    | _, _ => none
  | _ => some (.wordEdge o.wordChars, text)

/-! ### Escapes -/

/-- What an escape stands for. -/
inductive Escape where
  | literal (c : Char)
  | set (s : CharSet)
  | assert (a : Assertion)

/-- Whether an escaped character stands for itself. -/
def escapesItself (c : Char) : Bool :=
  c.toNat < 128 && !c.isAlphanum && c ≠ '<' && c ≠ '>'

/-- What follows a backslash. -/
def readEscape (o : Options) : List Char → Option (Escape × List Char)
  | [] => none
  | c :: rest =>
    let literal (p : Char × List Char) : Escape × List Char := (.literal p.1, p.2)
    let set (p : CharSet × List Char) : Escape × List Char := (.set p.1, p.2)
    match c with
    | 'x' => (readByte o rest).map literal
    | 'u' => (readCodePoint o 4 rest).map literal
    | 'U' => (readCodePoint o 8 rest).map literal
    | 'p' => (readProperty o false rest).map set
    | 'P' => (readProperty o true rest).map set
    | 'a' => some (.literal '\x07', rest)
    | 'f' => some (.literal '\x0c', rest)
    | 't' => some (.literal '\t', rest)
    | 'n' => some (.literal '\n', rest)
    | 'r' => some (.literal '\r', rest)
    | 'v' => some (.literal '\x0b', rest)
    | 'A' => some (.assert .textStart, rest)
    | 'z' => some (.assert .textEnd, rest)
    | 'b' => (readEdge o rest).map fun (a, rest) => (.assert a, rest)
    | 'B' => some (.assert (.noWordEdge o.wordChars), rest)
    | '<' => some (.assert (.wordStart o.wordChars), rest)
    | '>' => some (.assert (.wordEnd o.wordChars), rest)
    | _ =>
      match lettered o c, lettered o c.toLower with
      | some s, _ => some (.set s, rest)
      | none, some s => (o.negate true s).map fun s => (.set s, rest)
      | none, none => if escapesItself c then some (.literal c, rest) else none

end Pattern

end InterRater
