import InterRater.Pattern.Brackets
import InterRater.Pattern.Program
import InterRater.Pattern.Size

/-!
# Reading patterns

The written form of patterns: literals, escapes, sets in brackets, groups, choices with a bar,
repetition signs and option settings.  `Pattern.read?` refuses a text that breaks the rules, one
whose parts stand too deep in one another, and one whose program would be too large.
-/

namespace InterRater

namespace Pattern

/-! ### Repetitions -/

/-- A number of rounds.  Blanks may stand around it. -/
def readCount (o : Options) (text : List Char) : Option (Nat × List Char) :=
  let (digits, rest) := readDigits (text.length + 1) (trimLeft text)
  if digits.isEmpty || UInt32.size ≤ digitsValue digits then none
  else some (digitsValue digits, skip o (trimLeft rest))
where
  readDigits : (fuel : Nat) → List Char → List Char × List Char
    | fuel + 1, c :: rest =>
      if isDigit c then
        let (digits, rest) := readDigits fuel (skip o rest)
        (c :: digits, rest)
      else ([], c :: rest)
    | _, rest => ([], rest)

/-- The numbers of rounds in braces, from behind the opening brace on. -/
def readCounts (o : Options) (text : List Char) : Option ((Nat × Option Nat) × List Char) := do
  let (least, rest) ← readCount o (skip o text)
  match rest with
  | '\x7d' :: rest => some ((least, some least), rest)
  | ',' :: rest =>
    match skip o rest with
    | '\x7d' :: rest => some ((least, none), rest)
    | rest =>
      let (most, rest) ← readCount o rest
      match rest with
      | '\x7d' :: rest => if most < least then none else some ((least, some most), rest)
      | _ => none
  | _ => none

/-- A repetition sign, and whether it is marked as lazy. -/
def readRounds (o : Options) : List Char → Option ((Nat × Option Nat × Bool) × List Char)
  | '*' :: rest => some (marked 0 none rest)
  | '+' :: rest => some (marked 1 none rest)
  | '?' :: rest => some (marked 0 (some 1) rest)
  | '\x7b' :: rest => do
    let ((least, most), rest) ← readCounts o rest
    return marked least most (skip o rest)
  | _ => none
where
  marked (least : Nat) (most : Option Nat) : List Char → (Nat × Option Nat × Bool) × List Char
    | '?' :: rest => ((least, most, o.swapGreed), rest)
    | rest => ((least, most, !o.swapGreed), rest)

/-! ### Groups -/

/-- The option letters at the start of a group, up to the character that ends them.  `set` holds
the letters met so far. -/
def readOptions (o : Options) (value : Bool) (set : List Char) (dangling : Bool) :
    List Char → Option (Options × Char × List Char)
  | [] => none
  | c :: rest =>
    if c = ':' || c = ')' then if dangling then none else some (o, c, rest)
    else if c = '-' then if value then readOptions o false set true rest else none
    else if set.contains c then none
    else do readOptions (← o.set c value) value (c :: set) false rest

/-- The name of a group, up to its closing bracket. -/
def readName (text : List Char) : Option (List Char × List Char) :=
  match text.span (· ≠ '>') with
  | (first :: others, _ :: rest) =>
    let starts := first = '_' || CharSet.alphabetic.contains first
    let continues (c : Char) : Bool := ['_', '.', '[', ']'].contains c ||
      CharSet.alphabetic.contains c || CharSet.numeric.contains c
    if starts && others.all continues then some (first :: others, rest) else none
  | _ => none

/-- What is still to be read of a pattern, and the groups met so far. -/
structure Source where
  rest : List Char
  groups : Nat
  names : List (List Char)

/-- How a group starts. -/
inductive Opening where
  | captured
  | named (name : List Char)
  | plain (o : Options)
  /-- No group, but options for what follows. -/
  | setting (o : Options)

/-- The start of a group from behind its parenthesis on. -/
def readOpening (o : Options) (text : List Char) : Option (Opening × List Char) :=
  match skip o text with
  | '?' :: 'P' :: '<' :: rest => do
    let (name, rest) ← readName rest
    return (.named name, rest)
  | '?' :: '<' :: rest => do
    let (name, rest) ← readName rest
    return (.named name, rest)
  | '?' :: rest => do
    let (o, stop, after) ← readOptions o true [] false rest
    if stop = ':' then return (.plain o, after)
    else if rest.head? = some ')' then none
    else return (.setting o, after)
  | rest => some (.captured, rest)

/-! ### Patterns -/

/-- A part of a pattern that has been read, and how deep its written form is nested. -/
structure Part where
  pattern : Pattern
  depth : Nat
  /-- Whether the part is an option setting, which stands for nothing. -/
  isSetting : Bool

namespace Part

/-- How deep a written form of the given parts is nested. -/
def depthOf : List Part → Nat
  | [p] => p.depth
  | ps => (ps.map (·.depth + 1)).foldl max 0

/-- The parts one after the other.  The last one is the first of the list. -/
def seq (ps : List Part) : Part :=
  ⟨concat (ps.map (·.pattern)).reverse, depthOf ps, false⟩

/-- The choice between branches, the last of which is the first of the list. -/
def choice : List Part → Part
  | [p] => p
  | ps => ⟨alternation (ps.map (·.pattern)).reverse, depthOf ps, false⟩

end Part

/-- A sign that stands for one part. -/
def readSign (o : Options) (room : Nat) (c : Char) (rest : List Char) :
    Option (Part × List Char) :=
  match c with
  | '\\' => do
    let (e, rest) ← readEscape o rest
    match e with
    | .literal c => return (⟨o.char c, 0, false⟩, rest)
    | .set s => return (⟨ofSet s, 0, false⟩, rest)
    | .assert a => return (⟨.assert a, 0, false⟩, rest)
  | '.' => do
    let breaks : CharSet := if o.dotAll then .empty
      else if o.returns then .ofList ['\n', '\r'] else .single '\n'
    return (⟨ofSet (← o.negate true breaks), 0, false⟩, rest)
  | '^' => some (⟨.assert (if o.multiline then .lineStart o.returns else .textStart), 0, false⟩,
      rest)
  | '$' => some (⟨.assert (if o.multiline then .lineEnd o.returns else .textEnd), 0, false⟩, rest)
  | '[' => do
    let (s, rest) ← readBrackets o room rest
    return (⟨ofSet s.set, s.depth, false⟩, rest)
  | c => some (⟨o.char c, 0, false⟩, rest)

/-- The rest of a pattern, or of a group if `inGroup`.  `branches` have been completed, `parts`
are those of the current one; both lists are in reverse.  Groups may stand in one another to the
depth `room`. -/
def readParts : (fuel room : Nat) → (inGroup : Bool) → Options → (branches : List Part) →
    (parts : List Part) → Source → Option (Part × Source)
  | 0, _, _, _, _, _, _ => none
  | fuel + 1, room, inGroup, o, branches, parts, s =>
    match skip o s.rest with
    | [] => if inGroup then none else some (.choice (.seq parts :: branches), { s with rest := [] })
    | ')' :: rest =>
      if inGroup then some (.choice (.seq parts :: branches), { s with rest }) else none
    | '|' :: rest => readParts fuel room inGroup o (.seq parts :: branches) [] { s with rest }
    | '(' :: rest => do
      let (opening, rest) ← readOpening o rest
      let index := s.groups + 1
      match opening, room with
      | .setting o, _ =>
        readParts fuel room inGroup o branches (⟨.empty, 0, true⟩ :: parts) { s with rest }
      | _, 0 => none
      | .plain inner, room' + 1 => do
        let (p, s) ← readParts fuel room' true inner [] [] { s with rest }
        readParts fuel room inGroup o branches (⟨p.pattern, p.depth + 1, false⟩ :: parts) s
      | .captured, room' + 1 => do
        let (p, s) ← readParts fuel room' true o [] [] { s with rest, groups := index }
        readParts fuel room inGroup o branches
          (⟨.group index p.pattern, p.depth + 1, false⟩ :: parts) s
      | .named name, room' + 1 =>
        if s.names.contains name then none
        else do
          let (p, s) ← readParts fuel room' true o [] [] ⟨rest, index, name :: s.names⟩
          readParts fuel room inGroup o branches
            (⟨.group index p.pattern, p.depth + 1, false⟩ :: parts) s
    | c :: rest =>
      if ['*', '+', '?', '\x7b'].contains c then do
        let ((least, most, greedy), rest) ← readRounds o (c :: rest)
        match parts with
        | p :: parts =>
          let repetition := ⟨repeated p.pattern least most greedy, p.depth + 1, false⟩
          if p.isSetting then none
          else readParts fuel room inGroup o branches (repetition :: parts) { s with rest }
        | [] => none
      else do
        let (p, rest) ← readSign o room c rest
        readParts fuel room inGroup o branches (p :: parts) { s with rest }

/-- How deep the parts of a pattern may stand in one another. -/
def depthLimit : Nat :=
  250

/-- The pattern written by a text, `none` if it is not well formed or nested too deeply. -/
def ofText? (text : List Char) : Option Pattern := do
  let (p, _) ← readParts (text.length + 1) depthLimit false .standard [] [] ⟨text, 0, []⟩
  if p.depth ≤ depthLimit then some p.pattern else none

end Pattern

/-- A pattern that has been read and turned into a program, with the number of its groups. -/
structure CompiledPattern where
  program : Program
  groups : Nat

namespace Pattern

/-- The program of the pattern written by a text, `none` if there is no such pattern or if its
program would be too large. -/
def read? (text : List Char) : Option CompiledPattern := do
  let p ← ofText? text
  if p.fits then some ⟨p.program, p.lastGroup⟩ else none

end Pattern

end InterRater
