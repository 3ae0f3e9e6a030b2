import InterRater.Pattern.Escape

/-!
# Sets in brackets

A set in brackets has characters, ranges, escapes, named sets and further brackets as members, and
may be combined with others by the signs for intersection, difference and symmetric difference.
The depth to which brackets and operations stand in one another is kept beside the set.
-/

namespace InterRater

namespace Pattern

/-- A set that has been read, and how deep its written form is nested. -/
structure Bracketed where
  set : CharSet
  depth : Nat

namespace Bracketed

/-- The union of members.  Several members are one level deeper than each of them. -/
def unions (members : List Bracketed) : Bracketed :=
  match members with
  | [m] => m
  | ms => ⟨.unions (ms.map (·.set)), (ms.map (·.depth + 1)).foldl max 0⟩

end Bracketed

/-- The operations on sets, by the character that is written twice. -/
def operation : Char → Option (CharSet → CharSet → CharSet)
  | '&' => some .inter
  | '-' => some .diff
  | '~' => some .symmDiff
  | _ => none

/-- The sets with names, which are of ASCII characters. -/
def namedSet? (name : List Char) : Option CharSet :=
  let lower := CharSet.range 'a' 'z'
  let upper := CharSet.range 'A' 'Z'
  let digit := CharSet.range '0' '9'
  let sets : List (String × CharSet) := [
    ("alnum", .unions [digit, upper, lower]), ("alpha", .union upper lower),
    ("ascii", .range '\x00' '\x7f'), ("blank", .union (.single '\t') (.single ' ')),
    ("cntrl", .union (.range '\x00' '\x1f') (.single '\x7f')), ("digit", digit),
    ("graph", .range '!' '~'), ("lower", lower), ("print", .range ' ' '~'),
    ("punct", .unions [.range '!' '/', .range ':' '@', .range '[' '\x60', .range '\x7b' '~']),
    ("space", .union (.range '\t' '\r') (.single ' ')), ("upper", upper),
    ("word", WordChars.asciiWordChars),
    ("xdigit", .unions [digit, .range 'A' 'F', .range 'a' 'f'])]
  (sets.find? fun s => s.1.toList = name).map (·.2)

/-- The named set between colons and a closing bracket, from behind the opening bracket on, and
whether its complement is meant. -/
def readNamedSet : List Char → Option (CharSet × Bool × List Char)
  | ':' :: rest =>
    let (negated, rest) := match rest with
      | '^' :: rest => (true, rest)
      | _ => (false, rest)
    match rest.span (· ≠ ':') with
    | (name, ':' :: ']' :: rest) => (namedSet? name).map (·, negated, rest)
    | _ => none
  | _ => none

/-- One member of a set: a character or an escape. -/
def readMember (o : Options) : List Char → Option (Escape × List Char)
  | [] => none
  | '\\' :: rest => readEscape o rest
  | c :: rest => some (.literal c, rest)

/-- Whether a character may be a member.  Without the sets of all scripts it is one of ASCII. -/
def allowsMember (o : Options) (c : Char) : Bool :=
  o.unicode || c.toNat < 128

/-- The set of one member. -/
def ofMember (o : Options) : Escape → Option CharSet
  | .literal c => if allowsMember o c then some (.single c) else none
  | .set s => some s
  | .assert _ => none

/-- The sign behind a dash.  Of a comment only the mark at its start is skipped. -/
def signBehindDash (o : Options) (text : List Char) : Option Char :=
  if !o.spaced then text.head?
  else
    match trimLeft text with
    | '#' :: rest => (trimLeft rest).head?
    | rest => rest.head?

/-- A member of a set, or a range of characters.  A dash before a closing bracket or before
another dash makes no range. -/
def readRange (o : Options) (text : List Char) : Option (CharSet × List Char) := do
  let (first, rest) ← readMember o text
  let rest := skip o rest
  match rest with
  | [] => none
  | '-' :: behind =>
    if [some ']', some '-'].contains (signBehindDash o behind) then
      return (← ofMember o first, rest)
    else
      match first, ← readMember o (skip o behind) with
      | .literal a, (.literal b, rest) =>
        if allowsMember o a && allowsMember o b && a ≤ b then some (.range a b, rest) else none
      | _, _ => none
  | _ => return (← ofMember o first, rest)

/-- The dashes at the start of a set, which stand for themselves; `fuel` at most. -/
def readDashes (o : Options) : (fuel : Nat) → List Char → List Bracketed × List Char
  | fuel + 1, '-' :: rest =>
    let (dashes, rest) := readDashes o fuel (skip o rest)
    (⟨.single '-', 0⟩ :: dashes, rest)
  | _, rest => ([], rest)

/-- A set from behind its opening bracket, a possible `^` and its first members on.  `combine`
completes what stands before the last operation by what stands behind it.  Brackets may stand in
one another to the depth `room`. -/
def readMembers (o : Options) : (fuel room : Nat) → (combine : Bracketed → Bracketed) →
    (members : List Bracketed) → List Char → Option (Bracketed × List Char)
  | 0, _, _, _, _ => none
  | fuel + 1, room, combine, members, text =>
    match skip o text with
    | [] => none
    | ']' :: rest => some (combine (.unions members.reverse), rest)
    | '[' :: rest =>
      match readNamedSet rest with
      | some (s, negated, rest) => do
        let s ← o.negate negated (o.fold s)
        readMembers o fuel room combine (⟨s, 0⟩ :: members) rest
      | none => do
        let (s, rest) ← readBrackets fuel room rest
        readMembers o fuel room combine (s :: members) rest
    | c :: d :: rest =>
      match if c = d then operation c else none with
      | some op =>
        let left := combine (.unions members.reverse)
        let combine (right : Bracketed) : Bracketed :=
          ⟨op (o.fold left.set) (o.fold right.set), max left.depth right.depth + 1⟩
        readMembers o fuel room combine [] rest
      | none => do
        let (s, rest) ← readRange o (c :: d :: rest)
        readMembers o fuel room combine (⟨s, 0⟩ :: members) rest
    | [_] => none
where
  /-- A set from behind its opening bracket on.  Dashes, or one closing bracket, are members where
  they stand first. -/
  readBrackets (fuel room : Nat) (text : List Char) : Option (Bracketed × List Char) :=
    match fuel, room with
    | fuel + 1, room + 1 => do
      let (negated, rest) := match skip o text with
        | '^' :: rest => (true, skip o rest)
        | rest => (false, rest)
      let (members, rest) := match readDashes o (rest.length + 1) rest with
        | ([], ']' :: rest) => ([Bracketed.mk (.single ']') 0], rest)
        | dashes => dashes
      let (s, rest) ← readMembers o fuel room id members.reverse rest
      return (⟨← o.negate negated (o.fold s.set), s.depth + 1⟩, rest)
    | _, _ => none

/-- A set from behind its opening bracket on, with brackets in one another to the depth `room`. -/
def readBrackets (o : Options) (room : Nat) (text : List Char) :
    Option (Bracketed × List Char) :=
  readMembers.readBrackets o (2 * text.length + 2) room text

end Pattern

end InterRater
