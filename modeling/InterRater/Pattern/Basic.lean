import InterRater.Text.CharSet
import InterRater.Text.Word

/-!
# Patterns of text

A pattern describes texts by sets of characters, sequence, choice, repetition and assertions about
a place in the text.  Numbered groups name the parts that are captured.

Patterns are built in a normal form: neighbouring characters of a sequence are one literal,
sequences and choices do not stand directly in one another, a choice between characters is a set,
and a choice between sequences that start alike has the common start in front.  The repetition of
a pattern that consumes nothing has at most one round.
-/

namespace InterRater

/-- The characters that words consist of: those of all scripts, or those of ASCII. -/
inductive WordChars where
  | unicode
  | ascii
  deriving DecidableEq, Repr

namespace WordChars

/-- The digits, letters and the low line of ASCII. -/
def asciiWordChars : CharSet :=
  .unions [.range '0' '9', .range 'A' 'Z', .single '_', .range 'a' 'z']

def set : WordChars → CharSet
  | unicode => wordChars
  | ascii => asciiWordChars

end WordChars

/-- A condition on a place in the text. -/
inductive Assertion where
  | textStart
  | textEnd
  /-- The place after a line break; with `returns`, a carriage return is a line break too. -/
  | lineStart (returns : Bool)
  | lineEnd (returns : Bool)
  /-- The place where a word starts or ends. -/
  | wordEdge (chars : WordChars)
  | noWordEdge (chars : WordChars)
  | wordStart (chars : WordChars)
  | wordEnd (chars : WordChars)
  /-- The place after a character of no word. -/
  | wordStartHalf (chars : WordChars)
  | wordEndHalf (chars : WordChars)
  deriving DecidableEq, Repr

namespace Assertion

/-- Whether there is a character and it belongs to a word. -/
def inWord (chars : WordChars) (c : Option Char) : Bool :=
  c.any chars.set.contains

/-- Whether the condition holds between the characters `before` and `after`. -/
def holds (a : Assertion) (before after : Option Char) : Bool :=
  match a with
  | textStart => before.isNone
  | textEnd => after.isNone
  | lineStart false => before.all (· = '\n')
  | lineStart true => before.all (· = '\n') || before == some '\r' && after != some '\n'
  | lineEnd false => after.all (· = '\n')
  | lineEnd true => after.all (· = '\r') || after == some '\n' && before != some '\r'
  | wordEdge w => inWord w before != inWord w after
  | noWordEdge w => inWord w before == inWord w after
  | wordStart w => !inWord w before && inWord w after
  | wordEnd w => inWord w before && !inWord w after
  | wordStartHalf w => !inWord w before
  | wordEndHalf w => !inWord w after

end Assertion

/-- A pattern.  A choice prefers its earlier branches; a greedy repetition prefers one more
round. -/
inductive Pattern where
  | empty
  /-- The given characters, of which there is one. -/
  | literal (text : List Char)
  /-- One character of the set. -/
  | set (s : CharSet)
  | assert (a : Assertion)
  /-- At least `least` and at most `most` rounds. -/
  | rounds (p : Pattern) (least : Nat) (most : Option Nat) (greedy : Bool)
  | group (index : Nat) (p : Pattern)
  | seq (ps : List Pattern)
  | choice (ps : List Pattern)
  deriving BEq

namespace Pattern

/-! ### Lengths -/

mutual

/-- The least number of characters that a match of the pattern has.  It is left open where a set
without members makes a match impossible. -/
def minLength : Pattern → Option Nat
  | empty => some 0
  | literal text => some text.length
  | set s => if s.isEmpty then none else some 1
  | assert _ => some 0
  | rounds p least _ _ => p.minLength.map (least * ·)
  | group _ p => p.minLength
  | seq ps => minLengthSum ps
  | choice ps => leastLength ps

/-- The least length of a match of the patterns one after the other. -/
def minLengthSum : List Pattern → Option Nat
  | [] => some 0
  | p :: ps => do return (← p.minLength) + (← minLengthSum ps)

/-- The least length of a match of any of the patterns. -/
def leastLength : List Pattern → Option Nat
  | [] => none
  | [p] => p.minLength
  | p :: ps => do return min (← p.minLength) (← leastLength ps)

end

mutual

/-- Whether every match of the pattern is empty. -/
def neverConsumes : Pattern → Bool
  | empty => true
  | literal _ => false
  | set _ => false
  | assert _ => true
  | rounds p _ most _ => most.isSome && p.neverConsumes
  | group _ p => p.neverConsumes
  | seq ps => allNeverConsume ps
  | choice ps => allNeverConsume ps

def allNeverConsume : List Pattern → Bool
  | [] => true
  | p :: ps => p.neverConsumes && allNeverConsume ps

end

/-- Whether every match of the pattern consumes something. -/
def alwaysConsumes (p : Pattern) : Bool :=
  p.minLength.any (0 < ·)

mutual

/-- Whether every match of the pattern starts where `a` holds, as far as the assertions at its
start tell. -/
def startsAt (a : Assertion) : Pattern → Bool
  | empty => false
  | literal _ => false
  | set _ => false
  | assert b => a = b
  | rounds p least _ _ => least ≠ 0 && p.startsAt a
  | group _ p => p.startsAt a
  | seq ps => firstStartsAt a ps
  | choice ps => allStartAt a ps

def firstStartsAt (a : Assertion) : List Pattern → Bool
  | [] => false
  | p :: ps => p.startsAt a || p.neverConsumes && firstStartsAt a ps

def allStartAt (a : Assertion) : List Pattern → Bool
  | [] => true
  | p :: ps => p.startsAt a && allStartAt a ps

end

mutual

/-- Whether every match of the pattern ends where `a` holds, as far as the assertions at its end
tell. -/
def endsAt (a : Assertion) : Pattern → Bool
  | empty => false
  | literal _ => false
  | set _ => false
  | assert b => a = b
  | rounds p least _ _ => least ≠ 0 && p.endsAt a
  | group _ p => p.endsAt a
  | seq ps => lastEndsAt a ps
  | choice ps => allEndAt a ps

def lastEndsAt (a : Assertion) : List Pattern → Bool
  | [] => false
  | p :: ps => lastEndsAt a ps || allNeverConsume ps && p.endsAt a

def allEndAt (a : Assertion) : List Pattern → Bool
  | [] => true
  | p :: ps => p.endsAt a && allEndAt a ps

end

mutual

/-- The largest index of a group in the pattern, and 0 if there is none. -/
def lastGroup : Pattern → Nat
  | rounds p _ _ _ => p.lastGroup
  | group index p => max index p.lastGroup
  | seq ps => lastGroupOf ps
  | choice ps => lastGroupOf ps
  | _ => 0

def lastGroupOf : List Pattern → Nat
  | [] => 0
  | p :: ps => max p.lastGroup (lastGroupOf ps)

end

/-! ### Building patterns -/

/-- The literal of one character. -/
def char (c : Char) : Pattern :=
  literal [c]

/-- One character of the set, which is a literal if there is only one. -/
def ofSet (s : CharSet) : Pattern :=
  match s.single? with
  | some c => char c
  | none => set s

/-- The parts of a sequence, or the pattern itself if it is none. -/
def parts : Pattern → List Pattern
  | empty => []
  | seq ps => ps
  | p => [p]

/-- The branches of a choice, or the pattern itself if it is none. -/
def branches : Pattern → List Pattern
  | choice ps => ps
  | p => [p]

/-- The parts of a sequence with `p` in front.  Neighbouring literals are one. -/
def consPart (p : Pattern) (ps : List Pattern) : List Pattern :=
  match p, ps with
  | literal a, literal b :: ps => literal (a ++ b) :: ps
  | _, _ => p :: ps

/-- The patterns one after the other. -/
def concat (ps : List Pattern) : Pattern :=
  match (ps.flatMap parts).foldr consPart [] with
  | [] => empty
  | [p] => p
  | ps => seq ps

/-- The character of a literal of one character. -/
def char? : Pattern → Option Char
  | literal [c] => some c
  | _ => none

/-- The members of a set. -/
def set? : Pattern → Option CharSet
  | set s => some s
  | _ => none

/-- The choice between characters, or between sets, as one set. -/
def merge? (ps : List Pattern) : Option Pattern :=
  match ps.mapM char? with
  | some chars => some (ofSet (.ofList chars))
  | none => (ps.mapM set?).map fun sets => ofSet (.unions sets)

/-- The choice between branches that do not start alike. -/
def choose (ps : List Pattern) : Pattern :=
  match ps.flatMap branches with
  | [p] => p
  | ps => (merge? ps).getD (choice ps)

/-- The longest common start of two lists. -/
def commonStart : List Pattern → List Pattern → List Pattern
  | p :: ps, q :: qs => if p == q then p :: commonStart ps qs else []
  | _, _ => []

/-- The parts of a sequence; no other pattern has any. -/
def seq? : Pattern → Option (List Pattern)
  | seq ps => some ps
  | _ => none

/-- The choice between the patterns, the first of which is preferred. -/
def alternation (ps : List Pattern) : Pattern :=
  let ps := ps.flatMap branches
  match merge? ps, ps.mapM seq? with
  | none, some (first :: others) =>
    let start := others.foldl commonStart first
    if start.isEmpty || others.isEmpty then choose ps
    else
      let rests := (first :: others).map fun parts => concat (parts.drop start.length)
      concat (start ++ [choose rests])
  | _, _ => choose ps

/-- At least `least` and at most `most` rounds of `p`. -/
def repeated (p : Pattern) (least : Nat) (most : Option Nat) (greedy : Bool) : Pattern :=
  let (least, most) :=
    if p.neverConsumes then (min least 1, some (min (most.getD 1) 1)) else (least, most)
  if most = some 0 then empty
  else if least = 1 && most = some 1 then p
  else rounds p least most greedy

end Pattern

end InterRater
