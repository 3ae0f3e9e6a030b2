import InterRater.Pattern.Basic

/-!
# Programs of patterns

The program of a pattern is a list of instructions that lead from place to place in a text.  An
instruction that is not a jump is followed by the next one; a split names the two instructions
that may follow, the preferred one first.  The rounds of a repetition are written out as far as
their number is known.
-/

namespace InterRater

/-- A mark at the start or the end of a group. -/
structure Mark where
  group : Nat
  closing : Bool
  deriving DecidableEq, Repr

/-- An instruction of a program. -/
inductive Instruction where
  /-- Takes one character of the set. -/
  | take (s : CharSet)
  | assert (a : Assertion)
  /-- Notes the place under the mark. -/
  | note (m : Mark)
  | jump (target : Nat)
  | split (preferred other : Nat)
  /-- The pattern has matched. -/
  | accept
  deriving DecidableEq, Repr

/-- A program, which starts with its first instruction. -/
abbrev Program := Array Instruction

namespace Pattern

mutual

/-- The number of instructions of the pattern. -/
def codeLength : Pattern → Nat
  | empty => 0
  | literal text => text.length
  | set _ => 1
  | assert _ => 1
  | group _ p => p.codeLength + 2
  | seq ps => codeLengthSum ps
  | choice ps => codeLengthChoice ps
  | rounds p least (some most) _ => least * p.codeLength + (most - least) * (p.codeLength + 1)
  | rounds p 0 none _ => p.codeLength + 2
  | rounds p (least + 1) none _ => (least + 1) * p.codeLength + 1

/-- The number of instructions of the patterns one after the other. -/
def codeLengthSum : List Pattern → Nat
  | [] => 0
  | p :: ps => p.codeLength + codeLengthSum ps

/-- The number of instructions of the choice between the patterns. -/
def codeLengthChoice : List Pattern → Nat
  | [] => 0
  | [p] => p.codeLength
  | p :: ps => p.codeLength + 2 + codeLengthChoice ps

end

/-- The instruction that prefers another round if `greedy`, and else what follows. -/
def splitRound (greedy : Bool) (round behind : Nat) : Instruction :=
  if greedy then .split round behind else .split behind round

/-- `count` copies of a code, which is `length` instructions long and is given by its place. -/
def copies (count length start : Nat) (code : Nat → List Instruction) : List Instruction :=
  (List.range count).flatMap fun i => code (start + i * length)

mutual

/-- The instructions of the pattern if the first of them stands at `start`. -/
def code : Pattern → (start : Nat) → List Instruction
  | empty, _ => []
  | literal text, _ => text.map fun c => .take (.single c)
  | set s, _ => [.take s]
  | assert a, _ => [.assert a]
  | group index p, start =>
    .note ⟨index, false⟩ :: p.code (start + 1) ++ [.note ⟨index, true⟩]
  | seq ps, start => codeSeq ps start
  | choice ps, start => codeChoice ps (start + codeLengthChoice ps) start
  | rounds p least (some most) greedy, start =>
    let behind := start + least * p.codeLength + (most - least) * (p.codeLength + 1)
    copies least p.codeLength start p.code ++
      copies (most - least) (p.codeLength + 1) (start + least * p.codeLength) fun start =>
        splitRound greedy (start + 1) behind :: p.code (start + 1)
  | rounds p 0 none greedy, start =>
    let behind := start + p.codeLength + 2
    splitRound greedy (start + 1) behind :: p.code (start + 1) ++
      [if p.alwaysConsumes then .jump start else splitRound greedy (start + 1) behind]
  | rounds p (least + 1) none greedy, start =>
    let last := start + least * p.codeLength
    copies (least + 1) p.codeLength start p.code ++
      [splitRound greedy last (last + p.codeLength + 1)]

/-- The instructions of the patterns one after the other. -/
def codeSeq : List Pattern → (start : Nat) → List Instruction
  | [], _ => []
  | p :: ps, start => p.code start ++ codeSeq ps (start + p.codeLength)

/-- The instructions of the choice between the patterns; what follows stands at `behind`. -/
def codeChoice : List Pattern → (behind start : Nat) → List Instruction
  | [], _, _ => []
  | [p], _, start => p.code start
  | p :: ps, behind, start =>
    let next := start + p.codeLength + 2
    .split (start + 1) next :: p.code (start + 1) ++ .jump behind :: codeChoice ps behind next

end

/-- The program of the pattern. -/
def program (p : Pattern) : Program :=
  (p.code 0 ++ [Instruction.accept]).toArray

end Pattern

end InterRater
