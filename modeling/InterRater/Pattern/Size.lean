import Std.Data.HashSet
import InterRater.Pattern.Basic
import InterRater.Text.ByteRanges

/-!
# The size of a pattern

A pattern is refused if an automaton that recognises it in UTF-8 text takes more than ten
mebibytes, be it read forwards or backwards.  The automaton has states that take one byte of a
range, states that branch, and states that only lead on.  Read forwards, the characters of a set
are recognised by a tree of byte ranges in which equal subtrees are shared; read backwards, only
the starts of sequences of byte ranges are shared, through a table of limited size.

`Pattern.fits` compares the size with the limit.  A rough estimate suffices for most patterns.
-/

namespace InterRater

namespace Pattern

/-- The size of a state. -/
def stateSize : Nat := 32

/-- The size of a branch of a state that has several. -/
def branchSize : Nat := 4

/-- The size of a byte range of a state that takes one of several. -/
def rangeSize : Nat := 8

/-- The largest size of an automaton, ten mebibytes. -/
def sizeLimit : Nat := 10 * 1048576

/-- The size of a state with `count` branches. -/
def branching (count : Nat) : Nat :=
  stateSize + count * branchSize

/-- The number of bytes of the characters. -/
def byteCount (text : List Char) : Nat :=
  text.foldl (fun count c => count + c.utf8Size) 0

/-! ### Sets -/

/-- The first ranges of the sequences, each with the sequences behind it. -/
def firstRanges (sequences : List (List ByteRange)) :
    List (ByteRange × List (List ByteRange)) :=
  sequences.foldr (fun sequence groups =>
    match sequence, groups with
    | [], groups => groups
    | r :: rest, (q, rests) :: groups =>
      if r = q then (q, rest :: rests) :: groups else (r, [rest]) :: (q, rests) :: groups
    | r :: rest, [] => [(r, [rest])]) []

/-- The nodes of the tree of the sequences, each by the sequences below it, added to those met
before.  No sequence is longer than `fuel`. -/
def treeNodes : (fuel : Nat) → List (List ByteRange) → Std.HashSet (List (List ByteRange)) →
    Std.HashSet (List (List ByteRange))
  | 0, _, met => met
  | fuel + 1, sequences, met =>
    if sequences = [[]] || met.contains sequences then met
    else (firstRanges sequences).foldl (fun met (_, rests) => treeNodes fuel rests met)
      (met.insert sequences)

/-- The size of a state that takes a character of ASCII, and of the one behind it. -/
def asciiSetSize (s : CharSet) : Nat :=
  2 * stateSize + rangeSize * s.runs.length

/-- The size of a set of characters read forwards. -/
def setSize (s : CharSet) : Nat :=
  if s.isAscii then asciiSetSize s
  else
    (treeNodes 4 s.byteRanges ∅).toList.foldl
      (fun size node => size + stateSize + rangeSize * (firstRanges node).length) stateSize

/-- More than the size of a set of characters in either direction: a run has at most 21 sequences
of at most four byte ranges. -/
def roughSetSize (s : CharSet) : Nat :=
  2 * stateSize + s.runs.length * (21 * (4 * stateSize + branchSize))

/-! ### Choices between literals -/

/-- The tree of a choice between literals.  The chunks of a node are the branches that were added
to it between one end of a literal and the next. -/
inductive LiteralTree where
  | node (chunks : List (List (UInt8 × LiteralTree))) (last : List (UInt8 × LiteralTree))

namespace LiteralTree

/-- The tree of one literal. -/
def ofBytes : List UInt8 → LiteralTree
  | [] => .node [[]] []
  | b :: bytes => .node [] [(b, ofBytes bytes)]

mutual

/-- The tree with one more literal. -/
def insert (bytes : List UInt8) : LiteralTree → LiteralTree
  | .node chunks last =>
    match bytes with
    | [] =>
      if last.isEmpty && !chunks.isEmpty && chunks.all (·.isEmpty) then .node chunks last
      else .node (chunks ++ [last]) []
    | b :: bytes => .node chunks (insertBranch b bytes last)

/-- The branches with one more literal, the first byte of which is `b`. -/
def insertBranch (b : UInt8) (bytes : List UInt8) :
    List (UInt8 × LiteralTree) → List (UInt8 × LiteralTree)
  | [] => [(b, ofBytes bytes)]
  | (c, tree) :: branches =>
    if b = c then (c, insert bytes tree) :: branches
    else (c, tree) :: insertBranch b bytes branches

end

/-- Whether no literal goes on at the node. -/
def isLeaf : LiteralTree → Bool
  | .node chunks last => last.isEmpty && chunks.all (·.isEmpty)

/-- The size of a chunk without the nodes below it. -/
def chunkSize (count : Nat) : Nat :=
  if count = 0 then 0
  else stateSize + branchSize + if count = 1 then 0 else count * rangeSize

mutual

/-- The size of the automaton of a tree that is no leaf. -/
def size : LiteralTree → Nat
  | .node chunks last =>
    stateSize + chunks.length * branchSize + chunksSize chunks + branchesSize last +
      chunkSize last.length

def chunksSize : List (List (UInt8 × LiteralTree)) → Nat
  | [] => 0
  | chunk :: chunks => branchesSize chunk + chunkSize chunk.length + chunksSize chunks

/-- The size of the nodes below the branches.  All leaves are one state. -/
def branchesSize : List (UInt8 × LiteralTree) → Nat
  | [] => 0
  | (_, tree) :: branches => (if tree.isLeaf then 0 else tree.size) + branchesSize branches

end

end LiteralTree

/-- The characters of a literal. -/
def literal? : Pattern → Option (List Char)
  | literal text => some text
  | _ => none

/-- The size of a choice between literals, read forwards or backwards. -/
def literalChoiceSize (backwards : Bool) (literals : List (List Char)) : Nat :=
  let bytes (text : List Char) : List UInt8 :=
    let bytes := (String.ofList text).toUTF8.toList
    if backwards then bytes.reverse else bytes
  let tree := literals.foldl (fun tree text => LiteralTree.insert (bytes text) tree)
    (LiteralTree.node [] [])
  stateSize + tree.size

/-! ### Patterns read forwards -/

mutual

/-- The size of a pattern read forwards. -/
def forwardSize : Pattern → Nat
  | empty => stateSize
  | literal text => byteCount text * stateSize
  | set s => setSize s
  | assert _ => stateSize
  | group _ p => p.forwardSize + 2 * stateSize
  | seq ps => forwardSizes ps
  | choice ps =>
    match ps.mapM literal? with
    | some literals => literalChoiceSize false literals
    | none => forwardSizes ps + branching ps.length + stateSize
  | rounds p least most _ => roundsSize p.forwardSize p.alwaysConsumes least most

def forwardSizes : List Pattern → Nat
  | [] => 0
  | p :: ps => p.forwardSize + forwardSizes ps

/-- The size of the rounds of a pattern of the given size. -/
def roundsSize (size : Nat) (consumes : Bool) (least : Nat) (most : Option Nat) : Nat :=
  match least, most with
  | 0, some 1 => size + branching 2 + stateSize
  | least, some most =>
    if least = most then least * size
    else
      (if least = 0 then stateSize else least * size) + stateSize +
        (most - least) * (size + branching 2)
  | 0, none => size + if consumes then branching 2 else branching 2 + branching 2 + stateSize
  | least, none => least * size + branching 2

end

/-! ### Patterns read backwards -/

/-- The states of an automaton that is being built, and the size they take beyond that of a
state. -/
structure Tally where
  states : Nat
  extra : Nat

namespace Tally

def size (t : Tally) : Nat :=
  t.states * stateSize + t.extra

/-- The states in front of a pattern.  If a match may start anywhere, they take all bytes before
it. -/
def front (anchored : Bool) : Tally :=
  if anchored then ⟨1, 0⟩ else ⟨3, 2 * branchSize + rangeSize⟩

/-- The tally with more states, unless it is too large. -/
def add (t : Tally) (states extra : Nat) : Option Tally :=
  let t : Tally := ⟨t.states + states, t.extra + extra⟩
  if t.size ≤ sizeLimit then some t else none

/-- The tally after `count` steps. -/
def iterate (step : Tally → Option Tally) : (count : Nat) → Tally → Option Tally
  | 0, t => some t
  | count + 1, t =>
    match step t with
    | some t => iterate step count t
    | none => none

end Tally

/-- What is shared of sequences of byte ranges: the state that takes a range and leads to a given
state, as far as the table of `sharedSlots` slots still knows it. -/
structure Shared where
  table : Array (Option ((Nat × ByteRange) × Nat))
  states : Nat

namespace Shared

def slots : Nat := 1000

/-- The slot of the range that leads to the state `target`. -/
def slot (target : Nat) (r : ByteRange) : Nat :=
  let mix (h : UInt64) (n : Nat) : UInt64 := (h ^^^ UInt64.ofNat n) * 1099511628211
  (mix (mix (mix 14695981039346656037 target) r.1) r.2).toNat % slots

/-- The state that takes the range and leads to `target`, which is a new one if none is known. -/
def lead (shared : Shared) (target : Nat) (r : ByteRange) : Nat × Shared :=
  let i := slot target r
  let new := (shared.states,
    ({ table := shared.table.set! i (some ((target, r), shared.states)),
       states := shared.states + 1 } : Shared))
  match shared.table[i]? with
  | some (some (key, state)) => if key = (target, r) then (state, shared) else new
  | _ => new

/-- Shares the states of a sequence of byte ranges that leads to `target`. -/
def addSequence (shared : Shared) (target : Nat) : List ByteRange → Shared
  | [] => shared
  | r :: rest =>
    let (state, shared) := shared.lead target r
    shared.addSequence state rest

end Shared

/-- The tally with a set of characters read backwards. -/
def addSetBackwards (s : CharSet) (t : Tally) : Option Tally :=
  if s.isAscii then t.add 2 (rangeSize * s.runs.length)
  else
    let sequences := s.byteRanges
    let target := t.states + 1
    let shared := sequences.foldl (fun shared sequence => shared.addSequence target sequence)
      (⟨Array.replicate Shared.slots none, t.states + 2⟩ : Shared)
    t.add (shared.states - t.states) (sequences.length * branchSize)

mutual

/-- The tally with a pattern read backwards.  Groups are not noted. -/
def addBackwards : Pattern → Tally → Option Tally
  | empty, t => t.add 1 0
  | literal text, t => t.add (byteCount text) 0
  | set s, t => addSetBackwards s t
  | assert _, t => t.add 1 0
  | group _ p, t => p.addBackwards t
  | seq ps, t => addAllBackwards ps t
  | choice ps, t =>
    match ps.mapM literal? with
    | some literals => t.add 0 (literalChoiceSize true literals)
    | none => do (← addAllBackwards ps t).add 2 (ps.length * branchSize)
  | rounds p least most _, t =>
    match least, most with
    | 0, some 1 => do (← p.addBackwards t).add 2 (2 * branchSize)
    | least, some most =>
      if least = most then Tally.iterate p.addBackwards least t
      else do
        let t ← if least = 0 then t.add 1 0 else Tally.iterate p.addBackwards least t
        let t ← t.add 1 0
        Tally.iterate (fun t => do (← t.add 1 (2 * branchSize)) |> p.addBackwards) (most - least) t
    | 0, none => do
      let t ← p.addBackwards t
      if p.alwaysConsumes then t.add 1 (2 * branchSize) else t.add 3 (4 * branchSize)
    | least, none => do (← Tally.iterate p.addBackwards least t).add 1 (2 * branchSize)

def addAllBackwards : List Pattern → Tally → Option Tally
  | [], t => some t
  | p :: ps, t => do p.addBackwards (← addAllBackwards ps t)

end

/-! ### The limit -/

mutual

/-- More than the size of a pattern in either direction. -/
def roughSize : Pattern → Nat
  | empty => stateSize
  | literal text => byteCount text * (3 * stateSize)
  | set s => roughSetSize s
  | assert _ => stateSize
  | group _ p => p.roughSize + 2 * stateSize
  | seq ps => roughSizes ps
  | choice ps => roughSizes ps + (ps.length + 1) * (2 * branching 2)
  | rounds p least most _ => roundsSize p.roughSize false least most

def roughSizes : List Pattern → Nat
  | [] => 0
  | p :: ps => p.roughSize + branching 2 + stateSize + roughSizes ps

end

/-- Whether the automaton of the pattern is within the limit in both directions.  Read forwards,
it also notes the start and the end of the match; the last state is that of a match. -/
def fits (p : Pattern) : Bool :=
  (Tally.front false).size + p.roughSize + 3 * stateSize ≤ sizeLimit ||
    (Tally.front (p.startsAt .textStart)).size + p.forwardSize + 3 * stateSize ≤ sizeLimit &&
      ((p.addBackwards (Tally.front (p.endsAt .textEnd))).bind (·.add 1 0)).isSome

end Pattern

end InterRater
