import Std.Data.HashSet
import InterRater.Pattern.Program

/-!
# Searching a text for a pattern

A program is run through a text once.  At every place a list of threads is kept, in the order of
preference: each is at an instruction that takes a character, or has matched.  Two threads at the
same instruction have the same future, so that only the preferred one is kept, and the work at a
place is bounded by the length of the program.
-/

namespace InterRater

/-- What has been captured: the text that was searched, and the marks that were met with their
places, the latest first. -/
structure Captures where
  text : List Char
  marks : List (Mark × Nat)

namespace Captures

/-- The text captured by a group, empty if the group took no part in the match. -/
def group (captures : Captures) (index : Nat) : List Char :=
  match captures.marks.lookup ⟨index, false⟩, captures.marks.lookup ⟨index, true⟩ with
  | some start, some stop => (captures.text.drop start).take (stop - start)
  | _, _ => []

end Captures

/-- A thread: the instruction it is at, and the marks it has met. -/
structure Thread where
  index : Nat
  marks : List (Mark × Nat)

/-- A place in the text, between the characters `before` and `after`. -/
structure Place where
  before : Option Char
  after : Option Char
  /-- The number of characters in front. -/
  position : Nat

/-- The threads at a place, the preferred ones last, and the instructions that have been met. -/
structure Frontier where
  threads : List Thread
  met : Std.HashSet Nat

namespace Program

/-- Follows the given threads, the preferred one first, up to the instructions that take a
character, and adds them to the frontier.  `fuel` bounds the number of instructions. -/
def follow (program : Program) (place : Place) :
    (fuel : Nat) → List Thread → Frontier → Frontier
  | 0, _, frontier => frontier
  | _, [], frontier => frontier
  | fuel + 1, t :: rest, ⟨threads, met⟩ =>
    if met.contains t.index then follow program place fuel rest ⟨threads, met⟩
    else
      let met := met.insert t.index
      match program[t.index]? with
      | some (.assert a) =>
        if a.holds place.before place.after then
          follow program place fuel (⟨t.index + 1, t.marks⟩ :: rest) ⟨threads, met⟩
        else follow program place fuel rest ⟨threads, met⟩
      | some (.note m) =>
        follow program place fuel (⟨t.index + 1, (m, place.position) :: t.marks⟩ :: rest)
          ⟨threads, met⟩
      | some (.jump target) =>
        follow program place fuel (⟨target, t.marks⟩ :: rest) ⟨threads, met⟩
      | some (.split preferred other) =>
        follow program place fuel (⟨preferred, t.marks⟩ :: ⟨other, t.marks⟩ :: rest)
          ⟨threads, met⟩
      | _ => follow program place fuel rest ⟨t :: threads, met⟩

/-- Adds a thread to the frontier, behind those that are there.  A split is met once and leaves
two threads to follow, so that the fuel suffices. -/
def add (program : Program) (place : Place) (frontier : Frontier) (t : Thread) : Frontier :=
  program.follow place (2 * program.size + 1) [t] frontier

/-- Lets the threads, the preferred one first, take the character `c` in front of `place`. -/
def step (program : Program) (place : Place) (c : Char) (threads : List Thread) : Frontier :=
  threads.foldl (fun (frontier : Frontier) (t : Thread) =>
    match program[t.index]? with
    | some (.take s) =>
      if s.contains c then program.add place frontier ⟨t.index + 1, t.marks⟩ else frontier
    | _ => frontier) ⟨[], ∅⟩

/-- Whether the thread has matched. -/
def accepts (program : Program) (t : Thread) : Bool :=
  program[t.index]? = some .accept

/-- The marks of the preferred match from `before` the text `rest` on.  A match ends the threads
that are less preferred; and while there is none, a new thread starts at every place. -/
def run (program : Program) (before : Option Char) (position : Nat) (frontier : Frontier)
    (found : Option (List (Mark × Nat))) (rest : List Char) : Option (List (Mark × Nat)) :=
  let place : Place := ⟨before, rest.head?, position⟩
  let frontier := if found.isNone then program.add place frontier ⟨0, []⟩ else frontier
  let threads := frontier.threads.reverse
  let found := (threads.find? program.accepts).elim found fun t => some t.marks
  let threads := threads.takeWhile fun t => !program.accepts t
  match rest with
  | [] => found
  | c :: rest =>
    if threads.isEmpty && found.isSome then found
    else
      let next : Place := ⟨some c, rest.head?, position + 1⟩
      run program (some c) (position + 1) (program.step next c threads) found rest

/-- The captures of the leftmost match of the program in the text. -/
def find? (program : Program) (text : List Char) : Option Captures :=
  (program.run none 0 ⟨[], ∅⟩ none text).map fun marks => ⟨text, marks⟩

end Program

end InterRater
