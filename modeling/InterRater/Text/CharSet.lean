/-!
# Sets of characters

A `CharSet` is given by the code points at which membership changes, in ascending order.  The
operations on sets walk through the boundaries of their operands once.
-/

namespace InterRater

/-- A set of characters: those with an odd number of boundaries at or below their code point. -/
structure CharSet where
  boundaries : List Nat
  deriving DecidableEq, Repr

namespace CharSet

/-- Whether membership, which is `inside` before the first boundary, holds at `code`. -/
def membership (code : Nat) (inside : Bool) : List Nat → Bool
  | [] => inside
  | b :: rest => if b ≤ code then membership code (!inside) rest else inside

def contains (s : CharSet) (c : Char) : Bool :=
  membership c.toNat false s.boundaries

/-- The set without members. -/
def empty : CharSet :=
  ⟨[]⟩

/-- All characters: the code points but for the surrogates, which are no characters. -/
def all : CharSet :=
  ⟨[0, 0xd800, 0xe000, 0x110000]⟩

/-- The boundaries at which `op` of two memberships changes.  `x` and `y` are the memberships
before the first boundaries, `fuel` bounds the number of boundaries. -/
def combineFrom (op : Bool → Bool → Bool) (x y : Bool) :
    (fuel : Nat) → List Nat → List Nat → List Nat
  | 0, _, _ => []
  | _, [], [] => []
  | fuel + 1, a :: as, [] => step a (!x) y (combineFrom op (!x) y fuel as [])
  | fuel + 1, [], b :: bs => step b x (!y) (combineFrom op x (!y) fuel [] bs)
  | fuel + 1, a :: as, b :: bs =>
    if a < b then step a (!x) y (combineFrom op (!x) y fuel as (b :: bs))
    else if b < a then step b x (!y) (combineFrom op x (!y) fuel (a :: as) bs)
    else step a (!x) (!y) (combineFrom op (!x) (!y) fuel as bs)
where
  /-- The boundary at `code`, where the memberships become `x'` and `y'`, if it is one. -/
  step (code : Nat) (x' y' : Bool) (rest : List Nat) : List Nat :=
    if op x y = op x' y' then rest else code :: rest

/-- The characters whose memberships in the two sets `op` allows.  Outside both it is false. -/
def combine (op : Bool → Bool → Bool) (s t : CharSet) : CharSet :=
  ⟨combineFrom op false false (s.boundaries.length + t.boundaries.length)
    s.boundaries t.boundaries⟩

def union : CharSet → CharSet → CharSet :=
  combine (· || ·)

def inter : CharSet → CharSet → CharSet :=
  combine (· && ·)

def diff : CharSet → CharSet → CharSet :=
  combine fun x y => x && !y

/-- The members of exactly one of two sets. -/
def symmDiff : CharSet → CharSet → CharSet :=
  combine (· != ·)

def complement (s : CharSet) : CharSet :=
  all.diff s

/-- The members of any of the sets. -/
def unions (sets : List CharSet) : CharSet :=
  sets.foldr union empty

/-- The characters from `first` to `last`. -/
def range (first last : Char) : CharSet :=
  all.inter ⟨[first.toNat, last.toNat + 1]⟩

def single (c : Char) : CharSet :=
  ⟨[c.toNat, c.toNat + 1]⟩

/-- The boundaries of the set of the given code points, which ascend. -/
def boundariesOf : List Nat → List Nat
  | [] => []
  | code :: rest =>
    match boundariesOf rest with
    | first :: others =>
      if first ≤ code + 1 then code :: others else code :: (code + 1) :: first :: others
    | [] => [code, code + 1]

/-- The set of the given characters. -/
def ofList (chars : List Char) : CharSet :=
  ⟨boundariesOf ((chars.map (·.toNat)).mergeSort (· ≤ ·))⟩

/-- The runs of consecutive code points, by the first and the last one. -/
def runs (s : CharSet) : List (Nat × Nat) :=
  pairs s.boundaries
where
  pairs : List Nat → List (Nat × Nat)
    | first :: behind :: rest => (first, behind - 1) :: pairs rest
    | _ => []

def isEmpty (s : CharSet) : Bool :=
  s.boundaries.isEmpty

/-- Whether all members are ASCII characters. -/
def isAscii (s : CharSet) : Bool :=
  s.boundaries.all (· ≤ 128)

/-- The member of a set of one character. -/
def single? (s : CharSet) : Option Char :=
  match s.boundaries with
  | [first, behind] => if behind = first + 1 then some (Char.ofNat first) else none
  | _ => none

end CharSet

end InterRater
