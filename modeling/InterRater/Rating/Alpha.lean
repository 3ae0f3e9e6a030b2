import InterRater.Rating.Matrix

/-!
# Krippendorff's alpha for ordinal ratings

The coefficient compares the disagreement within items with the disagreement expected by chance.
Both are read off the coincidence table of all pairs of ratings of the same item, with the ordinal
distance of two values: the ratings between them, the two values themselves counting half.
-/

namespace InterRater

namespace Alpha

variable {α : Type} [Scalar α]

/-- The values that occur, in ascending order. -/
def domain (units : List (List Int)) : List Int :=
  (units.flatten.mergeSort (· ≤ ·)).eraseReps

/-- What the ratings of one item add to the coincidences of `c` with `k`: the ordered pairs of
ratings with these values by different raters, over the number of partners of a rating.  A single
rating has no partner. -/
def contribution (unit : List Int) (c k : Int) : α :=
  let own : α := (unit.count c : α)
  let other : α := (unit.count k : α)
  let partners := if c = k then other - 1 else other
  own * partners * (1 / ((unit.length - 1 : Nat) : α))

/-- The items with at least two ratings, one of which is `c`. -/
def unitsWith (units : List (List Int)) (c : Int) : List (List Int) :=
  units.filter fun unit => 2 ≤ unit.length && unit.contains c

/-- The coincidences of the values `c` and `k`, added item by item over items with `c`.  An item
without `k` adds nothing. -/
def coincidence (units : List (List Int)) (c k : Int) : α :=
  units.foldl (fun total unit =>
    if unit.contains k then total + contribution unit c k else total) 0

/-- A value with its coincidences with all values. -/
structure Row (α : Type) where
  value : Int
  entries : List (Int × α)
  /-- The sum of the entries. -/
  marginal : α

/-- The coincidence table. -/
def table (units : List (List Int)) : List (Row α) :=
  let values := domain units
  values.map fun c =>
    let units := unitsWith units c
    let entries := values.map fun k => (k, coincidence units c k)
    ⟨c, entries, Scalar.sum (entries.map (·.2))⟩

/-- The squared ordinal distances between the value of `low` and those of the given rows.  The
marginals from `low` up to the first of these rows add up to `sum`. -/
def distancesFrom (low : Row α) (sum : α) : List (Row α) → List α
  | [] => []
  | high :: rest =>
    let sum := sum + high.marginal
    Scalar.square (sum - (low.marginal + high.marginal) / ((2 : Nat) : α)) ::
      distancesFrom low sum rest

/-- For each row the distances to itself and to the rows behind it. -/
def distances : List (Row α) → List (List α)
  | [] => []
  | low :: rest => distancesFrom low (-0) (low :: rest) :: distances rest

/-- The distance of the rows at two places.  Of two places the smaller one names the lower value. -/
def distanceAt (table : Array (Array α)) (i j : Nat) : α :=
  ((table[min i j]?).bind (·[max i j - min i j]?)).getD 0

/-- A pair of different values: their marginals, their coincidences and their squared distance. -/
structure ValuePair (α : Type) where
  first : α
  second : α
  coincidences : α
  distance : α

/-- The pairs of different values. -/
def valuePairs (rows : List (Row α)) : List (ValuePair α) :=
  let table := ((distances rows).map List.toArray).toArray
  rows.zipIdx.flatMap fun (a, i) =>
    (rows.zip a.entries).zipIdx.filterMap fun ((b, entry), j) =>
      if i = j then none
      else some ⟨a.marginal, b.marginal, entry.2, distanceAt table i j⟩

/-- The coefficient of a coincidence table, `none` if no disagreement is expected. -/
def ofTable (rows : List (Row α)) : Option α :=
  let pairs := valuePairs rows
  let total := Scalar.sum (rows.map (·.marginal))
  let observed : α := pairs.foldl (fun sum p => sum + p.coincidences * p.distance) 0
  let chance : α := pairs.foldl (fun sum p => sum + p.first * p.second * p.distance) 0
  let expected := chance / (total - 1)
  if expected ≤ 0 then none else some (1 - observed / expected)

/-- The coefficient of the ratings of items, each item a list by rater.  It is undefined if fewer
than two values occur. -/
def ofUnits (units : List (List Int)) : Option α :=
  if (domain units).length < 2 then none else ofTable (table units)

end Alpha

namespace RatingMatrix

/-- The ordinal alpha of the matrix: each item is a unit, each rater a coder. -/
def ordinalAlpha {α : Type} [Scalar α] (m : RatingMatrix) : Option α :=
  Alpha.ofUnits (m.items.map (·.ratings))

end RatingMatrix

end InterRater
