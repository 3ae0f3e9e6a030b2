import InterRater.Number.Scalar

/-!
# Ranks

The ranks of a list of values, counted from 1.  Equal values share the average of the ranks they
span, so the ranks of `n` values sum up to `n * (n + 1) / 2`.
-/

namespace InterRater

namespace Statistics

variable {α : Type} [Scalar α]

/-- The positions of the values, in the order of the values.  Values that the order does not
separate stay in the order of their positions. -/
def sortedPositions (values : List α) : List (α × Nat) :=
  values.zipIdx.mergeSort fun x y => Scalar.precedes x.1 y.1

/-- The average of the ranks of the values sorted at places `start` to `stop - 1`. -/
def sharedRank (start stop : Nat) : α :=
  ((start + stop + 1 : Nat) : α) / ((2 : Nat) : α)

/-- The rank of each of the sorted values, with its position.  The first value stands at place
`start`; the values equal to it that follow share its rank. -/
def rankRuns (start : Nat) : List (α × Nat) → List (α × Nat)
  | [] => []
  | (v, i) :: rest =>
    let run := (v, i) :: rest.takeWhile fun y => y.1 == v
    let stop := start + run.length
    run.map (fun y => (sharedRank start stop, y.2)) ++
      rankRuns stop (rest.dropWhile fun y => y.1 == v)
  termination_by values => values.length
  decreasing_by
    have := (rest.dropWhile_sublist fun y => y.1 == v).length_le
    simp only [List.length_cons]
    omega

/-- The ranks of the values, in the order of the list. -/
def averageRanks (values : List α) : List α :=
  ((rankRuns 0 (sortedPositions values)).mergeSort fun x y => x.2 ≤ y.2).map (·.1)

end Statistics

end InterRater
