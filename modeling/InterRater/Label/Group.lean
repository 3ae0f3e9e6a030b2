import InterRater.Label.Basic

/-!
# Groups of labels by metric

`MetricGroup.partition` sorts the positions of a list of labels into one group for each metric
that occurs, in the order of the metrics, and a last group for the labels without one.
-/

namespace InterRater

/-- The positions of the labels that share a metric, or that have none. -/
structure MetricGroup where
  metric : Option Nat
  name : String
  positions : List Nat
  deriving DecidableEq, Repr

/-- What keeps labels from being grouped. -/
inductive GroupingFault where
  /-- The label pattern is not well formed. -/
  | badPattern (pattern : String)
  | label (fault : LabelFault)
  deriving DecidableEq, Repr

namespace GroupingFault

/-- The wording of a fault, in parts. -/
def messages : GroupingFault → List String
  | .badPattern pattern => [s!"failed to compile label_pattern {pattern}"]
  | .label fault => fault.messages

end GroupingFault

namespace MetricGroup

/-- The entries of a list at the positions of the group. -/
def select {β : Type} (group : MetricGroup) (values : List β) : List β :=
  group.positions.filterMap fun i => values[i]?

/-- The name of the group of labels without a metric. -/
def ungroupedName : String :=
  "ungrouped"

/-- The tokens of the labels with their positions, or the fault of the first faulty label. -/
def tokens (pattern : Program) (labels : List String) :
    Except LabelFault (List (Option LabelToken × Nat)) :=
  labels.zipIdx.mapM fun (label, i) => do
    let token ← LabelToken.read pattern label
    return (token, i)

/-- The metrics that occur, in ascending order. -/
def metrics (tokens : List (Option LabelToken × Nat)) : List Nat :=
  ((tokens.filterMap fun t => t.1.map (·.metric)).mergeSort (· ≤ ·)).eraseReps

/-- The positions of the labels of a metric, in the order of their items. -/
def positionsOf (tokens : List (Option LabelToken × Nat)) (metric : Nat) : List Nat :=
  let members := tokens.filterMap fun (token, i) =>
    token.bind fun t => if t.metric = metric then some (t.item, i) else none
  (members.mergeSort fun a b => a.1 < b.1 || a.1 == b.1 && a.2 ≤ b.2).map (·.2)

/-- The positions of the labels without a metric. -/
def positionsWithout (tokens : List (Option LabelToken × Nat)) : List Nat :=
  tokens.filterMap fun (token, i) => if token.isNone then some i else none

/-- The groups of tokens with positions. -/
def ofTokens {α : Type} (config : Config α) (tokens : List (Option LabelToken × Nat)) :
    List MetricGroup :=
  let named := (metrics tokens).map fun metric =>
    ⟨some metric, config.metricName metric, positionsOf tokens metric⟩
  let rest := positionsWithout tokens
  named ++ if rest.isEmpty then [] else [⟨none, ungroupedName, rest⟩]

/-- The groups of a list of labels. -/
def partition {α : Type} (config : Config α) (labels : List String) :
    Except GroupingFault (List MetricGroup) :=
  match config.compiledPattern? with
  | none => .error (.badPattern config.labelPattern)
  | some compiled =>
    match tokens compiled.program labels with
    | .error fault => .error (.label fault)
    | .ok tokens => .ok (ofTokens config tokens)

end MetricGroup

end InterRater
