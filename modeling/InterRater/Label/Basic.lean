import InterRater.Config.Basic
import InterRater.Pattern.Search

/-!
# Labels

A label such as `Q12_3` names the item 12 and the metric 3.  Which labels do so, and where their
indexes stand, is said by the label pattern.
-/

namespace InterRater

/-- The indexes in a label. -/
structure LabelToken where
  item : Nat
  metric : Nat
  deriving DecidableEq, Repr

/-- What is wrong with the text of an index. -/
inductive IndexFault where
  | empty
  | invalidDigit
  | tooLarge
  deriving DecidableEq, Repr

namespace IndexFault

def message : IndexFault → String
  | .empty => "cannot parse integer from empty string"
  | .invalidDigit => "invalid digit found in string"
  | .tooLarge => "number too large to fit in target type"

end IndexFault

/-- The two indexes of a label. -/
inductive IndexPart where
  | item
  | metric
  deriving DecidableEq, Repr

namespace IndexPart

def name : IndexPart → String
  | .item => "item"
  | .metric => "metric"

end IndexPart

/-- A label that the pattern matches, but in which an index is at fault. -/
structure LabelFault where
  part : IndexPart
  label : String
  fault : IndexFault
  deriving DecidableEq, Repr

namespace LabelFault

/-- The wording of a fault, in two parts: which index is at fault, and why. -/
def messages (e : LabelFault) : List String :=
  [s!"failed to parse {e.part.name} index from label {e.label}", e.fault.message]

end LabelFault

/-- One more digit of an index. -/
def addDigit (n : Nat) (c : Char) : Except IndexFault Nat :=
  if !isDigit c then .error .invalidDigit
  else if UInt32.size ≤ 10 * n + (c.toNat - '0'.toNat) then .error .tooLarge
  else .ok (10 * n + (c.toNat - '0'.toNat))

/-- The index written by ASCII digits, with a plus sign or without.  It has at most 32 bits. -/
def readIndex (text : List Char) : Except IndexFault Nat :=
  match text with
  | [] => .error .empty
  | ['+'] => .error .invalidDigit
  | '+' :: digits => digits.foldlM addDigit 0
  | digits => digits.foldlM addDigit 0

namespace LabelToken

/-- One index of a label. -/
def readPart (label : String) (part : IndexPart) (text : List Char) : Except LabelFault Nat :=
  (readIndex text).mapError fun fault => ⟨part, label, fault⟩

/-- The indexes that the groups of a match have captured. -/
def ofCaptures (label : String) (captures : Captures) : Except LabelFault LabelToken := do
  let item ← readPart label .item (captures.group 1)
  let metric ← readPart label .metric (captures.group 2)
  return ⟨item, metric⟩

/-- The indexes in a label, `none` if the pattern matches nothing in it.  Blanks at the ends of
the label are not part of it. -/
def read (pattern : Program) (label : String) : Except LabelFault (Option LabelToken) :=
  match pattern.find? (trim label.toList) with
  | none => .ok none
  | some captures => (ofCaptures label captures).map some

end LabelToken

end InterRater
