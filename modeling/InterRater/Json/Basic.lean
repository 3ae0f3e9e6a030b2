import InterRater.Number.Shortest

/-!
# JSON values and their text

A `Json` value keeps the order of the members of its objects.  `Json.pretty` writes it with one
member or element to a line.
-/

namespace InterRater

/-- A JSON value.  Integers are told from numbers with a point. -/
inductive Json where
  | null
  | bool (b : Bool)
  | integer (n : Int)
  | number (x : Binary64)
  | string (s : String)
  | array (items : List Json)
  | object (members : List (String × Json))

namespace Json

/-- The escaped form of a character. -/
def escape (c : Char) : List Char :=
  if c = '"' then ['\\', '"']
  else if c = '\\' then ['\\', '\\']
  else if c = '\n' then ['\\', 'n']
  else if c = '\r' then ['\\', 'r']
  else if c = '\t' then ['\\', 't']
  else if c = '\x08' then ['\\', 'b']
  else if c = '\x0c' then ['\\', 'f']
  else if c.toNat < 16 then "\\u000".toList ++ Nat.toDigits 16 c.toNat
  else if c.toNat < 32 then "\\u00".toList ++ Nat.toDigits 16 c.toNat
  else [c]

/-- The text of a string. -/
def quote (s : String) : List Char :=
  '"' :: s.toList.flatMap escape ++ ['"']

/-- The text of a number.  What is no number is written as `null`. -/
def numberText (x : Binary64) : List Char :=
  if x.isFinite then (NumberLayout.json.text x).toList else "null".toList

/-- The break before a line at the given depth. -/
def newline (depth : Nat) : List Char :=
  '\n' :: List.replicate (2 * depth) ' '

mutual

/-- The text of a value that stands at the given depth. -/
def prettyAt (depth : Nat) : Json → List Char
  | null => "null".toList
  | bool true => "true".toList
  | bool false => "false".toList
  | integer n => (toString n).toList
  | number x => numberText x
  | string s => quote s
  | array [] => ['[', ']']
  | array (item :: items) =>
    '[' :: newline (depth + 1) ++ prettyAt (depth + 1) item ++ prettyItems depth items
  | object [] => ['\x7b', '\x7d']
  | object ((key, value) :: members) =>
    '\x7b' :: newline (depth + 1) ++ quote key ++ ": ".toList ++ prettyAt (depth + 1) value ++
      prettyMembers depth members

/-- The text of the further elements of an array, and its end. -/
def prettyItems (depth : Nat) : List Json → List Char
  | [] => newline depth ++ [']']
  | item :: items =>
    ',' :: newline (depth + 1) ++ prettyAt (depth + 1) item ++ prettyItems depth items

/-- The text of the further members of an object, and its end. -/
def prettyMembers (depth : Nat) : List (String × Json) → List Char
  | [] => newline depth ++ ['\x7d']
  | (key, value) :: members =>
    ',' :: newline (depth + 1) ++ quote key ++ ": ".toList ++ prettyAt (depth + 1) value ++
      prettyMembers depth members

end

/-- The text of a value. -/
def pretty (value : Json) : List Char :=
  prettyAt 0 value

/-- The text of a file that holds a value: the text of the value and the end of its last line. -/
def fileText (value : Json) : String :=
  String.ofList (value.pretty ++ ['\n'])

/-- The value, or `null` if there is none. -/
def ofOption {β : Type} (toJson : β → Json) : Option β → Json
  | none => null
  | some b => toJson b

/-- The array of the values of a list. -/
def ofList {β : Type} (toJson : β → Json) (items : List β) : Json :=
  array (items.map toJson)

def ofNat (n : Nat) : Json :=
  integer n

end Json

end InterRater
