import InterRater.Json.Basic
import InterRater.Json.Numeral

/-!
# Reading JSON text

A text is read from left to right into a `Draft`, which holds what is well formed and marks where
the text stops being so.  Who decodes a draft in the order of the text therefore meets its first
problem first, whether the problem is in the text or in the values.
-/

namespace InterRater

/-- A JSON value as far as its text is well formed. -/
inductive Draft where
  /-- No value can be read. -/
  | broken
  | null
  | bool (b : Bool)
  | integer (n : Int)
  /-- A number that is no such integer and is not too large. -/
  | number (numeral : JsonNumeral)
  | string (s : String)
  /-- `closed` says whether the end of the array follows the elements. -/
  | array (items : List Draft) (closed : Bool)
  | object (members : List (String × Draft)) (closed : Bool)

namespace Draft

/-- Whether JSON allows the character between its signs. -/
def isSpace (c : Char) : Bool :=
  c = ' ' || c = '\n' || c = '\t' || c = '\r'

def skipSpace (text : List Char) : List Char :=
  text.dropWhile isSpace

/-- The number at the start of a text. -/
def readNumber (text : List Char) : Draft × List Char :=
  match JsonNumeral.read? text with
  | none => (broken, [])
  | some (numeral, rest) =>
    match numeral.integer? with
    | some n => (integer n, rest)
    | none => (if numeral.value.isFinite then number numeral else broken, rest)

/-! ### Strings -/

/-- The value of four hexadecimal digits. -/
def readHex (text : List Char) : Option (Nat × List Char) := do
  let digits := text.take 4
  if digits.length < 4 then none
  else return (← hexValue? digits, text.drop 4)

/-- A character outside the first plane is written as two code units, a high and a low one; either
alone is no character. -/
def readUnit (text : List Char) : Option (Char × List Char) := do
  let (high, rest) ← readHex text
  if 0xd800 ≤ high && high < 0xdc00 then
    match rest with
    | '\\' :: 'u' :: rest =>
      let (low, rest) ← readHex rest
      if 0xdc00 ≤ low && low < 0xe000 then
        return (Char.ofNat (0x10000 + (high - 0xd800) * 0x400 + (low - 0xdc00)), rest)
      else none
    | _ => none
  else if 0xdc00 ≤ high && high < 0xe000 then none
  else return (Char.ofNat high, rest)

/-- The character after a backslash. -/
def readEscape : List Char → Option (Char × List Char)
  | '"' :: rest => some ('"', rest)
  | '\\' :: rest => some ('\\', rest)
  | '/' :: rest => some ('/', rest)
  | 'b' :: rest => some ('\x08', rest)
  | 'f' :: rest => some ('\x0c', rest)
  | 'n' :: rest => some ('\n', rest)
  | 'r' :: rest => some ('\r', rest)
  | 't' :: rest => some ('\t', rest)
  | 'u' :: rest => readUnit rest
  | _ => none

/-- The characters of a string up to its closing quote.  `fuel` bounds their number. -/
def readChars : (fuel : Nat) → List Char → Option (List Char × List Char)
  | 0, _ => none
  | _, [] => none
  | _, '"' :: rest => some ([], rest)
  | fuel + 1, '\\' :: rest => do
    let (c, rest) ← readEscape rest
    let (chars, rest) ← readChars fuel rest
    return (c :: chars, rest)
  | fuel + 1, c :: rest =>
    if c.toNat < 32 then none
    else do
      let (chars, rest) ← readChars fuel rest
      return (c :: chars, rest)

/-- A string of less than `fuel` characters from behind its opening quote on. -/
def readString (fuel : Nat) (text : List Char) : Option (String × List Char) :=
  (readChars fuel text).map fun (chars, rest) => (String.ofList chars, rest)

/-! ### Values -/

/-- The given value if the text starts with its name. -/
def readName (name : List Char) (value : Draft) (text : List Char) : Draft × List Char :=
  if name.isPrefixOf text then (value, text.drop name.length) else (broken, [])

/-- Whether reading came to an end inside the value. -/
def isBroken : Draft → Bool
  | broken => true
  | array _ closed => !closed
  | object _ closed => !closed
  | _ => false

mutual

/-- The value at the start of a text, and the text behind it.  The text has less than `fuel`
characters; each step inwards or onwards takes one of them at least. -/
def readValue : (fuel : Nat) → List Char → Draft × List Char
  | 0, _ => (broken, [])
  | fuel + 1, text =>
    match skipSpace text with
    | [] => (broken, [])
    | 'n' :: rest => readName "ull".toList null rest
    | 't' :: rest => readName "rue".toList (bool true) rest
    | 'f' :: rest => readName "alse".toList (bool false) rest
    | '"' :: rest =>
      match readString fuel rest with
      | some (s, rest) => (string s, rest)
      | none => (broken, [])
    | '[' :: rest =>
      match skipSpace rest with
      | ']' :: rest => (array [] true, rest)
      | rest =>
        let (items, closed, rest) := readItems fuel rest
        (array items closed, rest)
    | '\x7b' :: rest =>
      match skipSpace rest with
      | '\x7d' :: rest => (object [] true, rest)
      | rest =>
        let (members, closed, rest) := readMembers fuel rest
        (object members closed, rest)
    | c :: rest => if c = '-' || isDigit c then readNumber (c :: rest) else (broken, [])

/-- The elements of an array, the first of which must follow; whether the end of the array follows
them; and the text behind it. -/
def readItems : (fuel : Nat) → List Char → List Draft × Bool × List Char
  | 0, _ => ([], false, [])
  | fuel + 1, text =>
    match skipSpace text with
    | ']' :: _ => ([], false, [])
    | text =>
      let (item, rest) := readValue fuel text
      if item.isBroken then ([item], false, [])
      else
        match skipSpace rest with
        | ',' :: rest =>
          let (items, closed, rest) := readItems fuel rest
          (item :: items, closed, rest)
        | ']' :: rest => ([item], true, rest)
        | _ => ([item], false, [])

/-- The members of an object, as by `readItems`.  A key that no value follows has a broken one. -/
def readMembers : (fuel : Nat) → List Char → List (String × Draft) × Bool × List Char
  | 0, _ => ([], false, [])
  | fuel + 1, text =>
    match skipSpace text with
    | '"' :: rest =>
      match readString fuel rest with
      | none => ([], false, [])
      | some (key, rest) =>
        match skipSpace rest with
        | ':' :: rest =>
          let (value, rest) := readValue fuel rest
          if value.isBroken then ([(key, value)], false, [])
          else
            match skipSpace rest with
            | ',' :: rest =>
              let (members, closed, rest) := readMembers fuel rest
              ((key, value) :: members, closed, rest)
            | '\x7d' :: rest => ([(key, value)], true, rest)
            | _ => ([(key, value)], false, [])
        | _ => ([(key, broken)], false, [])
    | _ => ([], false, [])

end

/-- The value of a text, and whether nothing but spaces follows it. -/
def read (text : List Char) : Draft × Bool :=
  let (draft, rest) := readValue (text.length + 1) text
  (draft, (skipSpace rest).isEmpty)

mutual

/-- The value of a draft that is well formed to its end, each number being the nearest value. -/
def json? : Draft → Option Json
  | broken => none
  | null => some .null
  | bool b => some (.bool b)
  | integer n => some (.integer n)
  | number numeral => some (.number numeral.nearest)
  | string s => some (.string s)
  | array items closed => if closed then (jsonItems? items).map .array else none
  | object members closed => if closed then (jsonMembers? members).map .object else none

def jsonItems? : List Draft → Option (List Json)
  | [] => some []
  | item :: items => do
    let item ← json? item
    return item :: (← jsonItems? items)

def jsonMembers? : List (String × Draft) → Option (List (String × Json))
  | [] => some []
  | (key, value) :: members => do
    let value ← json? value
    return (key, value) :: (← jsonMembers? members)

end

end Draft

namespace Json

/-- The value of a JSON text, `none` if it is not well formed. -/
def parse? (text : List Char) : Option Json :=
  match Draft.read text with
  | (draft, true) => draft.json?
  | (_, false) => none

end Json

end InterRater
