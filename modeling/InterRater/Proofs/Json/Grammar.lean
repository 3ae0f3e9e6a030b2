import InterRater.Json.Draft

/-!
# The grammar of JSON

`Writes text draft` says that the text is that of one JSON value, and which: literals, numerals,
strings with escaped characters, arrays and objects, with spaces between their signs.  Numerals
stand for themselves, whatever their size; an object keeps its members in the order in which they
are written, with repeated keys.
-/

namespace InterRater

/-! ### Numerals -/

namespace JsonNumeral

/-- Decimal digits, of which there is one at least. -/
structure DigitRun (digits : List Char) : Prop where
  ne_nil : digits ≠ []
  isDigit : ∀ c ∈ digits, isDigit c = true

/-- The text of a fraction, and its digits. -/
inductive WritesFraction : List Char → List Char → Prop
  | none : WritesFraction [] []
  | point {digits : List Char} (h : DigitRun digits) : WritesFraction ('.' :: digits) digits

/-- The text of a power of ten, and the power. -/
inductive WritesPower : List Char → Option Int → Prop
  | none : WritesPower [] .none
  | unsigned {e : Char} {digits : List Char} (he : e = 'e' ∨ e = 'E') (h : DigitRun digits) :
      WritesPower (e :: digits) (some (digitsValue digits))
  | plus {e : Char} {digits : List Char} (he : e = 'e' ∨ e = 'E') (h : DigitRun digits) :
      WritesPower (e :: '+' :: digits) (some (digitsValue digits))
  | minus {e : Char} {digits : List Char} (he : e = 'e' ∨ e = 'E') (h : DigitRun digits) :
      WritesPower (e :: '-' :: digits) (some (-digitsValue digits))

/-- The text is that of the numeral. -/
structure Writes (text : List Char) (numeral : JsonNumeral) : Prop where
  whole : DigitRun numeral.whole
  /-- A zero stands in front of no other digit. -/
  noLeadingZero : ∀ d ds, numeral.whole ≠ '0' :: d :: ds
  parts : ∃ fraction power, WritesFraction fraction numeral.fraction ∧
    WritesPower power numeral.power ∧
    text = (if numeral.negative then ['-'] else []) ++ (numeral.whole ++ (fraction ++ power))

end JsonNumeral

namespace Draft

/-! ### Strings -/

/-- Four hexadecimal digits of a code unit. -/
structure WritesUnit (digits : List Char) (unit : Nat) : Prop where
  length_eq : digits.length = 4
  value : hexValue? digits = some unit

/-- A unit that stands for a character only with a low one behind it. -/
def IsHigh (unit : Nat) : Prop :=
  0xd800 ≤ unit ∧ unit < 0xdc00

def IsLow (unit : Nat) : Prop :=
  0xdc00 ≤ unit ∧ unit < 0xe000

/-- Letters behind a backslash, and the characters they stand for. -/
def letterEscapes : List (Char × Char) :=
  [('"', '"'), ('\\', '\\'), ('/', '/'), ('b', '\x08'), ('f', '\x0c'), ('n', '\n'), ('r', '\r'),
    ('t', '\t')]

/-- The text behind a backslash, and the character that it stands for. -/
inductive WritesEscape : List Char → Char → Prop
  | letter {l c : Char} (h : (l, c) ∈ letterEscapes) : WritesEscape [l] c
  | unit {digits : List Char} {n : Nat} (h : WritesUnit digits n) (hhigh : ¬ IsHigh n)
      (hlow : ¬ IsLow n) : WritesEscape ('u' :: digits) (Char.ofNat n)
  | pair {digits digits' : List Char} {high low : Nat} (h : WritesUnit digits high)
      (hhigh : IsHigh high) (h' : WritesUnit digits' low) (hlow : IsLow low) :
      WritesEscape ('u' :: (digits ++ '\\' :: 'u' :: digits'))
        (Char.ofNat (0x10000 + (high - 0xd800) * 0x400 + (low - 0xdc00)))

/-- The text between two quotes, and the characters that it stands for. -/
inductive WritesChars : List Char → List Char → Prop
  | nil : WritesChars [] []
  | plain {c : Char} {text chars : List Char} (hvisible : 32 ≤ c.toNat) (hquote : c ≠ '"')
      (hbackslash : c ≠ '\\') (h : WritesChars text chars) : WritesChars (c :: text) (c :: chars)
  | escape {escape text chars : List Char} {c : Char} (hescape : WritesEscape escape c)
      (h : WritesChars text chars) : WritesChars ('\\' :: (escape ++ text)) (c :: chars)

/-- The text is that of the string, with its quotes. -/
def WritesString (text : List Char) (s : String) : Prop :=
  ∃ inner, text = '"' :: (inner ++ ['"']) ∧ WritesChars inner s.toList

/-! ### Values -/

/-- The text is made of spaces, tabs and ends of lines. -/
def AreSpaces (text : List Char) : Prop :=
  ∀ c ∈ text, isSpace c = true

mutual

/-- The text is that of the value, without spaces around it. -/
inductive Writes : List Char → Draft → Prop
  | null : Writes "null".toList .null
  | boolTrue : Writes "true".toList (.bool true)
  | boolFalse : Writes "false".toList (.bool false)
  | integer {text : List Char} {numeral : JsonNumeral} {n : Int} (h : numeral.Writes text)
      (hinteger : numeral.integer? = some n) : Writes text (.integer n)
  | number {text : List Char} {numeral : JsonNumeral} (h : numeral.Writes text)
      (hinteger : numeral.integer? = none) : Writes text (.number numeral)
  | string {text : List Char} {s : String} (h : WritesString text s) : Writes text (.string s)
  | emptyArray {spaces : List Char} (h : AreSpaces spaces) :
      Writes ('[' :: (spaces ++ [']'])) (.array [] true)
  | array {text : List Char} {items : List Draft} (h : WritesItems text items) :
      Writes ('[' :: (text ++ [']'])) (.array items true)
  | emptyObject {spaces : List Char} (h : AreSpaces spaces) :
      Writes ('\x7b' :: (spaces ++ ['\x7d'])) (.object [] true)
  | object {text : List Char} {members : List (String × Draft)} (h : WritesMembers text members) :
      Writes ('\x7b' :: (text ++ ['\x7d'])) (.object members true)

/-- The text is that of the value, with spaces around it. -/
inductive WritesText : List Char → Draft → Prop
  | intro {before text after : List Char} {draft : Draft} (hbefore : AreSpaces before)
      (h : Writes text draft) (hafter : AreSpaces after) :
      WritesText (before ++ (text ++ after)) draft

/-- The text is that of the elements of an array, with commas between them. -/
inductive WritesItems : List Char → List Draft → Prop
  | last {text : List Char} {item : Draft} (h : WritesText text item) : WritesItems text [item]
  | next {text rest : List Char} {item : Draft} {items : List Draft} (h : WritesText text item)
      (hrest : WritesItems rest items) : WritesItems (text ++ ',' :: rest) (item :: items)

/-- The text is that of a member of an object. -/
inductive WritesMember : List Char → String → Draft → Prop
  | intro {before quoted after text : List Char} {key : String} {value : Draft}
      (hbefore : AreSpaces before) (hkey : WritesString quoted key) (hafter : AreSpaces after)
      (h : WritesText text value) :
      WritesMember (before ++ (quoted ++ (after ++ ':' :: text))) key value

/-- The text is that of the members of an object, with commas between them. -/
inductive WritesMembers : List Char → List (String × Draft) → Prop
  | last {text : List Char} {key : String} {value : Draft} (h : WritesMember text key value) :
      WritesMembers text [(key, value)]
  | next {text rest : List Char} {key : String} {value : Draft} {members : List (String × Draft)}
      (h : WritesMember text key value) (hrest : WritesMembers rest members) :
      WritesMembers (text ++ ',' :: rest) ((key, value) :: members)

end

end Draft

end InterRater
