import InterRater.Text.Hidden

/-!
# Quoted texts

A text in double quotes, in which every character can be told from every other: quotes and
backslashes are escaped, and characters without a shape of their own are shown by code point.
-/

namespace InterRater

namespace Quoted

/-- The quoted form of one character. -/
def encode (c : Char) : List Char :=
  if c = '"' then ['\\', '"']
  else if c = '\\' then ['\\', '\\']
  else if c = '\n' then ['\\', 'n']
  else if c = '\r' then ['\\', 'r']
  else if c = '\t' then ['\\', 't']
  else if c.toNat = 0 then ['\\', '0']
  else if hiddenChars.contains c then "\\u\x7b".toList ++ Nat.toDigits 16 c.toNat ++ "\x7d".toList
  else [c]

/-- The quoted form of a text. -/
def text (s : String) : String :=
  String.ofList ('"' :: s.toList.flatMap encode ++ ['"'])

/-- The quoted forms of several texts, in brackets. -/
def list (texts : List String) : String :=
  "[" ++ ", ".intercalate (texts.map text) ++ "]"

end Quoted

end InterRater
