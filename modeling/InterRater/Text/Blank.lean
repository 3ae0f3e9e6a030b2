import InterRater.Text.CharSet

/-!
# Blank characters

The characters of the Unicode property `White_Space`, and the removal of them from the ends of a
text.
-/

namespace InterRater

/-- The characters with the Unicode property `White_Space`. -/
def blanks : CharSet :=
  ⟨[
    0x9, 0xe, 0x20, 0x21, 0x85, 0x86, 0xa0, 0xa1, 0x1680, 0x1681, 0x2000, 0x200b, 0x2028, 0x202a,
    0x202f, 0x2030, 0x205f, 0x2060, 0x3000, 0x3001]⟩

def isBlank (c : Char) : Bool :=
  blanks.contains c

/-- The text without the blanks at its start. -/
def trimLeft (text : List Char) : List Char :=
  text.dropWhile isBlank

/-- The text without the blanks at its end. -/
def trimRight (text : List Char) : List Char :=
  (text.reverse.dropWhile isBlank).reverse

/-- The text without the blanks at its ends. -/
def trim (text : List Char) : List Char :=
  trimRight (trimLeft text)

end InterRater
