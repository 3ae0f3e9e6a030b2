/-!
# Texts in files

A file holds bytes.  `Utf8.decode?` gives the text they encode, and `Utf8.readable` what can be
read of a file up to the first byte that belongs to no text.
-/

namespace InterRater

namespace Utf8

/-- The text that bytes encode, `none` if they encode none. -/
def decode? (bytes : ByteArray) : Option String :=
  String.fromUTF8? bytes

/-- The longest beginning of the bytes that is text, and whether it is all of them. -/
def readable (bytes : ByteArray) : String × Bool :=
  match decode? bytes with
  | some text => (text, true)
  | none =>
    let lengths := (List.range bytes.size).reverse
    ((lengths.findSome? fun n => decode? (bytes.extract 0 n)).getD "", false)

end Utf8

end InterRater
