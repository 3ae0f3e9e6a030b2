import InterRater.Text.Utf8

/-!
# Texts and their bytes

The bytes of a text encode that text, all of it.
-/

namespace InterRater

namespace Utf8

theorem decode?_toUTF8 (s : String) : decode? s.toUTF8 = some s := by
  rw [decode?, String.fromUTF8?]
  exact dif_pos s.isValidUTF8

theorem readable_toUTF8 (s : String) : readable s.toUTF8 = (s, true) := by
  rw [readable, decode?_toUTF8]

end Utf8

end InterRater
