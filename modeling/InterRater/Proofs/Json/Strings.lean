import InterRater.Proofs.Json.Grammar
import Mathlib.Data.List.Basic
import Mathlib.Tactic.SplitIfs

/-!
# Reading strings in JSON text

The characters of a string are read up to its closing quote (`Draft.readString_of_writesString`),
and what is read as a string is one (`Draft.writesString_of_readString`).
-/

namespace InterRater

namespace Draft

variable {text rest digits chars : List Char} {c : Char} {n : ℕ}

/-! ### Escaped characters -/

theorem readHex_of_writesUnit (h : WritesUnit digits n) (rest : List Char) :
    readHex (digits ++ rest) = some (n, rest) := by
  rw [readHex, ← h.length_eq, List.take_left, List.drop_left, if_neg (Nat.lt_irrefl _), h.value]
  rfl

theorem writesUnit_of_readHex (h : readHex text = some (n, rest)) :
    ∃ digits, text = digits ++ rest ∧ WritesUnit digits n := by
  rw [readHex] at h
  split_ifs at h with hlength
  obtain ⟨value, hvalue, h⟩ := Option.bind_eq_some_iff.mp h
  cases h
  refine ⟨text.take 4, (List.take_append_drop 4 text).symm, ?_, hvalue⟩
  have hle := List.length_take_le 4 text
  omega

theorem readUnit_of_single (h : WritesUnit digits n) (hhigh : ¬ IsHigh n) (hlow : ¬ IsLow n)
    (rest : List Char) : readUnit (digits ++ rest) = some (Char.ofNat n, rest) := by
  have hhigh : (decide (0xd800 ≤ n) && decide (n < 0xdc00)) = false := by
    rwa [← Bool.not_eq_true, Bool.and_eq_true, decide_eq_true_iff, decide_eq_true_iff]
  have hlow : (decide (0xdc00 ≤ n) && decide (n < 0xe000)) = false := by
    rwa [← Bool.not_eq_true, Bool.and_eq_true, decide_eq_true_iff, decide_eq_true_iff]
  rw [readUnit, readHex_of_writesUnit h]
  simp only [Option.bind_eq_bind, Option.bind_some, hhigh, hlow, Bool.false_eq_true, if_false]
  rfl

theorem readUnit_of_pair {digits' : List Char} {high low : ℕ} (h : WritesUnit digits high)
    (hhigh : IsHigh high) (h' : WritesUnit digits' low) (hlow : IsLow low) (rest : List Char) :
    readUnit (digits ++ '\\' :: 'u' :: (digits' ++ rest)) =
      some (Char.ofNat (0x10000 + (high - 0xd800) * 0x400 + (low - 0xdc00)), rest) := by
  have hhigh : (decide (0xd800 ≤ high) && decide (high < 0xdc00)) = true := by
    rwa [Bool.and_eq_true, decide_eq_true_iff, decide_eq_true_iff]
  have hlow : (decide (0xdc00 ≤ low) && decide (low < 0xe000)) = true := by
    rwa [Bool.and_eq_true, decide_eq_true_iff, decide_eq_true_iff]
  rw [readUnit, readHex_of_writesUnit h]
  simp only [Option.bind_eq_bind, Option.bind_some, hhigh, hlow, if_true,
    readHex_of_writesUnit h']
  rfl

theorem readEscape_of_writes {escape : List Char} (h : WritesEscape escape c)
    (rest : List Char) : readEscape (escape ++ rest) = some (c, rest) := by
  cases h with
  | letter h =>
    simp only [letterEscapes, List.mem_cons, Prod.mk.injEq, List.not_mem_nil, or_false] at h
    rcases h with ⟨rfl, rfl⟩ | ⟨rfl, rfl⟩ | ⟨rfl, rfl⟩ | ⟨rfl, rfl⟩ | ⟨rfl, rfl⟩ | ⟨rfl, rfl⟩ |
      ⟨rfl, rfl⟩ | ⟨rfl, rfl⟩
    all_goals rfl
  | unit h hhigh hlow => exact readUnit_of_single h hhigh hlow rest
  | pair h hhigh h' hlow =>
    have hread := readUnit_of_pair h hhigh h' hlow rest
    rw [List.cons_append, List.append_assoc]
    exact hread

theorem writes_of_readUnit (h : readUnit text = some (c, rest)) :
    ∃ escape, 'u' :: text = escape ++ rest ∧ WritesEscape escape c := by
  obtain ⟨⟨unit, left⟩, hunit, hread⟩ := Option.bind_eq_some_iff.mp h
  obtain ⟨digits, rfl, hdigits⟩ := writesUnit_of_readHex hunit
  simp only at hread
  split_ifs at hread with hhigh hlow
  · -- A high unit, behind which a low one must follow.
    split at hread
    · next tail =>
      obtain ⟨⟨low, left⟩, hunit', hlow⟩ := Option.bind_eq_some_iff.mp hread
      obtain ⟨digits', rfl, hdigits'⟩ := writesUnit_of_readHex hunit'
      simp only at hlow
      split_ifs at hlow with hlow'
      obtain ⟨rfl, rfl⟩ := Prod.mk.inj (Option.some.inj hlow)
      simp only [Bool.and_eq_true, decide_eq_true_eq] at hhigh hlow'
      refine ⟨_, ?_, .pair hdigits hhigh hdigits' hlow'⟩
      simp only [List.cons_append, List.append_assoc]
    · cases hread
  · cases hread
    simp only [Bool.and_eq_true, decide_eq_true_eq] at hhigh hlow
    exact ⟨'u' :: digits, rfl, .unit hdigits hhigh hlow⟩

theorem writes_of_readEscape (h : readEscape text = some (c, rest)) :
    ∃ escape, text = escape ++ rest ∧ WritesEscape escape c := by
  have hletter : ∀ {l : Char}, (l, c) ∈ letterEscapes →
      ∃ escape, l :: rest = escape ++ rest ∧ WritesEscape escape c :=
    fun {l} hl => ⟨[l], rfl, .letter hl⟩
  unfold readEscape at h
  split at h
  case h_9 => exact writes_of_readUnit h
  case h_10 => cases h
  -- The eight letters.
  all_goals
    cases h
    exact hletter (by decide)

/-! ### Characters -/

theorem readChars_of_writes (h : WritesChars text chars) {fuel : ℕ} (hfuel : chars.length < fuel)
    (rest : List Char) : readChars fuel (text ++ '"' :: rest) = some (chars, rest) := by
  induction h generalizing fuel with
  | nil =>
    obtain ⟨fuel, rfl⟩ := Nat.exists_eq_add_one_of_ne_zero (Nat.ne_zero_of_lt hfuel)
    rfl
  | plain hvisible hquote hbackslash _ ih =>
    obtain ⟨fuel, rfl⟩ := Nat.exists_eq_add_one_of_ne_zero (Nat.ne_zero_of_lt hfuel)
    rw [List.cons_append, readChars]
    · rw [if_neg (Nat.not_lt.mpr hvisible), ih (Nat.lt_of_succ_lt_succ hfuel)]
      rfl
    · exact hquote
    · exact hbackslash
  | escape hescape _ ih =>
    obtain ⟨fuel, rfl⟩ := Nat.exists_eq_add_one_of_ne_zero (Nat.ne_zero_of_lt hfuel)
    rw [List.cons_append, List.append_assoc, readChars, readEscape_of_writes hescape]
    simp only [Option.bind_eq_bind, Option.bind_some, ih (Nat.lt_of_succ_lt_succ hfuel)]
    rfl

theorem writes_of_readChars {fuel : ℕ} (h : readChars fuel text = some (chars, rest)) :
    ∃ inner, text = inner ++ '"' :: rest ∧ WritesChars inner chars := by
  induction fuel generalizing text chars with
  | zero => cases h
  | succ fuel ih =>
    unfold readChars at h
    split at h
    case h_1 => cases h
    case h_2 => cases h
    case h_3 =>
      cases h
      exact ⟨[], rfl, .nil⟩
    case h_4 fuel' tail heq =>
      cases heq
      obtain ⟨⟨c, left⟩, hescape, hread⟩ := Option.bind_eq_some_iff.mp h
      obtain ⟨⟨chars, left'⟩, hchars, hread⟩ := Option.bind_eq_some_iff.mp hread
      cases hread
      obtain ⟨escape, rfl, hwrites⟩ := writes_of_readEscape hescape
      obtain ⟨inner, rfl, hinner⟩ := ih hchars
      exact ⟨'\\' :: (escape ++ inner), by simp, .escape hwrites hinner⟩
    case h_5 fuel' c tail hquote hbackslash heq =>
      cases heq
      split_ifs at h with hcontrol
      obtain ⟨⟨chars, left'⟩, hchars, hread⟩ := Option.bind_eq_some_iff.mp h
      cases hread
      obtain ⟨inner, rfl, hinner⟩ := ih hchars
      exact ⟨c :: inner, rfl, .plain (Nat.not_lt.mp hcontrol) hquote hbackslash hinner⟩

/-! ### Strings -/

theorem WritesChars.length_le (h : WritesChars text chars) : chars.length ≤ text.length := by
  induction h with
  | nil => exact Nat.le_refl _
  | plain _ _ _ _ ih => exact Nat.succ_le_succ ih
  | escape _ _ ih =>
    rw [List.length_cons, List.length_cons, List.length_append]
    omega

/-- **A string is read** from behind its opening quote on. -/
theorem readString_of_writesString {s : String} (h : WritesString text s) {fuel : ℕ}
    (hfuel : text.length ≤ fuel) :
    ∃ inner, text = '"' :: inner ∧ ∀ rest, readString fuel (inner ++ rest) = some (s, rest) := by
  obtain ⟨inner, rfl, hinner⟩ := h
  refine ⟨inner ++ ['"'], rfl, fun rest => ?_⟩
  have hle := hinner.length_le
  rw [List.length_cons, List.length_append] at hfuel
  rw [List.append_assoc, List.singleton_append, readString,
    readChars_of_writes hinner (by omega)]
  show some (String.ofList s.toList, rest) = _
  rw [String.ofList_toList]

/-- **What is read as a string** is one. -/
theorem writesString_of_readString {s : String} {fuel : ℕ}
    (h : readString fuel text = some (s, rest)) :
    ∃ quoted, '"' :: text = quoted ++ rest ∧ WritesString quoted s := by
  rw [readString] at h
  obtain ⟨⟨chars, left⟩, hchars, h⟩ := Option.map_eq_some_iff.mp h
  cases h
  obtain ⟨inner, rfl, hinner⟩ := writes_of_readChars hchars
  refine ⟨'"' :: (inner ++ ['"']), by simp, inner, rfl, ?_⟩
  rwa [String.toList_ofList]

end Draft

end InterRater
