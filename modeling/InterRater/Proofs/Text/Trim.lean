import InterRater.Proofs.Number.Integer
import InterRater.Text.Blank
import InterRater.Text.Split
import Mathlib.Data.List.TakeWhile

/-!
# Splitting and trimming

`splitOn` is the splitting of lists, so that a part without separators is cut off as it stands.
Blanks at the ends of a text do not change what is left of it (`trim_padded`), and a text without
blanks is left as it is (`trim_eq_self`).
-/

namespace InterRater

/-! ### Splitting -/

theorem splitOn_eq (separator : Char) (text : List Char) :
    splitOn separator text = List.splitOn separator text := by
  induction text with
  | nil => rfl
  | cons c rest ih =>
    rw [splitOn, ih, List.splitOn_cons_eq_if_modifyHead]
    by_cases hc : c = separator
    · rw [if_pos hc, if_pos (beq_iff_eq.mpr hc)]
    · rw [if_neg hc, if_neg (mt beq_iff_eq.mp hc)]
      cases hparts : List.splitOn separator rest with
      | nil => exact absurd hparts (List.splitOn_ne_nil _ _)
      | cons part parts => rfl

theorem splitOn_eq_singleton {separator : Char} {part : List Char} (h : separator ∉ part) :
    splitOn separator part = [part] := by
  rw [splitOn_eq]
  exact List.splitOn_eq_singleton h

theorem splitOn_append_cons {separator : Char} {part : List Char} (h : separator ∉ part)
    (rest : List Char) :
    splitOn separator (part ++ separator :: rest) = part :: splitOn separator rest := by
  rw [splitOn_eq, splitOn_eq]
  exact List.splitOn_append_cons_self_of_not_mem h rest

/-- The parts are made of the characters of the text, without the separator. -/
theorem mem_of_mem_splitOn {separator c : Char} {text part : List Char}
    (hpart : part ∈ splitOn separator text) (hc : c ∈ part) : c ∈ text ∧ c ≠ separator := by
  induction text generalizing part with
  | nil =>
    rw [List.mem_singleton.mp hpart] at hc
    cases hc
  | cons d rest ih =>
    rw [splitOn] at hpart
    split_ifs at hpart with hd
    · rcases List.mem_cons.mp hpart with rfl | hpart
      · cases hc
      · exact (ih hpart hc).imp_left (List.mem_cons_of_mem _)
    cases hparts : splitOn separator rest with
    | nil =>
      rw [hparts] at hpart
      rw [List.mem_singleton.mp hpart, List.mem_singleton] at hc
      rw [hc]
      exact ⟨List.mem_cons_self, hd⟩
    | cons first parts =>
      rw [hparts] at hpart ih
      rcases List.mem_cons.mp hpart with rfl | hpart
      · rcases List.mem_cons.mp hc with rfl | hc
        · exact ⟨List.mem_cons_self, hd⟩
        · exact (ih List.mem_cons_self hc).imp_left (List.mem_cons_of_mem _)
      · exact (ih (List.mem_cons_of_mem _ hpart) hc).imp_left (List.mem_cons_of_mem _)

/-! ### Blanks -/

/-- The visible characters of ASCII are no blanks. -/
theorem isBlank_eq_false {c : Char} (hlow : 0x21 ≤ c.toNat) (hhigh : c.toNat < 0x85) :
    isBlank c = false := by
  have h9 : 0x9 ≤ c.toNat := by omega
  have he : 0xe ≤ c.toNat := by omega
  have h20 : 0x20 ≤ c.toNat := by omega
  rw [isBlank, CharSet.contains, blanks]
  simp only [CharSet.membership, if_pos h9, if_pos he, if_pos h20, if_pos hlow,
    if_neg (not_le.mpr hhigh), Bool.not_not]

theorem isBlank_eq_false_of_isDigit {c : Char} (h : isDigit c = true) : isBlank c = false := by
  rw [isDigit, Bool.and_eq_true, decide_eq_true_iff, decide_eq_true_iff, Char.le_def, Char.le_def,
    UInt32.le_iff_toNat_le, UInt32.le_iff_toNat_le] at h
  exact isBlank_eq_false (Nat.le_trans (by decide) h.1) (Nat.lt_of_le_of_lt h.2 (by decide))

/-! ### Trimming -/

section Trim

variable {before text after : List Char}

theorem trim_append (hbefore : ∀ c ∈ before, isBlank c = true) : trim (before ++ text) = trim text := by
  rw [trim, trim, trimLeft, trimLeft, List.dropWhile_append_of_pos hbefore]

theorem trimRight_append (hafter : ∀ c ∈ after, isBlank c = true) :
    trimRight (text ++ after) = trimRight text := by
  have hreverse : ∀ c ∈ after.reverse, isBlank c = true := by
    intro c hc
    exact hafter c (List.mem_reverse.mp hc)
  rw [trimRight, trimRight, List.reverse_append, List.dropWhile_append_of_pos hreverse]

theorem append_trim (hafter : ∀ c ∈ after, isBlank c = true) : trim (text ++ after) = trim text := by
  rw [trim, trim, trimLeft, trimLeft, List.dropWhile_append]
  split_ifs with hblank
  · -- Nothing is left of the text, and nothing of the blanks behind it.
    rw [List.isEmpty_iff.mp hblank, List.dropWhile_eq_nil_iff.mpr hafter]
  · exact trimRight_append hafter

/-- Blanks around a text do not belong to it. -/
theorem trim_padded (hbefore : ∀ c ∈ before, isBlank c = true)
    (hafter : ∀ c ∈ after, isBlank c = true) : trim (before ++ text ++ after) = trim text := by
  rw [append_trim hafter, trim_append hbefore]

theorem trim_eq_nil (h : ∀ c ∈ text, isBlank c = true) : trim text = [] := by
  have hnil : trim ([] ++ text) = trim [] := append_trim h
  rwa [List.nil_append] at hnil

/-- A text that is trimmed does not consist of blanks. -/
theorem exists_not_blank (htrim : trim text = text) (hfilled : text ≠ []) :
    ∃ c ∈ text, isBlank c = false := by
  by_contra hnone
  have hblank : ∀ c ∈ text, isBlank c = true := by
    intro c hc
    by_contra hc'
    exact hnone ⟨c, hc, Bool.eq_false_iff.mpr hc'⟩
  exact hfilled (htrim.symm.trans (trim_eq_nil hblank))

theorem dropWhile_isBlank_eq_self (h : ∀ c ∈ text, isBlank c = false) :
    text.dropWhile isBlank = text := by
  cases text with
  | nil => rfl
  | cons c rest =>
    have hc : isBlank c = false := h c List.mem_cons_self
    rw [List.dropWhile_cons, if_neg (Bool.eq_false_iff.mp hc)]

theorem trim_eq_self (h : ∀ c ∈ text, isBlank c = false) : trim text = text := by
  have hreverse : ∀ c ∈ text.reverse, isBlank c = false := by
    intro c hc
    exact h c (List.mem_reverse.mp hc)
  rw [trim, trimLeft, dropWhile_isBlank_eq_self h, trimRight, dropWhile_isBlank_eq_self hreverse,
    List.reverse_reverse]

end Trim

end InterRater
