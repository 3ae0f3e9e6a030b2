import InterRater.Number.Binary64
import InterRater.Proofs.Label.Standard
import InterRater.Proofs.Label.Token
import InterRater.Proofs.Text.Trim

/-!
# The grammar of standard labels

A label of the standard pattern is the letter `Q`, the digits of an item, an underscore and the
digits of a metric (`StandardLabel`), with blanks around it.  Digits of any script make such a
label, but only ASCII digits of a number of 32 bits are an index (`IsIndex`).  So there are three
outcomes: the two indexes, a fault of the first digits that are no index, and no token in any other
label (`LabelToken.read_standard`).
-/

namespace InterRater

/-! ### Indexes made of digits -/

/-- The digits are an index: ASCII digits of a number of 32 bits. -/
def IsIndex (digits : List Char) : Prop :=
  (∀ c ∈ digits, isDigit c = true) ∧ digitsValue digits < UInt32.size

instance (digits : List Char) : Decidable (IsIndex digits) :=
  @instDecidableAnd _ _ (List.decidableBAll _ digits) inferInstance

/-- No sign stands among decimal digits, so that an index is all that they can write. -/
theorem AreDigits.writesIndex_iff {digits : List Char} (h : AreDigits digits) {n : Nat} :
    WritesIndex digits n ↔ IsIndex digits ∧ digitsValue digits = n := by
  constructor
  · rintro ⟨text, rfl | rfl, -, hascii, rfl, hlt⟩
    · exact ⟨⟨hascii, hlt⟩, rfl⟩
    · have hplus : decimalDigits.contains '+' = true := h.2 '+' List.mem_cons_self
      cases hplus
  · rintro ⟨⟨hascii, hlt⟩, rfl⟩
    exact ⟨digits, .inl rfl, h.1, hascii, rfl, hlt⟩

/-- The digits of ASCII are decimal digits. -/
theorem contains_decimalDigits_of_isDigit {c : Char} (h : isDigit c = true) :
    decimalDigits.contains c = true := by
  rw [isDigit, Bool.and_eq_true, decide_eq_true_iff, decide_eq_true_iff, Char.le_def, Char.le_def,
    UInt32.le_iff_toNat_le, UInt32.le_iff_toNat_le] at h
  have hlow : 0x30 ≤ c.toNat := h.1
  have hhigh : ¬ 0x3a ≤ c.toNat := not_le.mpr (Nat.lt_succ_of_le h.2)
  rw [CharSet.contains, decimalDigits, CharSet.membership, if_pos hlow, CharSet.membership,
    if_neg hhigh]
  rfl

theorem areDigits_toDigits (n : Nat) : AreDigits (Nat.toDigits 10 n) :=
  ⟨toDigits_ne_nil n, fun _ hc => contains_decimalDigits_of_isDigit (isDigit_of_mem_toDigits hc)⟩

theorem isIndex_toDigits {n : Nat} (h : n < UInt32.size) : IsIndex (Nat.toDigits 10 n) := by
  refine ⟨fun c hc => isDigit_of_mem_toDigits hc, ?_⟩
  rwa [digitsValue_toDigits]

/-! ### Labels -/

/-- The text is a label of the standard pattern with the given digits of item and metric. -/
structure StandardLabel (text item metric : List Char) : Prop where
  areDigits_item : AreDigits item
  areDigits_metric : AreDigits metric
  text_eq : text = 'Q' :: (item ++ '_' :: metric)

namespace LabelToken

variable {label : String} {item metric digits : List Char}

theorem readPart_of_isIndex (hdigits : AreDigits digits) (h : IsIndex digits) (part : IndexPart) :
    readPart label part digits = .ok (digitsValue digits) :=
  (readPart_eq_ok_iff label part).mpr (hdigits.writesIndex_iff.mpr ⟨h, rfl⟩)

theorem exists_readPart_eq_error (hdigits : AreDigits digits) (h : ¬ IsIndex digits)
    (part : IndexPart) : ∃ fault, readPart label part digits = .error ⟨part, label, fault⟩ := by
  rw [readPart]
  cases hread : readIndex digits with
  | error fault => exact ⟨fault, rfl⟩
  | ok n =>
    have hwrites := (readIndex_eq_ok_iff digits n).mp hread
    exact absurd (hdigits.writesIndex_iff.mp hwrites).1 h

/-- A standard label is read from its two texts of digits, the item first. -/
theorem read_of_standardLabel (h : StandardLabel (trim label.toList) item metric) :
    read standardProgram label = (do
      let item ← readPart label .item item
      let metric ← readPart label .metric metric
      return some ⟨item, metric⟩) := by
  rw [read, h.text_eq, Program.find?_standard h.areDigits_item h.areDigits_metric]
  simp only [ofCaptures, Program.group_one_standardCaptures, Program.group_two_standardCaptures]
  cases readPart label .item item with
  | error fault => rfl
  | ok i => cases readPart label .metric metric <;> rfl

theorem read_of_isIndex (h : StandardLabel (trim label.toList) item metric) (hitem : IsIndex item)
    (hmetric : IsIndex metric) :
    read standardProgram label = .ok (some ⟨digitsValue item, digitsValue metric⟩) := by
  rw [read_of_standardLabel h, readPart_of_isIndex h.areDigits_item hitem,
    readPart_of_isIndex h.areDigits_metric hmetric]
  rfl

theorem exists_read_eq_item_fault (h : StandardLabel (trim label.toList) item metric)
    (hitem : ¬ IsIndex item) :
    ∃ fault, read standardProgram label = .error ⟨.item, label, fault⟩ := by
  obtain ⟨fault, hfault⟩ := exists_readPart_eq_error h.areDigits_item hitem .item
  rw [read_of_standardLabel h, hfault]
  exact ⟨fault, rfl⟩

theorem exists_read_eq_metric_fault (h : StandardLabel (trim label.toList) item metric)
    (hitem : IsIndex item) (hmetric : ¬ IsIndex metric) :
    ∃ fault, read standardProgram label = .error ⟨.metric, label, fault⟩ := by
  obtain ⟨fault, hfault⟩ := exists_readPart_eq_error h.areDigits_metric hmetric .metric
  rw [read_of_standardLabel h, readPart_of_isIndex h.areDigits_item hitem, hfault]
  exact ⟨fault, rfl⟩

theorem read_of_not_standardLabel
    (h : ¬ ∃ item metric, StandardLabel (trim label.toList) item metric) :
    read standardProgram label = .ok none := by
  rw [read_eq_none_iff, Program.find?_standard_eq_none_iff]
  rintro ⟨item, metric, hitem, hmetric, htext⟩
  exact h ⟨item, metric, hitem, hmetric, htext⟩

/-- A label that begins with another character than `Q` has no token. -/
theorem read_of_head?_ne (h : (trim label.toList).head? ≠ some 'Q') :
    read standardProgram label = .ok none := by
  apply read_of_not_standardLabel
  rintro ⟨item, metric, hlabel⟩
  rw [hlabel.text_eq] at h
  exact h rfl

/-! ### Labels made of two numbers -/

theorem toList_written (item metric : Nat) :
    s!"Q{item}_{metric}".toList =
      'Q' :: (Nat.toDigits 10 item ++ '_' :: Nat.toDigits 10 metric) := by
  simp only [String.toList_append, Nat.toString_eq_ofList_toDigits, String.toList_ofList,
    List.append_assoc]
  rfl

theorem trim_written (item metric : Nat) :
    trim s!"Q{item}_{metric}".toList = s!"Q{item}_{metric}".toList := by
  apply trim_eq_self
  intro c hc
  rw [toList_written, List.mem_cons, List.mem_append, List.mem_cons] at hc
  rcases hc with rfl | hc | rfl | hc
  · rfl
  · exact isBlank_eq_false_of_isDigit (isDigit_of_mem_toDigits hc)
  · rfl
  · exact isBlank_eq_false_of_isDigit (isDigit_of_mem_toDigits hc)

theorem standardLabel_written (item metric : Nat) {before after : List Char}
    (hbefore : ∀ c ∈ before, isBlank c = true) (hafter : ∀ c ∈ after, isBlank c = true) :
    StandardLabel
      (trim (String.ofList (before ++ s!"Q{item}_{metric}".toList ++ after)).toList)
      (Nat.toDigits 10 item) (Nat.toDigits 10 metric) := by
  refine ⟨areDigits_toDigits item, areDigits_toDigits metric, ?_⟩
  rw [String.toList_ofList, trim_padded hbefore hafter, trim_written, toList_written]

/-! ### All labels -/

/-- **Reading a label by the standard pattern.**  Between blanks, the letter `Q` with two texts of
decimal digits around an underscore is read as the two indexes, or else as a fault of the item, or
of the metric if the item is an index; and there is no token in any other label.  In particular two
numbers of 32 bits are read back from the label that they are written in. -/
theorem read_standard :
    ∃ compiled, (Config.standard : Config Binary64).compiledPattern? = some compiled ∧
      (∀ (label : String) (item metric : List Char),
        StandardLabel (trim label.toList) item metric →
          (IsIndex item → IsIndex metric → read compiled.program label =
            .ok (some ⟨digitsValue item, digitsValue metric⟩)) ∧
          (¬ IsIndex item → ∃ fault, read compiled.program label = .error ⟨.item, label, fault⟩) ∧
          (IsIndex item → ¬ IsIndex metric →
            ∃ fault, read compiled.program label = .error ⟨.metric, label, fault⟩)) ∧
      (∀ label : String, (¬ ∃ item metric, StandardLabel (trim label.toList) item metric) →
        read compiled.program label = .ok none) ∧
      ∀ item metric : Nat, item < UInt32.size → metric < UInt32.size →
        ∀ before after : List Char, (∀ c ∈ before, isBlank c = true) →
          (∀ c ∈ after, isBlank c = true) →
            read compiled.program
              (String.ofList (before ++ s!"Q{item}_{metric}".toList ++ after)) =
                .ok (some ⟨item, metric⟩) := by
  refine ⟨⟨standardProgram, 2⟩, compiledPattern?_standard, ?_, ?_, ?_⟩
  · intro label item metric h
    exact ⟨read_of_isIndex h, exists_read_eq_item_fault h, exists_read_eq_metric_fault h⟩
  · exact fun label h => read_of_not_standardLabel h
  · intro item metric hitem hmetric before after hbefore hafter
    rw [read_of_isIndex (standardLabel_written item metric hbefore hafter)
      (isIndex_toDigits hitem) (isIndex_toDigits hmetric), digitsValue_toDigits,
      digitsValue_toDigits]

/-- Zeros in front of an index with a blank before the label, a digit of another script, a number of
33 bits, a label without a metric, and one with blanks on both sides. -/
theorem read_standard_labels :
    read standardProgram "\u3000Q007_4294967295" = .ok (some ⟨7, 4294967295⟩) ∧
    (∃ fault, read standardProgram "Q\u0663_4" = .error ⟨.item, "Q\u0663_4", fault⟩) ∧
    (∃ fault, read standardProgram "Q1_4294967296" = .error ⟨.metric, "Q1_4294967296", fault⟩) ∧
    read standardProgram "Q12" = .ok none ∧
    read standardProgram "\tQ1_23 \n" = .ok (some ⟨1, 23⟩) := by
  obtain ⟨compiled, hcompiled, hlabel, hother, hwritten⟩ := read_standard
  rw [compiledPattern?_standard] at hcompiled
  cases hcompiled
  refine ⟨?_, ?_, ?_, ?_, ?_⟩
  · exact (hlabel "\u3000Q007_4294967295" ['0', '0', '7'] "4294967295".toList
      ⟨by decide, by decide, by rfl⟩).1 (by decide) (by decide)
  · exact (hlabel "Q\u0663_4" ['\u0663'] ['4'] ⟨by decide, by decide, by rfl⟩).2.1 (by decide)
  · exact (hlabel "Q1_4294967296" ['1'] "4294967296".toList
      ⟨by decide, by decide, by rfl⟩).2.2 (by decide) (by decide)
  · apply hother
    rintro ⟨item, metric, -, -, htext⟩
    have hunderscore : '_' ∈ trim "Q12".toList := by
      rw [htext]
      simp
    exact absurd hunderscore (by decide)
  · refine hwritten 1 23 (by decide) (by decide) ['\t'] [' ', '\n'] ?_ ?_
    · exact List.forall_mem_singleton.mpr (by decide)
    · exact List.forall_mem_cons.mpr ⟨by decide, List.forall_mem_singleton.mpr (by decide)⟩

end LabelToken

end InterRater
