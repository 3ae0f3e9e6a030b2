import InterRater.Label.Basic

/-!
# What is read in a label

An index is read exactly if the text writes a number below `2 ^ 32` (`readIndex_eq_ok_iff`).  A
label has no token exactly if the pattern does not match (`read_eq_none_iff`), the token of the two
indexes if both are numbers (`read_eq_some_iff`), and else it is faulty
(`exists_read_eq_error_iff`).
-/

namespace InterRater

/-! ### Indexes -/

/-- The text writes the index `n`: digits, with a plus sign or without, of a number that fits into
32 bits. -/
def WritesIndex (text : List Char) (n : Nat) : Prop :=
  ∃ digits : List Char, (text = digits ∨ text = '+' :: digits) ∧ digits ≠ [] ∧
    (∀ c ∈ digits, isDigit c = true) ∧ digitsValue digits = n ∧ n < UInt32.size

/-- Further digits do not make a number smaller. -/
theorem le_foldl_digits (digits : List Char) (n : Nat) :
    n ≤ digits.foldl (fun n c => 10 * n + (c.toNat - '0'.toNat)) n := by
  induction digits generalizing n with
  | nil => exact Nat.le_refl n
  | cons c digits ih =>
    rw [List.foldl_cons]
    have htail := ih (10 * n + (c.toNat - '0'.toNat))
    omega

/-- Digits are read one by one.  The number read so far stays below the bound, since no digit that
follows could bring it back. -/
theorem foldlM_addDigit_eq_ok_iff (digits : List Char) {n k : Nat} (h : n < UInt32.size) :
    digits.foldlM addDigit n = .ok k ↔ (∀ c ∈ digits, isDigit c = true) ∧
      digits.foldl (fun n c => 10 * n + (c.toNat - '0'.toNat)) n = k ∧ k < UInt32.size := by
  induction digits generalizing n with
  | nil =>
    simp only [List.foldlM_nil, List.foldl_nil, List.not_mem_nil, false_imp_iff, implies_true,
      true_and, pure, Except.pure, Except.ok.injEq]
    constructor
    · rintro rfl
      exact ⟨rfl, h⟩
    · exact fun hk => hk.1
  | cons c digits ih =>
    rw [List.foldlM_cons, List.foldl_cons, List.forall_mem_cons]
    by_cases hc : isDigit c = true
    · by_cases hbig : UInt32.size ≤ 10 * n + (c.toNat - '0'.toNat)
      · have hadd : addDigit n c = .error .tooLarge := by
          unfold addDigit
          rw [hc, if_neg (by decide), if_pos hbig]
        -- The digits that follow would leave the number above the bound.
        have hle := le_foldl_digits digits (10 * n + (c.toNat - '0'.toNat))
        rw [hadd]
        constructor
        · intro hk
          cases hk
        · intro hk
          omega
      · have hadd : addDigit n c = .ok (10 * n + (c.toNat - '0'.toNat)) := by
          unfold addDigit
          rw [hc, if_neg (by decide), if_neg hbig]
        rw [hadd]
        show digits.foldlM addDigit _ = .ok k ↔ _
        rw [ih (Nat.lt_of_not_le hbig), and_iff_right hc]
    · have hadd : addDigit n c = .error .invalidDigit := by
        unfold addDigit
        rw [Bool.not_eq_true] at hc
        rw [hc, if_pos (by decide)]
      rw [hadd]
      constructor
      · intro hk
        cases hk
      · intro hk
        exact absurd hk.1.1 hc

/-- **Reading an index** succeeds on the texts that write one. -/
theorem readIndex_eq_ok_iff (text : List Char) (n : Nat) :
    readIndex text = .ok n ↔ WritesIndex text n := by
  have hzero : 0 < UInt32.size := by decide
  have hplus : isDigit '+' = false := by decide
  unfold readIndex
  split
  · -- No text at all.
    constructor
    · intro h
      cases h
    · rintro ⟨digits, rfl | htext, hne, -⟩
      · exact absurd rfl hne
      · cases htext
  · -- A sign without digits.
    constructor
    · intro h
      cases h
    · rintro ⟨digits, rfl | htext, hne, hdigits, -⟩
      · rw [hdigits '+' List.mem_cons_self] at hplus
        cases hplus
      · cases htext
        exact absurd rfl hne
  · -- Behind a sign; the text is not one of digits, since a sign is none.
    rename_i digits hne
    rw [foldlM_addDigit_eq_ok_iff digits hzero]
    constructor
    · rintro ⟨hdigits, hvalue, hlt⟩
      exact ⟨digits, Or.inr rfl, fun hnil => hne (by rw [hnil]), hdigits, hvalue, hlt⟩
    · rintro ⟨digits', rfl | htext, -, hdigits, hvalue, hlt⟩
      · rw [hdigits '+' List.mem_cons_self] at hplus
        cases hplus
      · cases htext
        exact ⟨hdigits, hvalue, hlt⟩
  · rename_i hnil _ hsign
    rw [foldlM_addDigit_eq_ok_iff text hzero]
    constructor
    · rintro ⟨hdigits, hvalue, hlt⟩
      exact ⟨text, Or.inl rfl, hnil, hdigits, hvalue, hlt⟩
    · rintro ⟨digits, rfl | rfl, -, hdigits, hvalue, hlt⟩
      · exact ⟨hdigits, hvalue, hlt⟩
      · exact absurd rfl (hsign digits)

/-! ### Tokens -/

namespace LabelToken

/-- The pattern matches the label, but what it captures are not two indexes. -/
def Misindexed (pattern : Program) (label : String) : Prop :=
  ∃ captures, pattern.find? (trim label.toList) = some captures ∧
    ¬ ((∃ item, WritesIndex (captures.group 1) item) ∧
      ∃ metric, WritesIndex (captures.group 2) metric)

variable {pattern : Program}

theorem readPart_eq_ok_iff (label : String) (part : IndexPart) {text : List Char} {n : Nat} :
    readPart label part text = .ok n ↔ WritesIndex text n := by
  rw [← readIndex_eq_ok_iff, readPart]
  cases readIndex text with
  | error fault => exact iff_of_false nofun nofun
  | ok k =>
    show (Except.ok k : Except LabelFault Nat) = .ok n ↔ Except.ok k = .ok n
    rw [Except.ok.injEq, Except.ok.injEq]

theorem ofCaptures_eq_ok_iff (label : String) {captures : Captures} {token : LabelToken} :
    ofCaptures label captures = .ok token ↔ WritesIndex (captures.group 1) token.item ∧
      WritesIndex (captures.group 2) token.metric := by
  rw [← readPart_eq_ok_iff label .item, ← readPart_eq_ok_iff label .metric, ofCaptures]
  cases readPart label .item (captures.group 1) with
  | error e => simp [bind, Except.bind]
  | ok item =>
    cases readPart label .metric (captures.group 2) with
    | error e => simp [bind, Except.bind]
    | ok metric =>
      cases token
      simp [bind, Except.bind, pure, Except.pure]

variable {label : String}

theorem read_eq_none_iff :
    read pattern label = .ok none ↔ pattern.find? (trim label.toList) = none := by
  unfold read
  split
  · rename_i hfind
    simp [hfind]
  · rename_i captures hfind
    cases ofCaptures label captures <;> simp [hfind, Except.map]

theorem read_eq_some_iff {token : LabelToken} : read pattern label = .ok (some token) ↔
    ∃ captures, pattern.find? (trim label.toList) = some captures ∧
      WritesIndex (captures.group 1) token.item ∧ WritesIndex (captures.group 2) token.metric := by
  unfold read
  split
  · rename_i hfind
    simp [hfind]
  · rename_i captures hfind
    simp only [hfind, Option.some.injEq, exists_eq_left']
    rw [← ofCaptures_eq_ok_iff label]
    cases ofCaptures label captures <;> simp [Except.map]

/-- A label is faulty exactly if the pattern captures something else than two indexes. -/
theorem exists_read_eq_error_iff :
    (∃ fault, read pattern label = .error fault) ↔ Misindexed pattern label := by
  cases hread : read pattern label with
  | error fault =>
    refine iff_of_true ⟨fault, rfl⟩ ?_
    cases hfind : pattern.find? (trim label.toList) with
    | none =>
      rw [read_eq_none_iff.mpr hfind] at hread
      cases hread
    | some captures =>
      refine ⟨captures, hfind, ?_⟩
      rintro ⟨⟨item, hitem⟩, metric, hmetric⟩
      have htoken : read pattern label = .ok (some ⟨item, metric⟩) :=
        read_eq_some_iff.mpr ⟨captures, hfind, hitem, hmetric⟩
      rw [htoken] at hread
      cases hread
  | ok token =>
    refine iff_of_false nofun ?_
    rintro ⟨captures, hfind, hnot⟩
    cases token with
    | none =>
      rw [read_eq_none_iff.mp hread] at hfind
      cases hfind
    | some token =>
      obtain ⟨captures', hfind', hitem, hmetric⟩ := read_eq_some_iff.mp hread
      obtain rfl := Option.some.inj (hfind.symm.trans hfind')
      exact hnot ⟨⟨token.item, hitem⟩, token.metric, hmetric⟩

end LabelToken

end InterRater
