import InterRater.Json.Draft
import InterRater.Proofs.Number.Sign

/-!
# The range of what is read

Whatever the text, the numbers in a draft that is read from it are in range
(`Draft.read_inRange`): an integer has 64 bits, with or without a sign, and the value of
another number is finite.
-/

namespace InterRater

namespace Draft

/-- The numbers of a draft are in the range of what can be written. -/
inductive InRange : Draft → Prop
  | broken : InRange .broken
  | null : InRange .null
  | bool (b : Bool) : InRange (.bool b)
  | integer {n : ℤ} (hlow : Int64.minValue.toInt ≤ n) (hhigh : n < UInt64.size) :
      InRange (.integer n)
  | number {numeral : JsonNumeral} (hfinite : numeral.value.isFinite = true) :
      InRange (.number numeral)
  | string (s : String) : InRange (.string s)
  | array {items : List Draft} (hitems : ∀ item ∈ items, InRange item) (closed : Bool) :
      InRange (.array items closed)
  | object {members : List (String × Draft)} (hmembers : ∀ member ∈ members, InRange member.2)
      (closed : Bool) : InRange (.object members closed)

theorem integer?_bounds {numeral : JsonNumeral} {n : ℤ} (h : numeral.integer? = some n) :
    Int64.minValue.toInt ≤ n ∧ n < UInt64.size := by
  unfold JsonNumeral.integer? at h
  simp only at h
  generalize (if numeral.negative = true then -(digitsValue numeral.whole : ℤ)
    else (digitsValue numeral.whole : ℤ)) = m at h
  split_ifs at h with _ hrange
  rw [Bool.and_eq_true, decide_eq_true_iff, decide_eq_true_iff] at hrange
  cases h
  exact hrange

theorem readNumber_inRange (text : List Char) : (readNumber text).1.InRange := by
  unfold readNumber
  split
  · exact .broken
  · next numeral rest _ =>
    split
    · next n hn =>
      obtain ⟨hlow, hhigh⟩ := integer?_bounds hn
      exact .integer hlow hhigh
    · show (if numeral.value.isFinite = true then Draft.number numeral else broken).InRange
      split_ifs with hfinite
      · exact .number hfinite
      · exact .broken

theorem readName_inRange (name : List Char) {value : Draft} (hvalue : value.InRange)
    (text : List Char) : (readName name value text).1.InRange := by
  unfold readName
  split_ifs
  · exact hvalue
  · exact .broken

/-! ### Steps of the reader -/

section Step

variable {fuel : ℕ} (hvalue : ∀ text, (readValue fuel text).1.InRange)
  (hitems : ∀ text, ∀ item ∈ (readItems fuel text).1, item.InRange)
  (hmembers : ∀ text, ∀ member ∈ (readMembers fuel text).1, member.2.InRange)

include hitems hmembers in
theorem readValue_succ_inRange (text : List Char) : (readValue (fuel + 1) text).1.InRange := by
  unfold readValue
  split
  · exact .broken
  · exact readName_inRange _ .null _
  · exact readName_inRange _ (.bool true) _
  · exact readName_inRange _ (.bool false) _
  · split
    · exact .string _
    · exact .broken
  · split
    · exact .array (List.forall_mem_nil _) true
    · exact .array (hitems _) _
  · split
    · exact .object (List.forall_mem_nil _) true
    · exact .object (hmembers _) _
  · split_ifs
    · exact readNumber_inRange _
    · exact .broken

include hvalue hitems in
theorem readItems_succ_inRange (text : List Char) :
    ∀ item ∈ (readItems (fuel + 1) text).1, item.InRange := by
  unfold readItems
  split
  · exact List.forall_mem_nil _
  · have hitem := hvalue (skipSpace text)
    generalize readValue fuel (skipSpace text) = read at hitem ⊢
    obtain ⟨item, rest⟩ := read
    simp only at hitem ⊢
    split_ifs
    · exact List.forall_mem_singleton.mpr hitem
    · split
      · exact List.forall_mem_cons.mpr ⟨hitem, hitems _⟩
      · exact List.forall_mem_singleton.mpr hitem
      · exact List.forall_mem_singleton.mpr hitem

include hvalue hmembers in
theorem readMembers_succ_inRange (text : List Char) :
    ∀ member ∈ (readMembers (fuel + 1) text).1, member.2.InRange := by
  unfold readMembers
  split
  · split
    · exact List.forall_mem_nil _
    · split
      · next text _ =>
        have hmember := hvalue text
        generalize readValue fuel text = read at hmember ⊢
        obtain ⟨value, rest⟩ := read
        simp only at hmember ⊢
        split_ifs
        · exact List.forall_mem_singleton.mpr hmember
        · split
          · exact List.forall_mem_cons.mpr ⟨hmember, hmembers _⟩
          · exact List.forall_mem_singleton.mpr hmember
          · exact List.forall_mem_singleton.mpr hmember
      · exact List.forall_mem_singleton.mpr .broken
  · exact List.forall_mem_nil _

end Step

/-! ### The whole reader -/

theorem readFuel_inRange (fuel : ℕ) :
    (∀ text, (readValue fuel text).1.InRange) ∧
      (∀ text, ∀ item ∈ (readItems fuel text).1, item.InRange) ∧
      ∀ text, ∀ member ∈ (readMembers fuel text).1, member.2.InRange := by
  -- Each of the three readers calls the others with less fuel.
  induction fuel with
  | zero =>
    refine ⟨fun _ => ?_, fun _ => ?_, fun _ => ?_⟩
    · rw [readValue]
      exact .broken
    · rw [readItems]
      exact List.forall_mem_nil _
    · rw [readMembers]
      exact List.forall_mem_nil _
  | succ fuel ih =>
    obtain ⟨hvalue, hitems, hmembers⟩ := ih
    exact ⟨readValue_succ_inRange hitems hmembers, readItems_succ_inRange hvalue hitems,
      readMembers_succ_inRange hvalue hmembers⟩

/-- **What is read is in range**, whether the text is well formed or not. -/
theorem read_inRange (text : List Char) : (read text).1.InRange :=
  (readFuel_inRange (text.length + 1)).1 text

end Draft

end InterRater
