import InterRater.Proofs.Json.Reading

/-!
# What is read is JSON

A value that is read without a break comes from a text of the grammar that writes it, up to the rest
that is left: so every text that is read to its end is one of the grammar
(`Draft.writesText_of_read`).
-/

namespace InterRater

namespace Draft

variable {text rest : List Char} {draft : Draft}

/-! ### Names and numbers -/

theorem writes_of_readName {name : List Char} {value : Draft}
    (h : readName name value text = (draft, rest)) (hsound : draft.isBroken = false) :
    draft = value ∧ text = name ++ rest := by
  rw [readName] at h
  split_ifs at h with hprefix
  · obtain ⟨rfl, rfl⟩ := Prod.mk.inj h
    exact ⟨rfl, (List.prefix_iff_eq_append.mp (List.isPrefixOf_iff_prefix.mp hprefix)).symm⟩
  · cases h
    cases hsound

theorem writes_of_readNumber (h : readNumber text = (draft, rest))
    (hsound : draft.isBroken = false) : ∃ token, text = token ++ rest ∧ Writes token draft := by
  rw [readNumber] at h
  split at h
  · cases h
    cases hsound
  · next numeral left hread =>
    obtain ⟨token, rfl, hwrites⟩ := JsonNumeral.writes_of_read? hread
    split at h
    · next n hinteger =>
      cases h
      exact ⟨token, rfl, .integer hwrites hinteger⟩
    · next hinteger =>
      split_ifs at h
      · cases h
        exact ⟨token, rfl, .number hwrites hinteger⟩
      · cases h
        cases hsound

/-! ### Steps of the reader -/

section Sound

variable {fuel : ℕ}

theorem writes_of_readValue
    (hitems : ∀ {text items rest}, readItems fuel text = (items, true, rest) →
      ∃ token, text = token ++ ']' :: rest ∧ WritesItems token items)
    (hmembers : ∀ {text members rest}, readMembers fuel text = (members, true, rest) →
      ∃ token, text = token ++ '\x7d' :: rest ∧ WritesMembers token members)
    (h : readValue (fuel + 1) text = (draft, rest)) (hsound : draft.isBroken = false) :
    ∃ token, skipSpace text = token ++ rest ∧ Writes token draft := by
  unfold readValue at h
  split at h
  case h_1 =>
    cases h
    cases hsound
  case h_2 tail htext =>
    obtain ⟨rfl, rfl⟩ := writes_of_readName h hsound
    exact ⟨"null".toList, htext, .null⟩
  case h_3 tail htext =>
    obtain ⟨rfl, rfl⟩ := writes_of_readName h hsound
    exact ⟨"true".toList, htext, .boolTrue⟩
  case h_4 tail htext =>
    obtain ⟨rfl, rfl⟩ := writes_of_readName h hsound
    exact ⟨"false".toList, htext, .boolFalse⟩
  case h_5 tail htext =>
    split at h
    · next s left hread =>
      cases h
      obtain ⟨quoted, hquoted, hwrites⟩ := writesString_of_readString hread
      exact ⟨quoted, htext.trans hquoted, .string hwrites⟩
    · cases h
      cases hsound
  case h_6 tail htext =>
    obtain ⟨spaces, hspaces, htail⟩ := exists_skipSpace tail
    split at h
    · next left hend =>
      cases h
      rw [hend] at htail
      refine ⟨'[' :: (spaces ++ [']']), ?_, .emptyArray hspaces⟩
      rw [htext, htail, List.cons_append, List.append_assoc, List.singleton_append]
    · rw [readItems_congr (skipSpace_skipSpace tail)] at h
      generalize hread : readItems fuel tail = read at h
      obtain ⟨items, closed, left⟩ := read
      cases h
      obtain rfl : closed = true := by simpa [Draft.isBroken] using hsound
      obtain ⟨token, rfl, hwrites⟩ := hitems hread
      refine ⟨'[' :: (token ++ [']']), ?_, .array hwrites⟩
      rw [htext, List.cons_append, List.append_assoc, List.singleton_append]
  case h_7 tail htext =>
    obtain ⟨spaces, hspaces, htail⟩ := exists_skipSpace tail
    split at h
    · next left hend =>
      cases h
      rw [hend] at htail
      refine ⟨'\x7b' :: (spaces ++ ['\x7d']), ?_, .emptyObject hspaces⟩
      rw [htext, htail, List.cons_append, List.append_assoc, List.singleton_append]
    · rw [readMembers_congr (skipSpace_skipSpace tail)] at h
      generalize hread : readMembers fuel tail = read at h
      obtain ⟨members, closed, left⟩ := read
      cases h
      obtain rfl : closed = true := by simpa [Draft.isBroken] using hsound
      obtain ⟨token, rfl, hwrites⟩ := hmembers hread
      refine ⟨'\x7b' :: (token ++ ['\x7d']), ?_, .object hwrites⟩
      rw [htext, List.cons_append, List.append_assoc, List.singleton_append]
  case h_8 c tail _ _ _ _ _ _ htext =>
    split_ifs at h
    · rw [htext]
      exact writes_of_readNumber h hsound
    · cases h
      cases hsound

variable (hvalue : ∀ {text draft rest}, readValue fuel text = (draft, rest) →
  draft.isBroken = false → ∃ token, skipSpace text = token ++ rest ∧ Writes token draft)

include hvalue in
/-- A value and the spaces around it, up to the next mark. -/
theorem writesText_of_readValue {left : List Char} (h : readValue fuel text = (draft, left))
    (hsound : draft.isBroken = false) (hmark : skipSpace left = rest) :
    ∃ token, text = token ++ rest ∧ WritesText token draft := by
  obtain ⟨token, htoken, hwrites⟩ := hvalue h hsound
  obtain ⟨before, hbefore, htext⟩ := exists_skipSpace text
  obtain ⟨after, hafter, hleft⟩ := exists_skipSpace left
  refine ⟨before ++ (token ++ after), ?_, .intro hbefore hwrites hafter⟩
  rw [htext, htoken, hleft, hmark, List.append_assoc, List.append_assoc]

include hvalue in
theorem writes_of_readItems
    (hrec : ∀ {text items rest}, readItems fuel text = (items, true, rest) →
      ∃ token, text = token ++ ']' :: rest ∧ WritesItems token items)
    {items : List Draft} (h : readItems (fuel + 1) text = (items, true, rest)) :
    ∃ token, text = token ++ ']' :: rest ∧ WritesItems token items := by
  unfold readItems at h
  split at h
  · cases h
  · rw [readValue_congr (skipSpace_skipSpace text)] at h
    generalize hread : readValue fuel text = read at h
    obtain ⟨item, left⟩ := read
    simp only at h
    split_ifs at h with hbroken
    · cases h
    · rw [Bool.not_eq_true] at hbroken
      split at h
      · next rest' hcomma =>
        obtain ⟨token, rfl, hitem⟩ := writesText_of_readValue hvalue hread hbroken hcomma
        generalize hread' : readItems fuel rest' = read at h
        obtain ⟨items', closed, left'⟩ := read
        cases h
        obtain ⟨token', rfl, hitems⟩ := hrec hread'
        exact ⟨token ++ ',' :: token', by simp, .next hitem hitems⟩
      · next rest' hend =>
        cases h
        obtain ⟨token, rfl, hitem⟩ := writesText_of_readValue hvalue hread hbroken hend
        exact ⟨token, rfl, .last hitem⟩
      · cases h

include hvalue in
theorem writes_of_readMembers
    (hrec : ∀ {text members rest}, readMembers fuel text = (members, true, rest) →
      ∃ token, text = token ++ '\x7d' :: rest ∧ WritesMembers token members)
    {members : List (String × Draft)}
    (h : readMembers (fuel + 1) text = (members, true, rest)) :
    ∃ token, text = token ++ '\x7d' :: rest ∧ WritesMembers token members := by
  obtain ⟨before, hbefore, htext⟩ := exists_skipSpace text
  unfold readMembers at h
  split at h
  case h_2 => cases h
  case h_1 tail hquote =>
    split at h
    · cases h
    · next key left hkey =>
      obtain ⟨quoted, hquoted, hkey⟩ := writesString_of_readString hkey
      obtain ⟨after, hafter, hleft⟩ := exists_skipSpace left
      split at h
      · next value hcolon =>
        rw [hquote, hquoted, hleft, hcolon] at htext
        generalize hread : readValue fuel value = read at h
        obtain ⟨item, left'⟩ := read
        simp only at h
        split_ifs at h with hbroken
        · cases h
        · rw [Bool.not_eq_true] at hbroken
          split at h
          · next rest' hcomma =>
            obtain ⟨token, rfl, hitem⟩ := writesText_of_readValue hvalue hread hbroken hcomma
            generalize hread' : readMembers fuel rest' = read at h
            obtain ⟨members', closed, left''⟩ := read
            cases h
            obtain ⟨token', rfl, hmembers⟩ := hrec hread'
            refine ⟨_, ?_, .next (.intro hbefore hkey hafter hitem) hmembers⟩
            rw [htext]
            simp only [List.append_assoc, List.cons_append]
          · next rest' hend =>
            cases h
            obtain ⟨token, rfl, hitem⟩ := writesText_of_readValue hvalue hread hbroken hend
            refine ⟨_, ?_, .last (.intro hbefore hkey hafter hitem)⟩
            rw [htext]
            simp only [List.append_assoc, List.cons_append]
          · cases h
      · cases h

end Sound

/-! ### The whole reader -/

theorem writes_of_readFuel (fuel : ℕ) :
    (∀ {text draft rest}, readValue fuel text = (draft, rest) → draft.isBroken = false →
      ∃ token, skipSpace text = token ++ rest ∧ Writes token draft) ∧
    (∀ {text items rest}, readItems fuel text = (items, true, rest) →
      ∃ token, text = token ++ ']' :: rest ∧ WritesItems token items) ∧
    ∀ {text members rest}, readMembers fuel text = (members, true, rest) →
      ∃ token, text = token ++ '\x7d' :: rest ∧ WritesMembers token members := by
  induction fuel with
  | zero =>
    refine ⟨?_, ?_, ?_⟩
    · intro text draft rest h hsound
      rw [readValue] at h
      cases h
      cases hsound
    · intro text items rest h
      rw [readItems] at h
      cases h
    · intro text members rest h
      rw [readMembers] at h
      cases h
  | succ fuel ih =>
    obtain ⟨hvalue, hitems, hmembers⟩ := ih
    exact ⟨writes_of_readValue hitems hmembers, writes_of_readItems hvalue hitems,
      writes_of_readMembers hvalue hmembers⟩

/-- **A text that is read to its end** is one of the grammar. -/
theorem writesText_of_read (h : Draft.read text = (draft, true)) (hsound : draft.isBroken = false) :
    WritesText text draft := by
  rw [Draft.read] at h
  generalize hread : readValue (text.length + 1) text = read at h
  obtain ⟨value, left⟩ := read
  obtain ⟨rfl, hempty⟩ := Prod.mk.inj h
  obtain ⟨token, rfl, hwrites⟩ := writesText_of_readValue (writes_of_readFuel _).1 hread hsound
    (List.isEmpty_iff.mp hempty)
  rwa [List.append_nil]

end Draft

end InterRater
