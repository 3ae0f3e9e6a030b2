import InterRater.Proofs.Json.Numeral
import InterRater.Proofs.Json.Range
import InterRater.Proofs.Json.Strings
import Mathlib.Data.List.DropRight

/-!
# Reading JSON by its grammar

A text of the grammar is read as the value that it writes, and to its end.  Only where a number is
out of range does reading break off (`Draft.read_of_writesText`).  The three readers call each other
with less fuel, on shorter texts, so that one induction on the fuel goes through all of them.
-/

namespace InterRater

namespace Draft

variable {text text' rest before after : List Char} {draft item : Draft} {c : Char}

/-! ### Spaces -/

theorem skipSpace_of_not_space (hc : isSpace c = false) (tail : List Char) :
    skipSpace (c :: tail) = c :: tail := by
  rw [skipSpace, List.dropWhile_cons, hc, if_neg Bool.false_ne_true]

theorem skipSpace_append (h : AreSpaces before) (rest : List Char) :
    skipSpace (before ++ rest) = skipSpace rest :=
  List.dropWhile_append_of_pos h

theorem skipSpace_skipSpace (text : List Char) : skipSpace (skipSpace text) = skipSpace text :=
  List.dropWhile_idempotent _ _

/-- What is skipped are spaces. -/
theorem exists_skipSpace (text : List Char) :
    ∃ before, AreSpaces before ∧ text = before ++ skipSpace text :=
  ⟨text.takeWhile isSpace, fun _ hc => List.mem_takeWhile_imp hc,
    List.takeWhile_append_dropWhile.symm⟩

theorem areSpaces_nil : AreSpaces [] :=
  List.forall_mem_nil _

/-- A space does not continue a number. -/
theorem delimits_of_isSpace (hc : isSpace c = true) (tail : List Char) : Delimits (c :: tail) := by
  rintro d ⟨⟩
  simp only [isSpace, Bool.or_eq_true, decide_eq_true_eq] at hc
  rcases hc with ((rfl | rfl) | rfl) | rfl
  all_goals decide

theorem AreSpaces.delimits_append (h : AreSpaces before) (hrest : Delimits rest) :
    Delimits (before ++ rest) := by
  cases before with
  | nil => exact hrest
  | cons c tail => exact delimits_of_isSpace (h c List.mem_cons_self) (tail ++ rest)

theorem readValue_congr (h : skipSpace text = skipSpace text') (fuel : ℕ) :
    readValue fuel text = readValue fuel text' := by
  cases fuel with
  | zero => rfl
  | succ fuel => rw [readValue, readValue, h]

theorem readItems_congr (h : skipSpace text = skipSpace text') (fuel : ℕ) :
    readItems fuel text = readItems fuel text' := by
  cases fuel with
  | zero => rfl
  | succ fuel => rw [readItems, readItems, h]

theorem readMembers_congr (h : skipSpace text = skipSpace text') (fuel : ℕ) :
    readMembers fuel text = readMembers fuel text' := by
  cases fuel with
  | zero => rfl
  | succ fuel => rw [readMembers, readMembers, h]

/-! ### The first character of a value -/

/-- A character that can be the first one of a value. -/
def Starts (c : Char) : Prop :=
  c ∈ ['n', 't', 'f', '"', '[', '\x7b', '-'] ∨ isDigit c = true

theorem ne_of_starts {d : Char} (hc : Starts c) (hd : isDigit d = false)
    (hmem : d ∉ ['n', 't', 'f', '"', '[', '\x7b', '-']) : c ≠ d := by
  rintro rfl
  rcases hc with hc | hc
  · exact hmem hc
  · rw [hd] at hc
    cases hc

theorem not_isSpace_of_starts (hc : Starts c) : isSpace c = false := by
  simp only [isSpace, Bool.or_eq_false_iff, decide_eq_false_iff_not]
  refine ⟨⟨⟨?_, ?_⟩, ?_⟩, ?_⟩ <;> exact ne_of_starts hc rfl (by decide)

theorem Writes.exists_cons (h : Writes text draft) : ∃ c tail, text = c :: tail ∧ Starts c := by
  have hnumeral : ∀ {numeral : JsonNumeral}, numeral.Writes text →
      ∃ c tail, text = c :: tail ∧ Starts c := by
    intro numeral h
    obtain ⟨c, tail, rfl, hc⟩ := h.exists_cons
    refine ⟨c, tail, rfl, ?_⟩
    rcases hc with rfl | hc
    · exact .inl (by decide)
    · exact .inr hc
  cases h with
  | null => exact ⟨'n', _, rfl, .inl (by decide)⟩
  | boolTrue => exact ⟨'t', _, rfl, .inl (by decide)⟩
  | boolFalse => exact ⟨'f', _, rfl, .inl (by decide)⟩
  | integer h => exact hnumeral h
  | number h => exact hnumeral h
  | string h =>
    obtain ⟨inner, rfl, -⟩ := h
    exact ⟨'"', _, rfl, .inl (by decide)⟩
  | emptyArray => exact ⟨'[', _, rfl, .inl (by decide)⟩
  | array => exact ⟨'[', _, rfl, .inl (by decide)⟩
  | emptyObject => exact ⟨'\x7b', _, rfl, .inl (by decide)⟩
  | object => exact ⟨'\x7b', _, rfl, .inl (by decide)⟩

theorem Writes.isBroken (h : Writes text draft) : draft.isBroken = false := by
  cases h <;> rfl

theorem WritesText.exists_skipSpace (h : WritesText text draft) (rest : List Char) :
    ∃ c tail, skipSpace (text ++ rest) = c :: tail ∧ Starts c := by
  obtain ⟨hbefore, h, -⟩ := h
  obtain ⟨c, tail, rfl, hc⟩ := h.exists_cons
  rw [List.append_assoc, skipSpace_append hbefore, List.cons_append, List.cons_append,
    skipSpace_of_not_space (not_isSpace_of_starts hc)]
  exact ⟨c, _, rfl, hc⟩

theorem WritesItems.exists_skipSpace {items : List Draft} (h : WritesItems text items)
    (rest : List Char) : ∃ c tail, skipSpace (text ++ rest) = c :: tail ∧ Starts c := by
  cases h with
  | last h => exact h.exists_skipSpace rest
  | next h =>
    rw [List.append_assoc]
    exact h.exists_skipSpace _

theorem WritesMember.exists_skipSpace {key : String} (h : WritesMember text key draft)
    (rest : List Char) : ∃ tail, skipSpace (text ++ rest) = '"' :: tail := by
  obtain ⟨hbefore, ⟨inner, rfl, -⟩, -, -⟩ := h
  rw [List.append_assoc, skipSpace_append hbefore, List.append_assoc, List.cons_append,
    skipSpace_of_not_space rfl]
  exact ⟨_, rfl⟩

theorem WritesMembers.exists_skipSpace {members : List (String × Draft)}
    (h : WritesMembers text members) (rest : List Char) :
    ∃ tail, skipSpace (text ++ rest) = '"' :: tail := by
  cases h with
  | last h => exact h.exists_skipSpace rest
  | next h =>
    rw [List.append_assoc]
    exact h.exists_skipSpace _

/-! ### Steps of the reader -/

/-- What starts as a number is read as one. -/
theorem readValue_number (hc : c = '-' ∨ isDigit c = true) (fuel : ℕ) (tail : List Char) :
    readValue (fuel + 1) (c :: tail) = readNumber (c :: tail) := by
  have hsign : (decide (c = '-') || isDigit c) = true := by
    rw [Bool.or_eq_true, decide_eq_true_iff]
    exact hc
  have hstarts : Starts c := hc.imp (fun h => by rw [h]; decide) id
  have hletters : ∀ d ∈ ['n', 't', 'f', '"', '[', '\x7b'], d ≠ '-' ∧ isDigit d = false := by
    simp only [List.mem_cons, List.not_mem_nil, or_false, forall_eq_or_imp, forall_eq]
    decide
  have hne : ∀ d ∈ ['n', 't', 'f', '"', '[', '\x7b'], c ≠ d := by
    rintro d hd rfl
    obtain ⟨hminus, hdigit⟩ := hletters c hd
    rw [hdigit] at hc
    exact hc.elim hminus nofun
  simp only [List.forall_mem_cons] at hne
  rw [readValue, skipSpace_of_not_space (not_isSpace_of_starts hstarts)]
  split
  · next h => cases h
  -- The starts of the six other kinds of values.
  iterate 6 next h => exact absurd (List.cons.inj h).1 (by simp only [hne, not_false_eq_true])
  · next h =>
    obtain ⟨rfl, rfl⟩ := List.cons.inj h
    rw [hsign, if_pos rfl]

section Items

variable {fuel : ℕ} {left : List Char}

theorem readItems_of_isBroken (h : (readValue fuel text).1.isBroken = true) :
    (readItems (fuel + 1) text).2.1 = false := by
  rw [readItems]
  split
  · rfl
  · rw [readValue_congr (skipSpace_skipSpace text)]
    simp only [h, if_true]

theorem readItems_last (hstart : ∀ tail, skipSpace text ≠ ']' :: tail)
    (hvalue : readValue fuel text = (item, left)) (hsound : item.isBroken = false)
    (hend : skipSpace left = ']' :: rest) : readItems (fuel + 1) text = ([item], true, rest) := by
  rw [readItems]
  split
  · next tail h => exact absurd h (hstart tail)
  · rw [readValue_congr (skipSpace_skipSpace text), hvalue]
    simp only [hsound, hend, Bool.false_eq_true, if_false]

theorem readItems_next (hstart : ∀ tail, skipSpace text ≠ ']' :: tail)
    (hvalue : readValue fuel text = (item, left)) (hsound : item.isBroken = false)
    (hcomma : skipSpace left = ',' :: rest) :
    readItems (fuel + 1) text = (item :: (readItems fuel rest).1, (readItems fuel rest).2) := by
  rw [readItems]
  split
  · next tail h => exact absurd h (hstart tail)
  · rw [readValue_congr (skipSpace_skipSpace text), hvalue]
    simp only [hsound, hcomma, Bool.false_eq_true, if_false]

end Items

section Members

variable {fuel : ℕ} {key : String} {quoted left : List Char}

/-- The text of a member, up to its value. -/
theorem read_key (text : List Char) (hbefore : AreSpaces before) (hkey : WritesString quoted key)
    (hafter : AreSpaces after) (hfuel : quoted.length ≤ fuel) :
    ∃ tail, skipSpace (before ++ (quoted ++ (after ++ ':' :: text))) = '"' :: tail ∧
      readString fuel tail = some (key, after ++ ':' :: text) ∧
      skipSpace (after ++ ':' :: text) = ':' :: text := by
  obtain ⟨inner, rfl, hread⟩ := readString_of_writesString hkey hfuel
  refine ⟨inner ++ (after ++ ':' :: text), ?_, hread _, ?_⟩
  · rw [skipSpace_append hbefore, List.cons_append, skipSpace_of_not_space rfl]
  · rw [skipSpace_append hafter, skipSpace_of_not_space rfl]

theorem readMembers_of_isBroken (hbefore : AreSpaces before) (hkey : WritesString quoted key)
    (hafter : AreSpaces after) (hfuel : quoted.length ≤ fuel)
    (h : (readValue fuel text).1.isBroken = true) :
    (readMembers (fuel + 1) (before ++ (quoted ++ (after ++ ':' :: text)))).2.1 = false := by
  obtain ⟨tail, hskip, hread, hcolon⟩ := read_key text hbefore hkey hafter hfuel
  rw [readMembers, hskip]
  simp only [hread, hcolon, h, if_true]

theorem readMembers_last (hbefore : AreSpaces before) (hkey : WritesString quoted key)
    (hafter : AreSpaces after) (hfuel : quoted.length ≤ fuel)
    (hvalue : readValue fuel text = (item, left)) (hsound : item.isBroken = false)
    (hend : skipSpace left = '\x7d' :: rest) :
    readMembers (fuel + 1) (before ++ (quoted ++ (after ++ ':' :: text))) =
      ([(key, item)], true, rest) := by
  obtain ⟨tail, hskip, hread, hcolon⟩ := read_key text hbefore hkey hafter hfuel
  rw [readMembers, hskip]
  simp only [hread, hcolon, hvalue, hsound, hend, Bool.false_eq_true, if_false]

theorem readMembers_next (hbefore : AreSpaces before) (hkey : WritesString quoted key)
    (hafter : AreSpaces after) (hfuel : quoted.length ≤ fuel)
    (hvalue : readValue fuel text = (item, left)) (hsound : item.isBroken = false)
    (hcomma : skipSpace left = ',' :: rest) :
    readMembers (fuel + 1) (before ++ (quoted ++ (after ++ ':' :: text))) =
      ((key, item) :: (readMembers fuel rest).1, (readMembers fuel rest).2) := by
  obtain ⟨tail, hskip, hread, hcolon⟩ := read_key text hbefore hkey hafter hfuel
  rw [readMembers, hskip]
  simp only [hread, hcolon, hvalue, hsound, hcomma, Bool.false_eq_true, if_false]

end Members

/-! ### Reading to the end -/

/-- Reading comes to the value and what is behind it, or breaks off since a number in the value is
out of range. -/
def Yields (draft : Draft) (rest : List Char) (read : Draft × List Char) : Prop :=
  read = (draft, rest) ∨ read.1.isBroken = true ∧ ¬ draft.InRange

/-- Reading comes to the elements, up to the end of the array, or breaks off in one of them. -/
def YieldsItems (items : List Draft) (rest : List Char) (read : List Draft × Bool × List Char) :
    Prop :=
  read = (items, true, rest) ∨ read.2.1 = false ∧ ∃ item ∈ items, ¬ item.InRange

/-- Reading comes to the members, up to the end of the object, or breaks off in one of them. -/
def YieldsMembers (members : List (String × Draft)) (rest : List Char)
    (read : List (String × Draft) × Bool × List Char) : Prop :=
  read = (members, true, rest) ∨ read.2.1 = false ∧ ∃ member ∈ members, ¬ member.2.InRange

theorem readNumber_of_writes {numeral : JsonNumeral} (h : numeral.Writes text)
    (hrest : Delimits rest) :
    (∀ n, numeral.integer? = some n → readNumber (text ++ rest) = (.integer n, rest)) ∧
    (numeral.integer? = none → Yields (.number numeral) rest (readNumber (text ++ rest))) := by
  have hread := JsonNumeral.read?_of_writes h hrest
  constructor
  · intro n hn
    rw [readNumber, hread]
    simp only [hn]
  · intro hnone
    rw [readNumber, hread]
    simp only [hnone]
    by_cases hfinite : numeral.value.isFinite = true
    · rw [if_pos hfinite]
      exact .inl rfl
    · rw [if_neg hfinite]
      refine .inr ⟨rfl, ?_⟩
      intro hrange
      cases hrange with
      | number hrange => exact hfinite hrange

section Step

variable {fuel : ℕ}

theorem yields_array {items : List Draft} (h : WritesItems text items)
    (hread : YieldsItems items rest (readItems fuel (text ++ ']' :: rest))) :
    Yields (.array items true) rest (readValue (fuel + 1) ('[' :: (text ++ ']' :: rest))) := by
  obtain ⟨c, tail, hskip, hc⟩ := h.exists_skipSpace (']' :: rest)
  rw [readValue, skipSpace_of_not_space rfl]
  simp only
  split
  · next tail' h' =>
    rw [hskip] at h'
    exact absurd (List.cons.inj h').1 (ne_of_starts hc rfl (by decide))
  · rw [readItems_congr (skipSpace_skipSpace _)]
    rcases hread with hread | ⟨hopen, item, hitem, hout⟩
    · rw [hread]
      exact .inl rfl
    · refine .inr ⟨by simp only [Draft.isBroken, hopen, Bool.not_false], ?_⟩
      intro hrange
      cases hrange with
      | array hrange => exact hout (hrange item hitem)

theorem yields_object {members : List (String × Draft)} (h : WritesMembers text members)
    (hread : YieldsMembers members rest (readMembers fuel (text ++ '\x7d' :: rest))) :
    Yields (.object members true) rest
      (readValue (fuel + 1) ('\x7b' :: (text ++ '\x7d' :: rest))) := by
  obtain ⟨tail, hskip⟩ := h.exists_skipSpace ('\x7d' :: rest)
  rw [readValue, skipSpace_of_not_space rfl]
  simp only
  split
  · next tail' h' =>
    rw [hskip] at h'
    exact absurd (List.cons.inj h').1 (by decide)
  · rw [readMembers_congr (skipSpace_skipSpace _)]
    rcases hread with hread | ⟨hopen, member, hmember, hout⟩
    · rw [hread]
      exact .inl rfl
    · refine .inr ⟨by simp only [Draft.isBroken, hopen, Bool.not_false], ?_⟩
      intro hrange
      cases hrange with
      | object hrange => exact hout (hrange member hmember)

theorem yields_value
    (hitems : ∀ {text items} rest, WritesItems text items → text.length + 1 < fuel →
      YieldsItems items rest (readItems fuel (text ++ ']' :: rest)))
    (hmembers : ∀ {text members} rest, WritesMembers text members → text.length + 1 < fuel →
      YieldsMembers members rest (readMembers fuel (text ++ '\x7d' :: rest)))
    (h : Writes text draft) (hrest : Delimits rest) (hfuel : text.length < fuel + 1) :
    Yields draft rest (readValue (fuel + 1) (text ++ rest)) := by
  have hnumeral : ∀ {numeral : JsonNumeral}, numeral.Writes text →
      readValue (fuel + 1) (text ++ rest) = readNumber (text ++ rest) := by
    intro numeral h
    obtain ⟨c, tail, rfl, hc⟩ := h.exists_cons
    exact readValue_number hc fuel (tail ++ rest)
  cases h with
  | null => exact .inl rfl
  | boolTrue => exact .inl rfl
  | boolFalse => exact .inl rfl
  | integer h hinteger =>
    rw [hnumeral h]
    exact .inl ((readNumber_of_writes h hrest).1 _ hinteger)
  | number h hinteger =>
    rw [hnumeral h]
    exact (readNumber_of_writes h hrest).2 hinteger
  | string h =>
    obtain ⟨inner, rfl, hread⟩ := readString_of_writesString h (Nat.le_of_lt_succ hfuel)
    rw [List.cons_append, readValue, skipSpace_of_not_space rfl]
    simp only [hread]
    exact .inl rfl
  | emptyArray h =>
    rw [List.cons_append, List.append_assoc, readValue, skipSpace_of_not_space rfl]
    simp only [skipSpace_append h, List.singleton_append,
      skipSpace_of_not_space (show isSpace ']' = false from rfl)]
    exact .inl rfl
  | @array text items h =>
    rw [List.cons_append, List.append_assoc]
    rw [List.length_cons, List.length_append, List.length_singleton] at hfuel
    exact yields_array h (hitems rest h (by omega))
  | emptyObject h =>
    rw [List.cons_append, List.append_assoc, readValue, skipSpace_of_not_space rfl]
    simp only [skipSpace_append h, List.singleton_append,
      skipSpace_of_not_space (show isSpace '\x7d' = false from rfl)]
    exact .inl rfl
  | @object text members h =>
    rw [List.cons_append, List.append_assoc]
    rw [List.length_cons, List.length_append, List.length_singleton] at hfuel
    exact yields_object h (hmembers rest h (by omega))

variable (hvalue : ∀ {text draft} rest, Writes text draft → Delimits rest → text.length < fuel →
  Yields draft rest (readValue fuel (text ++ rest)))

include hvalue in
/-- A value with spaces around it. -/
theorem yields_text (h : WritesText text draft) (hrest : Delimits rest)
    (hfuel : text.length < fuel) : draft.isBroken = false ∧
    ∃ left, skipSpace left = skipSpace rest ∧
      Yields draft left (readValue fuel (text ++ rest)) := by
  obtain ⟨hbefore, h, hafter⟩ := h
  rename_i before text after
  refine ⟨h.isBroken, after ++ rest, skipSpace_append hafter rest, ?_⟩
  rw [List.length_append, List.length_append] at hfuel
  rw [List.append_assoc, List.append_assoc, readValue_congr (skipSpace_append hbefore _)]
  exact hvalue _ h (hafter.delimits_append hrest) (by omega)

include hvalue in
/-- A value with spaces around it, in front of a mark. -/
theorem yields_before (h : WritesText text draft) (hfuel : text.length < fuel) (c : Char)
    (tail : List Char) (hc : c ∈ [',', ']', '\x7d']) : draft.isBroken = false ∧
    ∃ left, skipSpace left = c :: tail ∧
      Yields draft left (readValue fuel (text ++ c :: tail)) := by
  have hmark : isSpace c = false ∧ isDigit c = false ∧ c ≠ '.' ∧ c ≠ 'e' ∧ c ≠ 'E' := by
    simp only [List.mem_cons, List.not_mem_nil, or_false] at hc
    rcases hc with rfl | rfl | rfl <;> decide
  have hdelimits : Delimits (c :: tail) := by
    rintro d ⟨⟩
    exact hmark.2
  obtain ⟨hsound, left, hleft, hread⟩ := yields_text hvalue h hdelimits hfuel
  exact ⟨hsound, left, hleft.trans (skipSpace_of_not_space hmark.1 tail), hread⟩

include hvalue in
theorem yields_items
    (hrec : ∀ {text items} rest, WritesItems text items → text.length + 1 < fuel →
      YieldsItems items rest (readItems fuel (text ++ ']' :: rest)))
    {items : List Draft} (h : WritesItems text items) (hfuel : text.length + 1 < fuel + 1) :
    YieldsItems items rest (readItems (fuel + 1) (text ++ ']' :: rest)) := by
  have hstart : ∀ tail, skipSpace (text ++ ']' :: rest) ≠ ']' :: tail := by
    intro tail htail
    obtain ⟨c, tail', hskip, hc⟩ := h.exists_skipSpace (']' :: rest)
    rw [hskip] at htail
    exact ne_of_starts hc rfl (by decide) (List.cons.inj htail).1
  cases h with
  | last h =>
    obtain ⟨hsound, left, hleft, hread⟩ :=
      yields_before hvalue h (Nat.lt_of_succ_lt_succ hfuel) ']' rest (by decide)
    rcases hread with hread | ⟨hbroken, hout⟩
    · exact .inl (readItems_last hstart hread hsound hleft)
    · exact .inr ⟨readItems_of_isBroken hbroken, _, List.mem_cons_self, hout⟩
  | @next text rest' item items h hitems =>
    rw [List.length_append, List.length_cons] at hfuel
    rw [List.append_assoc, List.cons_append] at hstart ⊢
    obtain ⟨hsound, left, hleft, hread⟩ :=
      yields_before hvalue h (by omega) ',' (rest' ++ ']' :: rest) (by decide)
    rcases hread with hread | ⟨hbroken, hout⟩
    · rw [readItems_next hstart hread hsound hleft]
      rcases hrec rest hitems (by omega) with hrest | ⟨hopen, item', hmem, hout⟩
      · rw [hrest]
        exact .inl rfl
      · exact .inr ⟨hopen, item', List.mem_cons_of_mem _ hmem, hout⟩
    · exact .inr ⟨readItems_of_isBroken hbroken, _, List.mem_cons_self, hout⟩

include hvalue in
theorem yields_members
    (hrec : ∀ {text members} rest, WritesMembers text members → text.length + 1 < fuel →
      YieldsMembers members rest (readMembers fuel (text ++ '\x7d' :: rest)))
    {members : List (String × Draft)} (h : WritesMembers text members)
    (hfuel : text.length + 1 < fuel + 1) :
    YieldsMembers members rest (readMembers (fuel + 1) (text ++ '\x7d' :: rest)) := by
  cases h with
  | last h =>
    obtain ⟨hbefore, hkey, hafter, h⟩ := h
    simp only [List.length_append, List.length_cons] at hfuel
    obtain ⟨hsound, left, hleft, hread⟩ :=
      yields_before hvalue h (by omega) '\x7d' rest (by decide)
    simp only [List.append_assoc, List.cons_append]
    rcases hread with hread | ⟨hbroken, hout⟩
    · exact .inl (readMembers_last hbefore hkey hafter (by omega) hread hsound hleft)
    · exact .inr ⟨readMembers_of_isBroken hbefore hkey hafter (by omega) hbroken, _,
        List.mem_cons_self, hout⟩
  | @next text rest' key value members h hmembers =>
    obtain ⟨hbefore, hkey, hafter, h⟩ := h
    simp only [List.length_append, List.length_cons] at hfuel
    obtain ⟨hsound, left, hleft, hread⟩ :=
      yields_before hvalue h (by omega) ',' (rest' ++ '\x7d' :: rest) (by decide)
    simp only [List.append_assoc, List.cons_append]
    rcases hread with hread | ⟨hbroken, hout⟩
    · rw [readMembers_next hbefore hkey hafter (by omega) hread hsound hleft]
      rcases hrec rest hmembers (by omega) with hrest | ⟨hopen, member, hmem, hout⟩
      · rw [hrest]
        exact .inl rfl
      · exact .inr ⟨hopen, member, List.mem_cons_of_mem _ hmem, hout⟩
    · exact .inr ⟨readMembers_of_isBroken hbefore hkey hafter (by omega) hbroken, _,
        List.mem_cons_self, hout⟩

end Step

theorem readFuel_of_writes (fuel : ℕ) :
    (∀ {text draft} rest, Writes text draft → Delimits rest → text.length < fuel →
      Yields draft rest (readValue fuel (text ++ rest))) ∧
    (∀ {text items} rest, WritesItems text items → text.length + 1 < fuel →
      YieldsItems items rest (readItems fuel (text ++ ']' :: rest))) ∧
    ∀ {text members} rest, WritesMembers text members → text.length + 1 < fuel →
      YieldsMembers members rest (readMembers fuel (text ++ '\x7d' :: rest)) := by
  -- Each of the three readers calls the others with less fuel, on shorter texts.
  induction fuel with
  | zero => exact ⟨fun _ _ _ h => absurd h (Nat.not_lt_zero _),
      fun _ _ h => absurd h (Nat.not_lt_zero _), fun _ _ h => absurd h (Nat.not_lt_zero _)⟩
  | succ fuel ih =>
    obtain ⟨hvalue, hitems, hmembers⟩ := ih
    exact ⟨fun _ h hrest hfuel => yields_value hitems hmembers h hrest hfuel,
      fun _ h hfuel => yields_items hvalue hitems h hfuel,
      fun _ h hfuel => yields_members hvalue hmembers h hfuel⟩

/-- **A text of the grammar is read**: as the value that it writes and to its end, unless a number
in the value is out of range. -/
theorem read_of_writesText (h : WritesText text draft) :
    Draft.read text = (draft, true) ∨ (Draft.read text).1.isBroken = true ∧ ¬ draft.InRange := by
  obtain ⟨-, left, hleft, hread⟩ := yields_text (readFuel_of_writes (text.length + 1)).1 h
    delimits_nil (Nat.lt_succ_self _)
  rw [List.append_nil] at hread
  rw [Draft.read]
  rcases hread with hread | hout
  · rw [hread]
    refine .inl ?_
    simp only [hleft]
    rfl
  · exact .inr hout

end Draft

end InterRater
