import InterRater.Proofs.Json.Soundness
import InterRater.Proofs.Order.Traversal
import Mathlib.Tactic.IntervalCases

/-!
# The text of a JSON value

The text that a value is printed as is one of the grammar.  `Json.Reads value draft` says that it
writes the draft, at any depth, and that the draft can be read.  Integers of 64 bits and strings of
any characters are read as they are, and an object is read member by member (`Json.reads_object`).
Of another number only that much is known as is known of its text (`Json.reads_of_readNumber`).
-/

namespace InterRater

namespace Json

open Draft

/-! ### Characters -/

/-- The escaped form of a character: behind a backslash, or as it is. -/
theorem escape_cases (c : Char) :
    (∃ tail, escape c = '\\' :: tail ∧ WritesEscape tail c) ∨
      escape c = [c] ∧ 32 ≤ c.toNat ∧ c ≠ '"' ∧ c ≠ '\\' := by
  have hread : ∀ {tail : List Char} {c : Char}, readEscape tail = some (c, []) →
      WritesEscape tail c := by
    intro tail c h
    obtain ⟨escape, rfl, hwrites⟩ := writes_of_readEscape h
    rwa [List.append_nil]
  by_cases hcontrol : c.toNat < 32
  · left
    -- Each control character has an escaped form of its own, with one or four letters.
    rw [← Char.ofNat_toNat c]
    generalize c.toNat = n at hcontrol
    interval_cases n <;> exact ⟨_, rfl, hread rfl⟩
  by_cases hquote : c = '"'
  · subst hquote
    exact .inl ⟨_, rfl, .letter (by decide)⟩
  by_cases hbackslash : c = '\\'
  · subst hbackslash
    exact .inl ⟨_, rfl, .letter (by decide)⟩
  · right
    have hvisible : ∀ d : Char, d.toNat < 32 → c ≠ d := by
      rintro d hd rfl
      exact hcontrol hd
    refine ⟨?_, not_lt.mp hcontrol, hquote, hbackslash⟩
    have hshort : ¬ c.toNat < 16 := by omega
    rw [escape, if_neg hquote, if_neg hbackslash, if_neg (hvisible '\n' (by decide)),
      if_neg (hvisible '\r' (by decide)), if_neg (hvisible '\t' (by decide)),
      if_neg (hvisible '\x08' (by decide)), if_neg (hvisible '\x0c' (by decide)),
      if_neg hshort, if_neg hcontrol]

theorem writesChars_flatMap (chars : List Char) : WritesChars (chars.flatMap escape) chars := by
  induction chars with
  | nil => exact .nil
  | cons c chars ih =>
    rw [List.flatMap_cons]
    rcases escape_cases c with ⟨tail, hescape, hwrites⟩ | ⟨hescape, hvisible, hquote, hbackslash⟩
    · rw [hescape]
      exact .escape hwrites ih
    · rw [hescape]
      exact .plain hvisible hquote hbackslash ih

theorem writesString_quote (s : String) : WritesString (quote s) s :=
  ⟨s.toList.flatMap escape, rfl, writesChars_flatMap s.toList⟩

/-! ### Values -/

/-- The text of the value writes the draft, which can be read. -/
structure Reads (value : Json) (draft : Draft) : Prop where
  writes : ∀ depth, Writes (prettyAt depth value) draft
  inRange : draft.InRange

/-- A number is read as its text alone is. -/
theorem reads_of_readNumber {value : Json} {text : List Char} {draft : Draft}
    (htext : ∀ depth, prettyAt depth value = text) (hread : readNumber text = (draft, []))
    (hsound : draft.isBroken = false) : Reads value draft := by
  obtain ⟨token, rfl, hwrites⟩ := writes_of_readNumber hread hsound
  have hrange := readNumber_inRange (token ++ [])
  rw [hread] at hrange
  refine ⟨fun depth => ?_, hrange⟩
  rwa [htext, List.append_nil]

theorem reads_integer {n : ℤ} (hlow : Int64.minValue.toInt ≤ n) (hhigh : n < UInt64.size) :
    Reads (.integer n) (.integer n) where
  writes depth := by
    rw [prettyAt]
    exact .integer (JsonNumeral.writes_toString n) (JsonNumeral.integer?_toDigits hlow hhigh)
  inRange := .integer hlow hhigh

theorem reads_string (s : String) : Reads (.string s) (.string s) where
  writes depth := by
    rw [prettyAt]
    exact .string (writesString_quote s)
  inRange := .string s

/-! ### Objects -/

theorem areSpaces_newline (depth : ℕ) : AreSpaces (newline depth) := by
  intro c hc
  rcases List.mem_cons.mp hc with rfl | hc
  · rfl
  · rw [List.eq_of_mem_replicate hc]
    rfl

/-- The members of an object are read as the drafts, one by one. -/
def ReadsMembers (members : List (String × Json)) (drafts : List (String × Draft)) : Prop :=
  List.Forall₂ (fun member draft => member.1 = draft.1 ∧ Reads member.2 draft.2) members drafts

/-- The text of a member of an object, on a line of its own. -/
def memberText (depth : ℕ) (member : String × Json) : List Char :=
  newline (depth + 1) ++ (quote member.1 ++ ':' :: ' ' :: prettyAt (depth + 1) member.2)

theorem prettyMembers_cons (depth : ℕ) (member : String × Json) (members : List (String × Json)) :
    prettyMembers depth (member :: members) =
      ',' :: (memberText depth member ++ prettyMembers depth members) := by
  rw [prettyMembers, memberText]
  simp only [List.append_assoc, List.cons_append]
  rfl

theorem prettyAt_object_cons (depth : ℕ) (member : String × Json)
    (members : List (String × Json)) : prettyAt depth (.object (member :: members)) =
      '\x7b' :: (memberText depth member ++ prettyMembers depth members) := by
  rw [prettyAt, memberText]
  simp only [List.append_assoc, List.cons_append]
  rfl

theorem writesMember_memberText (depth : ℕ) {member : String × Json} {draft : Draft}
    (h : Reads member.2 draft) {after : List Char} (hafter : AreSpaces after) :
    WritesMember (memberText depth member ++ after) member.1 draft := by
  have hspace : AreSpaces [' '] := List.forall_mem_singleton.mpr rfl
  have hwrites := WritesMember.intro (areSpaces_newline (depth + 1)) (writesString_quote member.1)
    areSpaces_nil (.intro hspace (h.writes (depth + 1)) hafter)
  simpa only [memberText, List.append_assoc, List.cons_append, List.nil_append] using hwrites

/-- All members of an object, from one of them on, up to the end of the object. -/
theorem writesMembers_prettyMembers (depth : ℕ) {members : List (String × Json)}
    {drafts : List (String × Draft)} (hmembers : ReadsMembers members drafts)
    {member : String × Json} {draft : Draft} (h : Reads member.2 draft) :
    ∃ text, memberText depth member ++ prettyMembers depth members = text ++ ['\x7d'] ∧
      WritesMembers text ((member.1, draft) :: drafts) := by
  -- The induction is on the members that are left, behind the first one.
  induction hmembers generalizing member draft with
  | nil =>
    refine ⟨memberText depth member ++ newline depth, ?_,
      .last (writesMember_memberText depth h (areSpaces_newline depth))⟩
    rw [prettyMembers, List.append_assoc]
  | @cons next draft' members drafts hnext _ ih =>
    obtain ⟨hkey, hvalue⟩ := hnext
    obtain ⟨text, htext, hwrites⟩ := ih hvalue
    have hmember := writesMember_memberText depth h areSpaces_nil
    rw [List.append_nil] at hmember
    rw [hkey] at hwrites
    refine ⟨memberText depth member ++ ',' :: text, ?_, .next hmember hwrites⟩
    rw [prettyMembers_cons, htext, List.append_assoc, List.cons_append]

/-- **Reading an object.**  An object is read as the drafts of its members, in their order. -/
theorem reads_object {members : List (String × Json)} {drafts : List (String × Draft)}
    (hmembers : ReadsMembers members drafts) : Reads (.object members) (.object drafts true) := by
  refine ⟨fun depth => ?_, .object ?_ true⟩
  · cases hmembers with
    | nil =>
      rw [prettyAt]
      exact .emptyObject areSpaces_nil
    | @cons member draft members drafts hfirst hrest =>
      obtain ⟨hkey, hvalue⟩ := hfirst
      obtain ⟨text, htext, hwrites⟩ := writesMembers_prettyMembers depth hrest hvalue
      rw [prettyAt_object_cons, htext]
      rw [hkey] at hwrites
      exact .object hwrites
  · intro draft hdraft
    obtain ⟨member, -, -, hreads⟩ := Traversal.exists_of_forall₂ hmembers hdraft
    exact hreads.inRange

/-! ### Files -/

theorem Reads.writesText {value : Json} {draft : Draft} (h : Reads value draft) :
    WritesText value.fileText.toList draft := by
  have hnewline : AreSpaces ['\n'] := List.forall_mem_singleton.mpr rfl
  rw [fileText, String.toList_ofList]
  exact .intro areSpaces_nil (h.writes 0) hnewline

end Json

end InterRater
