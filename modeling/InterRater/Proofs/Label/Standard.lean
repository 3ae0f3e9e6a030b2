import InterRater.Label.Basic

/-!
# The standard label pattern

The threads that the instructions of `^Q(\d+)_(\d+)$` lead to, from any place and with any marks.
A search starts at the first place only and is in one of four states afterwards, behind the letter,
inside the item, behind the underscore or inside the metric.  What each state does with the next
character is said by one equation (`runFrom_standard_letter` to `runFrom_standard_metric`), and by
induction on the text the texts with a match are the letter `Q` with two numbers of decimal digits
(`find?_standard_eq_some_iff`).
-/

namespace InterRater

/-- The instructions of the standard label pattern. -/
def standardInstructions : List Instruction :=
  [.assert .textStart, .take (.single 'Q'), .note ⟨1, false⟩, .take decimalDigits, .split 3 5,
    .note ⟨1, true⟩, .take (.single '_'), .note ⟨2, false⟩, .take decimalDigits, .split 8 10,
    .note ⟨2, true⟩, .assert .textEnd, .accept]

/-- The program of the standard label pattern. -/
def standardProgram : Program :=
  standardInstructions.toArray

set_option maxRecDepth 1000 in
theorem compiledPattern?_standard {α : Type} [Scalar α] :
    (Config.standard : Config α).compiledPattern? = some ⟨standardProgram, 2⟩ := by
  show Pattern.read? "^Q(\\d+)_(\\d+)$".toList = _
  rfl

theorem CharSet.contains_single (a c : Char) :
    (CharSet.single a).contains c = decide (c = a) := by
  simp only [single, contains, membership, ← Char.toNat_inj]
  by_cases hle : a.toNat ≤ c.toNat
  · by_cases hlt : a.toNat + 1 ≤ c.toNat
    · have hne : c.toNat ≠ a.toNat := by omega
      simp [hle, hlt, hne]
    · have heq : c.toNat = a.toNat := by omega
      simp [heq]
  · have hne : c.toNat ≠ a.toNat := by omega
    simp [hle, hne]

/-- Decimal digits of any script, one or more. -/
def AreDigits (text : List Char) : Prop :=
  text ≠ [] ∧ ∀ c ∈ text, decimalDigits.contains c = true

instance (text : List Char) : Decidable (AreDigits text) :=
  @instDecidableAnd _ _ inferInstance (List.decidableBAll _ text)

namespace Program

/-! ### Threads -/

@[simp]
theorem getElem?_standard (i : Nat) : standardProgram[i]? = standardInstructions[i]? :=
  List.getElem?_toArray

section Threads

variable {place : Place} {marks : List (Mark × Nat)}

theorem add_standard_first (h : place.before = none) :
    standardProgram.add place ⟨[], ∅⟩ ⟨0, marks⟩ =
      ⟨[⟨1, marks⟩], ((∅ : Std.HashSet Nat).insert 0).insert 1⟩ := by
  simp [add, follow, standardProgram, standardInstructions, h, Assertion.holds]

/-- No thread starts behind a character. -/
theorem add_standard_later {threads : List Thread} {met : Std.HashSet Nat} (h : 0 ∉ met)
    (hbefore : place.before ≠ none) :
    standardProgram.add place ⟨threads, met⟩ ⟨0, marks⟩ = ⟨threads, met.insert 0⟩ := by
  simp [add, follow, standardProgram, standardInstructions, h, hbefore, Assertion.holds]

theorem add_standard_letter : standardProgram.add place ⟨[], ∅⟩ ⟨2, marks⟩ =
    ⟨[⟨3, (⟨1, false⟩, place.position) :: marks⟩], ((∅ : Std.HashSet Nat).insert 2).insert 3⟩ := by
  simp [add, follow, standardProgram, standardInstructions]

theorem add_standard_item : standardProgram.add place ⟨[], ∅⟩ ⟨4, marks⟩ =
    ⟨[⟨6, (⟨1, true⟩, place.position) :: marks⟩, ⟨3, marks⟩],
      ((((∅ : Std.HashSet Nat).insert 4).insert 3).insert 5).insert 6⟩ := by
  simp [add, follow, standardProgram, standardInstructions]

theorem add_standard_underscore : standardProgram.add place ⟨[], ∅⟩ ⟨7, marks⟩ =
    ⟨[⟨8, (⟨2, false⟩, place.position) :: marks⟩], ((∅ : Std.HashSet Nat).insert 7).insert 8⟩ := by
  simp [add, follow, standardProgram, standardInstructions]

theorem add_standard_metric (h : place.after ≠ none) :
    standardProgram.add place ⟨[], ∅⟩ ⟨9, marks⟩ =
      ⟨[⟨8, marks⟩], ((((∅ : Std.HashSet Nat).insert 9).insert 8).insert 10).insert 11⟩ := by
  simp [add, follow, standardProgram, standardInstructions, h, Assertion.holds]

theorem add_standard_metric_last (h : place.after = none) :
    standardProgram.add place ⟨[], ∅⟩ ⟨9, marks⟩ =
      ⟨[⟨12, (⟨2, true⟩, place.position) :: marks⟩, ⟨8, marks⟩],
        (((((∅ : Std.HashSet Nat).insert 9).insert 8).insert 10).insert 11).insert 12⟩ := by
  simp [add, follow, standardProgram, standardInstructions, h, Assertion.holds]

end Threads

/-! ### States of a search -/

/-- Without a thread, nothing is found behind a character. -/
theorem run_standard_dead (rest : List Char) (c : Char) (position : Nat) :
    standardProgram.run (some c) position ⟨[], ∅⟩ none rest = none := by
  induction rest generalizing c position with
  | nil => simp [run, add_standard_later]
  | cons d rest ih => simp [run, add_standard_later, step, ih]

/-- What is found from behind the character `c` on, if the search goes on with the instruction
`index`. -/
def runFrom (program : Program) (index : Nat) (marks : List (Mark × Nat)) (c : Char)
    (position : Nat) (rest : List Char) : Option (List (Mark × Nat)) :=
  program.run (some c) position
    (program.add ⟨some c, rest.head?, position⟩ ⟨[], ∅⟩ ⟨index, marks⟩) none rest

section States

variable {marks found : List (Mark × Nat)} {c : Char} {position : Nat} {rest : List Char}

theorem run_standard (text : List Char) : standardProgram.run none 0 ⟨[], ∅⟩ none text =
    match text with
    | [] => none
    | c :: rest => if c = 'Q' then standardProgram.runFrom 2 [] c 1 rest else none := by
  cases text with
  | nil => simp [run, accepts, standardInstructions, add_standard_first]
  | cons c rest =>
    by_cases hletter : c = 'Q' <;>
      simp [runFrom, run, step, accepts, standardInstructions, add_standard_first,
        CharSet.contains_single, hletter, run_standard_dead]

theorem runFrom_standard_letter : standardProgram.runFrom 2 marks c position rest =
    match rest with
    | [] => none
    | d :: rest =>
      if decimalDigits.contains d then
        standardProgram.runFrom 4 ((⟨1, false⟩, position) :: marks) d (position + 1) rest
      else none := by
  cases rest with
  | nil =>
    simp [runFrom, run, accepts, standardInstructions, add_standard_later, add_standard_letter]
  | cons d rest =>
    by_cases hdigit : decimalDigits.contains d = true <;>
      simp [runFrom, run, step, accepts, standardInstructions, add_standard_later,
        add_standard_letter, hdigit, run_standard_dead]

theorem runFrom_standard_item : standardProgram.runFrom 4 marks c position rest =
    match rest with
    | [] => none
    | d :: rest =>
      if decimalDigits.contains d then standardProgram.runFrom 4 marks d (position + 1) rest
      else if d = '_' then
        standardProgram.runFrom 7 ((⟨1, true⟩, position) :: marks) d (position + 1) rest
      else none := by
  cases rest with
  | nil =>
    simp [runFrom, run, accepts, standardInstructions, add_standard_later, add_standard_item]
  | cons d rest =>
    -- Of the two threads, one takes a digit and the other one the underscore.
    by_cases hunderscore : d = '_'
    · subst hunderscore
      have hdigit : decimalDigits.contains '_' = false := rfl
      simp [runFrom, run, step, accepts, standardInstructions, add_standard_later,
        add_standard_item, CharSet.contains_single, hdigit]
    · by_cases hdigit : decimalDigits.contains d = true <;>
        simp [runFrom, run, step, accepts, standardInstructions, add_standard_later,
          add_standard_item, CharSet.contains_single, hunderscore, hdigit, run_standard_dead]

theorem runFrom_standard_underscore : standardProgram.runFrom 7 marks c position rest =
    match rest with
    | [] => none
    | d :: rest =>
      if decimalDigits.contains d then
        standardProgram.runFrom 9 ((⟨2, false⟩, position) :: marks) d (position + 1) rest
      else none := by
  cases rest with
  | nil =>
    simp [runFrom, run, accepts, standardInstructions, add_standard_later, add_standard_underscore]
  | cons d rest =>
    by_cases hdigit : decimalDigits.contains d = true <;>
      simp [runFrom, run, step, accepts, standardInstructions, add_standard_later,
        add_standard_underscore, hdigit, run_standard_dead]

theorem runFrom_standard_metric : standardProgram.runFrom 9 marks c position rest =
    match rest with
    | [] => some ((⟨2, true⟩, position) :: marks)
    | d :: rest =>
      if decimalDigits.contains d then standardProgram.runFrom 9 marks d (position + 1) rest
      else none := by
  cases rest with
  | nil =>
    simp [runFrom, run, accepts, standardInstructions, add_standard_later,
      add_standard_metric_last]
  | cons d rest =>
    by_cases hdigit : decimalDigits.contains d = true <;>
      simp [runFrom, run, step, accepts, standardInstructions, add_standard_later,
        add_standard_metric, hdigit, run_standard_dead]

/-! ### Runs through digits -/

theorem runFrom_standard_item_digits {item : List Char}
    (h : ∀ d ∈ item, decimalDigits.contains d = true) :
    standardProgram.runFrom 4 marks c position (item ++ '_' :: rest) =
      standardProgram.runFrom 7 ((⟨1, true⟩, position + item.length) :: marks) '_'
        (position + item.length + 1) rest := by
  induction item generalizing c position with
  | nil =>
    rw [List.nil_append, runFrom_standard_item]
    rfl
  | cons d item ih =>
    obtain ⟨hdigit, h⟩ := List.forall_mem_cons.mp h
    rw [List.cons_append, runFrom_standard_item]
    simp only [hdigit, if_true, ih h, List.length_cons, Nat.add_assoc, Nat.add_comm 1]

theorem runFrom_standard_metric_digits {metric : List Char}
    (h : ∀ d ∈ metric, decimalDigits.contains d = true) :
    standardProgram.runFrom 9 marks c position metric =
      some ((⟨2, true⟩, position + metric.length) :: marks) := by
  induction metric generalizing c position with
  | nil =>
    rw [runFrom_standard_metric]
    rfl
  | cons d metric ih =>
    obtain ⟨hdigit, h⟩ := List.forall_mem_cons.mp h
    rw [runFrom_standard_metric]
    simp only [hdigit, if_true, ih h, List.length_cons, Nat.add_assoc, Nat.add_comm 1]

/-- The metric has to reach to the end of the text. -/
theorem forall_digits_of_runFrom_metric
    (h : standardProgram.runFrom 9 marks c position rest = some found) :
    ∀ d ∈ rest, decimalDigits.contains d = true := by
  induction rest generalizing c position with
  | nil => exact nofun
  | cons d rest ih =>
    rw [runFrom_standard_metric] at h
    by_cases hdigit : decimalDigits.contains d = true
    · simp only [hdigit, if_true] at h
      exact List.forall_mem_cons.mpr ⟨hdigit, ih h⟩
    · simp [hdigit] at h

theorem areDigits_of_runFrom_underscore
    (h : standardProgram.runFrom 7 marks c position rest = some found) : AreDigits rest := by
  rw [runFrom_standard_underscore] at h
  cases rest with
  | nil => cases h
  | cons d rest =>
    by_cases hdigit : decimalDigits.contains d = true
    · simp only [hdigit, if_true] at h
      exact ⟨nofun, List.forall_mem_cons.mpr ⟨hdigit, forall_digits_of_runFrom_metric h⟩⟩
    · simp [hdigit] at h

/-- The item has to reach to the underscore. -/
theorem exists_metric_of_runFrom_item
    (h : standardProgram.runFrom 4 marks c position rest = some found) :
    ∃ item metric, rest = item ++ '_' :: metric ∧
      (∀ d ∈ item, decimalDigits.contains d = true) ∧ AreDigits metric := by
  induction rest generalizing c position with
  | nil =>
    rw [runFrom_standard_item] at h
    cases h
  | cons d rest ih =>
    rw [runFrom_standard_item] at h
    by_cases hdigit : decimalDigits.contains d = true
    · simp only [hdigit, if_true] at h
      obtain ⟨item, metric, rfl, hitem, hmetric⟩ := ih h
      exact ⟨d :: item, metric, rfl, List.forall_mem_cons.mpr ⟨hdigit, hitem⟩, hmetric⟩
    by_cases hunderscore : d = '_'
    · subst hunderscore
      simp only [hdigit, if_true] at h
      exact ⟨[], rest, rfl, nofun, areDigits_of_runFrom_underscore h⟩
    · simp [hdigit, hunderscore] at h

theorem exists_label_of_run {text : List Char}
    (h : standardProgram.run none 0 ⟨[], ∅⟩ none text = some found) :
    ∃ item metric, AreDigits item ∧ AreDigits metric ∧ text = 'Q' :: (item ++ '_' :: metric) := by
  rw [run_standard] at h
  cases text with
  | nil => cases h
  | cons c rest =>
    by_cases hletter : c = 'Q'
    · subst hletter
      simp only [if_true] at h
      rw [runFrom_standard_letter] at h
      cases rest with
      | nil => cases h
      | cons d rest =>
        by_cases hdigit : decimalDigits.contains d = true
        · simp only [hdigit, if_true] at h
          obtain ⟨item, metric, rfl, hitem, hmetric⟩ := exists_metric_of_runFrom_item h
          exact ⟨d :: item, metric, ⟨nofun, List.forall_mem_cons.mpr ⟨hdigit, hitem⟩⟩, hmetric, rfl⟩
        · simp [hdigit] at h
    · simp [hletter] at h

/-! ### Searches -/

/-- What is captured in a label with the given indexes. -/
def standardCaptures (item metric : List Char) : Captures :=
  ⟨'Q' :: (item ++ '_' :: metric),
    [(⟨2, true⟩, item.length + 2 + metric.length), (⟨2, false⟩, item.length + 2),
      (⟨1, true⟩, item.length + 1), (⟨1, false⟩, 1)]⟩

theorem group_one_standardCaptures (item metric : List Char) :
    (standardCaptures item metric).group 1 = item := by
  show (item ++ '_' :: metric).take (item.length + 1 - 1) = item
  rw [Nat.add_sub_cancel, List.take_left]

theorem group_two_standardCaptures (item metric : List Char) :
    (standardCaptures item metric).group 2 = metric := by
  show ((item ++ '_' :: metric).drop (item.length + 1)).take
    (item.length + 2 + metric.length - (item.length + 2)) = metric
  rw [Nat.add_sub_cancel_left, List.drop_length_add_append, List.drop_succ_cons, List.drop_zero,
    List.take_length]

theorem find?_standard {item metric : List Char} (hitem : AreDigits item)
    (hmetric : AreDigits metric) :
    standardProgram.find? ('Q' :: (item ++ '_' :: metric)) =
      some (standardCaptures item metric) := by
  obtain ⟨d, item, rfl⟩ := List.exists_cons_of_ne_nil hitem.1
  obtain ⟨e, metric, rfl⟩ := List.exists_cons_of_ne_nil hmetric.1
  obtain ⟨hd, hitem⟩ := List.forall_mem_cons.mp hitem.2
  obtain ⟨he, hmetric⟩ := List.forall_mem_cons.mp hmetric.2
  have hmarks : standardProgram.run none 0 ⟨[], ∅⟩ none
      ('Q' :: d :: (item ++ '_' :: e :: metric)) =
        some (standardCaptures (d :: item) (e :: metric)).marks := by
    rw [run_standard]
    simp only [if_true]
    rw [runFrom_standard_letter]
    simp only [hd, if_true]
    rw [runFrom_standard_item_digits hitem, runFrom_standard_underscore]
    simp only [he, if_true]
    rw [runFrom_standard_metric_digits hmetric]
    simp only [standardCaptures, List.length_cons, Option.some.injEq, List.cons.injEq,
      Prod.mk.injEq, true_and, and_true]
    omega
  rw [find?, List.cons_append, hmarks]
  rfl

/-- **Searching for the standard pattern** finds the letter `Q`, digits, an underscore and digits,
if that is the whole text, and captures the digits. -/
theorem find?_standard_eq_some_iff {text : List Char} {captures : Captures} :
    standardProgram.find? text = some captures ↔ ∃ item metric, AreDigits item ∧
      AreDigits metric ∧ text = 'Q' :: (item ++ '_' :: metric) ∧
      captures = standardCaptures item metric := by
  constructor
  · intro h
    obtain ⟨marks, hmarks, rfl⟩ := Option.map_eq_some_iff.mp h
    obtain ⟨item, metric, hitem, hmetric, rfl⟩ := exists_label_of_run hmarks
    rw [find?_standard hitem hmetric] at h
    exact ⟨item, metric, hitem, hmetric, rfl, (Option.some.inj h).symm⟩
  · rintro ⟨item, metric, hitem, hmetric, rfl, rfl⟩
    exact find?_standard hitem hmetric

theorem find?_standard_eq_none_iff {text : List Char} : standardProgram.find? text = none ↔
    ¬ ∃ item metric, AreDigits item ∧ AreDigits metric ∧ text = 'Q' :: (item ++ '_' :: metric) := by
  rw [Option.eq_none_iff_forall_ne_some]
  constructor
  · rintro h ⟨item, metric, hitem, hmetric, rfl⟩
    exact h _ (find?_standard hitem hmetric)
  · intro h captures hfind
    obtain ⟨item, metric, hitem, hmetric, rfl, -⟩ := find?_standard_eq_some_iff.mp hfind
    exact h ⟨item, metric, hitem, hmetric, rfl⟩

end States

end Program

end InterRater
