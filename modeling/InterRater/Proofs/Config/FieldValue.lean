import InterRater.Proofs.Config.Storable

/-!
# The values that drafts write

Every field of a configuration has a key of its own (`ConfigField.key_injective`) and takes values
of one type (`ConfigField.wanted`).  `Wanted.Denotes wanted draft value` says that a draft is of the
wanted type, and which value it writes.  Each decoder succeeds on the drafts of its type, with the
value that they write (`Wanted.denotes_word_iff`, …, `Wanted.denotes_map_iff`).

A map keeps of every key the last name that is written for it (`Draft.lookup_insertAll`), and is no
other map with these names, since it is sorted (`Draft.Sorted.eq_of_lookup_eq`).
-/

namespace InterRater

/-! ### Fields -/

/-- What the value of a field is to be. -/
def ConfigField.wanted : ConfigField → Wanted
  | .scaleMin | .scaleMax => .word
  | .varianceCeiling | .rangeCeiling | .compositeScaleFactor | .highThreshold | .moderateThreshold
  | .reliabilityAcceptable | .reliabilityTentative | .significanceLevel | .ciZCritical
  | .exactAgreementTolerance | .closeAgreementTolerance => .number
  | .labelPattern => .string
  | .metricNames => .map
  | .rankingSize => .size

namespace ConfigField

theorem mem_all (field : ConfigField) : field ∈ all := by
  cases field <;> decide

theorem ofKey?_key (field : ConfigField) : ofKey? field.key = some field := by
  cases field <;> decide +kernel

theorem key_injective : Function.Injective key := by
  intro field field' h
  exact Option.some.inj ((ofKey?_key field).symm.trans (h ▸ ofKey?_key field'))

theorem ofKey?_eq_some_iff {text : String} {field : ConfigField} :
    ofKey? text = some field ↔ field.key = text := by
  constructor
  · intro h
    have hkey := List.find?_some (p := fun field => decide (key field = text)) h
    exact of_decide_eq_true hkey
  · rintro rfl
    exact ofKey?_key field

end ConfigField

namespace Draft

/-! ### Decoders -/

section Decoder

variable {draft : Draft}

theorem eq_of_word_eq_ok {n : ℤ} (h : draft.word = .ok n) : draft = .integer n := by
  cases draft with
  | integer m =>
    rw [word] at h
    split_ifs at h
    cases h
    rfl
  | _ => cases h

theorem eq_of_size_eq_ok {n : ℕ} (h : draft.size = .ok n) : draft = .integer n := by
  cases draft with
  | integer m =>
    rw [size] at h
    split_ifs at h with hm
    cases h
    rw [Int.toNat_of_nonneg hm]
  | _ => cases h

theorem text_eq_ok_iff {s : String} : draft.text = .ok s ↔ draft = .string s := by
  constructor
  · intro h
    cases draft with
    | string s' =>
      cases h
      rfl
    | _ => cases h
  · rintro rfl
    rfl

end Decoder

/-! ### Maps -/

section Map

variable {entries entries' pairs : List (String × String)} {key : String}

theorem lookup_cons_eq_ite (first : String × String) :
    (first :: entries).lookup key = if key = first.1 then some first.2 else entries.lookup key := by
  rw [List.lookup_cons]
  split_ifs with h
  · rw [beq_iff_eq.mpr h]
  · rw [beq_false_of_ne h]

theorem lookup_insertEntry (newKey name : String) :
    (insertEntry newKey name entries).lookup key =
      if key = newKey then some name else entries.lookup key := by
  induction entries with
  | nil => exact lookup_cons_eq_ite (newKey, name)
  | cons first rest ih =>
    rw [insertEntry]
    by_cases hlt : newKey < first.1
    · rw [if_pos hlt, lookup_cons_eq_ite]
    · rw [if_neg hlt]
      by_cases heq : newKey = first.1
      · rw [if_pos heq, lookup_cons_eq_ite, lookup_cons_eq_ite, ← heq]
        split_ifs <;> rfl
      · rw [if_neg heq, lookup_cons_eq_ite, lookup_cons_eq_ite, ih]
        split_ifs with hfirst hnew
        · exact absurd (hnew.symm.trans hfirst) heq
        · rfl
        · rfl
        · rfl

/-- The entries with further ones put into them, one after the other. -/
def insertAll (pairs entries : List (String × String)) : List (String × String) :=
  pairs.foldl (fun map pair => insertEntry pair.1 pair.2 map) entries

/-- Of every key the last name counts that is put into a map. -/
theorem lookup_insertAll :
    (insertAll pairs entries).lookup key = (pairs.reverse ++ entries).lookup key := by
  induction pairs generalizing entries with
  | nil => rfl
  | cons pair pairs ih =>
    rw [insertAll, List.foldl_cons, ← insertAll, ih, List.reverse_cons, List.append_assoc,
      List.singleton_append, List.lookup_append, List.lookup_append, lookup_insertEntry,
      lookup_cons_eq_ite]

theorem Sorted.insertAll (h : Sorted entries) : Sorted (insertAll pairs entries) := by
  induction pairs generalizing entries with
  | nil => exact h
  | cons pair pairs ih => exact ih (h.insertEntry pair.1 pair.2)

/-- A sorted map is put together again from its entries, in their order. -/
theorem insertAll_of_sorted {names before : List (String × String)}
    (h : Sorted (before ++ names)) : insertAll names before = before ++ names := by
  -- Every name is put behind the ones before it, since its key is greater than theirs.
  induction names generalizing before with
  | nil => exact (List.append_nil before).symm
  | cons name names ih =>
    have hbefore : ∀ entry ∈ before, entry.1 < name.1 := by
      intro entry hentry
      exact (List.pairwise_append.mp h).2.2 entry hentry name List.mem_cons_self
    have hnext : before ++ name :: names = (before ++ [name]) ++ names := by
      rw [List.append_assoc, List.singleton_append]
    rw [hnext] at h ⊢
    rw [← ih h, ← insertEntry_of_forall_lt hbefore]
    rfl

theorem lookup_eq_none_of_forall_lt (h : ∀ entry ∈ entries, key < entry.1) :
    entries.lookup key = none := by
  rw [List.lookup_eq_none_iff]
  intro entry hentry
  exact bne_iff_ne.mpr (h entry hentry).ne

/-- The first key of a sorted map is not in front of that of another one with the same names. -/
theorem not_lt_of_lookup_eq {first first' : String × String}
    (h' : Sorted (first' :: entries'))
    (hlookup : ∀ key, (first :: entries).lookup key = (first' :: entries').lookup key) :
    ¬ first.1 < first'.1 := by
  intro hlt
  have hnone : (first' :: entries').lookup first.1 = none := by
    refine lookup_eq_none_of_forall_lt (List.forall_mem_cons.mpr ⟨hlt, fun entry hentry => ?_⟩)
    exact hlt.trans ((List.pairwise_cons.mp h').1 entry hentry)
  rw [← hlookup, List.lookup_cons_self] at hnone
  cases hnone

/-- A sorted map is known from the names of its keys. -/
theorem Sorted.eq_of_lookup_eq (h : Sorted entries) (h' : Sorted entries')
    (hlookup : ∀ key, entries.lookup key = entries'.lookup key) : entries = entries' := by
  induction entries generalizing entries' with
  | nil =>
    cases entries' with
    | nil => rfl
    | cons first' rest' =>
      have hfirst := hlookup first'.1
      rw [List.lookup_cons_self] at hfirst
      cases hfirst
  | cons first rest ih =>
    cases entries' with
    | nil =>
      have hfirst := hlookup first.1
      rw [List.lookup_cons_self] at hfirst
      cases hfirst
    | cons first' rest' =>
      have hkey : first.1 = first'.1 :=
        le_antisymm (not_lt.mp (not_lt_of_lookup_eq h fun key => (hlookup key).symm))
          (not_lt.mp (not_lt_of_lookup_eq h' hlookup))
      have hname : first.2 = first'.2 := by
        have hfirst := hlookup first.1
        rw [lookup_cons_eq_ite, if_pos rfl, lookup_cons_eq_ite, if_pos hkey] at hfirst
        exact Option.some.inj hfirst
      obtain ⟨hbehind, hrest⟩ := List.pairwise_cons.mp h
      obtain ⟨hbehind', hrest'⟩ := List.pairwise_cons.mp h'
      rw [Prod.ext hkey hname, ih hrest hrest']
      intro key
      by_cases heq : key = first.1
      · rw [heq, lookup_eq_none_of_forall_lt hbehind, hkey, lookup_eq_none_of_forall_lt hbehind']
      · have hrests := hlookup key
        rwa [lookup_cons_eq_ite, if_neg heq, lookup_cons_eq_ite, if_neg (hkey ▸ heq)] at hrests

/-- The members of an object that gives names. -/
def nameMembers (pairs : List (String × String)) : List (String × Draft) :=
  pairs.map fun pair => (pair.1, .string pair.2)

/-- The members of an object are put into a map exactly if their values are strings. -/
theorem foldlM_insertEntry_eq_ok_iff {members : List (String × Draft)} :
    members.foldlM (fun map (key, value) => do
        return insertEntry key (← value.text) map) entries =
      (.ok entries' : Except ConfigFileFault _) ↔
      ∃ pairs, members = nameMembers pairs ∧ insertAll pairs entries = entries' := by
  induction members generalizing entries with
  | nil =>
    constructor
    · intro h
      cases h
      exact ⟨[], rfl, rfl⟩
    · rintro ⟨pairs, hpairs, rfl⟩
      rw [List.map_eq_nil_iff.mp hpairs.symm]
      rfl
  | cons member members ih =>
    rw [List.foldlM_cons, Traversal.bind_eq_ok_iff]
    constructor
    · rintro ⟨next, hnext, hrest⟩
      obtain ⟨name, hname, hnext⟩ := Traversal.bind_eq_ok_iff.mp hnext
      cases hnext
      obtain ⟨pairs, rfl, hall⟩ := ih.mp hrest
      refine ⟨(member.1, name) :: pairs, ?_, hall⟩
      show member :: nameMembers pairs = (member.1, string name) :: nameMembers pairs
      rw [← text_eq_ok_iff.mp hname]
    · rintro ⟨pairs, hpairs, hall⟩
      obtain ⟨pair, rest, rfl, rfl, hrest⟩ := List.map_eq_cons_iff.mp hpairs.symm
      exact ⟨_, rfl, ih.mpr ⟨rest, hrest.symm, hall⟩⟩

theorem entries_eq_ok_iff {draft : Draft} : draft.entries = .ok entries ↔
    ∃ pairs, draft = .object (nameMembers pairs) true ∧ insertAll pairs [] = entries := by
  constructor
  · intro h
    cases draft with
    | object members closed =>
      obtain ⟨map, hmap, h⟩ := Traversal.bind_eq_ok_iff.mp h
      obtain ⟨rfl, rfl⟩ := Traversal.ite_eq_ok_iff.mp h
      obtain ⟨pairs, rfl, hall⟩ := foldlM_insertEntry_eq_ok_iff.mp hmap
      exact ⟨pairs, rfl, hall⟩
    | _ => cases h
  · rintro ⟨pairs, rfl, hall⟩
    refine Traversal.bind_eq_ok_iff.mpr ⟨entries, ?_, rfl⟩
    exact foldlM_insertEntry_eq_ok_iff.mpr ⟨pairs, rfl, hall⟩

end Map

end Draft

/-- The draft is of the wanted type and writes the value. -/
inductive Wanted.Denotes : Wanted → Draft → Json → Prop
  | word {n : ℤ} (hlow : Int64.minValue.toInt ≤ n) (hhigh : n ≤ Int64.maxValue.toInt) :
      Denotes .word (.integer n) (.integer n)
  | size {n : ℕ} (h : n < UInt64.size) : Denotes .size (.integer n) (.ofNat n)
  | integral {n : ℤ} (hlow : Int64.minValue.toInt ≤ n) (hhigh : n < UInt64.size) :
      Denotes .number (.integer n) (.number (.ofInt n))
  | number {numeral : JsonNumeral} (hfinite : numeral.value.isFinite = true) :
      Denotes .number (.number numeral) (.number numeral.value)
  | string (s : String) : Denotes .string (.string s) (.string s)
  /-- The names of a map are sorted by their keys; of every key the last name counts. -/
  | map {pairs names : List (String × String)} (hsorted : Draft.Sorted names)
      (hlast : ∀ key, names.lookup key = pairs.reverse.lookup key) :
      Denotes .map (.object (Draft.nameMembers pairs) true)
        (.object (names.map fun name => (name.1, .string name.2)))

namespace Wanted

variable {draft : Draft} {value : Json}

theorem denotes_word_iff (h : draft.InRange) :
    Wanted.word.Denotes draft value ↔ ∃ n, draft.word = .ok n ∧ .integer n = value := by
  constructor
  · intro hvalue
    cases hvalue with
    | word hlow hhigh => exact ⟨_, if_pos hhigh, rfl⟩
  · rintro ⟨n, hn, rfl⟩
    obtain ⟨hlow, hhigh⟩ := h.word_bounds hn
    rw [Draft.eq_of_word_eq_ok hn]
    exact .word hlow hhigh

theorem denotes_size_iff (h : draft.InRange) :
    Wanted.size.Denotes draft value ↔ ∃ n, draft.size = .ok n ∧ .ofNat n = value := by
  constructor
  · intro hvalue
    cases hvalue with
    | @size n hlt =>
      refine ⟨n, ?_, rfl⟩
      rw [Draft.size, if_pos (Int.natCast_nonneg n), Int.toNat_natCast]
  · rintro ⟨n, hn, rfl⟩
    have hlt := h.size_lt hn
    rw [Draft.eq_of_size_eq_ok hn]
    exact .size hlt

theorem denotes_number_iff (h : draft.InRange) :
    Wanted.number.Denotes draft value ↔ ∃ x, draft.real = .ok x ∧ .number x = value := by
  constructor
  · intro hvalue
    cases hvalue with
    | integral | number => exact ⟨_, rfl, rfl⟩
  · rintro ⟨x, hx, rfl⟩
    cases h with
    | integer hlow hhigh =>
      cases hx
      exact .integral hlow hhigh
    | number hfinite =>
      cases hx
      exact .number hfinite
    | _ => cases hx

theorem denotes_string_iff :
    Wanted.string.Denotes draft value ↔ ∃ s, draft.text = .ok s ∧ .string s = value := by
  constructor
  · intro hvalue
    cases hvalue with
    | string s => exact ⟨s, rfl, rfl⟩
  · rintro ⟨s, hs, rfl⟩
    rw [Draft.text_eq_ok_iff.mp hs]
    exact .string s

theorem denotes_map_iff : Wanted.map.Denotes draft value ↔ ∃ names, draft.entries = .ok names ∧
    .object (names.map fun name => (name.1, .string name.2)) = value := by
  constructor
  · intro hvalue
    cases hvalue with
    | @map pairs names hsorted hlast =>
      refine ⟨names, Draft.entries_eq_ok_iff.mpr ⟨pairs, rfl, ?_⟩, rfl⟩
      refine Draft.Sorted.eq_of_lookup_eq (Draft.Sorted.insertAll List.Pairwise.nil) hsorted ?_
      intro key
      rw [Draft.lookup_insertAll, List.append_nil, hlast]
  · rintro ⟨names, hnames, rfl⟩
    have hsorted := Draft.sorted_of_entries hnames
    obtain ⟨pairs, rfl, rfl⟩ := Draft.entries_eq_ok_iff.mp hnames
    refine .map hsorted fun key => ?_
    rw [Draft.lookup_insertAll, List.append_nil]

/-- Every object of strings is a map, whatever its keys. -/
theorem exists_denotes_map_iff : (∃ value, Wanted.map.Denotes draft value) ↔
    ∃ pairs, draft = .object (Draft.nameMembers pairs) true := by
  simp only [denotes_map_iff, Draft.entries_eq_ok_iff]
  constructor
  · rintro ⟨_, _, ⟨pairs, rfl, -⟩, -⟩
    exact ⟨pairs, rfl⟩
  · rintro ⟨pairs, rfl⟩
    exact ⟨_, _, ⟨pairs, rfl, rfl⟩, rfl⟩

/-- What is of a wanted type is in range. -/
theorem Denotes.inRange {wanted : Wanted} (h : wanted.Denotes draft value) : draft.InRange := by
  have hsize : Int64.maxValue.toInt < UInt64.size := by decide
  have hzero : Int64.minValue.toInt ≤ 0 := by decide
  cases h with
  | word hlow hhigh => exact .integer hlow (hhigh.trans_lt hsize)
  | @size n hlt => exact .integer (hzero.trans (Int.natCast_nonneg n)) (by exact_mod_cast hlt)
  | integral hlow hhigh => exact .integer hlow hhigh
  | number hfinite => exact .number hfinite
  | string s => exact .string s
  | map =>
    refine .object (fun member hmember => ?_) true
    obtain ⟨pair, -, rfl⟩ := List.mem_map.mp hmember
    exact .string pair.2

end Wanted

end InterRater
