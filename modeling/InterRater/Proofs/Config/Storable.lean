import InterRater.Command.Load
import InterRater.Proofs.Json.Range
import InterRater.Proofs.Order.Traversal
import Mathlib.Data.String.Basic

/-!
# What a configuration holds that has been read

`Config.Storable` says that the numbers of a configuration are in the range of their fields and
that the names of its metrics are sorted, without two of one key.  The standard configuration is
storable, putting what is read into a field keeps it so (`Config.storable_put`), and therefore every
configuration that a file gives is (`Config.storable_of_ofFile`).
-/

namespace InterRater

/-! ### The values that a draft gives -/

namespace Draft

variable {draft : Draft}

/-- The number that is written is finite. -/
theorem InRange.isFinite_real (h : draft.InRange) {x : Binary64} (hx : draft.real = .ok x) :
    x.isFinite = true := by
  cases h with
  | integer hlow hhigh =>
    cases hx
    rw [show UInt64.size = 2 ^ 64 from rfl] at hhigh
    rw [show Int64.minValue.toInt = -2 ^ 63 from rfl] at hlow
    exact Binary64.isFinite_ofInt (by omega)
  | number hfinite =>
    cases hx
    exact hfinite
  | _ => cases hx

/-- The signed integer that is written has 64 bits. -/
theorem InRange.word_bounds (h : draft.InRange) {n : ℤ} (hn : draft.word = .ok n) :
    Int64.minValue.toInt ≤ n ∧ n ≤ Int64.maxValue.toInt := by
  cases h with
  | integer hlow hhigh =>
    simp only [word] at hn
    split_ifs at hn with hle
    cases hn
    exact ⟨hlow, hle⟩
  | _ => cases hn

/-- The natural number that is written has 64 bits. -/
theorem InRange.size_lt (h : draft.InRange) {n : ℕ} (hn : draft.size = .ok n) :
    n < UInt64.size := by
  cases h with
  | integer hlow hhigh =>
    simp only [size] at hn
    split_ifs at hn with hle
    cases hn
    omega
  | _ => cases hn

/-! ### Maps -/

/-- The entries of a map are sorted by their keys, of which no two are the same. -/
def Sorted (entries : List (String × String)) : Prop :=
  entries.Pairwise fun entry later => entry.1 < later.1

variable {entries : List (String × String)}

theorem fst_of_mem_insertEntry {key value : String} {entry : String × String}
    (h : entry ∈ insertEntry key value entries) : entry.1 = key ∨ entry ∈ entries := by
  induction entries with
  | nil =>
    rw [insertEntry, List.mem_singleton] at h
    exact .inl (by rw [h])
  | cons first rest ih =>
    rw [insertEntry] at h
    split_ifs at h with hlt heq
    · rcases List.mem_cons.mp h with rfl | h
      · exact .inl rfl
      · exact .inr h
    · rcases List.mem_cons.mp h with rfl | h
      · exact .inl rfl
      · exact .inr (List.mem_cons_of_mem _ h)
    · rcases List.mem_cons.mp h with rfl | h
      · exact .inr List.mem_cons_self
      · exact (ih h).imp_right (List.mem_cons_of_mem _)

theorem Sorted.insertEntry (h : Sorted entries) (key value : String) :
    Sorted (insertEntry key value entries) := by
  induction entries with
  | nil => exact List.pairwise_singleton _ _
  | cons first rest ih =>
    obtain ⟨hfirst, hrest⟩ := List.pairwise_cons.mp h
    rw [Draft.insertEntry]
    split_ifs with hlt heq
    · -- In front of the first entry.
      refine List.pairwise_cons.mpr ⟨?_, h⟩
      intro entry hentry
      rcases List.mem_cons.mp hentry with rfl | hentry
      · exact hlt
      · exact hlt.trans (hfirst entry hentry)
    · -- In its place.
      subst heq
      exact List.pairwise_cons.mpr ⟨hfirst, hrest⟩
    · -- Somewhere behind it.
      refine List.pairwise_cons.mpr ⟨?_, ih hrest⟩
      intro entry hentry
      rcases fst_of_mem_insertEntry hentry with hkey | hentry
      · rw [hkey]
        exact lt_of_le_of_ne (not_lt.mp hlt) (Ne.symm heq)
      · exact hfirst entry hentry

/-- An entry behind all others is put at the end. -/
theorem insertEntry_of_forall_lt {key value : String} (h : ∀ entry ∈ entries, entry.1 < key) :
    insertEntry key value entries = entries ++ [(key, value)] := by
  induction entries with
  | nil => rfl
  | cons first rest ih =>
    obtain ⟨hfirst, hrest⟩ := List.forall_mem_cons.mp h
    rw [insertEntry, if_neg hfirst.asymm, if_neg hfirst.ne', ih hrest, List.cons_append]

theorem sorted_of_entries (h : draft.entries = .ok entries) : Sorted entries := by
  cases draft with
  | object members closed =>
    obtain ⟨map, hmap, h⟩ := Traversal.bind_eq_ok_iff.mp h
    obtain ⟨-, rfl⟩ := Traversal.ite_eq_ok_iff.mp h
    refine Traversal.foldlM_invariant ?_ List.Pairwise.nil hmap
    intro map member next hsorted hnext
    obtain ⟨value, -, hnext⟩ := Traversal.bind_eq_ok_iff.mp hnext
    cases hnext
    exact hsorted.insertEntry member.1 value
  | _ => cases h

end Draft

namespace Config

/-! ### Storable configurations -/

/-- The fields of a configuration that are numbers with a point. -/
def numbers (config : Config Binary64) : List Binary64 :=
  [config.varianceCeiling, config.rangeCeiling, config.compositeScaleFactor, config.highThreshold,
    config.moderateThreshold, config.reliabilityAcceptable, config.reliabilityTentative,
    config.significanceLevel, config.ciZCritical, config.exactAgreementTolerance,
    config.closeAgreementTolerance]

/-- A configuration that can be stored in a file. -/
structure Storable (config : Config Binary64) : Prop where
  scaleMin : Int64.minValue.toInt ≤ config.scaleMin ∧ config.scaleMin ≤ Int64.maxValue.toInt
  scaleMax : Int64.minValue.toInt ≤ config.scaleMax ∧ config.scaleMax ≤ Int64.maxValue.toInt
  isFinite : ∀ x ∈ config.numbers, x.isFinite = true
  metricNames : Draft.Sorted config.metricNames
  rankingSize : config.rankingSize < UInt64.size

theorem storable_standard : (standard : Config Binary64).Storable where
  scaleMin := by decide
  scaleMax := by decide
  isFinite := by decide +kernel
  metricNames := by
    unfold Draft.Sorted
    decide +kernel
  rankingSize := by decide

variable {config config' : Config Binary64}

/-- Putting what is in range into a field leaves the configuration storable. -/
theorem storable_put (h : config.Storable) {field : ConfigField} {value : Draft}
    (hvalue : value.InRange) (hput : config.put field value = .ok config') : config'.Storable := by
  cases field
  case scaleMin =>
    obtain ⟨n, hn, rfl⟩ := Traversal.map_eq_ok_iff.mp hput
    exact { h with scaleMin := hvalue.word_bounds hn }
  case scaleMax =>
    obtain ⟨n, hn, rfl⟩ := Traversal.map_eq_ok_iff.mp hput
    exact { h with scaleMax := hvalue.word_bounds hn }
  case labelPattern =>
    obtain ⟨s, -, rfl⟩ := Traversal.map_eq_ok_iff.mp hput
    exact { h with }
  case metricNames =>
    obtain ⟨names, hnames, rfl⟩ := Traversal.map_eq_ok_iff.mp hput
    exact { h with metricNames := Draft.sorted_of_entries hnames }
  case rankingSize =>
    obtain ⟨n, hn, rfl⟩ := Traversal.map_eq_ok_iff.mp hput
    exact { h with rankingSize := hvalue.size_lt hn }
  -- What is left are the fields of numbers with a point.
  all_goals
    obtain ⟨x, hx, rfl⟩ := Traversal.map_eq_ok_iff.mp hput
    have hfinite := hvalue.isFinite_real hx
    have hnumbers := h.isFinite
    refine { h with isFinite := ?_ }
    simp only [numbers, List.forall_mem_cons, List.not_mem_nil, false_imp_iff, implies_true,
      and_true] at hnumbers ⊢
    simp only [hnumbers, hfinite, and_self]

theorem storable_putMembers (h : config.Storable) {seen : List ConfigField}
    {members : List (String × Draft)} (hmembers : ∀ member ∈ members, member.2.InRange)
    (hput : config.putMembers seen members = .ok config') : config'.Storable := by
  induction members generalizing config seen with
  | nil =>
    cases hput
    exact h
  | cons member members ih =>
    obtain ⟨hmember, hmembers⟩ := List.forall_mem_cons.mp hmembers
    rw [putMembers] at hput
    split at hput
    · cases hput
    · split_ifs at hput
      obtain ⟨next, hnext, hput⟩ := Traversal.bind_eq_ok_iff.mp hput
      exact ih (storable_put h hmember hnext) hmembers hput

theorem storable_putItems (h : config.Storable) {fields : List ConfigField} {items : List Draft}
    (hitems : ∀ item ∈ items, item.InRange)
    (hput : config.putItems fields items = .ok config') : config'.Storable := by
  induction items generalizing config fields with
  | nil =>
    rw [putItems] at hput
    cases hput
    exact h
  | cons item items ih =>
    obtain ⟨hitem, hitems⟩ := List.forall_mem_cons.mp hitems
    cases fields with
    | nil => cases hput
    | cons field fields =>
      rw [putItems] at hput
      obtain ⟨next, hnext, hput⟩ := Traversal.bind_eq_ok_iff.mp hput
      exact ih (storable_put h hitem hnext) hitems hput

theorem storable_ofDraft {draft : Draft} (hdraft : draft.InRange)
    (h : ofDraft draft = .ok config) : config.Storable := by
  cases hdraft with
  | object hmembers closed =>
    obtain ⟨config', hput, h⟩ := Traversal.bind_eq_ok_iff.mp h
    obtain ⟨-, rfl⟩ := Traversal.ite_eq_ok_iff.mp h
    exact storable_putMembers storable_standard hmembers hput
  | array hitems closed =>
    obtain ⟨config', hput, h⟩ := Traversal.bind_eq_ok_iff.mp h
    obtain ⟨-, rfl⟩ := Traversal.ite_eq_ok_iff.mp h
    exact storable_putItems storable_standard hitems hput
  | _ => cases h

/-! ### Configuration files -/

theorem parse_eq_ok_iff {text : List Char} {complete : Bool} :
    parse text complete = .ok config ↔
      ofDraft (Draft.read text).1 = .ok config ∧ (Draft.read text).2 = true ∧ complete = true := by
  unfold parse
  generalize Draft.read text = read
  obtain ⟨draft, ends⟩ := read
  rw [Traversal.bind_eq_ok_iff]
  constructor
  · rintro ⟨read, hread, hend⟩
    obtain ⟨hcomplete, rfl⟩ := Traversal.ite_eq_ok_iff.mp hend
    exact ⟨hread, Bool.and_eq_true_iff.mp hcomplete⟩
  · rintro ⟨hread, hcomplete⟩
    have hboth := Bool.and_eq_true_iff.mpr hcomplete
    exact ⟨config, hread, Traversal.ite_eq_ok_iff.mpr ⟨hboth, rfl⟩⟩

theorem ofFile_eq_ok_iff {path : String} {bytes : ByteArray} :
    ofFile path bytes = .ok config ↔
      parse (Utf8.readable bytes).1.toList (Utf8.readable bytes).2 = .ok config ∧
        config.flaw? = none := by
  unfold ofFile
  generalize Utf8.readable bytes = read
  obtain ⟨text, complete⟩ := read
  simp only [Traversal.bind_eq_ok_iff, Traversal.mapError_eq_ok_iff]
  constructor
  · rintro ⟨parsed, hparsed, hchecked⟩
    split at hchecked
    · cases hchecked
    · next hnone =>
      cases hchecked
      exact ⟨hparsed, hnone⟩
  · rintro ⟨hparsed, hnone⟩
    refine ⟨config, hparsed, ?_⟩
    rw [hnone]
    rfl

/-- **What a file gives can be stored again**, whatever the file holds. -/
theorem storable_of_ofFile {path : String} {bytes : ByteArray}
    (h : ofFile path bytes = .ok config) : config.Storable := by
  obtain ⟨hparse, -⟩ := ofFile_eq_ok_iff.mp h
  obtain ⟨hdraft, -, -⟩ := parse_eq_ok_iff.mp hparse
  exact storable_ofDraft (Draft.read_inRange _) hdraft

end Config

end InterRater
