import InterRater.Proofs.Config.Overlay

/-!
# Reading back a printed configuration

A storable configuration is printed as an object whose overlay it is
(`Config.exists_reads_toJson`), if the text of each of its numbers is read as that number.  So a
file of the text gives the configuration (`Config.ofFile_fileText`).
-/

namespace InterRater

/-- The text of a number is read as the number.  Reading rounds more than once
(`JsonNumeral.value`), so that not every finite number is read back. -/
def Binary64.ReadsBack (x : Binary64) : Prop :=
  (Draft.readNumber (Json.numberText x)).1.real = .ok x ∧
    (Draft.readNumber (Json.numberText x)).2 = []

instance (x : Binary64) : Decidable x.ReadsBack :=
  inferInstanceAs (Decidable (_ ∧ _))

example : (0.667 : Binary64).ReadsBack ∧ ¬ (0.9020643004116283 : Binary64).ReadsBack := by
  decide +kernel

namespace Json

/-! ### The values of fields -/

theorem reads_word {n : ℤ} (h : Int64.minValue.toInt ≤ n ∧ n ≤ Int64.maxValue.toInt) :
    ∃ draft, Reads (.integer n) draft ∧ Wanted.word.Denotes draft (.integer n) := by
  obtain ⟨hlow, hhigh⟩ := h
  have hsize : Int64.maxValue.toInt < UInt64.size := by decide
  exact ⟨.integer n, reads_integer hlow (hhigh.trans_lt hsize), .word hlow hhigh⟩

theorem reads_size {n : ℕ} (h : n < UInt64.size) :
    ∃ draft, Reads (.ofNat n) draft ∧ Wanted.size.Denotes draft (.ofNat n) := by
  have hlow : Int64.minValue.toInt ≤ 0 := by decide
  have hreads := reads_integer (hlow.trans (Int.natCast_nonneg n)) (by exact_mod_cast h)
  exact ⟨.integer n, hreads, .size h⟩

theorem reads_real {x : Binary64} (h : x.ReadsBack) :
    ∃ draft, Reads (.number x) draft ∧ Wanted.number.Denotes draft (.number x) := by
  unfold Binary64.ReadsBack at h
  generalize hread : Draft.readNumber (numberText x) = read at h
  obtain ⟨draft, rest⟩ := read
  obtain ⟨hvalue, rfl⟩ := h
  have hsound : draft.isBroken = false := by
    cases draft with
    | integer | number => rfl
    | _ => cases hvalue
  have hreads : Reads (.number x) draft :=
    reads_of_readNumber (fun _ => by rw [prettyAt]) hread hsound
  exact ⟨draft, hreads, (Wanted.denotes_number_iff hreads.inRange).mpr ⟨x, hvalue, rfl⟩⟩

theorem reads_names {names : List (String × String)} (h : Draft.Sorted names) :
    ∃ draft, Reads (.object (names.map fun name => (name.1, .string name.2))) draft ∧
      Wanted.map.Denotes draft (.object (names.map fun name => (name.1, .string name.2))) := by
  refine ⟨.object (Draft.nameMembers names) true, reads_object ?_, ?_⟩
  · rw [ReadsMembers, Draft.nameMembers, List.forall₂_map_left_iff, List.forall₂_map_right_iff,
      List.forall₂_same]
    exact fun name _ => ⟨rfl, reads_string name.2⟩
  · have hentries := Draft.entries_eq_ok_iff.mpr ⟨names, rfl, Draft.insertAll_of_sorted h⟩
    exact Wanted.denotes_map_iff.mpr ⟨names, hentries, rfl⟩

end Json

namespace Config

variable {config : Config Binary64}

theorem toJson_eq (config : Config Binary64) : config.toJson =
    .object (ConfigField.all.map fun field => (field.key, config.fieldJson field)) :=
  rfl

/-- What a field is printed as writes its value. -/
theorem exists_reads_fieldJson (h : config.Storable)
    (hnumbers : ∀ x ∈ config.numbers, x.isFinite = true → x.ReadsBack) (field : ConfigField) :
    ∃ draft, Json.Reads (config.fieldJson field) draft ∧
      field.wanted.Denotes draft (config.fieldJson field) := by
  have hreal : ∀ x ∈ config.numbers, ∃ draft, Json.Reads (.number x) draft ∧
      Wanted.number.Denotes draft (.number x) :=
    fun x hx => Json.reads_real (hnumbers x hx (h.isFinite x hx))
  cases field
  case scaleMin => exact Json.reads_word h.scaleMin
  case scaleMax => exact Json.reads_word h.scaleMax
  case labelPattern => exact ⟨_, Json.reads_string config.labelPattern, .string _⟩
  case metricNames => exact Json.reads_names h.metricNames
  case rankingSize => exact Json.reads_size h.rankingSize
  -- What is left are the fields of numbers with a point.
  all_goals
    refine hreal _ ?_
    simp only [numbers, List.mem_cons, true_or, or_true]

/-- What a configuration is printed as is an object, whose overlay it is. -/
theorem exists_reads_toJson (h : config.Storable)
    (hnumbers : ∀ x ∈ config.numbers, x.isFinite = true → x.ReadsBack) :
    ∃ members, Json.Reads config.toJson (.object members true) ∧
      Overlays standard members config := by
  choose draft hreads hdenotes using exists_reads_fieldJson h hnumbers
  refine ⟨ConfigField.all.map fun field => (field.key, draft field), ?_, ?_, ?_, ?_, ?_⟩
  · rw [toJson_eq]
    refine Json.reads_object ?_
    rw [Json.ReadsMembers, List.forall₂_map_left_iff, List.forall₂_map_right_iff, List.forall₂_same]
    exact fun field _ => ⟨rfl, hreads field⟩
  · intro member hmember
    obtain ⟨field, -, rfl⟩ := List.mem_map.mp hmember
    exact ⟨field, rfl⟩
  · rw [List.map_map]
    exact List.Nodup.map ConfigField.key_injective (by decide)
  · intro field draft' hmember
    obtain ⟨field', -, heq⟩ := List.mem_map.mp hmember
    obtain ⟨hkey, rfl⟩ := Prod.mk.inj heq
    rw [ConfigField.key_injective hkey]
    exact hdenotes field
  · -- No field is left out.
    intro field hfield
    rw [List.map_map] at hfield
    exact absurd (List.mem_map_of_mem (ConfigField.mem_all field)) hfield

/-! ### Files -/

/-- **Reading back a printed configuration.**  A file of the text of a storable configuration
without a flaw gives the configuration. -/
theorem ofFile_fileText (h : config.Storable) (hflaw : config.flaw? = none)
    (hnumbers : ∀ x ∈ config.numbers, x.isFinite = true → x.ReadsBack) (path : String) :
    ofFile path config.toJson.fileText.toUTF8 = .ok config := by
  obtain ⟨members, hreads, hoverlays⟩ := exists_reads_toJson h hnumbers
  exact (ofFile_eq_ok_iff_overlays hreads.writesText path).mpr ⟨hoverlays, hflaw⟩

end Config

end InterRater
