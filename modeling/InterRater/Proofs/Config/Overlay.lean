import InterRater.Proofs.Config.FieldValue
import InterRater.Proofs.Json.Value
import InterRater.Proofs.Text.Utf8

/-!
# Configuration files as overlays

`Config.Overlays base members config` says that a configuration is another one with given members in
place of fields: every key is that of a field, no key comes twice, the fields of the keys have the
values that are written for them, and all others are as before.  Putting members in turn gives the
overlay and nothing else (`Config.putMembers_eq_ok_iff`), whatever their order
(`Config.Overlays.perm`), and there is one exactly for members of distinct fields with values of the
right types (`Config.exists_overlays_iff`).  So the text of an object is read as the overlay of the
standard configuration (`Config.parse_object`), and so is a file of it, unless the overlay has a
flaw (`Config.ofFile_eq_ok_iff_overlays`).
-/

namespace InterRater

namespace Config

variable {base config config' : Config Binary64} {field field' : ConfigField}

/-! ### One field -/

/-- The value that a field is printed as. -/
def fieldJson (config : Config Binary64) : ConfigField → Json
  | .scaleMin => .integer config.scaleMin
  | .scaleMax => .integer config.scaleMax
  | .varianceCeiling => .number config.varianceCeiling
  | .rangeCeiling => .number config.rangeCeiling
  | .compositeScaleFactor => .number config.compositeScaleFactor
  | .highThreshold => .number config.highThreshold
  | .moderateThreshold => .number config.moderateThreshold
  | .reliabilityAcceptable => .number config.reliabilityAcceptable
  | .reliabilityTentative => .number config.reliabilityTentative
  | .significanceLevel => .number config.significanceLevel
  | .ciZCritical => .number config.ciZCritical
  | .labelPattern => .string config.labelPattern
  | .metricNames => .object (config.metricNames.map fun name => (name.1, .string name.2))
  | .exactAgreementTolerance => .number config.exactAgreementTolerance
  | .closeAgreementTolerance => .number config.closeAgreementTolerance
  | .rankingSize => .ofNat config.rankingSize

/-- The configuration with one field as in another one. -/
def copyField (base config : Config Binary64) : ConfigField → Config Binary64
  | .scaleMin => { base with scaleMin := config.scaleMin }
  | .scaleMax => { base with scaleMax := config.scaleMax }
  | .varianceCeiling => { base with varianceCeiling := config.varianceCeiling }
  | .rangeCeiling => { base with rangeCeiling := config.rangeCeiling }
  | .compositeScaleFactor => { base with compositeScaleFactor := config.compositeScaleFactor }
  | .highThreshold => { base with highThreshold := config.highThreshold }
  | .moderateThreshold => { base with moderateThreshold := config.moderateThreshold }
  | .reliabilityAcceptable => { base with reliabilityAcceptable := config.reliabilityAcceptable }
  | .reliabilityTentative => { base with reliabilityTentative := config.reliabilityTentative }
  | .significanceLevel => { base with significanceLevel := config.significanceLevel }
  | .ciZCritical => { base with ciZCritical := config.ciZCritical }
  | .labelPattern => { base with labelPattern := config.labelPattern }
  | .metricNames => { base with metricNames := config.metricNames }
  | .exactAgreementTolerance =>
    { base with exactAgreementTolerance := config.exactAgreementTolerance }
  | .closeAgreementTolerance =>
    { base with closeAgreementTolerance := config.closeAgreementTolerance }
  | .rankingSize => { base with rankingSize := config.rankingSize }

theorem foldl_copyField (base config : Config Binary64) :
    ConfigField.all.foldl (·.copyField config ·) base = config := by
  simp only [ConfigField.all, List.foldl_cons, List.foldl_nil, copyField]

theorem fieldJson_copyField_self : (base.copyField config field).fieldJson field =
    config.fieldJson field := by
  cases field <;> rfl

theorem fieldJson_copyField_of_ne (h : field' ≠ field) :
    (base.copyField config field).fieldJson field' = base.fieldJson field' := by
  cases field <;> cases field' <;> first | rfl | exact absurd rfl h

/-- The names of a map are known from the members that they are printed as. -/
theorem nameJson_injective : Function.Injective
    (List.map fun name : String × String => (name.1, Json.string name.2)) := by
  refine List.map_injective_iff.mpr fun name name' h => ?_
  obtain ⟨hkey, hname⟩ := Prod.mk.inj h
  exact Prod.ext hkey (Json.string.inj hname)

theorem copyField_congr (h : config.fieldJson field = config'.fieldJson field) :
    base.copyField config field = base.copyField config' field := by
  cases field <;>
    simp only [fieldJson, Json.ofNat, Json.integer.injEq, Json.number.injEq, Json.string.injEq,
      Json.object.injEq, nameJson_injective.eq_iff, Int.natCast_inj] at h <;>
    simp only [copyField, h]

/-- A configuration is known from the values of its fields. -/
theorem eq_of_fieldJson_eq (h : ∀ field, config.fieldJson field = config'.fieldJson field) :
    config = config' := by
  have hcopy : (fun (base : Config Binary64) field => base.copyField config field) =
      fun base field => base.copyField config' field :=
    funext₂ fun _ field => copyField_congr (h field)
  rw [← foldl_copyField config config, hcopy, foldl_copyField]

/-- Putting a field changes no other one. -/
theorem eq_copyField_of_put {draft : Draft} (h : base.put field draft = .ok config) :
    config = base.copyField config field := by
  cases field <;>
    obtain ⟨value, -, rfl⟩ := Traversal.map_eq_ok_iff.mp h <;> rfl

/-- If a decoder gives what is written, setting a field to it gives a field of it. -/
theorem iff_exists_map {β : Type} {decoded : Except ConfigFileFault β} {written : Prop}
    {toJson : β → Json} {value : Json} {set : β → Config Binary64}
    {get : Config Binary64 → Json} (hget : ∀ x, get (set x) = toJson x)
    (hdecoded : written ↔ ∃ x, decoded = .ok x ∧ toJson x = value) :
    written ↔ ∃ config, decoded.map set = .ok config ∧ get config = value := by
  rw [hdecoded]
  constructor
  · rintro ⟨x, hx, rfl⟩
    exact ⟨set x, Traversal.map_eq_ok_iff.mpr ⟨x, hx, rfl⟩, hget x⟩
  · rintro ⟨config, hmap, rfl⟩
    obtain ⟨x, hx, rfl⟩ := Traversal.map_eq_ok_iff.mp hmap
    exact ⟨x, hx, (hget x).symm⟩

/-- A field takes the drafts of its type, with the values that they write. -/
theorem denotes_iff_exists_put (base : Config Binary64) {draft : Draft} (hdraft : draft.InRange)
    {value : Json} : field.wanted.Denotes draft value ↔
      ∃ config, base.put field draft = .ok config ∧ config.fieldJson field = value := by
  cases field
  case scaleMin => exact iff_exists_map (fun _ => rfl) (Wanted.denotes_word_iff hdraft)
  case scaleMax => exact iff_exists_map (fun _ => rfl) (Wanted.denotes_word_iff hdraft)
  case labelPattern => exact iff_exists_map (fun _ => rfl) Wanted.denotes_string_iff
  case metricNames => exact iff_exists_map (fun _ => rfl) Wanted.denotes_map_iff
  case rankingSize => exact iff_exists_map (fun _ => rfl) (Wanted.denotes_size_iff hdraft)
  all_goals exact iff_exists_map (fun _ => rfl) (Wanted.denotes_number_iff hdraft)

theorem put_eq_ok_iff {draft : Draft} (hdraft : draft.InRange) :
    base.put field draft = .ok config ↔
      field.wanted.Denotes draft (config.fieldJson field) ∧
        config = base.copyField config field := by
  constructor
  · intro h
    exact ⟨(denotes_iff_exists_put base hdraft).mpr ⟨config, h, rfl⟩, eq_copyField_of_put h⟩
  · rintro ⟨hvalue, hcopy⟩
    obtain ⟨config', hput, hfield⟩ := (denotes_iff_exists_put base hdraft).mp hvalue
    rw [hput, hcopy, eq_copyField_of_put hput, copyField_congr hfield]

/-! ### Overlays -/

/-- The configuration is another one with the given members in place of fields. -/
structure Overlays (base : Config Binary64) (members : List (String × Draft))
    (config : Config Binary64) : Prop where
  /-- Every key is that of a field. -/
  known : ∀ member ∈ members, ∃ field : ConfigField, field.key = member.1
  /-- No key comes twice. -/
  distinct : (members.map Prod.fst).Nodup
  /-- A field whose key comes has the value that is written for it, which is of its type. -/
  replaced : ∀ (field : ConfigField) (draft : Draft), (field.key, draft) ∈ members →
    field.wanted.Denotes draft (config.fieldJson field)
  /-- A field whose key does not come is as before. -/
  kept : ∀ field : ConfigField, field.key ∉ members.map Prod.fst →
    config.fieldJson field = base.fieldJson field

theorem overlays_nil_iff : Overlays base [] config ↔ config = base := by
  constructor
  · intro h
    exact eq_of_fieldJson_eq fun field => h.kept field List.not_mem_nil
  · rintro rfl
    exact ⟨nofun, List.nodup_nil, nofun, fun _ _ => rfl⟩

variable {members : List (String × Draft)}

/-- The first member is put into its field, and the others, which do not have its key, are put in
place of fields of what comes out. -/
theorem overlays_cons_iff {key : String} {draft : Draft} (hdraft : draft.InRange) :
    Overlays base ((key, draft) :: members) config ↔
      ∃ (field : ConfigField) (next : Config Binary64), field.key = key ∧
        base.put field draft = .ok next ∧ key ∉ members.map Prod.fst ∧
        Overlays next members config := by
  constructor
  · intro h
    obtain ⟨⟨field, hkey⟩, hknown⟩ := List.forall_mem_cons.mp h.known
    obtain ⟨hnew, hdistinct⟩ := List.nodup_cons.mp h.distinct
    subst hkey
    have hvalue := h.replaced field draft List.mem_cons_self
    -- In between, the first field is as in the end, and the others are as before.
    refine ⟨field, base.copyField config field, rfl, ?_, hnew, hknown, hdistinct, ?_, ?_⟩
    · refine (put_eq_ok_iff hdraft).mpr ⟨?_, copyField_congr fieldJson_copyField_self.symm⟩
      rwa [fieldJson_copyField_self]
    · intro field' draft' hmember
      exact h.replaced field' draft' (List.mem_cons_of_mem _ hmember)
    · intro field' hfield'
      by_cases heq : field' = field
      · rw [heq, fieldJson_copyField_self]
      · rw [fieldJson_copyField_of_ne heq]
        refine h.kept field' fun hmem => ?_
        rcases List.mem_cons.mp hmem with hkey | hmem
        · exact heq (ConfigField.key_injective hkey)
        · exact hfield' hmem
  · rintro ⟨field, next, rfl, hput, hnew, h⟩
    obtain ⟨hvalue, hcopy⟩ := (put_eq_ok_iff hdraft).mp hput
    have hfield : config.fieldJson field = next.fieldJson field := h.kept field hnew
    refine ⟨List.forall_mem_cons.mpr ⟨⟨field, rfl⟩, h.known⟩,
      List.nodup_cons.mpr ⟨hnew, h.distinct⟩, ?_, ?_⟩
    · intro field' draft' hmember
      rcases List.mem_cons.mp hmember with heq | hmember
      · obtain ⟨hkey, rfl⟩ := Prod.mk.inj heq
        rw [ConfigField.key_injective hkey, hfield]
        exact hvalue
      · exact h.replaced field' draft' hmember
    · intro field' hfield'
      obtain ⟨hkey, hrest⟩ := not_or.mp (List.mem_cons.not.mp hfield')
      have hne : field' ≠ field := fun heq => hkey (congrArg ConfigField.key heq)
      rw [h.kept field' hrest, hcopy, fieldJson_copyField_of_ne hne]

/-! ### Putting members -/

theorem putMembers_cons_eq_ok_iff {seen : List ConfigField} {key : String} {draft : Draft} :
    base.putMembers seen ((key, draft) :: members) = .ok config ↔
      ∃ (field : ConfigField) (next : Config Binary64), field.key = key ∧ field ∉ seen ∧
        base.put field draft = .ok next ∧
        next.putMembers (field :: seen) members = .ok config := by
  rw [putMembers]
  constructor
  · intro h
    split at h
    · cases h
    · next field hfield =>
      split_ifs at h with hseen
      obtain ⟨next, hput, hrest⟩ := Traversal.bind_eq_ok_iff.mp h
      have hnew : field ∉ seen := by rwa [← List.contains_iff_mem]
      exact ⟨field, next, ConfigField.ofKey?_eq_some_iff.mp hfield, hnew, hput, hrest⟩
  · rintro ⟨field, next, hkey, hnew, hput, hrest⟩
    rw [ConfigField.ofKey?_eq_some_iff.mpr hkey]
    simp only [List.contains_iff_mem, if_neg hnew]
    exact Traversal.bind_eq_ok_iff.mpr ⟨next, hput, hrest⟩

/-- **Putting members is overlaying them**, if none of their fields has been seen before. -/
theorem putMembers_eq_ok_iff {seen : List ConfigField}
    (hmembers : ∀ member ∈ members, member.2.InRange) :
    base.putMembers seen members = .ok config ↔
      Overlays base members config ∧ ∀ field ∈ seen, field.key ∉ members.map Prod.fst := by
  -- Every member adds its field to those that have been seen and to the configuration put so far.
  induction members generalizing base seen with
  | nil =>
    rw [overlays_nil_iff, putMembers]
    constructor
    · intro h
      cases h
      exact ⟨rfl, fun _ _ => List.not_mem_nil⟩
    · rintro ⟨rfl, -⟩
      rfl
  | cons member members ih =>
    obtain ⟨key, draft⟩ := member
    obtain ⟨hdraft, hmembers⟩ := List.forall_mem_cons.mp hmembers
    rw [putMembers_cons_eq_ok_iff, overlays_cons_iff hdraft]
    simp only [ih hmembers, List.forall_mem_cons]
    constructor
    · rintro ⟨field, next, rfl, hnew, hput, hrest, hfield, hseen⟩
      refine ⟨⟨field, next, rfl, hput, hfield, hrest⟩, fun other hother => ?_⟩
      refine List.not_mem_cons_of_ne_of_not_mem (fun heq => ?_) (hseen other hother)
      exact hnew (ConfigField.key_injective heq ▸ hother)
    · rintro ⟨⟨field, next, rfl, hput, hfield, hrest⟩, hseen⟩
      refine ⟨field, next, rfl, ?_, hput, hrest, hfield, fun other hother => ?_⟩
      · exact fun hmem => hseen field hmem List.mem_cons_self
      · exact fun hmem => hseen other hother (List.mem_cons_of_mem _ hmem)

/-- Members have an overlay exactly if their keys are those of distinct fields, with values of the
types of these. -/
theorem exists_overlays_iff : (∃ config, Overlays base members config) ↔
    (members.map Prod.fst).Nodup ∧ ∀ member ∈ members, ∃ (field : ConfigField) (value : Json),
      field.key = member.1 ∧ field.wanted.Denotes member.2 value := by
  constructor
  · rintro ⟨config, h⟩
    refine ⟨h.distinct, fun member hmember => ?_⟩
    obtain ⟨field, hkey⟩ := h.known member hmember
    refine ⟨field, config.fieldJson field, hkey, h.replaced field member.2 ?_⟩
    rwa [hkey]
  · rintro ⟨hdistinct, htyped⟩
    induction members generalizing base with
    | nil => exact ⟨base, overlays_nil_iff.mpr rfl⟩
    | cons member members ih =>
      obtain ⟨⟨field, value, hkey, hvalue⟩, htyped⟩ := List.forall_mem_cons.mp htyped
      obtain ⟨hnew, hdistinct⟩ := List.nodup_cons.mp hdistinct
      have hdraft := hvalue.inRange
      obtain ⟨next, hput, -⟩ := (denotes_iff_exists_put base hdraft).mp hvalue
      obtain ⟨config, hrest⟩ : ∃ config, Overlays next members config := ih hdistinct htyped
      exact ⟨config, (overlays_cons_iff hdraft).mpr ⟨field, next, hkey, hput, hnew, hrest⟩⟩

/-- The order of the members does not matter. -/
theorem Overlays.perm {members' : List (String × Draft)} (h : Overlays base members config)
    (hperm : members.Perm members') : Overlays base members' config where
  known member hmember := h.known member (hperm.mem_iff.mpr hmember)
  distinct := (hperm.map Prod.fst).nodup_iff.mp h.distinct
  replaced field draft hmember := h.replaced field draft (hperm.mem_iff.mpr hmember)
  kept field hkey := h.kept field fun hmem => hkey ((hperm.map Prod.fst).mem_iff.mp hmem)

/-- What is overlaid is in range. -/
theorem Overlays.inRange (h : Overlays base members config) :
    (Draft.object members true).InRange := by
  refine .object (fun member hmember => ?_) true
  obtain ⟨field, hkey⟩ := h.known member hmember
  refine (h.replaced field member.2 ?_).inRange
  rwa [hkey]

/-! ### Files -/

theorem isBroken_of_ofDraft {draft : Draft} (h : ofDraft draft = .ok config) :
    draft.isBroken = false := by
  cases draft with
  | object members closed | array items closed =>
    obtain ⟨_, -, h⟩ := Traversal.bind_eq_ok_iff.mp h
    obtain ⟨rfl, -⟩ := Traversal.ite_eq_ok_iff.mp h
    rfl
  | broken => cases h
  | _ => rfl

theorem ofDraft_object_eq_ok_iff (hmembers : ∀ member ∈ members, member.2.InRange) :
    ofDraft (.object members true) = .ok config ↔ Overlays standard members config := by
  have hrun : standard.putMembers [] members = .ok config ↔ Overlays standard members config :=
    (putMembers_eq_ok_iff hmembers).trans (and_iff_left (List.forall_mem_nil _))
  rw [← hrun]
  constructor
  · intro h
    obtain ⟨put, hput, h⟩ := Traversal.bind_eq_ok_iff.mp h
    obtain ⟨-, rfl⟩ := Traversal.ite_eq_ok_iff.mp h
    exact hput
  · intro h
    exact Traversal.bind_eq_ok_iff.mpr ⟨config, h, rfl⟩

/-- **The text of an object** is read as the overlay of the standard configuration. -/
theorem parse_eq_ok_iff_overlays {text : List Char}
    (htext : Draft.WritesText text (.object members true)) :
    parse text true = .ok config ↔ Overlays standard members config := by
  rw [parse_eq_ok_iff]
  rcases Draft.read_of_writesText htext with hread | ⟨hbroken, hrange⟩
  · have hrange := Draft.read_inRange text
    rw [hread] at hrange ⊢
    cases hrange with
    | object hmembers => rw [ofDraft_object_eq_ok_iff hmembers, and_iff_left ⟨rfl, rfl⟩]
  · -- A number is too large.
    constructor
    · rintro ⟨hdraft, -⟩
      rw [isBroken_of_ofDraft hdraft] at hbroken
      cases hbroken
    · intro h
      exact absurd h.inRange hrange

/-- **A file of an object** gives the overlay of the standard configuration, if it has no flaw. -/
theorem ofFile_eq_ok_iff_overlays {text : String}
    (htext : Draft.WritesText text.toList (.object members true)) (path : String) :
    ofFile path text.toUTF8 = .ok config ↔
      Overlays standard members config ∧ config.flaw? = none := by
  rw [ofFile_eq_ok_iff, Utf8.readable_toUTF8, parse_eq_ok_iff_overlays htext]

/-- What is read as a configuration is an object, whose overlay it is, or an array. -/
theorem writesText_of_parse {text : List Char} (h : parse text true = .ok config) :
    (∃ members, Draft.WritesText text (.object members true) ∧
      Overlays standard members config) ∨
    ∃ items, Draft.WritesText text (.array items true) := by
  obtain ⟨hdraft, hends, -⟩ := parse_eq_ok_iff.mp h
  have hwrites : Draft.WritesText text (Draft.read text).1 :=
    Draft.writesText_of_read (Prod.ext rfl hends) (isBroken_of_ofDraft hdraft)
  generalize (Draft.read text).1 = draft at hdraft hwrites
  cases draft with
  | object members closed =>
    obtain ⟨_, -, hclosed⟩ := Traversal.bind_eq_ok_iff.mp hdraft
    obtain ⟨rfl, -⟩ := Traversal.ite_eq_ok_iff.mp hclosed
    exact .inl ⟨members, hwrites, (parse_eq_ok_iff_overlays hwrites).mp h⟩
  | array items closed =>
    obtain ⟨_, -, hclosed⟩ := Traversal.bind_eq_ok_iff.mp hdraft
    obtain ⟨rfl, -⟩ := Traversal.ite_eq_ok_iff.mp hclosed
    exact .inr ⟨items, hwrites⟩
  | _ => cases hdraft

/-- **An object overlays the standard configuration.**  The text of an object, in whatever order its
members are written, is read as the standard configuration with exactly these members in place of
its fields; this succeeds exactly if the keys are those of distinct fields and the values are of the
types of these.  With a key that is none of a field, or with a key that comes twice, reading
fails. -/
theorem parse_object {text : List Char} {members : List (String × Draft)}
    (htext : Draft.WritesText text (.object members true)) :
    (∀ config, parse text true = .ok config ↔ Overlays standard members config) ∧
    ((∃ config, parse text true = .ok config) ↔ (members.map Prod.fst).Nodup ∧
      ∀ member ∈ members, ∃ (field : ConfigField) (value : Json),
        field.key = member.1 ∧ field.wanted.Denotes member.2 value) ∧
    ((∃ member ∈ members, ∀ field : ConfigField, field.key ≠ member.1) ∨
      ¬ (members.map Prod.fst).Nodup → ∃ fault, parse text true = .error fault) := by
  refine ⟨fun config => parse_eq_ok_iff_overlays htext, ?_, fun hbad => ?_⟩
  · simp only [parse_eq_ok_iff_overlays htext]
    exact exists_overlays_iff
  · cases hparse : parse text true with
    | error fault => exact ⟨fault, rfl⟩
    | ok config =>
      have h := (parse_eq_ok_iff_overlays htext).mp hparse
      rcases hbad with ⟨member, hmember, hkey⟩ | htwice
      · obtain ⟨field, hfield⟩ := h.known member hmember
        exact absurd hfield (hkey field)
      · exact absurd h.distinct htwice

/-- Some fields in another order than the standard one, with a key of a metric that comes twice. -/
def reorderedJson : Json :=
  .object [("ranking_size", .integer 3),
    ("metric_names", .object [("2", .string "b"), ("1", .string "a"), ("2", .string "c")]),
    ("high_threshold", .integer 1)]

def reorderedMembers : List (String × Draft) :=
  [("ranking_size", .integer 3),
    ("metric_names", .object [("2", .string "b"), ("1", .string "a"), ("2", .string "c")] true),
    ("high_threshold", .integer 1)]

/-- The same value under each of the keys. -/
def repeatedJson (keys : List String) : Json :=
  .object (keys.map fun key => (key, .integer 7))

def repeatedMembers (keys : List String) : List (String × Draft) :=
  keys.map fun key => (key, .integer 7)

theorem reads_reordered : Json.Reads reorderedJson (.object reorderedMembers true) := by
  have hnames : Json.ReadsMembers
      [("2", .string "b"), ("1", .string "a"), ("2", .string "c")]
      [("2", .string "b"), ("1", .string "a"), ("2", .string "c")] :=
    .cons ⟨rfl, Json.reads_string "b"⟩ (.cons ⟨rfl, Json.reads_string "a"⟩
      (.cons ⟨rfl, Json.reads_string "c"⟩ .nil))
  exact Json.reads_object (.cons ⟨rfl, Json.reads_integer (by decide) (by decide)⟩
    (.cons ⟨rfl, Json.reads_object hnames⟩
      (.cons ⟨rfl, Json.reads_integer (by decide) (by decide)⟩ .nil)))

theorem reads_repeated (keys : List String) :
    Json.Reads (repeatedJson keys) (.object (repeatedMembers keys) true) := by
  refine Json.reads_object ?_
  rw [Json.ReadsMembers, repeatedMembers, List.forall₂_map_left_iff, List.forall₂_map_right_iff,
    List.forall₂_same]
  exact fun key _ => ⟨rfl, Json.reads_integer (by decide) (by decide)⟩

/-- The fields that come are replaced, with the last name of each key of a metric; a key that comes
twice and an unknown key are refused. -/
theorem parse_object_reordered :
    Overlays standard reorderedMembers
        { standard with
          rankingSize := 3
          metricNames := [("1", "a"), ("2", "c")]
          highThreshold := 1 } ∧
      (∃ fault, parse (repeatedJson ["scale_max", "scale_max"]).fileText.toList true =
        .error fault) ∧
      ∃ fault, parse (repeatedJson ["scale_max", "scale_maximum"]).fileText.toList true =
        .error fault := by
  refine ⟨((parse_object reads_reordered.writesText).1 _).mp (by decide +kernel), ?_, ?_⟩
  · exact (parse_object (reads_repeated _).writesText).2.2 (.inr (by decide +kernel))
  · refine (parse_object (reads_repeated _).writesText).2.2
      (.inl ⟨("scale_maximum", .integer 7), .tail _ (.head _), fun field => ?_⟩)
    cases field <;> decide +kernel

end Config

end InterRater
