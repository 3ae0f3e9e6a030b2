import InterRater.Config.Basic
import InterRater.Json.Draft
import InterRater.Text.Quoted

/-!
# Configuration files

A configuration file is a JSON object whose members replace fields of the standard configuration,
or a JSON array of the fields in their order.  `Config.ofDraft` reports the first problem in the
order of the text; `Config.toJson` writes all fields.
-/

namespace InterRater

/-- The fields of a configuration file. -/
inductive ConfigField where
  | scaleMin
  | scaleMax
  | varianceCeiling
  | rangeCeiling
  | compositeScaleFactor
  | highThreshold
  | moderateThreshold
  | reliabilityAcceptable
  | reliabilityTentative
  | significanceLevel
  | ciZCritical
  | labelPattern
  | metricNames
  | exactAgreementTolerance
  | closeAgreementTolerance
  | rankingSize
  deriving DecidableEq, Repr

namespace ConfigField

/-- The fields in their order. -/
def all : List ConfigField :=
  [scaleMin, scaleMax, varianceCeiling, rangeCeiling, compositeScaleFactor, highThreshold,
    moderateThreshold, reliabilityAcceptable, reliabilityTentative, significanceLevel,
    ciZCritical, labelPattern, metricNames, exactAgreementTolerance, closeAgreementTolerance,
    rankingSize]

/-- The key of a field. -/
def key : ConfigField → String
  | scaleMin => "scale_min"
  | scaleMax => "scale_max"
  | varianceCeiling => "variance_ceiling"
  | rangeCeiling => "range_ceiling"
  | compositeScaleFactor => "composite_scale_factor"
  | highThreshold => "high_threshold"
  | moderateThreshold => "moderate_threshold"
  | reliabilityAcceptable => "reliability_acceptable"
  | reliabilityTentative => "reliability_tentative"
  | significanceLevel => "significance_level"
  | ciZCritical => "ci_z_critical"
  | labelPattern => "label_pattern"
  | metricNames => "metric_names"
  | exactAgreementTolerance => "exact_agreement_tolerance"
  | closeAgreementTolerance => "close_agreement_tolerance"
  | rankingSize => "ranking_size"

/-- The field with the given key. -/
def ofKey? (key : String) : Option ConfigField :=
  all.find? fun field => field.key = key

end ConfigField

/-- What a place of a configuration file wants. -/
inductive Wanted where
  /-- A signed integer of 64 bits. -/
  | word
  /-- A natural number of 64 bits. -/
  | size
  | number
  | string
  | map
  | config
  deriving DecidableEq, Repr

/-- A problem of a configuration file. -/
inductive ConfigFileFault where
  /-- The text is no JSON. -/
  | malformed
  | wrongType (found : String) (wanted : Wanted)
  | outOfRange (found : Int) (wanted : Wanted)
  | unknownField (key : String)
  | duplicateField (key : String)
  deriving DecidableEq, Repr

namespace Wanted

def name : Wanted → String
  | word => "i64"
  | size => "usize"
  | number => "f64"
  | string => "a string"
  | map => "a map"
  | config => "struct AnalysisConfig"

end Wanted

namespace ConfigFileFault

/-- The wording of a problem; a text that is no JSON is left without one. -/
def message? : ConfigFileFault → Option String
  | malformed => none
  | wrongType found wanted => some s!"invalid type: {found}, expected {wanted.name}"
  | outOfRange found wanted =>
    some s!"invalid value: integer `{found}`, expected {wanted.name}"
  | unknownField key =>
    let keys := ", ".intercalate (ConfigField.all.map fun field => s!"`{field.key}`")
    some s!"unknown field `{key}`, expected one of {keys}"
  | duplicateField key => some s!"duplicate field `{key}`"

end ConfigFileFault

namespace Draft

/-- What a value is, in messages. -/
def kind : Draft → String
  | broken => "nothing"
  | null => "null"
  | bool b => s!"boolean `{b}`"
  | integer n => s!"integer `{n}`"
  | number numeral =>
    let shown := NumberLayout.json.text numeral.value
    s!"floating point `{shown}`"
  | string s =>
    let shown := Quoted.text s
    s!"string {shown}"
  | array _ _ => "sequence"
  | object _ _ => "map"

/-- The fault of a value that is not of the wanted type. -/
def mismatch (draft : Draft) (wanted : Wanted) : ConfigFileFault :=
  match draft with
  | broken => .malformed
  | _ => .wrongType draft.kind wanted

/-- The signed integer of 64 bits that is written. -/
def word : Draft → Except ConfigFileFault Int
  | integer n => if n ≤ Int64.maxValue.toInt then .ok n else .error (.outOfRange n .word)
  | draft => .error (draft.mismatch .word)

/-- The natural number that is written. -/
def size : Draft → Except ConfigFileFault Nat
  | integer n => if 0 ≤ n then .ok n.toNat else .error (.outOfRange n .size)
  | draft => .error (draft.mismatch .size)

/-- The number that is written, which may be an integer. -/
def real : Draft → Except ConfigFileFault Binary64
  | integer n => .ok (Binary64.ofInt n)
  | number numeral => .ok numeral.value
  | draft => .error (draft.mismatch .number)

/-- The string that is written. -/
def text : Draft → Except ConfigFileFault String
  | string s => .ok s
  | draft => .error (draft.mismatch .string)

/-- The map with one more entry, which replaces one with the same key. -/
def insertEntry (key value : String) : List (String × String) → List (String × String)
  | [] => [(key, value)]
  | (k, v) :: rest =>
    if key < k then (key, value) :: (k, v) :: rest
    else if key = k then (key, value) :: rest
    else (k, v) :: insertEntry key value rest

/-- The map of strings that is written.  The last of several values of a key counts. -/
def entries : Draft → Except ConfigFileFault (List (String × String))
  | object members closed => do
    let map ← members.foldlM (fun map (key, value) => do
      return insertEntry key (← value.text) map) []
    if closed then return map else throw .malformed
  | draft => .error (draft.mismatch .map)

end Draft

namespace Config

/-- The configuration with one field replaced by a written value. -/
def put (config : Config Binary64) (field : ConfigField) (value : Draft) :
    Except ConfigFileFault (Config Binary64) :=
  match field with
  | .scaleMin => value.word.map fun n => { config with scaleMin := n }
  | .scaleMax => value.word.map fun n => { config with scaleMax := n }
  | .varianceCeiling => value.real.map fun x => { config with varianceCeiling := x }
  | .rangeCeiling => value.real.map fun x => { config with rangeCeiling := x }
  | .compositeScaleFactor => value.real.map fun x => { config with compositeScaleFactor := x }
  | .highThreshold => value.real.map fun x => { config with highThreshold := x }
  | .moderateThreshold => value.real.map fun x => { config with moderateThreshold := x }
  | .reliabilityAcceptable => value.real.map fun x => { config with reliabilityAcceptable := x }
  | .reliabilityTentative => value.real.map fun x => { config with reliabilityTentative := x }
  | .significanceLevel => value.real.map fun x => { config with significanceLevel := x }
  | .ciZCritical => value.real.map fun x => { config with ciZCritical := x }
  | .labelPattern => value.text.map fun s => { config with labelPattern := s }
  | .metricNames => value.entries.map fun names => { config with metricNames := names }
  | .exactAgreementTolerance =>
    value.real.map fun x => { config with exactAgreementTolerance := x }
  | .closeAgreementTolerance =>
    value.real.map fun x => { config with closeAgreementTolerance := x }
  | .rankingSize => value.size.map fun n => { config with rankingSize := n }

/-- The configuration with the given members in place of its fields.  `seen` holds the fields that
have been replaced already. -/
def putMembers (config : Config Binary64) (seen : List ConfigField) :
    List (String × Draft) → Except ConfigFileFault (Config Binary64)
  | [] => .ok config
  | (key, value) :: members =>
    match ConfigField.ofKey? key with
    | none => .error (.unknownField key)
    | some field =>
      if seen.contains field then .error (.duplicateField key)
      else do
        let config ← config.put field value
        putMembers config (field :: seen) members

/-- The configuration with the given elements in place of its first fields. -/
def putItems (config : Config Binary64) :
    List ConfigField → List Draft → Except ConfigFileFault (Config Binary64)
  | field :: fields, item :: items => do
    let config ← config.put field item
    putItems config fields items
  | _, [] => .ok config
  | [], _ :: _ => .error .malformed

/-- The configuration that a draft writes. -/
def ofDraft : Draft → Except ConfigFileFault (Config Binary64)
  | .object members closed => do
    let config ← standard.putMembers [] members
    if closed then return config else throw .malformed
  | .array items closed => do
    let config ← standard.putItems ConfigField.all items
    if closed then return config else throw .malformed
  | draft => .error (draft.mismatch .config)

/-- The configuration that the text of a file writes.  `complete` says whether the text is the
whole of the file. -/
def parse (text : List Char) (complete : Bool) : Except ConfigFileFault (Config Binary64) := do
  let (draft, ends) := Draft.read text
  let config ← ofDraft draft
  if ends && complete then return config else throw .malformed

/-- The configuration as JSON, all fields in their order. -/
def toJson (config : Config Binary64) : Json :=
  .object [
    ("scale_min", .integer config.scaleMin),
    ("scale_max", .integer config.scaleMax),
    ("variance_ceiling", .number config.varianceCeiling),
    ("range_ceiling", .number config.rangeCeiling),
    ("composite_scale_factor", .number config.compositeScaleFactor),
    ("high_threshold", .number config.highThreshold),
    ("moderate_threshold", .number config.moderateThreshold),
    ("reliability_acceptable", .number config.reliabilityAcceptable),
    ("reliability_tentative", .number config.reliabilityTentative),
    ("significance_level", .number config.significanceLevel),
    ("ci_z_critical", .number config.ciZCritical),
    ("label_pattern", .string config.labelPattern),
    ("metric_names", .object (config.metricNames.map fun (key, name) => (key, .string name))),
    ("exact_agreement_tolerance", .number config.exactAgreementTolerance),
    ("close_agreement_tolerance", .number config.closeAgreementTolerance),
    ("ranking_size", .ofNat config.rankingSize)]

end Config

end InterRater
