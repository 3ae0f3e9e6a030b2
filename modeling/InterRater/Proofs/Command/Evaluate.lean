import InterRater.Command.Run
import InterRater.Proofs.Order.Traversal

/-!
# What a command comes to

`Telling.Meets x P` says that a computation returns exactly the values with the property `P`,
whatever has been told before it.  The properties of computations in turn are composed
(`Telling.Meets.bind`), so that one rule for each function gives what a command yields
(`Command.evaluate_meets`): the analysis of its table under the configuration in effect.
-/

namespace InterRater

/-! ### Computations that tell events -/

namespace Telling

variable {β γ ε : Type} {x : Telling β} {P Q : β → Prop}

/-- The computation returns exactly the values with the property. -/
def Meets (x : Telling β) (P : β → Prop) : Prop :=
  ∀ events b, (∃ events', x.run events = (.ok b, events')) ↔ P b

theorem Meets.congr (h : Meets x P) (hPQ : ∀ b, P b ↔ Q b) : Meets x Q :=
  fun events b => (h events b).trans (hPQ b)

theorem Meets.result_eq_ok_iff (h : Meets x P) {events : List LogEvent} {b : β} :
    (x.run events).1 = .ok b ↔ P b := by
  rw [← h events b]
  constructor
  · intro hresult
    exact ⟨(x.run events).2, Prod.ext hresult rfl⟩
  · rintro ⟨events', hrun⟩
    rw [hrun]

theorem meets_pure (a : β) : Meets (pure a) (a = ·) := by
  intro events b
  constructor
  · rintro ⟨events', h⟩
    cases h
    rfl
  · rintro rfl
    exact ⟨events, rfl⟩

theorem meets_throw (failure : Failure) : Meets (throw failure : Telling β) fun _ => False := by
  intro events b
  refine iff_of_false ?_ id
  rintro ⟨events', h⟩
  cases h

theorem meets_ofResult (failure : ε → Failure) (result : Except ε β) :
    Meets (ofResult failure result) (result = .ok ·) := by
  cases result with
  | ok a => exact (meets_pure a).congr fun b => by rw [Except.ok.injEq]
  | error e => exact (meets_throw (failure e)).congr fun b => iff_of_false id nofun

theorem meets_tell (told : List LogEvent) : Meets (tell told) fun _ => True :=
  fun events _ => iff_of_true ⟨events ++ told, rfl⟩ trivial

/-- Of two computations in turn, the second decides where the first returns a value. -/
theorem Meets.bind {f : β → Telling γ} {R : β → γ → Prop} (hx : Meets x P)
    (hf : ∀ a, P a → Meets (f a) (R a)) : Meets (x >>= f) fun c => ∃ a, P a ∧ R a c := by
  intro events c
  have hrun : (x >>= f).run events = match x.run events with
      | (.ok a, events') => (f a).run events'
      | (.error failure, events') => (.error failure, events') := by
    show (ExceptT.bindCont f (x.run events).1) (x.run events).2 = _
    cases x.run events with
    | mk result events' => cases result <;> rfl
  rw [hrun]
  constructor
  · rintro ⟨events₂, h⟩
    cases hfirst : x.run events with
    | mk result events₁ =>
      rw [hfirst] at h
      cases result with
      | error failure => cases h
      | ok a =>
        have ha : P a := (hx events a).mp ⟨events₁, hfirst⟩
        exact ⟨a, ha, (hf a ha events₁ c).mp ⟨events₂, h⟩⟩
  · rintro ⟨a, ha, hc⟩
    obtain ⟨events₁, hfirst⟩ := (hx events a).mpr ha
    obtain ⟨events₂, hsecond⟩ := (hf a ha events₁ c).mpr hc
    refine ⟨events₂, ?_⟩
    rw [hfirst]
    exact hsecond

/-- Events that are told first do not count. -/
theorem Meets.tell_bind {told : List LogEvent} (hx : Meets x P) :
    Meets (tell told >>= fun _ => x) P :=
  ((meets_tell told).bind fun _ _ => hx).congr fun _ => by simp

/-- Events that are told before the value is returned do not count. -/
theorem Meets.bind_tell {told : β → List LogEvent} (hx : Meets x P) :
    Meets (x >>= fun a => tell (told a) >>= fun _ => pure a) P :=
  (hx.bind fun a _ => (meets_pure a).tell_bind).congr fun b => by simp

end Telling

open Telling

/-! ### Reading files -/

/-- The configuration is in effect: that of the file, or the standard one where no file is given. -/
inductive Config.InEffect (reader : FileReader) : Option String → Config Binary64 → Prop
  | standard : InEffect reader none .standard
  | file {path : String} {bytes : ByteArray} {config : Config Binary64}
      (hread : reader path = .ok bytes) (hfile : Config.ofFile path bytes = .ok config) :
      InEffect reader (some path) config

theorem Config.load_meets (reader : FileReader) (path? : Option String) :
    Meets (Config.load reader path?) (Config.InEffect reader path?) := by
  cases path? with
  | none =>
    refine (meets_pure _).congr fun config => ⟨?_, ?_⟩
    · rintro rfl
      exact .standard
    · rintro ⟨⟩
      rfl
  | some path =>
    refine ((meets_ofResult _ (reader path)).bind fun bytes _ =>
      (meets_ofResult _ (Config.ofFile path bytes)).bind_tell).congr fun config => ⟨?_, ?_⟩
    · rintro ⟨bytes, hread, hfile⟩
      exact .file hread hfile
    · rintro ⟨⟩
      exact ⟨_, ‹_›, ‹_›⟩

theorem readTable_meets (reader : FileReader) (path : String) : Meets (readTable reader path)
    fun text => ∃ bytes, reader path = .ok bytes ∧ Utf8.decode? bytes = some text := by
  refine (meets_ofResult _ _).bind fun bytes _ => ?_
  cases Utf8.decode? bytes with
  | none => exact (meets_throw _).congr fun text => by simp
  | some text => exact (meets_pure text).congr fun text' => by simp

theorem readSurvey_meets (reader : FileReader) (path : String) (scale : OrdinalScale) :
    Meets (readSurvey reader path scale) fun m => ∃ text,
      (∃ bytes, reader path = .ok bytes ∧ Utf8.decode? bytes = some text) ∧
        Survey.parse text.toList scale = .ok m :=
  (readTable_meets reader path).bind fun _ _ => (meets_ofResult _ _).bind_tell

theorem readScores_meets (reader : FileReader) (path : String) (columns : ScoreColumns) :
    Meets (readScores reader path columns) fun table => ∃ text,
      (∃ bytes, reader path = .ok bytes ∧ Utf8.decode? bytes = some text) ∧
        ScoreTable.parse text.toList columns = .ok table :=
  (readTable_meets reader path).bind fun _ _ => (meets_ofResult _ _).bind_tell

theorem readDigest_meets (reader : FileReader) (path : String) : Meets (readDigest reader path)
    fun digest => ∃ bytes, reader path = .ok bytes ∧ Sha256.hex bytes.data.toList = digest :=
  (meets_ofResult _ _).bind fun _ _ => meets_pure _

namespace Command

/-! ### Analyses -/

theorem measure_meets (config : Config Binary64) (path : String) (m : RatingMatrix) :
    Meets (measure config path m) (ReliabilityReport.ofMatrix config m = .ok ·) :=
  ((meets_ofResult _ _).bind_tell).tell_bind

theorem describeSurvey_meets (config : Config Binary64) (path : String) (m : RatingMatrix) :
    Meets (describeSurvey config path m) (DescribeReport.ofMatrix config m = .ok ·) :=
  ((meets_ofResult _ _).bind_tell).tell_bind

theorem compareTable_meets (config : Config Binary64) (path : String) (byMetric : Bool)
    (table : ScoreTable Binary64) :
    Meets (compareTable config path byMetric table)
      (ComparisonReport.ofTable config table byMetric = .ok ·) := by
  have hend : ∀ (overall : Comparison Binary64) (groups : List (GroupOutcome Binary64)),
      Meets (do
        tell (groups.flatMap ComparisonReport.outcomeEvents)
        tell (ComparisonReport.mk overall groups).events
        return ComparisonReport.mk overall groups) (ComparisonReport.mk overall groups = ·) :=
    fun _ _ => (meets_pure _).tell_bind.tell_bind
  cases byMetric with
  | false =>
    refine ((meets_ofResult _ (ComparisonReport.compareAll config table)).bind fun overall _ =>
      ((meets_pure []).bind fun groups _ => hend overall groups).tell_bind).congr fun report => ?_
    constructor
    · rintro ⟨overall, hoverall, groups, rfl, rfl⟩
      exact Traversal.bind_eq_ok_iff.mpr ⟨overall, hoverall, rfl⟩
    · intro h
      obtain ⟨overall, hoverall, h⟩ := Traversal.bind_eq_ok_iff.mp h
      cases h
      exact ⟨overall, hoverall, [], rfl, rfl⟩
  | true =>
    refine ((meets_ofResult _ (ComparisonReport.compareAll config table)).bind fun overall _ =>
      ((meets_ofResult _ (ComparisonReport.compareGroups config table)).bind fun groups _ =>
        hend overall groups).tell_bind).congr fun report => ?_
    constructor
    · rintro ⟨overall, hoverall, groups, hgroups, rfl⟩
      exact Traversal.bind_eq_ok_iff.mpr
        ⟨overall, hoverall, Traversal.bind_eq_ok_iff.mpr ⟨groups, hgroups, rfl⟩⟩
    · intro h
      obtain ⟨overall, hoverall, h⟩ := Traversal.bind_eq_ok_iff.mp h
      obtain ⟨groups, hgroups, h⟩ := Traversal.bind_eq_ok_iff.mp h
      cases h
      exact ⟨overall, hoverall, groups, hgroups, rfl⟩

/-! ### Commands -/

/-- What a command that reads a table yields: the configuration in effect, the bytes of the table,
and the analysis of that table under that configuration. -/
inductive Yields (reader : FileReader) : Command → Config Binary64 → ByteArray → Json → Prop
  | reliability {arguments : SurveyArguments} {config : Config Binary64} {bytes : ByteArray}
      {text : String} {m : RatingMatrix} {report : ReliabilityReport Binary64}
      (hconfig : Config.InEffect reader arguments.configPath config)
      (hread : reader arguments.surveyPath = .ok bytes)
      (htext : Utf8.decode? bytes = some text)
      (htable : Survey.parse text.toList config.scale = .ok m)
      (hreport : ReliabilityReport.ofMatrix config m = .ok report) :
      Yields reader (.reliability arguments) config bytes report.toJson
  | describe {arguments : SurveyArguments} {config : Config Binary64} {bytes : ByteArray}
      {text : String} {m : RatingMatrix} {report : DescribeReport Binary64}
      (hconfig : Config.InEffect reader arguments.configPath config)
      (hread : reader arguments.surveyPath = .ok bytes)
      (htext : Utf8.decode? bytes = some text)
      (htable : Survey.parse text.toList config.scale = .ok m)
      (hreport : DescribeReport.ofMatrix config m = .ok report) :
      Yields reader (.describe arguments) config bytes report.toJson
  | compare {arguments : CompareArguments} {config : Config Binary64} {bytes : ByteArray}
      {text : String} {table : ScoreTable Binary64} {report : ComparisonReport Binary64}
      (hconfig : Config.InEffect reader arguments.configPath config)
      (hread : reader arguments.scoresPath = .ok bytes)
      (htext : Utf8.decode? bytes = some text)
      (htable : ScoreTable.parse text.toList arguments.columns = .ok table)
      (hreport : ComparisonReport.ofTable config table arguments.byMetric = .ok report) :
      Yields reader (.compare arguments) config bytes report.toJson

/-- What a command yields is of the bytes of its table. -/
theorem Yields.read_eq {reader : FileReader} {command : Command} {source : String}
    {config : Config Binary64} {bytes : ByteArray} {result : Json}
    (h : Yields reader command config bytes result) (hsource : command.tablePath? = some source) :
    reader source = .ok bytes := by
  cases h <;> cases hsource <;> assumption

/-- The manifest of what a command yields. -/
def manifest (command : Command) (generatedAt source : String) (config : Config Binary64)
    (bytes : ByteArray) (result : Json) : Manifest where
  generatedAt
  command := command.name.text
  sourcePath := source
  sourceSha256 := Sha256.hex bytes.data.toList
  config
  result

/-- The report file holds the manifest of the bytes that the second reading of the table finds. -/
theorem reportFile_meets (command : Command) (generatedAt : String) {reader : FileReader}
    (config : Config Binary64) {source : String} (result : Json)
    (hread : ∃ bytes, reader source = .ok bytes) :
    Meets (command.reportFile generatedAt reader config source result) fun file =>
      ∃ bytes, reader source = .ok bytes ∧ command.reportPath?.map (fun path =>
        ⟨path, command.manifest generatedAt source config bytes result⟩) = file := by
  unfold reportFile
  cases command.reportPath? with
  | none =>
    refine (meets_pure _).congr fun file => ⟨?_, ?_⟩
    · rintro rfl
      obtain ⟨bytes, hbytes⟩ := hread
      exact ⟨bytes, hbytes, rfl⟩
    · rintro ⟨-, -, rfl⟩
      rfl
  | some path =>
    refine ((readDigest_meets reader source).bind fun digest _ => meets_pure _).congr
      fun file => ⟨?_, ?_⟩
    · rintro ⟨digest, ⟨bytes, hbytes, rfl⟩, rfl⟩
      exact ⟨bytes, hbytes, rfl⟩
    · rintro ⟨bytes, hbytes, rfl⟩
      exact ⟨_, ⟨bytes, hbytes, rfl⟩, rfl⟩

/-- Behind its configuration, every command reads its table, analyses it and makes its report. -/
theorem analysis_meets {β γ ε : Type} (command : Command) (generatedAt : String)
    {reader : FileReader} (config : Config Binary64) {source : String} {table : Telling β}
    {analysis : β → Telling γ} (toJson : γ → Json) {parse : String → Except AnalysisError β}
    {analyse : β → Except ε γ}
    (htable : Meets table fun b => ∃ text,
      (∃ bytes, reader source = .ok bytes ∧ Utf8.decode? bytes = some text) ∧ parse text = .ok b)
    (hanalysis : ∀ b, Meets (analysis b) (analyse b = .ok ·)) :
    Meets (do
      let b ← table
      let report ← analysis b
      return CommandProduct.mk ""
        (← command.reportFile generatedAt reader config source (toJson report)))
      fun product => ∃ bytes text b report, reader source = .ok bytes ∧
        Utf8.decode? bytes = some text ∧ parse text = .ok b ∧ analyse b = .ok report ∧
        product = ⟨"", command.reportPath?.map fun path =>
          ⟨path, command.manifest generatedAt source config bytes (toJson report)⟩⟩ := by
  refine (htable.bind fun b hb => (hanalysis b).bind fun report _ =>
    (reportFile_meets command generatedAt config (toJson report) ?_).bind fun file _ =>
    meets_pure (CommandProduct.mk "" file)).congr fun product => ⟨?_, ?_⟩
  · obtain ⟨text, ⟨bytes, hread, -⟩, -⟩ := hb
    exact ⟨bytes, hread⟩
  · rintro ⟨b, ⟨text, ⟨bytes, hread, htext⟩, hb⟩, report, hreport, file, ⟨bytes', hread', rfl⟩, rfl⟩
    cases hread.symm.trans hread'
    exact ⟨bytes, text, b, report, hread, htext, hb, hreport, rfl⟩
  · rintro ⟨bytes, text, b, report, hread, htext, hb, hreport, rfl⟩
    exact ⟨b, ⟨text, ⟨bytes, hread, htext⟩, hb⟩, report, hreport, _, ⟨bytes, hread, rfl⟩, rfl⟩

/-- A command comes to what it yields, with a manifest of that if a report is asked for. -/
theorem evaluate_meets {command : Command} {source : String}
    (hsource : command.tablePath? = some source) (generatedAt : String) (reader : FileReader) :
    Meets (command.evaluate generatedAt reader) fun product => ∃ config bytes result,
      command.Yields reader config bytes result ∧
      product = ⟨"", command.reportPath?.map fun path =>
        ⟨path, command.manifest generatedAt source config bytes result⟩⟩ := by
  cases command with
  | config => cases hsource
  | reliability arguments =>
    cases hsource
    refine ((Config.load_meets reader arguments.configPath).bind fun config _ =>
      analysis_meets _ generatedAt config ReliabilityReport.toJson
        (readSurvey_meets reader arguments.surveyPath config.scale) fun m =>
          measure_meets config arguments.surveyPath m).congr fun product => ⟨?_, ?_⟩
    · rintro ⟨config, hconfig, bytes, text, m, report, hread, htext, htable, hreport, rfl⟩
      exact ⟨config, bytes, _, .reliability hconfig hread htext htable hreport, rfl⟩
    · rintro ⟨config, bytes, result, hyields, rfl⟩
      cases hyields with
      | reliability hconfig hread htext htable hreport =>
        exact ⟨config, hconfig, bytes, _, _, _, hread, htext, htable, hreport, rfl⟩
  | describe arguments =>
    cases hsource
    refine ((Config.load_meets reader arguments.configPath).bind fun config _ =>
      analysis_meets _ generatedAt config DescribeReport.toJson
        (readSurvey_meets reader arguments.surveyPath config.scale) fun m =>
          describeSurvey_meets config arguments.surveyPath m).congr fun product => ⟨?_, ?_⟩
    · rintro ⟨config, hconfig, bytes, text, m, report, hread, htext, htable, hreport, rfl⟩
      exact ⟨config, bytes, _, .describe hconfig hread htext htable hreport, rfl⟩
    · rintro ⟨config, bytes, result, hyields, rfl⟩
      cases hyields with
      | describe hconfig hread htext htable hreport =>
        exact ⟨config, hconfig, bytes, _, _, _, hread, htext, htable, hreport, rfl⟩
  | compare arguments =>
    cases hsource
    refine ((Config.load_meets reader arguments.configPath).bind fun config _ =>
      analysis_meets _ generatedAt config ComparisonReport.toJson
        (readScores_meets reader arguments.scoresPath arguments.columns) fun table =>
          compareTable_meets config arguments.scoresPath arguments.byMetric table).congr
      fun product => ⟨?_, ?_⟩
    · rintro ⟨config, hconfig, bytes, text, m, report, hread, htext, htable, hreport, rfl⟩
      exact ⟨config, bytes, _, .compare hconfig hread htext htable hreport, rfl⟩
    · rintro ⟨config, bytes, result, hyields, rfl⟩
      cases hyields with
      | compare hconfig hread htext htable hreport =>
        exact ⟨config, hconfig, bytes, _, _, _, hread, htext, htable, hreport, rfl⟩

end Command

end InterRater
