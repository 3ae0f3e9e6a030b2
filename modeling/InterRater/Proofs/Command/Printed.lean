import InterRater.Proofs.Command.Evaluate
import InterRater.Proofs.Config.Printed
import InterRater.Proofs.Files.Saved
import InterRater.Proofs.Label.Standard

/-!
# Printing the configuration in effect

The configuration in effect, the standard one or that of a file, has no flaw and can be stored
(`Config.InEffect.flaw?_eq_none`, `Config.InEffect.storable`).  What is printed of it can therefore
be written to a file that gives the same configuration, of which the same is printed
(`Command.reload_printed`).
-/

namespace InterRater

namespace Config

/-! ### The configuration in effect -/

theorem patternFlaw?_standard : (standard : Config Binary64).patternFlaw? = none := by
  rw [patternFlaw?, compiledPattern?_standard]
  rfl

/-- The rounded settings without a file are accepted. -/
theorem flaw?_standard_binary : (standard : Config Binary64).flaw? = none := by
  unfold flaw?
  rw [patternFlaw?_standard]
  decide +kernel

variable {reader : FileReader} {path? : Option String} {config : Config Binary64}

theorem InEffect.flaw?_eq_none (h : InEffect reader path? config) : config.flaw? = none := by
  cases h with
  | standard => exact flaw?_standard_binary
  | file hread hfile => exact (ofFile_eq_ok_iff.mp hfile).2

theorem InEffect.storable (h : InEffect reader path? config) : config.Storable := by
  cases h with
  | standard => exact storable_standard
  | file hread hfile => exact storable_of_ofFile hfile

theorem result_load_eq_ok_iff {events : List LogEvent} :
    ((load reader path?).run events).1 = .ok config ↔ InEffect reader path? config :=
  (load_meets reader path?).result_eq_ok_iff

end Config

namespace Command

/-! ### The command that prints it -/

theorem evaluate_config_meets (path? : Option String) (generatedAt : String) (reader : FileReader) :
    Telling.Meets ((config path?).evaluate generatedAt reader) fun product =>
      ∃ config, Config.InEffect reader path? config ∧ ⟨config.toJson.fileText, none⟩ = product :=
  (Config.load_meets reader path?).bind fun _ _ => (Telling.meets_pure _).tell_bind

/-- What is printed is the configuration in effect, if there is one. -/
theorem result_run_config_eq_ok_iff {path? : Option String} {generatedAt : String}
    {files : FileSystem} {text : String} :
    ((config path?).run generatedAt files).result = .ok text ↔
      ∃ config, Config.InEffect files.read path? config ∧ config.toJson.fileText = text := by
  have hmeets := evaluate_config_meets path? generatedAt files.read []
  unfold run
  constructor
  · intro h
    cases hevaluate : ((config path?).evaluate generatedAt files.read).run [] with
    | mk evaluated events =>
      rw [hevaluate] at h
      cases evaluated with
      | error failure => cases h
      | ok product =>
        obtain ⟨config, hconfig, rfl⟩ := (hmeets product).mp ⟨events, hevaluate⟩
        cases h
        exact ⟨config, hconfig, rfl⟩
  · rintro ⟨config, hconfig, rfl⟩
    obtain ⟨events, hevaluate⟩ := (hmeets _).mpr ⟨config, hconfig, rfl⟩
    simp only [hevaluate]

/-- **The printed configuration.**  Of a configuration that can be loaded, a text is printed that
gives the same configuration when it is written to a file, whichever, and that file is loaded; the
configuration has no flaw, and printing it from the file gives the same text.  The text of each of
its finite numbers must be read as that number. -/
theorem reload_printed {files : FileSystem} {path? : Option String} {config : Config Binary64}
    (hload : ((Config.load files.read path?).run []).1 = .ok config)
    (hnumbers : ∀ x ∈ config.numbers, x.isFinite = true → x.ReadsBack) (generatedAt : String) :
    config.flaw? = none ∧
    ((Command.config path?).run generatedAt files).result = .ok config.toJson.fileText ∧
    ∀ (before after : FileSystem) (path : String),
      before.write path config.toJson.fileText.toUTF8 = .ok after →
        ((Config.load after.read (some path)).run []).1 = .ok config ∧
        ((Command.config (some path)).run generatedAt after).result =
          .ok config.toJson.fileText := by
  -- What is in effect has no flaw and can be stored, so that its text gives it again.
  have hconfig := Config.result_load_eq_ok_iff.mp hload
  have hflaw := hconfig.flaw?_eq_none
  refine ⟨hflaw, result_run_config_eq_ok_iff.mpr ⟨config, hconfig, rfl⟩, ?_⟩
  intro before after path hwrite
  have hread := (FileSystem.saved_of_write hwrite).read
  have hfile := Config.ofFile_fileText hconfig.storable hflaw hnumbers path
  have hreload : Config.InEffect after.read (some path) config := .file hread hfile
  exact ⟨Config.result_load_eq_ok_iff.mpr hreload,
    result_run_config_eq_ok_iff.mpr ⟨config, hreload, rfl⟩⟩

/-- A configuration with the least scale there is, a negative zero, and characters that must be
escaped. -/
def unusualConfig : Config Binary64 :=
  { Config.standard with
    scaleMin := -9223372036854775808
    labelPattern := "(a)\n(b)"
    metricNames := [("\\", "\x01")]
    closeAgreementTolerance := .ofParts true 0 }

/-- A file that gives this configuration. -/
def unusualFile : String :=
  "\x7b\"scale_min\":-9223372036854775808,\"close_agreement_tolerance\":-0.0," ++
    "\"label_pattern\":\"(a)\\n(b)\",\"metric_names\":\x7b\"\\\\\":\"\\u0001\"\x7d\x7d"

/-- A working directory with the file in it. -/
def configFiles : FileSystem :=
  (FileSystem.empty ["work"]).insert ["work", "c.json"] (.file unusualFile.toUTF8)

theorem inEffect_unusual :
    Config.InEffect configFiles.read (some "c.json") unusualConfig := by
  have hparse : Config.parse unusualFile.toList true = .ok unusualConfig := by decide +kernel
  have hflaw : unusualConfig.flaw? = none := by decide +kernel
  refine .file rfl (Config.ofFile_eq_ok_iff.mpr ?_)
  rw [Utf8.readable_toUTF8]
  exact ⟨hparse, hflaw⟩

theorem readsBack_unusual : ∀ x ∈ unusualConfig.numbers, x.ReadsBack := by
  decide +kernel

theorem reload_unusual :
    ∃ after, configFiles.write "d.json" unusualConfig.toJson.fileText.toUTF8 = .ok after ∧
      ((Command.config (some "c.json")).run "" configFiles).result =
        .ok unusualConfig.toJson.fileText ∧
      ((Config.load after.read (some "d.json")).run []).1 = .ok unusualConfig ∧
      ((Command.config (some "d.json")).run "" after).result =
        .ok unusualConfig.toJson.fileText := by
  have hload : ((Config.load configFiles.read (some "c.json")).run []).1 = .ok unusualConfig :=
    Config.result_load_eq_ok_iff.mpr inEffect_unusual
  obtain ⟨-, hprinted, hagain⟩ :=
    reload_printed hload (fun x hx _ => readsBack_unusual x hx) ""
  have hwrite : ∀ contents, ∃ after, configFiles.write "d.json" contents = .ok after :=
    fun _ => ⟨_, rfl⟩
  obtain ⟨after, hafter⟩ := hwrite unusualConfig.toJson.fileText.toUTF8
  obtain ⟨hreload, hsame⟩ := hagain configFiles after "d.json" hafter
  exact ⟨after, hafter, hprinted, hreload, hsame⟩

end Command

end InterRater
