import InterRater.Proofs.Command.Evaluate
import InterRater.Proofs.Files.Saved
import InterRater.Proofs.Text.Utf8

/-!
# What a command does to the files

A command reads first and writes last (`Command.run_cases`): one that yields nothing, or that is
asked for no report, leaves the files as they are, and one that succeeds with a report has saved the
manifest of what it yields, which is computed from the files as they were before
(`Command.run_files`).  The report may replace the table or the configuration it was made from.
-/

namespace InterRater

namespace Command

variable {command : Command} {source : String}

/-- The ways that a command can end: it yields nothing, it is asked for no report, its report cannot
be saved, or its report is saved. -/
theorem run_cases (hsource : command.tablePath? = some source) (generatedAt : String)
    {files : FileSystem} {outcome : CommandOutcome}
    (hrun : command.run generatedAt files = outcome) :
    ((∀ config bytes result, ¬ command.Yields files.read config bytes result) ∧
      (∃ failure, outcome.result = .error failure) ∧ outcome.files = files) ∨
    ∃ config bytes result, command.Yields files.read config bytes result ∧
      (command.reportPath? = none ∧ outcome.result = .ok "" ∧ outcome.files = files ∨
        ∃ path, command.reportPath? = some path ∧
          ((∃ failure, outcome.result = .error failure) ∧
              FileSystem.Grown (FileSystem.LeadsThrough (files.start path) (FilePath.steps path))
                files outcome.files ∨
            outcome.result = .ok "" ∧ FileSystem.Saved path
              (command.manifest generatedAt source config bytes result).toJson.fileText.toUTF8
              files outcome.files)) := by
  have hmeets := evaluate_meets hsource generatedAt files.read []
  subst hrun
  unfold run
  cases hevaluate : (command.evaluate generatedAt files.read).run [] with
  | mk evaluated events =>
    rw [hevaluate] at hmeets
    cases evaluated with
    | error failure =>
      refine .inl ⟨?_, ⟨failure, rfl⟩, rfl⟩
      intro config bytes result hyields
      obtain ⟨events', h⟩ := (hmeets _).mpr ⟨config, bytes, result, hyields, rfl⟩
      cases h
    | ok product =>
      obtain ⟨config, bytes, result, hyields, rfl⟩ := (hmeets product).mp ⟨events, rfl⟩
      refine .inr ⟨config, bytes, result, hyields, ?_⟩
      cases hpath : command.reportPath? with
      | none => exact .inl ⟨rfl, rfl, rfl⟩
      | some path =>
        refine .inr ⟨path, rfl, ?_⟩
        simp only [Option.map_some, ReportFile.write]
        cases hsave : files.saveJson path
            (command.manifest generatedAt source config bytes result).toJson with
        | error stopped => exact .inl ⟨⟨stopped.fault, rfl⟩, FileSystem.grown_of_saveJson hsave⟩
        | ok written => exact .inr ⟨rfl, FileSystem.saved_of_saveJson hsave⟩

/-- A command whose report can be saved succeeds. -/
theorem result_of_saveJson (hsource : command.tablePath? = some source) (generatedAt : String)
    {files written : FileSystem} {config : Config Binary64} {bytes : ByteArray} {result : Json}
    (hyields : command.Yields files.read config bytes result) {path : String}
    (hpath : command.reportPath? = some path)
    (hsave : files.saveJson path (command.manifest generatedAt source config bytes result).toJson =
      .ok written) :
    (command.run generatedAt files).result = .ok "" := by
  obtain ⟨events, hevaluate⟩ := (evaluate_meets hsource generatedAt files.read [] _).mpr
    ⟨config, bytes, result, hyields, rfl⟩
  unfold run
  simp only [hevaluate, hpath, Option.map_some, ReportFile.write, hsave]

/-- **What a command does to the files.**  A command that cannot read or analyse what it needs
fails and changes nothing, nor does one that is asked for no report.  A command that succeeds with
a report has changed only the report file, and made the directories that were missing on the way to
it; the file holds the manifest of what the command yields of the files as they were. -/
theorem run_files (hsource : command.tablePath? = some source) (generatedAt : String)
    (files : FileSystem) :
    ((∀ config bytes result, ¬ command.Yields files.read config bytes result) →
      (∃ failure, (command.run generatedAt files).result = .error failure) ∧
        (command.run generatedAt files).files = files) ∧
    (command.reportPath? = none → (command.run generatedAt files).files = files) ∧
    ∀ path, command.reportPath? = some path →
      (∀ printed, (command.run generatedAt files).result = .ok printed →
        ∃ config bytes result, command.Yields files.read config bytes result ∧
          files.read source = .ok bytes ∧
          FileSystem.Saved path
            (command.manifest generatedAt source config bytes result).toJson.fileText.toUTF8
            files (command.run generatedAt files).files) ∧
      (∀ failure, (command.run generatedAt files).result = .error failure →
        FileSystem.Grown (FileSystem.LeadsThrough (files.start path) (FilePath.steps path))
          files (command.run generatedAt files).files) := by
  rcases run_cases hsource generatedAt rfl with ⟨hnone, ⟨failure, hfailure⟩, hfiles⟩ |
    ⟨config, bytes, result, hyields, hends⟩
  · refine ⟨fun _ => ⟨⟨failure, hfailure⟩, hfiles⟩, fun _ => hfiles, fun path _ => ⟨?_, ?_⟩⟩
    · intro printed hprinted
      rw [hfailure] at hprinted
      cases hprinted
    · intro _ _
      rw [hfiles]
      exact .refl _ _
  · refine ⟨fun hnone => absurd hyields (hnone config bytes result), ?_, ?_⟩
    · intro hpath
      rcases hends with ⟨-, -, hfiles⟩ | ⟨path, hpath', -⟩
      · exact hfiles
      · rw [hpath] at hpath'
        cases hpath'
    · intro path hpath
      rcases hends with ⟨hpath', -⟩ | ⟨path', hpath', hsaved⟩
      · rw [hpath] at hpath'
        cases hpath'
      · cases hpath.symm.trans hpath'
        rcases hsaved with ⟨⟨failure, hfailure⟩, hgrown⟩ | ⟨hprinted, hsaved⟩
        · refine ⟨?_, fun _ _ => hgrown⟩
          intro printed h
          rw [hfailure] at h
          cases h
        · refine ⟨fun _ _ => ⟨config, bytes, result, hyields, hyields.read_eq hsource, hsaved⟩, ?_⟩
          intro failure h
          rw [hprinted] at h
          cases h

/-- The text of a survey of two raters. -/
def smallSurvey : String :=
  "Q1\tQ2\n3\t4\n5\t2\n"

/-- A working directory with the survey in it. -/
def surveyFiles : FileSystem :=
  (FileSystem.empty ["work"]).insert ["work", "s.tsv"] (.file smallSurvey.toUTF8)

/-- The command that writes its report over its table. -/
def overTable : Command :=
  .reliability ⟨"s.tsv", none, some "s.tsv"⟩

theorem yields_overTable : ∃ result,
    overTable.Yields surveyFiles.read .standard smallSurvey.toUTF8 result := by
  let m : RatingMatrix := ⟨["Q1", "Q2"], [[3, 4], [5, 2]], ⟨1, 5⟩, by decide, by decide⟩
  have htable : Survey.parse smallSurvey.toList ⟨1, 5⟩ = .ok m := rfl
  have hanalysed : (ReliabilityReport.ofMatrix (Config.standard (α := Binary64)) m).isOk = true := by
    decide +kernel
  cases hreport : ReliabilityReport.ofMatrix (Config.standard (α := Binary64)) m with
  | error e =>
    rw [hreport] at hanalysed
    cases hanalysed
  | ok report => exact ⟨_, .reliability .standard rfl (Utf8.decode?_toUTF8 _) htable hreport⟩

theorem result_overTable (generatedAt : String) :
    (overTable.run generatedAt surveyFiles).result = .ok "" := by
  obtain ⟨result, hyields⟩ := yields_overTable
  have hsave : ∀ value : Json, ∃ written, surveyFiles.saveJson "s.tsv" value = .ok written :=
    fun _ => ⟨_, rfl⟩
  obtain ⟨written, hwritten⟩ := hsave
    (overTable.manifest generatedAt "s.tsv" .standard smallSurvey.toUTF8 result).toJson
  exact result_of_saveJson rfl generatedAt hyields rfl hwritten

theorem run_overTable :
    (∃ result, (overTable.run "1970-01-01T00:00:00Z" surveyFiles).files.read "s.tsv" =
      .ok (overTable.manifest "1970-01-01T00:00:00Z" "s.tsv" .standard smallSurvey.toUTF8
        result).toJson.fileText.toUTF8) ∧
    (overTable.run "1970-01-01T00:00:00Z" (.empty ["work"])).files = .empty ["work"] := by
  have hsource : overTable.tablePath? = some "s.tsv" := rfl
  constructor
  · obtain ⟨-, -, hreport⟩ := run_files hsource "1970-01-01T00:00:00Z" surveyFiles
    obtain ⟨config, bytes, result, hyields, hread, hsaved⟩ :=
      (hreport "s.tsv" rfl).1 "" (result_overTable _)
    cases hyields with
    | reliability hconfig =>
      cases hconfig
      cases hread
      exact ⟨_, hsaved.read⟩
  · obtain ⟨hnothing, -, -⟩ := run_files hsource "1970-01-01T00:00:00Z" (.empty ["work"])
    refine (hnothing ?_).2
    intro config bytes result hyields
    cases hyields.read_eq hsource

end Command

end InterRater
