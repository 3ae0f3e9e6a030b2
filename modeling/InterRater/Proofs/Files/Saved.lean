import InterRater.Proofs.Files.Path
import InterRater.Proofs.Order.Traversal
import InterRater.Report.File

/-!
# What saving a file changes

A path is followed exactly if there is a directory at every location that it leads through before it
ends (`FileSystem.walk_eq_ok_iff`).  Making directories adds some of those locations and changes
nothing else, also where it is stopped (`FileSystem.makeDirectoriesFrom_grown`), and a file takes
only its own place, so that the path still leads to it (`FileSystem.saved_of_saveJson`).
-/

namespace InterRater

namespace Stopped

/-- The files that an operation leaves, stopped or not. -/
def left {ε : Type} : Except (Stopped ε) FileSystem → FileSystem
  | .ok files => files
  | .error stopped => stopped.files

theorem left_mapError {ε δ : Type} (f : ε → δ) (result : Except (Stopped ε) FileSystem) :
    left (result.mapError (mapFault f)) = left result := by
  cases result <;> rfl

end Stopped

namespace FileSystem

variable {files files' files'' : FileSystem} {here there location : List String} {path : String}

/-! ### Following a path -/

/-- Where a step leads if it can be taken. -/
def target (here : List String) (name : String) : List String :=
  if FilePath.stays name then here else if name = ".." then here.dropLast else here ++ [name]

/-- Some of the first of the steps lead to the location. -/
def LeadsTo (here : List String) (steps : List String) (location : List String) : Prop :=
  ∃ before after, steps = before ++ after ∧ before.foldl target here = location

/-- The steps lead through the location before they end. -/
def LeadsThrough (here : List String) (steps : List String) (location : List String) : Prop :=
  ∃ before after, steps = before ++ after ∧ after ≠ [] ∧ before.foldl target here = location

theorem step_eq_ok_iff {name : String} : files.step here name = .ok there ↔
    files.entry? here = some .directory ∧ target here name = there := by
  rw [step]
  split
  · next h => exact iff_of_false nofun (by rw [h]; nofun)
  · next h => exact iff_of_false nofun (by rw [h]; nofun)
  · next h =>
    rw [h, and_iff_right rfl, target]
    split_ifs <;> simp

theorem leadsThrough_cons {name : String} {rest : List String} :
    LeadsThrough here (name :: rest) location ↔
      location = here ∨ LeadsThrough (target here name) rest location := by
  constructor
  · rintro ⟨before, after, hsteps, hafter, hlead⟩
    cases before with
    | nil => exact .inl hlead.symm
    | cons first before =>
      cases hsteps
      exact .inr ⟨before, after, rfl, hafter, hlead⟩
  · rintro (rfl | ⟨before, after, rfl, hafter, hlead⟩)
    · exact ⟨[], name :: rest, rfl, List.cons_ne_nil _ _, rfl⟩
    · exact ⟨name :: before, after, rfl, hafter, hlead⟩

/-- Steps can be taken exactly if they lead through directories. -/
theorem walk_eq_ok_iff {steps : List String} : steps.foldlM files.step here = .ok there ↔
    steps.foldl target here = there ∧
      ∀ location, LeadsThrough here steps location → files.entry? location = some .directory := by
  induction steps generalizing here with
  | nil =>
    have hnone : ∀ location, ¬ LeadsThrough here [] location := by
      rintro location ⟨before, after, hsteps, hafter, -⟩
      exact hafter (List.append_eq_nil_iff.mp hsteps.symm).2
    rw [List.foldlM_nil, List.foldl_nil, and_iff_left fun l hl => absurd hl (hnone l)]
    exact iff_of_eq (Except.ok.injEq _ _)
  | cons name rest ih =>
    -- The first step is taken from `here`, the others from where it leads.
    simp only [leadsThrough_cons, forall_eq_or_imp, List.foldl_cons]
    rw [List.foldlM_cons]
    cases hstep : files.step here name with
    | error e =>
      refine iff_of_false nofun ?_
      rintro ⟨-, hhere, -⟩
      rw [step_eq_ok_iff.mpr ⟨hhere, rfl⟩] at hstep
      cases hstep
    | ok next =>
      obtain ⟨hhere, rfl⟩ := step_eq_ok_iff.mp hstep
      rw [and_iff_right hhere]
      exact ih

/-! ### Making directories -/

/-- Only directories have been added, at locations of the given kind. -/
structure Grown (added : List String → Prop) (files files' : FileSystem) : Prop where
  workingDirectory : files'.workingDirectory = files.workingDirectory
  entry : ∀ location, files'.entry? location = files.entry? location ∨
    files.entry? location = none ∧ files'.entry? location = some .directory ∧ added location

namespace Grown

variable {added added' : List String → Prop}

theorem refl (added : List String → Prop) (files : FileSystem) : Grown added files files :=
  ⟨rfl, fun _ => .inl rfl⟩

theorem mono (h : Grown added files files') (hadded : ∀ l, added l → added' l) :
    Grown added' files files' := by
  refine ⟨h.workingDirectory, fun l => ?_⟩
  rcases h.entry l with heq | ⟨hnone, hdirectory, hl⟩
  · exact .inl heq
  · exact .inr ⟨hnone, hdirectory, hadded l hl⟩

theorem trans (h : Grown added files files') (h' : Grown added files' files'') :
    Grown added files files'' := by
  refine ⟨h'.workingDirectory.trans h.workingDirectory, fun l => ?_⟩
  rcases h'.entry l with heq | ⟨hnone, hdirectory, hl⟩
  · rw [heq]
    exact h.entry l
  · rcases h.entry l with heq | ⟨-, hsome, -⟩
    · exact .inr ⟨heq ▸ hnone, hdirectory, hl⟩
    · rw [hnone] at hsome
      cases hsome

theorem insert (hnone : files.entry? location = none) (hadded : added location) :
    Grown added files (files.insert location .directory) := by
  refine ⟨rfl, fun l => ?_⟩
  by_cases hl : l = location
  · exact .inr ⟨hl ▸ hnone, if_pos hl, hl ▸ hadded⟩
  · exact .inl (if_neg hl)

end Grown

theorem LeadsTo.cons {name : String} {rest : List String}
    (h : LeadsTo (target here name) rest location) : LeadsTo here (name :: rest) location := by
  obtain ⟨before, after, rfl, hlead⟩ := h
  exact ⟨name :: before, after, rfl, hlead⟩

/-- Directories are made where the steps lead, whether a file stops that or not. -/
theorem makeDirectoriesFrom_grown {made : Bool} {steps : List String} :
    Grown (LeadsTo here steps) files
      (Stopped.left (files.makeDirectoriesFrom made here steps)) := by
  induction steps generalizing files made here with
  | nil => exact .refl _ _
  | cons name rest ih =>
    have hcons : ∀ {there : List String}, target here name = there →
        ∀ l, LeadsTo there rest l → LeadsTo here (name :: rest) l := by
      rintro there rfl l hl
      exact hl.cons
    rw [makeDirectoriesFrom]
    by_cases hstays : FilePath.stays name = true
    · rw [if_pos hstays]
      exact ih.mono (hcons (by rw [target, if_pos hstays]))
    by_cases hup : name = ".."
    · rw [if_neg hstays, if_pos hup]
      exact ih.mono (hcons (by rw [target, if_neg hstays, if_pos hup]))
    · have hnext : target here name = here ++ [name] := by
        rw [target, if_neg hstays, if_neg hup]
      rw [if_neg hstays, if_neg hup]
      -- A directory is made where nothing is; what is there already stays or stops it.
      simp only
      split
      · next hnone =>
        have hhere : LeadsTo here (name :: rest) (here ++ [name]) := ⟨[name], rest, rfl, hnext⟩
        exact (Grown.insert hnone hhere).trans (ih.mono (hcons hnext))
      · exact ih.mono (hcons hnext)
      · exact .refl _ _

theorem makeParent_grown : Grown (LeadsThrough (files.start path) (FilePath.steps path)) files
    (Stopped.left (files.makeParent path)) := by
  rw [makeParent]
  split
  · exact .refl _ _
  · next directory hdirectory =>
    obtain ⟨⟨rest, hrest, hsteps⟩, habsolute⟩ := FilePath.directory?_eq_some hdirectory
    have hstart : files.start directory = files.start path := by
      rw [start, start, habsolute]
    rw [Stopped.left_mapError, makeDirectories, hstart]
    refine makeDirectoriesFrom_grown.mono ?_
    rintro l ⟨before, after, hbefore, hlead⟩
    refine ⟨before, after ++ rest, ?_, List.append_ne_nil_of_right_ne_nil _ hrest, hlead⟩
    rw [hsteps, hbefore, List.append_assoc]

/-! ### Saving a file -/

theorem write_eq_ok {contents : ByteArray} (h : files.write path contents = .ok files') :
    ∃ location, files.locate path = .ok location ∧
      files.entry? location ≠ some .directory ∧
      files' = files.insert location (.file contents) := by
  unfold write at h
  split_ifs at h with hslash
  · cases h
  · obtain ⟨location, hlocate, h⟩ := Traversal.bind_eq_ok_iff.mp h
    refine ⟨location, hlocate, ?_⟩
    split at h
    · cases h
    · next hentry =>
      cases h
      exact ⟨hentry, rfl⟩

/-- A file does not stand in the way of the path that leads to it. -/
theorem locate_insert {contents : ByteArray} (h : files.locate path = .ok location)
    (hentry : files.entry? location ≠ some .directory) :
    (files.insert location (.file contents)).locate path = .ok location := by
  obtain ⟨hlead, hdirectories⟩ := walk_eq_ok_iff.mp h
  refine walk_eq_ok_iff.mpr ⟨hlead, fun l hl => ?_⟩
  have hdirectory := hdirectories l hl
  have hne : l ≠ location := by
    rintro rfl
    exact hentry hdirectory
  exact (if_neg hne).trans hdirectory

/-- The file at the path has the contents, and nothing else has changed but for directories that
were missing on the way to it. -/
structure Saved (path : String) (contents : ByteArray) (files files' : FileSystem) : Prop where
  workingDirectory : files'.workingDirectory = files.workingDirectory
  exists_location : ∃ location, files'.locate path = .ok location ∧
    files'.entry? location = some (.file contents) ∧
    files.entry? location ≠ some .directory ∧
    ∀ l ≠ location, files'.entry? l = files.entry? l ∨
      files.entry? l = none ∧ files'.entry? l = some .directory ∧
        LeadsThrough (files.start path) (FilePath.steps path) l

/-- What has been saved is read back. -/
theorem Saved.read {contents : ByteArray} (h : Saved path contents files files') :
    files'.read path = .ok contents := by
  obtain ⟨location, hlocate, hentry, -⟩ := h.exists_location
  unfold FileSystem.read
  refine Traversal.bind_eq_ok_iff.mpr ⟨location, hlocate, ?_⟩
  rw [hentry]
  rfl

theorem saved_of_write {contents : ByteArray} (h : files.write path contents = .ok files') :
    Saved path contents files files' := by
  obtain ⟨location, hlocate, hentry, rfl⟩ := write_eq_ok h
  refine ⟨rfl, location, locate_insert hlocate hentry, if_pos rfl, hentry, ?_⟩
  intro l hl
  exact .inl (if_neg hl)

theorem saved_of_saveJson {value : Json} (h : files.saveJson path value = .ok files') :
    Saved path value.fileText.toUTF8 files files' := by
  obtain ⟨made, hmade, h⟩ := Traversal.bind_eq_ok_iff.mp h
  have hgrown : Grown _ files (Stopped.left (files.makeParent path)) := makeParent_grown
  rw [hmade] at hgrown
  change Grown _ files made at hgrown
  cases hwrite : made.write path value.fileText.toUTF8 with
  | error e =>
    rw [hwrite] at h
    cases h
  | ok written =>
    rw [hwrite] at h
    cases h
    obtain ⟨location, hlocate, hentry, rfl⟩ := write_eq_ok hwrite
    refine ⟨hgrown.workingDirectory, location, locate_insert hlocate hentry, if_pos rfl, ?_, ?_⟩
    · intro hdirectory
      rcases hgrown.entry location with heq | ⟨hnone, -⟩
      · exact hentry (heq.trans hdirectory)
      · rw [hdirectory] at hnone
        cases hnone
    · intro l hl
      have hsame : FileSystem.entry? (made.insert location (.file value.fileText.toUTF8)) l =
          made.entry? l := if_neg hl
      rw [hsame]
      exact hgrown.entry l

/-- A file that cannot be saved leaves no more than directories on the way to it. -/
theorem grown_of_saveJson {value : Json} {stopped : Stopped Failure}
    (h : files.saveJson path value = .error stopped) :
    Grown (LeadsThrough (files.start path) (FilePath.steps path)) files stopped.files := by
  have hgrown : Grown _ files (Stopped.left (files.makeParent path)) := makeParent_grown
  rcases Traversal.bind_eq_error_iff.mp h with hstopped | ⟨made, hmade, h⟩
  · rw [hstopped] at hgrown
    exact hgrown
  · rw [hmade] at hgrown
    change Grown _ files made at hgrown
    cases hwrite : made.write path value.fileText.toUTF8 with
    | error e =>
      rw [hwrite] at h
      cases h
      exact hgrown
    | ok written =>
      rw [hwrite] at h
      cases h

end FileSystem

end InterRater
