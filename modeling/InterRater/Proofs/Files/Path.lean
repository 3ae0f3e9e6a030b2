import InterRater.Files.Path
import InterRater.Proofs.Text.Trim
import Mathlib.Data.List.DropRight

/-!
# Paths and the directories in them

A path is the text of its steps, so that the steps of a path made of steps are those steps
(`steps_intercalate`).  The directory in a path starts where the path does and leads through some of
the steps of the path, but not all of them (`directory?_eq_some`).
-/

namespace InterRater

namespace FilePath

/-! ### Steps -/

theorem notMem_of_mem_splitOn {separator : Char} {text part : List Char}
    (h : part ∈ splitOn separator text) : separator ∉ part := by
  induction text generalizing part with
  | nil =>
    rw [List.mem_singleton.mp h]
    nofun
  | cons c rest ih =>
    rw [splitOn] at h
    split_ifs at h with hc
    · rcases List.mem_cons.mp h with rfl | h
      · nofun
      · exact ih h
    · cases hparts : splitOn separator rest with
      | nil =>
        rw [hparts] at h
        rw [List.mem_singleton.mp h, List.mem_singleton]
        exact Ne.symm hc
      | cons first parts =>
        rw [hparts] at h ih
        rcases List.mem_cons.mp h with rfl | h
        · rw [List.mem_cons]
          rintro (heq | hmem)
          · exact hc heq.symm
          · exact ih List.mem_cons_self hmem
        · exact ih (List.mem_cons_of_mem _ h)

theorem notMem_of_mem_steps {path step : String} (h : step ∈ steps path) : '/' ∉ step.toList := by
  obtain ⟨part, hpart, rfl⟩ := List.mem_map.mp h
  rw [String.toList_ofList]
  exact notMem_of_mem_splitOn hpart

/-- The steps of a path that is made of steps. -/
theorem steps_intercalate {names : List String} (hnames : names ≠ [])
    (hslash : ∀ name ∈ names, '/' ∉ name.toList) : steps ("/".intercalate names) = names := by
  have hparts : ∀ part ∈ names.map String.toList, '/' ∉ part := by
    intro part hpart
    obtain ⟨name, hname, rfl⟩ := List.mem_map.mp hpart
    exact hslash name hname
  have hsplit : List.splitOn '/' (['/'].intercalate (names.map String.toList)) =
      names.map String.toList :=
    List.splitOn_intercalate '/' hparts (mt List.map_eq_nil_iff.mp hnames)
  rw [steps, String.toList_intercalate, splitOn_eq]
  show (List.splitOn '/' (['/'].intercalate _)).map String.ofList = names
  rw [hsplit, List.map_map]
  conv_rhs => rw [← List.map_id names]
  exact List.map_congr_left fun name _ => String.ofList_toList

/-- A path that starts at the root has an empty first step, and only such a path has. -/
theorem isAbsolute_iff {path : String} (hpath : path ≠ "") :
    isAbsolute path = true ↔ (steps path).head? = some "" := by
  obtain ⟨c, rest, htext⟩ : ∃ c rest, path.toList = c :: rest :=
    List.exists_cons_of_ne_nil (mt String.toList_eq_nil_iff.mp hpath)
  rw [isAbsolute, steps, htext, splitOn, List.head?_cons, decide_eq_true_iff, Option.some.injEq]
  split_ifs with hc
  · simp [hc]
  · refine iff_of_false hc ?_
    cases splitOn '/' rest <;> simp [String.ofList_eq_empty_iff]

/-! ### Directories -/

theorem trimEnd_initial (names : List String) : trimEnd names <+: names := by
  cases names with
  | nil => exact List.nil_prefix
  | cons first rest => exact List.cons_prefix_cons.mpr ⟨rfl, List.rdropWhile_prefix stays rest⟩

/-- The directory in a path leads through steps of the path, from the same start. -/
theorem directory?_eq_some {path directory : String} (h : directory? path = some directory) :
    (∃ rest, rest ≠ [] ∧ steps path = steps directory ++ rest) ∧
      isAbsolute directory = isAbsolute path := by
  unfold directory? at h
  simp only at h
  split_ifs at h with hempty
  obtain rfl := Option.some.inj h
  generalize hnames : trimEnd (trimEnd (steps path)).dropLast = names at hempty ⊢
  have hfilled : names ≠ [] := by
    rintro rfl
    exact hempty String.intercalate_nil
  have hinitial : names <+: steps path := by
    have hdropped : (trimEnd (steps path)).dropLast <+: trimEnd (steps path) :=
      List.dropLast_prefix _
    rw [← hnames]
    exact (trimEnd_initial _).trans (hdropped.trans (trimEnd_initial _))
  have hsteps : steps ("/".intercalate names) = names := by
    apply steps_intercalate hfilled
    intro name hname
    exact notMem_of_mem_steps (hinitial.subset hname)
  -- The last step that leads somewhere is dropped.
  have hlength : names.length < (steps path).length := by
    have hpos := List.length_pos_iff.mpr hfilled
    have hdropped : names.length ≤ (trimEnd (steps path)).length - 1 := by
      rw [← hnames, ← List.length_dropLast]
      exact (trimEnd_initial _).length_le
    have htrimmed := (trimEnd_initial (steps path)).length_le
    omega
  have hpath : path ≠ "" := by
    rintro rfl
    have hone : (steps "").length = 1 := rfl
    have hpos := List.length_pos_iff.mpr hfilled
    omega
  obtain ⟨rest, hrest⟩ := hinitial
  constructor
  · refine ⟨rest, ?_, by rw [hsteps, hrest]⟩
    rintro rfl
    rw [← hrest, List.append_nil] at hlength
    exact Nat.lt_irrefl _ hlength
  · rw [Bool.eq_iff_iff, isAbsolute_iff hempty, isAbsolute_iff hpath, hsteps, ← hrest,
      List.head?_append_of_ne_nil _ hfilled]

end FilePath

end InterRater
