import InterRater.Proofs.Table.Layout
import Mathlib.Data.List.OfFn
import Mathlib.Data.List.Perm.Basic
import Mathlib.Logic.Relation

/-!
# Tables by columns

A table whose lines have as many cells as its header is a list of columns, each with a name and a
content for every line.  `rows columns` are its lines, and every text with such lines is a layout of
those of some columns (`exists_columns`).

`Rearranged kept` allows to put the columns in any order, and to insert and remove columns with
other names than those that are `kept`.  The columns with a kept name stay, up to their order
(`Rearranged.perm_filter`), so that a name which at most one column has leads to the same column
(`Rearranged.find?_eq`).
-/

namespace InterRater

namespace Table

/-- A column with a content for each line below the header. -/
structure Column (height : ℕ) where
  name : List Char
  contents : Fin height → List Char
  isCell_name : IsCell name
  isCell_contents : ∀ row, IsCell (contents row)

variable {height : ℕ}

namespace Column

/-- The name as it is read. -/
def label (column : Column height) : List Char :=
  trim column.name

/-- The content of a line as it is read. -/
def cell (column : Column height) (row : Fin height) : List Char :=
  trim (column.contents row)

end Column

/-- The contents of the lines of a table with the given columns, its header first. -/
def rows (columns : List (Column height)) : List (List (List Char)) :=
  columns.map Column.name ::
    List.ofFn fun row => columns.map fun column => column.contents row

/-- The plain text of a table with the given columns. -/
def plain (columns : List (Column height)) : List Char :=
  (rows columns).flatMap fun contents => ['\t'].intercalate contents ++ ['\n']

theorem layout_rows {columns : List (Column height)} (h : columns ≠ []) :
    Layout (rows columns) (plain columns) := by
  apply layout_plain
  rw [rows, List.forall_mem_cons, List.forall_mem_ofFn_iff]
  exact ⟨mt List.map_eq_nil_iff.mp h, fun _ => mt List.map_eq_nil_iff.mp h⟩

/-! ### The cells of a table -/

/-- The names and the cells of a table, if neither its header nor another line is blank. -/
theorem map_cells_of_layout {columns : List (Column height)} {text : List Char}
    (hlayout : Layout (rows columns) text) (hheader : ∃ column ∈ columns, column.label ≠ [])
    (hrows : ∀ row, ∃ column ∈ columns, column.cell row ≠ []) :
    (dataLines text).map cells = columns.map Column.label ::
      List.ofFn fun row => columns.map fun column => column.cell row := by
  have hvisible : ∀ content : Column height → List Char,
      (∃ column ∈ columns, trim (content column) ≠ []) →
      (!(columns.map content).all (·.all isBlank)) = true := by
    rintro content ⟨column, hmem, hne⟩
    rw [Bool.not_eq_true', List.all_eq_false]
    refine ⟨content column, List.mem_map_of_mem hmem, ?_⟩
    exact fun hblank => hne (trim_eq_nil (List.all_eq_true.mp hblank))
  have hcells : ∀ contents ∈ rows columns, ∀ c ∈ contents, IsCell c := by
    rw [rows, List.forall_mem_cons, List.forall_mem_ofFn_iff]
    refine ⟨?_, fun row => ?_⟩
    · exact List.forall_mem_map.mpr fun column _ => column.isCell_name
    · exact List.forall_mem_map.mpr fun column _ => column.isCell_contents row
  have hkept : ∀ contents ∈ rows columns, (!contents.all (·.all isBlank)) = true := by
    rw [rows, List.forall_mem_cons, List.forall_mem_ofFn_iff]
    exact ⟨hvisible _ hheader, fun row => hvisible _ (hrows row)⟩
  rw [hlayout.map_cells_filter hcells, List.filter_eq_self.mpr hkept, rows, List.map_cons,
    List.map_map, List.map_ofFn]
  simp only [Function.comp_def, List.map_map, Column.cell]
  rfl

/-- A text with as many cells in each line as in the header is a table of columns. -/
theorem exists_columns {text header : List Char} {lines : List (List Char)}
    (htext : dataLines text = header :: lines)
    (hwidth : ∀ line ∈ lines, (cells line).length = (cells header).length) :
    ∃ columns : List (Column lines.length), Layout (rows columns) text := by
  have hlayout := layout_splitOn text
  rw [htext, List.map_cons] at hlayout
  have hcell : ∀ line ∈ header :: lines, ∀ position,
      IsCell ((splitOn '\t' line).getD position []) := by
    intro line hline position
    rw [List.getD_eq_getElem?_getD]
    cases hget : (splitOn '\t' line)[position]? with
    | none => decide
    | some part => exact isCell_of_mem_splitOn (htext ▸ hline) (List.mem_of_getElem? hget)
  -- The parts of the lines at one position make a column.
  let column (position : Fin (splitOn '\t' header).length) : Column lines.length :=
    { name := (splitOn '\t' header).getD position []
      contents := fun row => (splitOn '\t' lines[row]).getD position []
      isCell_name := hcell _ List.mem_cons_self _
      isCell_contents := fun row => hcell _ (List.mem_cons_of_mem _ (List.getElem_mem _)) _ }
  have hparts : ∀ parts : List (List Char), parts.length = (splitOn '\t' header).length →
      List.ofFn (fun position : Fin (splitOn '\t' header).length => parts.getD position [])
        = parts := by
    intro parts hlength
    refine List.ext_getElem (by simp [hlength]) fun i _ hi => ?_
    rw [List.getElem_ofFn, List.getD_eq_getElem?_getD, List.getElem?_eq_getElem hi,
      Option.getD_some]
  have hrow : ∀ row : Fin lines.length, (List.ofFn column).map (·.contents row)
      = splitOn '\t' lines[row] := by
    intro row
    have hlength := hwidth _ (List.getElem_mem row.isLt)
    rw [cells, cells, List.length_map, List.length_map] at hlength
    rw [List.map_ofFn]
    exact hparts _ hlength
  have hrows : rows (List.ofFn column) = splitOn '\t' header :: lines.map (splitOn '\t') := by
    rw [rows, List.map_ofFn]
    congr 1
    · exact hparts _ rfl
    · simp only [hrow]
      exact List.ofFn_getElem_eq_map lines (splitOn '\t')
  exact ⟨List.ofFn column, hrows ▸ hlayout⟩

/-! ### Rearranged columns -/

/-- A change of the columns, in the header and in all lines alike. -/
inductive Change (kept : List Char → Prop) :
    List (Column height) → List (Column height) → Prop
  | permute {columns columns' : List (Column height)} (hperm : columns.Perm columns') :
      Change kept columns columns'
  | insert {columns : List (Column height)} {position : ℕ} {column : Column height}
      (hposition : position ≤ columns.length) (hname : ¬ kept column.label) :
      Change kept columns (columns.insertIdx position column)
  | remove {columns : List (Column height)} {position : ℕ} {column : Column height}
      (hcolumn : columns[position]? = some column) (hname : ¬ kept column.label) :
      Change kept columns (columns.eraseIdx position)

/-- One table is made from another by any number of changes. -/
def Rearranged (kept : List Char → Prop) :
    List (Column height) → List (Column height) → Prop :=
  Relation.ReflTransGen (Change kept)

section Kept

variable {kept : List Char → Prop} {p : Column height → Bool}
  {columns columns' : List (Column height)}

/-- A change leaves the columns with kept names, up to their order. -/
theorem Change.perm_filter (h : Change kept columns columns')
    (hp : ∀ column, p column = true → kept column.label) :
    (columns.filter p).Perm (columns'.filter p) := by
  cases h with
  | permute hperm => exact hperm.filter p
  | @insert position column hposition hname =>
    have hperm := (List.perm_insertIdx column columns hposition).filter p
    rw [List.filter_cons_of_neg (mt (hp column) hname)] at hperm
    exact hperm.symm
  | @remove position column hcolumn hname =>
    obtain ⟨hlt, hget⟩ := List.getElem?_eq_some_iff.mp hcolumn
    have hperm := (List.getElem_cons_eraseIdx_perm hlt).filter p
    rw [hget, List.filter_cons_of_neg (mt (hp column) hname)] at hperm
    exact hperm.symm

theorem Rearranged.perm_filter (h : Rearranged kept columns columns')
    (hp : ∀ column, p column = true → kept column.label) :
    (columns.filter p).Perm (columns'.filter p) := by
  induction h with
  | refl => exact .refl _
  | tail _ hchange ih => exact ih.trans (hchange.perm_filter hp)

/-- A kept name that at most one column has leads to the same column. -/
theorem Rearranged.find?_eq (h : Rearranged kept columns columns')
    (hp : ∀ column, p column = true → kept column.label) (hcount : columns.countP p ≤ 1) :
    columns'.find? p = columns.find? p := by
  have hperm := h.perm_filter hp
  rw [List.countP_eq_length_filter] at hcount
  rw [← List.head?_filter, ← List.head?_filter]
  rcases hfilter : columns.filter p with _ | ⟨column, _ | ⟨second, rest⟩⟩
  · rw [hfilter] at hperm
    rw [hperm.nil_eq]
  · rw [hfilter] at hperm
    rw [List.perm_singleton.mp hperm.symm]
  · rw [hfilter, List.length_cons, List.length_cons] at hcount
    omega

end Kept

end Table

end InterRater
