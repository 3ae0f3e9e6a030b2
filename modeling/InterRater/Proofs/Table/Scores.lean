import InterRater.Proofs.Table.Columns
import InterRater.Proofs.Table.Survey
import InterRater.Table.Scores
import Mathlib.Data.Fin.VecNotation

/-!
# Reading a score table

A text is read as a score table exactly if its header has the two score columns and each line has a
number in them; each row is then read from the line at its position (`ScoreTable.parse_eq_ok_iff`).
A line is read through the cells in the first columns of the three names (`cellNamed?`), so that
other columns, and the order of the columns, have no influence
(`ScoreTable.parse_depends_on_named_columns`).

There is one exception: a header that consists of blanks is skipped as a blank line.  It has to be a
single column without a name, the one that both scores are read from
(`ScoreTable.not_parse_of_blank_header`).
-/

namespace InterRater

namespace ScoreColumns

/-- The names that are looked for. -/
def Selects (names : ScoreColumns) (name : List Char) : Prop :=
  name = names.automated.toList ∨ name = names.human.toList ∨ name = names.label.toList

end ScoreColumns

namespace ScoreTable

/-! ### One line -/

/-- The cell of a line in the first column with the name. -/
def cellNamed? (header cells : List (List Char)) (name : String) : Option (List Char) :=
  (header.findIdx? (· = name.toList)).bind fun i => cells[i]?

/-- The label in a cell, or the name of the position where there is none. -/
def labelFrom (cell : Option (List Char)) (position : ℕ) : String :=
  match cell with
  | some (c :: rest) => String.ofList (c :: rest)
  | _ => s!"row_{position}"

/-- The row is what a line says under a header. -/
structure ReadFrom (names : ScoreColumns) (header cells : List (List Char)) (position : ℕ)
    (row : ScoreRow Binary64) : Prop where
  automated : (cellNamed? header cells names.automated).bind Numeral.read? = some row.automated
  human : (cellNamed? header cells names.human).bind Numeral.read? = some row.human
  label : row.label = labelFrom (cellNamed? header cells names.label) position

theorem number_getD_eq_ok_iff {row : ℕ} {column : String} {cells : List (List Char)} {i : ℕ}
    {x : Binary64} : Table.number .scores row column (cells.getD i []) = .ok x ↔
      cells[i]?.bind Numeral.read? = some x := by
  rw [Survey.number_eq_ok_iff, List.getD_eq_getElem?_getD]
  cases cells[i]? with
  | some cell => rfl
  -- A missing cell is read as an empty one, which holds no number.
  | none => exact iff_of_false nofun nofun

theorem readRow_eq_ok_iff {names : ScoreColumns} {header : List (List Char)} {i j : ℕ}
    (hi : header.findIdx? (· = names.automated.toList) = some i)
    (hj : header.findIdx? (· = names.human.toList) = some j) {line : List Char} {position : ℕ}
    {row : ScoreRow Binary64} :
    readRow names i j (header.findIdx? (· = names.label.toList)) line position = .ok row ↔
      ReadFrom names header (Table.cells line) position row := by
  have hautomated : cellNamed? header (Table.cells line) names.automated
      = (Table.cells line)[i]? := by
    rw [cellNamed?, hi, Option.bind_some]
  have hhuman : cellNamed? header (Table.cells line) names.human = (Table.cells line)[j]? := by
    rw [cellNamed?, hj, Option.bind_some]
  rw [readRow]
  simp only [Traversal.bind_eq_ok_iff, number_getD_eq_ok_iff]
  constructor
  · rintro ⟨x, hx, y, hy, hrow⟩
    cases hrow
    exact ⟨by rw [hautomated, hx], by rw [hhuman, hy], rfl⟩
  · rintro ⟨hx, hy, hlabel⟩
    rw [hautomated] at hx
    rw [hhuman] at hy
    refine ⟨row.automated, hx, row.human, hy, ?_⟩
    rw [show rowLabel _ (Table.cells line) position = row.label from hlabel.symm]
    rfl

/-! ### The whole text -/

theorem column_eq_ok_iff {header : List (List Char)} {name : String} {i : ℕ} :
    column header name = .ok i ↔ header.findIdx? (· = name.toList) = some i := by
  rw [column]
  cases header.findIdx? (· = name.toList) <;> simp

theorem exists_findIdx?_iff {header : List (List Char)} {name : String} :
    (∃ i, header.findIdx? (· = name.toList) = some i) ↔ name.toList ∈ header := by
  rw [← Option.isSome_iff_exists, List.findIdx?_isSome, List.any_eq_true]
  simp

/-- **Reading a score table** ends in a table exactly if the header has the two score columns, and
the table has a row for each line, read from it. -/
theorem parse_eq_ok_iff {text : List Char} {names : ScoreColumns} {table : ScoreTable Binary64} :
    parse text names = .ok table ↔
      ∃ header lines, Table.dataLines text = header :: lines ∧
        names.automated.toList ∈ Table.cells header ∧ names.human.toList ∈ Table.cells header ∧
        table.length = lines.length ∧
        ∀ (k : ℕ) (line : List Char) (row : ScoreRow Binary64), lines[k]? = some line →
          table[k]? = some row → ReadFrom names (Table.cells header) (Table.cells line) k row := by
  rw [parse]
  cases hlines : Table.dataLines text with
  | nil => exact iff_of_false nofun (by simp)
  | cons header lines =>
    simp only [Traversal.bind_eq_ok_iff, column_eq_ok_iff, Traversal.mapM_zipIdx_eq_ok_iff,
      ← exists_findIdx?_iff]
    constructor
    · rintro ⟨i, hi, j, hj, hlength, hrows⟩
      refine ⟨header, lines, rfl, ⟨i, hi⟩, ⟨j, hj⟩, hlength, ?_⟩
      intro k line row hline hrow
      exact (readRow_eq_ok_iff hi hj).mp (hrows k line row hline hrow)
    · rintro ⟨_, _, heq, ⟨i, hi⟩, ⟨j, hj⟩, hlength, hrows⟩
      cases heq
      refine ⟨i, hi, j, hj, hlength, ?_⟩
      intro k line row hline hrow
      exact (readRow_eq_ok_iff hi hj).mpr (hrows k line row hline hrow)

/-! ### Tables by columns -/

section Columns

open Table (Column Layout Rearranged)

variable {height : ℕ} {columns columns' : List (Column height)}

/-- The first column with the name. -/
def columnNamed? (columns : List (Column height)) (name : String) : Option (Column height) :=
  columns.find? (·.label = name.toList)

theorem cellNamed?_columns (columns : List (Column height)) (row : Fin height) (name : String) :
    cellNamed? (columns.map Column.label) (columns.map fun column => column.cell row) name
      = (columnNamed? columns name).map fun column => column.cell row := by
  rw [cellNamed?, columnNamed?, List.findIdx?_map, List.find?_eq_bind_findIdx?_getElem?,
    Option.map_bind]
  simp only [List.getElem?_map]
  rfl

/-- The columns of a table from which scores can be read. -/
structure IsScoreTable (names : ScoreColumns) (columns : List (Column height)) : Prop where
  automated_once : columns.countP (·.label = names.automated.toList) = 1
  human_once : columns.countP (·.label = names.human.toList) = 1
  label_once : columns.countP (·.label = names.label.toList) ≤ 1
  /-- The score columns hold numbers. -/
  numbers : ∀ column ∈ columns,
    column.label = names.automated.toList ∨ column.label = names.human.toList →
    ∀ row, ∃ x, Numeral.read? (column.cell row) = some x

/-- That the score columns hold numbers can be tested. -/
theorem isScoreTable_of_isSome {names : ScoreColumns}
    (hautomated : columns.countP (·.label = names.automated.toList) = 1)
    (hhuman : columns.countP (·.label = names.human.toList) = 1)
    (hlabel : columns.countP (·.label = names.label.toList) ≤ 1)
    (hnumbers : ∀ column ∈ columns,
      column.label = names.automated.toList ∨ column.label = names.human.toList →
      ∀ row, (Numeral.read? (column.cell row)).isSome = true) : IsScoreTable names columns := by
  refine ⟨hautomated, hhuman, hlabel, fun column hcolumn hname row => ?_⟩
  exact Option.isSome_iff_exists.mp (hnumbers column hcolumn hname row)

theorem exists_columnNamed? {name : String} (h : columns.countP (·.label = name.toList) = 1) :
    ∃ column ∈ columns, column.label = name.toList ∧ columnNamed? columns name = some column := by
  obtain ⟨column, hcolumn⟩ := Option.isSome_iff_exists.mp
    (List.find?_isSome.mpr (List.countP_pos_iff.mp (by rw [h]; exact one_pos)))
  exact ⟨column, List.mem_of_find?_eq_some hcolumn, by simpa using List.find?_some hcolumn, hcolumn⟩

theorem label_mem_of_columnNamed? {name : String} {column : Column height}
    (h : columnNamed? columns name = some column) : name.toList ∈ columns.map Column.label := by
  have hlabel : column.label = name.toList := by simpa using List.find?_some h
  exact hlabel ▸ List.mem_map_of_mem (List.mem_of_find?_eq_some h)

/-- The table with the given scores and the labels in the label column. -/
def tableOf (columns : List (Column height)) (names : ScoreColumns)
    (automated human : Fin height → Binary64) : ScoreTable Binary64 :=
  List.ofFn fun k =>
    ⟨labelFrom ((columnNamed? columns names.label).map fun column => column.cell k) k,
      automated k, human k⟩

theorem tableOf_congr {names : ScoreColumns}
    (h : columnNamed? columns' names.label = columnNamed? columns names.label)
    (x y : Fin height → Binary64) : tableOf columns' names x y = tableOf columns names x y := by
  rw [tableOf, h, tableOf]

/-- The text of a table is read by its columns with the three names. -/
theorem parse_layout {names : ScoreColumns} {automated human : Column height}
    (hautomated : columnNamed? columns names.automated = some automated)
    (hhuman : columnNamed? columns names.human = some human) {x y : Fin height → Binary64}
    (hx : ∀ k, Numeral.read? (automated.cell k) = some (x k))
    (hy : ∀ k, Numeral.read? (human.cell k) = some (y k))
    (hheader : ∃ column ∈ columns, column.label ≠ []) {text : List Char}
    (hlayout : Layout (Table.rows columns) text) :
    parse text names = .ok (tableOf columns names x y) := by
  -- A line with a number is not blank.
  have hrows : ∀ k, ∃ column ∈ columns, column.cell k ≠ [] := by
    intro k
    refine ⟨automated, List.mem_of_find?_eq_some hautomated, fun hnil => ?_⟩
    have hnumber := hx k
    rw [hnil] at hnumber
    cases hnumber
  obtain ⟨header, lines, htext, hnames, hlines⟩ :=
    List.map_eq_cons_iff.mp (Table.map_cells_of_layout hlayout hheader hrows)
  have hlength : lines.length = height := by
    simpa using congrArg List.length hlines
  rw [parse_eq_ok_iff]
  refine ⟨header, lines, htext, ?_, ?_, by rw [tableOf, List.length_ofFn, hlength], ?_⟩
  · exact hnames ▸ label_mem_of_columnNamed? hautomated
  · exact hnames ▸ label_mem_of_columnNamed? hhuman
  · intro k line row hline hrow
    have hk : k < height := hlength ▸ (List.getElem?_eq_some_iff.mp hline).1
    have hcells : Table.cells line = columns.map fun column => column.cell ⟨k, hk⟩ := by
      have hget := congrArg (·[k]?) hlines
      simpa [hline, hk] using hget
    rw [tableOf, List.getElem?_ofFn, dif_pos hk] at hrow
    cases hrow
    rw [hnames, hcells]
    refine ⟨?_, ?_, ?_⟩
    · rw [cellNamed?_columns, hautomated, Option.map_some, Option.bind_some, hx]
    · rw [cellNamed?_columns, hhuman, Option.map_some, Option.bind_some, hy]
    · rw [cellNamed?_columns]

/-- A table of which no rearrangement changes the scores, unless it leaves a blank header. -/
theorem exists_table {names : ScoreColumns} (h : IsScoreTable names columns) :
    ∃ table, ∀ (columns' : List (Column height)) (text : List Char),
      Rearranged names.Selects columns columns' → (∃ column ∈ columns', column.label ≠ []) →
      Layout (Table.rows columns') text → parse text names = .ok table := by
  obtain ⟨automated, hautomated, hautomated', hfind⟩ := exists_columnNamed? h.automated_once
  obtain ⟨human, hhuman, hhuman', hfind'⟩ := exists_columnNamed? h.human_once
  choose x hx using h.numbers automated hautomated (.inl hautomated')
  choose y hy using h.numbers human hhuman (.inr hhuman')
  refine ⟨tableOf columns names x y, fun columns' text hrearranged hheader hlayout => ?_⟩
  -- Each of the three names leads to the column that it leads to in the table itself.
  have hnamed : ∀ name : String, names.Selects name.toList →
      columns.countP (·.label = name.toList) ≤ 1 →
      columnNamed? columns' name = columnNamed? columns name := by
    intro name hname hcount
    refine hrearranged.find?_eq (fun column hcolumn => ?_) hcount
    rwa [decide_eq_true_iff.mp hcolumn]
  have hautomated_eq := (hnamed _ (.inl rfl) h.automated_once.le).trans hfind
  have hhuman_eq := (hnamed _ (.inr (.inl rfl)) h.human_once.le).trans hfind'
  rw [parse_layout hautomated_eq hhuman_eq hx hy hheader hlayout,
    tableOf_congr (hnamed _ (.inr (.inr rfl)) h.label_once)]

/-- **A score table depends on the named columns.**  In every text that is read, each entry is that
of the line at its position, found by the names.  The columns may be put in any order, and columns
with other names inserted and removed, without changing the table that is read, as long as a name is
left in the header. -/
theorem parse_depends_on_named_columns (names : ScoreColumns) :
    (∀ (text : List Char) (table : ScoreTable Binary64), parse text names = .ok table →
      ∃ header lines, Table.dataLines text = header :: lines ∧
        table.labels.length = lines.length ∧ table.automated.length = lines.length ∧
        table.human.length = lines.length ∧
        ∀ (k : ℕ) (line : List Char), lines[k]? = some line →
          ∃ row, ReadFrom names (Table.cells header) (Table.cells line) k row ∧
            table.labels[k]? = some row.label ∧ table.automated[k]? = some row.automated ∧
            table.human[k]? = some row.human) ∧
    ∀ (height : ℕ) (columns : List (Column height)), IsScoreTable names columns →
      ∃ table, ∀ (columns' : List (Column height)) (text : List Char),
        Rearranged names.Selects columns columns' → (∃ column ∈ columns', column.label ≠ []) →
        Layout (Table.rows columns') text → parse text names = .ok table := by
  refine ⟨?_, fun height columns h => exists_table h⟩
  intro text table hparse
  obtain ⟨header, lines, htext, -, -, hlength, hrows⟩ := parse_eq_ok_iff.mp hparse
  refine ⟨header, lines, htext, ?_, ?_, ?_, ?_⟩
  · rw [labels, List.length_map, hlength]
  · rw [automated, List.length_map, hlength]
  · rw [human, List.length_map, hlength]
  · intro k line hline
    have hk : k < table.length := hlength ▸ (List.getElem?_eq_some_iff.mp hline).1
    have hrow : table[k]? = some table[k] := List.getElem?_eq_getElem hk
    refine ⟨table[k], hrows k line table[k] hline hrow, ?_, ?_, ?_⟩
    · rw [labels, List.getElem?_map, hrow, Option.map_some]
    · rw [automated, List.getElem?_map, hrow, Option.map_some]
    · rw [human, List.getElem?_map, hrow, Option.map_some]

end Columns

/-! ### Notes beside the scores -/

open Table (Column Layout Rearranged Change)

section Notes

def questionColumn : Column 2 :=
  ⟨"Question".toList, ![" Q1_1 ".toList, []], by decide, by decide⟩

def modelColumn : Column 2 :=
  ⟨"model".toList, !["4".toList, "2.25".toList], by decide, by decide⟩

def panelColumn : Column 2 :=
  ⟨"panel".toList, !["3.5".toList, " 2".toList], by decide, by decide⟩

/-- A column without a name. -/
def noteColumn : Column 2 :=
  ⟨[], !["ok".toList, " \r".toList], by decide, by decide⟩

theorem isScoreTable_questions :
    IsScoreTable ⟨"model", "panel", "Question"⟩ [questionColumn, panelColumn, modelColumn] :=
  isScoreTable_of_isSome (by decide) (by decide) (by decide) (by decide)

theorem rearranged_notes :
    Rearranged (ScoreColumns.Selects ⟨"model", "panel", "Question"⟩)
      [questionColumn, panelColumn, modelColumn]
      [noteColumn, questionColumn, modelColumn, panelColumn] := by
  have hswap : [questionColumn, panelColumn, modelColumn].Perm
      [questionColumn, modelColumn, panelColumn] := .cons _ (.swap _ _ _)
  have hinsert : Change (ScoreColumns.Selects ⟨"model", "panel", "Question"⟩)
      [questionColumn, modelColumn, panelColumn]
      ([questionColumn, modelColumn, panelColumn].insertIdx 0 noteColumn) := by
    refine .insert (by decide) ?_
    unfold ScoreColumns.Selects
    decide
  exact .tail (.single (.permute hswap)) hinsert

/-- Two columns change places and notes are put in front of them. -/
theorem parse_depends_on_named_columns_notes :
    ∃ table, parse "Question\tpanel\tmodel\n Q1_1 \t3.5\t4\n\t 2\t2.25\n".toList
        ⟨"model", "panel", "Question"⟩ = .ok table ∧
      parse "\tQuestion\tmodel\tpanel\nok\t Q1_1 \t4\t3.5\n \r\t\t2.25\t 2\n".toList
        ⟨"model", "panel", "Question"⟩ = .ok table ∧
      table.labels.length = 2 := by
  obtain ⟨hread, hcolumns⟩ := parse_depends_on_named_columns ⟨"model", "panel", "Question"⟩
  obtain ⟨table, htable⟩ := hcolumns 2 _ isScoreTable_questions
  have hplain := htable _ _ .refl ⟨questionColumn, List.mem_cons_self, by decide⟩
    (Table.layout_rows (List.cons_ne_nil _ _))
  have hnotes := htable _ _ rearranged_notes
    ⟨questionColumn, List.mem_cons_of_mem _ List.mem_cons_self, by decide⟩
    (Table.layout_rows (List.cons_ne_nil _ _))
  obtain ⟨header, lines, hlines, hlength, -⟩ := hread _ _ hplain
  cases hlines
  exact ⟨table, hplain, hnotes, hlength⟩

end Notes

/-! ### A header that is skipped -/

section Blank

def scoreColumn : Column 2 :=
  ⟨[], ![['1'], ['2']], by decide, by decide⟩

def remarkColumn : Column 2 :=
  ⟨['x'], ![['a'], ['b']], by decide, by decide⟩

/-- Both scores are read from a column without a name, beside which there is another one.  Without
the other one, the header is blank and the first line is taken for it. -/
theorem not_parse_of_blank_header :
    IsScoreTable ⟨"", "", "Question"⟩ [scoreColumn, remarkColumn] ∧
    Rearranged (ScoreColumns.Selects ⟨"", "", "Question"⟩) [scoreColumn, remarkColumn]
      [scoreColumn] ∧
    Layout (Table.rows [scoreColumn, remarkColumn]) "\tx\n1\ta\n2\tb\n".toList ∧
    Layout (Table.rows [scoreColumn]) "\n1\n2\n".toList ∧
    parse "\tx\n1\ta\n2\tb\n".toList ⟨"", "", "Question"⟩
      = .ok [⟨"row_0", .ofInt 1, .ofInt 1⟩, ⟨"row_1", .ofInt 2, .ofInt 2⟩] ∧
    parse "\n1\n2\n".toList ⟨"", "", "Question"⟩ = .error (.missingColumn "" ["1"]) := by
  refine ⟨?_, ?_, ?_, ?_, by rfl, by rfl⟩
  · exact isScoreTable_of_isSome (by decide) (by decide) (by decide) (by decide)
  · have hremove : Change (ScoreColumns.Selects ⟨"", "", "Question"⟩) [scoreColumn, remarkColumn]
        ([scoreColumn, remarkColumn].eraseIdx 1) := by
      have hcolumn : [scoreColumn, remarkColumn][1]? = some remarkColumn := rfl
      refine .remove hcolumn ?_
      unfold ScoreColumns.Selects
      decide
    exact .single hremove
  · exact Table.layout_rows (List.cons_ne_nil _ _)
  · exact Table.layout_rows (List.cons_ne_nil _ _)

end Blank

end ScoreTable

end InterRater
