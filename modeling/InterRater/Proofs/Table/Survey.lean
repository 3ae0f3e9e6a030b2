import InterRater.Proofs.Rating.Numbers
import InterRater.Table.Survey

/-!
# What a survey table is refused for

`Survey.FirstProblem` lists what can be wrong with the text of a survey table, each problem with
what must be in order before it is looked for: there is a header, the header is filled, each line
has its cells and each cell its number, and only then each number is a rating.  A text is refused
exactly for its first problem, and one without a problem gives a matrix with a row for every line
(`Survey.parse_outcome`).
-/

namespace InterRater

namespace Survey

/-! ### Problems of a text -/

/-- The labels that a header writes. -/
def labelsOf (header : List Char) : List String :=
  (Table.cells header).map String.ofList

/-- The number in a cell of the lines below the header. -/
def numberAt (lines : List (List Char)) (rater column : ℕ) : Option Binary64 :=
  lines[rater]?.bind fun line => (Table.cells line)[column]?.bind Numeral.read?

/-- The line has a cell for every label, and every cell holds a number. -/
structure Decodes (labels : List String) (line : List Char) : Prop where
  count : (Table.cells line).length = labels.length
  numbers : ∀ cell ∈ Table.cells line, ∃ x, Numeral.read? cell = some x

/-- What is wrong with the line of `rater`: the number of its cells, or the first cell from the left
without a number. -/
inductive LineFault (labels : List String) (rater : ℕ) (line : List Char) : AnalysisError → Prop
  | count (hcount : (Table.cells line).length ≠ labels.length) :
      LineFault labels rater line (.raggedCells rater (Table.cells line).length labels.length)
  | blank {column : ℕ} {label : String}
      (hcount : (Table.cells line).length = labels.length)
      (hbefore : ∀ j < column, ∀ cell, (Table.cells line)[j]? = some cell →
        ∃ x, Numeral.read? cell = some x)
      (hlabel : labels[column]? = some label)
      (hcell : (Table.cells line)[column]? = some []) :
      LineFault labels rater line (.blankCell .survey rater label)
  | notANumber {column : ℕ} {label : String} {cell : List Char}
      (hcount : (Table.cells line).length = labels.length)
      (hbefore : ∀ j < column, ∀ cell, (Table.cells line)[j]? = some cell →
        ∃ x, Numeral.read? cell = some x)
      (hlabel : labels[column]? = some label)
      (hcell : (Table.cells line)[column]? = some cell)
      (hfilled : cell ≠ []) (hnone : Numeral.read? cell = none) :
      LineFault labels rater line (.notANumber .survey rater label (String.ofList cell))

/-- The first problem of the text of a survey table. -/
inductive FirstProblem (text : List Char) (scale : OrdinalScale) : AnalysisError → Prop
  /-- All lines are blank. -/
  | noHeader (hlines : Table.dataLines text = []) : FirstProblem text scale (.noHeader .survey)
  /-- A cell of the header is empty, and none on its left is. -/
  | unlabelled {header : List Char} {lines : List (List Char)} {column : ℕ}
      (hlines : Table.dataLines text = header :: lines)
      (hcell : (Table.cells header)[column]? = some [])
      (hbefore : ∀ j < column, (Table.cells header)[j]? ≠ some []) :
      FirstProblem text scale (.unlabelledColumn column)
  /-- The header is filled, but a line below it is at fault, and none above that line is. -/
  | line {header : List Char} {lines : List (List Char)} {rater : ℕ} {line : List Char}
      {e : AnalysisError}
      (hlines : Table.dataLines text = header :: lines)
      (hheader : [] ∉ Table.cells header)
      (hline : lines[rater]? = some line)
      (hbefore : ∀ i < rater, ∀ l, lines[i]? = some l → Decodes (labelsOf header) l)
      (hfault : LineFault (labelsOf header) rater line e) :
      FirstProblem text scale e
  /-- All lines are in order, but a number is no rating, and none before it in the order of the rows
  is. -/
  | rating {header : List Char} {lines : List (List Char)} {rater column : ℕ} {x : Binary64}
      {label : String}
      (hlines : Table.dataLines text = header :: lines)
      (hheader : [] ∉ Table.cells header)
      (hdecodes : ∀ line ∈ lines, Decodes (labelsOf header) line)
      (hnumber : numberAt lines rater column = some x)
      (hlabel : (labelsOf header)[column]? = some label)
      (hbefore : ∀ i j y, i < rater ∨ i = rater ∧ j < column → numberAt lines i j = some y →
        ∃ n, scale.rating? y = some n)
      (hnone : scale.rating? x = none) :
      FirstProblem text scale (.offScale x label rater scale)

/-! ### The header -/

theorem labels_eq_ok_iff {header : List (List Char)} {names : List String} :
    labels header = .ok names ↔ [] ∉ header ∧ names = header.map String.ofList := by
  rw [labels]
  cases h : header.findIdx? (·.isEmpty) with
  | some column =>
    refine iff_of_false nofun ?_
    rintro ⟨hheader, -⟩
    obtain ⟨hlt, hempty, -⟩ := List.findIdx?_eq_some_iff_getElem.mp h
    rw [List.isEmpty_iff] at hempty
    exact hheader (hempty ▸ List.getElem_mem hlt)
  | none =>
    have hheader : [] ∉ header := by
      intro hmem
      have := List.findIdx?_eq_none_iff.mp h [] hmem
      cases this
    simp [hheader, eq_comm]

theorem labels_eq_error_iff {header : List (List Char)} {e : AnalysisError} :
    labels header = .error e ↔ ∃ column : ℕ, header[column]? = some [] ∧
      (∀ j < column, header[j]? ≠ some []) ∧ e = .unlabelledColumn column := by
  rw [labels]
  cases h : header.findIdx? (·.isEmpty) with
  | none =>
    refine iff_of_false nofun ?_
    rintro ⟨column, hcell, -⟩
    have := List.findIdx?_eq_none_iff.mp h [] (List.mem_of_getElem? hcell)
    cases this
  | some column =>
    obtain ⟨hlt, hempty, hbefore⟩ := List.findIdx?_eq_some_iff_getElem.mp h
    have hcell : header[column]? = some [] := by
      rw [List.getElem?_eq_getElem hlt, List.isEmpty_iff.mp hempty]
    have hfirst : ∀ j < column, header[j]? ≠ some [] := by
      intro j hj hget
      obtain ⟨hjlt, hjempty⟩ := List.getElem?_eq_some_iff.mp hget
      exact hbefore j hj (by rw [hjempty]; rfl)
    constructor
    · intro he
      cases he
      exact ⟨column, hcell, hfirst, rfl⟩
    · rintro ⟨column', hcell', hfirst', rfl⟩
      -- There is one leftmost empty cell.
      have heq : column' = column := by
        rcases Nat.lt_trichotomy column' column with hlt | heq | hlt
        · exact absurd hcell' (hfirst _ hlt)
        · exact heq
        · exact absurd hcell (hfirst' _ hlt)
      rw [heq]

/-- A header with an empty cell has a leftmost one. -/
theorem exists_unlabelled {header : List (List Char)} (h : [] ∈ header) :
    ∃ column : ℕ, header[column]? = some [] ∧ ∀ j < column, header[j]? ≠ some [] := by
  cases hlabels : labels header with
  | ok names => exact absurd h (labels_eq_ok_iff.mp hlabels).1
  | error e =>
    obtain ⟨column, hcell, hbefore, -⟩ := labels_eq_error_iff.mp hlabels
    exact ⟨column, hcell, hbefore⟩

/-! ### One line -/

theorem number_eq_ok_iff {table : TableKind} {row : ℕ} {column : String} {cell : List Char}
    {x : Binary64} : Table.number table row column cell = .ok x ↔ Numeral.read? cell = some x := by
  cases cell with
  | nil => exact iff_of_false nofun nofun
  | cons c cell =>
    rw [Table.number, List.isEmpty_cons, if_neg Bool.false_ne_true]
    cases Numeral.read? (c :: cell) <;> simp

theorem number_eq_error_iff {table : TableKind} {row : ℕ} {column : String} {cell : List Char}
    {e : AnalysisError} : Table.number table row column cell = .error e ↔
      cell = [] ∧ e = .blankCell table row column ∨
      cell ≠ [] ∧ Numeral.read? cell = none ∧
        e = .notANumber table row column (String.ofList cell) := by
  cases cell with
  | nil =>
    rw [Table.number, List.isEmpty_nil, if_pos rfl]
    simp [eq_comm]
  | cons c cell =>
    rw [Table.number, List.isEmpty_cons, if_neg Bool.false_ne_true]
    cases Numeral.read? (c :: cell) <;> simp [eq_comm]

theorem numbers_eq_ok_iff {names : List String} {line : List Char} {rater : ℕ}
    {row : List Binary64} : numbers names line rater = .ok row ↔
      (Table.cells line).length = names.length ∧
        (Table.cells line).map Numeral.read? = row.map some := by
  rw [numbers]
  by_cases hcount : (Table.cells line).length = names.length
  · have hnumber : ∀ (cell : List Char) (label : String) (x : Binary64),
        Table.number .survey rater label cell = .ok x ↔ Numeral.read? cell = some x :=
      fun _ _ _ => number_eq_ok_iff
    rw [if_neg (not_not.mpr hcount), and_iff_right hcount]
    exact Traversal.mapM_zip_eq_ok_iff hnumber hcount
  · rw [if_pos hcount]
    exact iff_of_false nofun fun h => hcount h.1

theorem decodes_of_numbers {names : List String} {line : List Char} {rater : ℕ}
    {row : List Binary64} (h : numbers names line rater = .ok row) : Decodes names line := by
  obtain ⟨hcount, hmap⟩ := numbers_eq_ok_iff.mp h
  refine ⟨hcount, ?_⟩
  intro cell hcell
  have hmem : Numeral.read? cell ∈ row.map some := hmap ▸ List.mem_map_of_mem hcell
  obtain ⟨x, -, hx⟩ := List.mem_map.mp hmem
  exact ⟨x, hx.symm⟩

/-- A line is refused exactly for its fault. -/
theorem numbers_eq_error_iff {names : List String} {line : List Char} {rater : ℕ}
    {e : AnalysisError} :
    numbers names line rater = .error e ↔ LineFault names rater line e := by
  rw [numbers]
  by_cases hcount : (Table.cells line).length = names.length
  · have hnumber : ∀ (cell : List Char) (label : String) (x : Binary64),
        Table.number .survey rater label cell = .ok x ↔ Numeral.read? cell = some x :=
      fun _ _ _ => number_eq_ok_iff
    rw [if_neg (not_not.mpr hcount)]
    refine (Traversal.mapM_zip_eq_error_iff hnumber hcount).trans ?_
    constructor
    · rintro ⟨column, cell, label, hcell, hlabel, he, hbefore⟩
      rcases number_eq_error_iff.mp he with ⟨rfl, rfl⟩ | ⟨hfilled, hnone, rfl⟩
      · exact .blank hcount hbefore hlabel hcell
      · exact .notANumber hcount hbefore hlabel hcell hfilled hnone
    · intro hfault
      cases hfault with
      | count hnot => exact absurd hcount hnot
      | blank _ hbefore hlabel hcell =>
        refine ⟨_, _, _, hcell, hlabel, ?_, hbefore⟩
        exact number_eq_error_iff.mpr (Or.inl ⟨rfl, rfl⟩)
      | notANumber _ hbefore hlabel hcell hfilled hnone =>
        refine ⟨_, _, _, hcell, hlabel, ?_, hbefore⟩
        exact number_eq_error_iff.mpr (Or.inr ⟨hfilled, hnone, rfl⟩)
  · rw [if_pos hcount]
    constructor
    · intro he
      cases he
      exact .count hcount
    · intro hfault
      cases hfault with
      | count => rfl
      | blank h => exact absurd h hcount
      | notANumber h => exact absurd h hcount

theorem exists_numbers_iff {names : List String} {line : List Char} {rater : ℕ} :
    (∃ row, numbers names line rater = .ok row) ↔ Decodes names line := by
  constructor
  · rintro ⟨row, h⟩
    exact decodes_of_numbers h
  · intro h
    cases hnumbers : numbers names line rater with
    | ok row => exact ⟨row, rfl⟩
    | error e =>
      have hnone : ∀ {column : ℕ} {cell : List Char}, (Table.cells line)[column]? = some cell →
          Numeral.read? cell ≠ none := by
        intro column cell hcell hread
        obtain ⟨x, hx⟩ := h.numbers cell (List.mem_of_getElem? hcell)
        rw [hread] at hx
        cases hx
      cases numbers_eq_error_iff.mp hnumbers with
      | count hcount => exact absurd h.count hcount
      | blank _ _ _ hcell => exact absurd rfl (hnone hcell)
      | notANumber _ _ _ hcell _ hread => exact absurd hread (hnone hcell)

/-! ### All lines -/

section Lines

variable {names : List String} {lines : List (List Char)} {rows : List (List Binary64)}

theorem map_read?_of_decoded
    (h : lines.zipIdx.mapM (fun (line, rater) => numbers names line rater) = .ok rows) :
    (lines.map Table.cells).map (·.map Numeral.read?) = rows.map (·.map some) := by
  rw [List.map_map]
  exact Traversal.map_eq_of_mapM_zipIdx_eq_ok h fun _ _ _ hrow => (numbers_eq_ok_iff.mp hrow).2

/-- The numbers of a table that has been decoded are those of its cells. -/
theorem numberAt_of_decoded
    (h : lines.zipIdx.mapM (fun (line, rater) => numbers names line rater) = .ok rows)
    (rater column : ℕ) : numberAt lines rater column = rows[rater]?.bind (·[column]?) := by
  rw [Traversal.bind_getElem?_of_map_eq (map_read?_of_decoded h), numberAt, List.getElem?_map,
    Option.bind_map, Option.bind_assoc]
  rfl

theorem length_of_decoded
    (h : lines.zipIdx.mapM (fun (line, rater) => numbers names line rater) = .ok rows) :
    ∀ row ∈ rows, row.length = names.length := by
  intro row hrow
  obtain ⟨⟨line, rater⟩, -, hnumbers⟩ := (Traversal.mem_iff_of_mapM_eq_ok h row).mp hrow
  obtain ⟨hcount, hmap⟩ := numbers_eq_ok_iff.mp hnumbers
  have hlength := congrArg List.length hmap
  rw [List.length_map, List.length_map] at hlength
  rw [← hlength, hcount]

theorem exists_decoded_iff :
    (∃ rows, lines.zipIdx.mapM (fun (line, rater) => numbers names line rater) = .ok rows) ↔
      ∀ line ∈ lines, Decodes names line := by
  constructor
  · rintro ⟨rows, h⟩ line hline
    obtain ⟨rater, hlt, rfl⟩ := List.mem_iff_getElem.mp hline
    have hmem : (lines[rater], rater) ∈ lines.zipIdx := by
      rw [List.mk_mem_zipIdx_iff_getElem?]
      exact List.getElem?_eq_getElem hlt
    have hok : numbers names lines[rater] rater ∈ rows.map Except.ok := by
      rw [← Traversal.mapM_eq_ok_iff.mp h]
      exact List.mem_map_of_mem (f := fun (line, rater) => numbers names line rater) hmem
    obtain ⟨row, -, hrow⟩ := List.mem_map.mp hok
    exact decodes_of_numbers hrow.symm
  · intro h
    apply Traversal.exists_mapM_eq_ok
    rintro ⟨line, rater⟩ hmem
    exact exists_numbers_iff.mpr (h line (List.fst_mem_of_mem_zipIdx hmem))

end Lines

/-! ### The whole text -/

section Text

variable {text : List Char} {scale : OrdinalScale} {header : List Char} {lines : List (List Char)}

theorem parse_of_unlabelled (hlines : Table.dataLines text = header :: lines) {column : ℕ}
    (hcell : (Table.cells header)[column]? = some [])
    (hbefore : ∀ j < column, (Table.cells header)[j]? ≠ some []) :
    parse text scale = .error (.unlabelledColumn column) := by
  have hlabels : labels (Table.cells header) = .error (.unlabelledColumn column) :=
    labels_eq_error_iff.mpr ⟨column, hcell, hbefore, rfl⟩
  unfold parse
  rw [hlines]
  show (labels (Table.cells header) >>= _) = _
  rw [hlabels]
  rfl

/-- Below a header that is filled, all lines are decoded before a number is looked at. -/
theorem parse_of_header (hlines : Table.dataLines text = header :: lines)
    (hheader : [] ∉ Table.cells header) : parse text scale =
      (lines.zipIdx.mapM fun (line, rater) => numbers (labelsOf header) line rater) >>=
        fun rows => RatingMatrix.ofNumbers (labelsOf header) rows scale := by
  have hlabels : labels (Table.cells header) = .ok (labelsOf header) :=
    labels_eq_ok_iff.mpr ⟨hheader, rfl⟩
  unfold parse
  rw [hlines]
  show (labels (Table.cells header) >>= _) = _
  rw [hlabels]
  rfl

/-- Numbers that are no ratings are the last thing a text is refused for. -/
theorem ofNumbers_eq_error_iff_of_decoded {names : List String} {rows : List (List Binary64)}
    {e : AnalysisError}
    (h : lines.zipIdx.mapM (fun (line, rater) => numbers names line rater) = .ok rows) :
    RatingMatrix.ofNumbers names rows scale = .error e ↔
      ∃ (rater column : ℕ) (x : Binary64) (label : String),
        numberAt lines rater column = some x ∧ names[column]? = some label ∧
        (∀ i j y, i < rater ∨ i = rater ∧ j < column → numberAt lines i j = some y →
          ∃ n, scale.rating? y = some n) ∧
        scale.rating? x = none ∧ e = .offScale x label rater scale := by
  have hwidth := length_of_decoded h
  simp only [numberAt_of_decoded h]
  rw [RatingMatrix.ofNumbers_eq_error_iff, Traversal.mapM_zipIdx_eq_error_iff]
  constructor
  · rintro ⟨rater, row, hrow, he, hbefore⟩
    have hlength := hwidth row (List.mem_of_getElem? hrow)
    obtain ⟨column, x, label, hx, hlabel, hnone, rfl, hleft⟩ :=
      (RatingMatrix.ratingsOfRow_eq_error_iff hlength).mp he
    refine ⟨rater, column, x, label, by rw [hrow]; exact hx, hlabel, ?_, hnone, rfl⟩
    rintro i j y (hi | ⟨rfl, hj⟩) hy
    · obtain ⟨row', hrow', hy⟩ := Option.bind_eq_some_iff.mp hy
      have hok := hbefore i hi row' hrow'
      rw [RatingMatrix.exists_ratingsOfRow_iff (hwidth row' (List.mem_of_getElem? hrow'))] at hok
      exact hok y (List.mem_of_getElem? hy)
    · rw [hrow] at hy
      exact hleft j hj y hy
  · rintro ⟨rater, column, x, label, hx, hlabel, hbefore, hnone, rfl⟩
    obtain ⟨row, hrow, hx⟩ := Option.bind_eq_some_iff.mp hx
    have hlength := hwidth row (List.mem_of_getElem? hrow)
    refine ⟨rater, row, hrow, ?_, ?_⟩
    · refine (RatingMatrix.ratingsOfRow_eq_error_iff hlength).mpr
        ⟨column, x, label, hx, hlabel, hnone, rfl, ?_⟩
      intro j hj y hy
      exact hbefore rater j y (Or.inr ⟨rfl, hj⟩) (by rw [hrow]; exact hy)
    · intro i hi row' hrow'
      rw [RatingMatrix.exists_ratingsOfRow_iff (hwidth row' (List.mem_of_getElem? hrow'))]
      intro y hy
      obtain ⟨j, hj, rfl⟩ := List.mem_iff_getElem.mp hy
      exact hbefore i j _ (Or.inl hi) (by rw [hrow']; exact List.getElem?_eq_getElem hj)

/-- A text is refused for its first problem only. -/
theorem firstProblem_of_parse {e : AnalysisError} (h : parse text scale = .error e) :
    FirstProblem text scale e := by
  cases hlines : Table.dataLines text with
  | nil =>
    rw [parse, hlines] at h
    cases h
    exact .noHeader hlines
  | cons header lines =>
    by_cases hheader : [] ∈ Table.cells header
    · obtain ⟨column, hcell, hbefore⟩ := exists_unlabelled hheader
      rw [parse_of_unlabelled hlines hcell hbefore] at h
      cases h
      exact .unlabelled hlines hcell hbefore
    · rw [parse_of_header hlines hheader] at h
      cases hrows : lines.zipIdx.mapM fun (line, rater) => numbers (labelsOf header) line rater with
      | error e' =>
        rw [hrows] at h
        cases h
        obtain ⟨rater, line, hline, he, hbefore⟩ := Traversal.mapM_zipIdx_eq_error_iff.mp hrows
        refine .line hlines hheader hline ?_ (numbers_eq_error_iff.mp he)
        intro i hi l hl
        exact exists_numbers_iff.mp (hbefore i hi l hl)
      | ok rows =>
        rw [hrows] at h
        change RatingMatrix.ofNumbers (labelsOf header) rows scale = .error e at h
        obtain ⟨rater, column, x, label, hx, hlabel, hbefore, hnone, rfl⟩ :=
          (ofNumbers_eq_error_iff_of_decoded hrows).mp h
        exact .rating hlines hheader (exists_decoded_iff.mp ⟨rows, hrows⟩) hx hlabel hbefore hnone

/-- A text with a problem is refused for it. -/
theorem parse_of_firstProblem {e : AnalysisError} (h : FirstProblem text scale e) :
    parse text scale = .error e := by
  cases h with
  | noHeader hlines => rw [parse, hlines]
  | unlabelled hlines hcell hbefore => exact parse_of_unlabelled hlines hcell hbefore
  | @line header lines rater line e hlines hheader hline hbefore hfault =>
    have hrows : lines.zipIdx.mapM (fun (line, rater) => numbers (labelsOf header) line rater)
        = .error e := by
      refine Traversal.mapM_zipIdx_eq_error_iff.mpr
        ⟨rater, line, hline, numbers_eq_error_iff.mpr hfault, ?_⟩
      intro i hi l hl
      exact exists_numbers_iff.mpr (hbefore i hi l hl)
    rw [parse_of_header hlines hheader, hrows]
    rfl
  | @rating header lines rater column x label hlines hheader hdecodes hx hlabel hbefore hnone =>
    obtain ⟨rows, hrows⟩ := exists_decoded_iff.mpr hdecodes
    rw [parse_of_header hlines hheader, hrows]
    exact (ofNumbers_eq_error_iff_of_decoded hrows).mpr
      ⟨rater, column, x, label, hx, hlabel, hbefore, hnone, rfl⟩

/-- What a matrix has from the text it is read from. -/
theorem parts_of_parse (hlines : Table.dataLines text = header :: lines) {m : RatingMatrix}
    (h : parse text scale = .ok m) :
    m.labels = labelsOf header ∧ m.scale = scale ∧ m.rows.length = lines.length ∧
      ∀ i j : ℕ, m.rows[i]?.bind (·[j]?) = (numberAt lines i j).bind scale.rating? := by
  have hheader : [] ∉ Table.cells header := by
    intro hmem
    obtain ⟨column, hcell, hbefore⟩ := exists_unlabelled hmem
    rw [parse_of_firstProblem (.unlabelled hlines hcell hbefore)] at h
    cases h
  rw [parse_of_header hlines hheader] at h
  obtain ⟨rows, hrows, h⟩ := Traversal.bind_eq_ok_iff.mp h
  obtain ⟨hlabels, hscale, hmap⟩ := RatingMatrix.of_ofNumbers_eq_ok h
  refine ⟨hlabels, hscale, ?_, ?_⟩
  · have hlength := congrArg List.length hmap
    have hlength' := congrArg List.length (map_read?_of_decoded hrows)
    simp only [List.length_map] at hlength hlength'
    rw [← hlength, hlength']
  · intro i j
    rw [Traversal.bind_getElem?_of_map_eq hmap, numberAt_of_decoded hrows]

/-- **Reading a survey table.**  A text is refused exactly for its first problem.  A text without a
problem gives a matrix with its labels, a row for every line below the header, and in each place
the rating that the number there stands for; the check of ratings that have been found finds
nothing more. -/
theorem parse_outcome (text : List Char) (scale : OrdinalScale) :
    (∀ e, parse text scale = .error e ↔ FirstProblem text scale e) ∧
    ((∀ e, ¬ FirstProblem text scale e) → ∃ header lines m,
      Table.dataLines text = header :: lines ∧ parse text scale = .ok m ∧
      m.labels = labelsOf header ∧ m.scale = scale ∧ m.rows.length = lines.length ∧
      ∀ i j : ℕ, m.rows[i]?.bind (·[j]?) = (numberAt lines i j).bind scale.rating?) ∧
    ∀ (names : List String) (rows : List (List Binary64)) (ratings : List (List ℤ)),
      rows.zipIdx.mapM (fun (row, rater) => RatingMatrix.ratingsOfRow names scale rater row)
        = .ok ratings → ∃ m, RatingMatrix.ofRatings names ratings scale = .ok m := by
  refine ⟨fun e => ⟨firstProblem_of_parse, parse_of_firstProblem⟩, ?_, ?_⟩
  · intro hnone
    cases hlines : Table.dataLines text with
    | nil => exact absurd (.noHeader hlines) (hnone _)
    | cons header lines =>
      cases hparse : parse text scale with
      | error e => exact absurd (firstProblem_of_parse hparse) (hnone e)
      | ok m =>
        refine ⟨header, lines, m, rfl, rfl, ?_⟩
        exact parts_of_parse hlines hparse
  · intro names rows ratings h
    obtain ⟨m, hm, -⟩ := RatingMatrix.exists_ofRatings h
    exact ⟨m, hm⟩

end Text

/-- A rating that is off the scale, and a cell without a number in a line further down. -/
def twoFaults : List Char :=
  "Q1\tQ2\n7\t1\n \n2\tx\n".toList

/-- Two lines of ratings with a blank line between them. -/
def twoRaters : List Char :=
  "Q1\tQ2\n4\t1\n \n2\t3.0".toList

theorem parse_twoFaults :
    parse twoFaults ⟨1, 5⟩ = .error (.notANumber .survey 1 "Q2" "x") ∧
      ∃ m, parse twoRaters ⟨1, 5⟩ = .ok m ∧ m.labels = ["Q1", "Q2"] ∧ m.rows.length = 2 := by
  constructor
  · have hfault : FirstProblem twoFaults ⟨1, 5⟩ (.notANumber .survey 1 "Q2" "x") := by
      have hlines : Table.dataLines twoFaults =
          ['Q', '1', '\t', 'Q', '2'] :: [['7', '\t', '1'], ['2', '\t', 'x']] := rfl
      have hline : [['7', '\t', '1'], ['2', '\t', 'x']][1]? = some ['2', '\t', 'x'] := rfl
      refine .line hlines (by decide) hline ?_ ?_
      · intro i hi l hl
        obtain rfl : i = 0 := by omega
        cases hl
        have hcells : Table.cells ['7', '\t', '1'] = [['7'], ['1']] := rfl
        refine ⟨rfl, ?_⟩
        rw [hcells]
        intro cell hcell
        rcases List.mem_pair.mp hcell with rfl | rfl <;> exact ⟨_, rfl⟩
      · have hcell : (Table.cells ['2', '\t', 'x'])[1]? = some ['x'] := rfl
        refine .notANumber rfl ?_ rfl hcell (by decide) rfl
        intro j hj cell hcell
        obtain rfl : j = 0 := by omega
        cases hcell
        exact ⟨_, rfl⟩
    exact ((parse_outcome twoFaults ⟨1, 5⟩).1 _).mpr hfault
  · obtain ⟨hproblem, hmatrix, -⟩ := parse_outcome twoRaters ⟨1, 5⟩
    have hnone : ∀ e, ¬ FirstProblem twoRaters ⟨1, 5⟩ e := by
      intro e he
      have hok : (parse twoRaters ⟨1, 5⟩).isOk = true := by decide
      rw [(hproblem e).mpr he] at hok
      cases hok
    obtain ⟨header, lines, m, hlines, hm, hlabels, -, hlength, -⟩ := hmatrix hnone
    cases hlines
    exact ⟨m, hm, hlabels, hlength⟩

end Survey

end InterRater
