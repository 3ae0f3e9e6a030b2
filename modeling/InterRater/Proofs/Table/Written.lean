import InterRater.Proofs.Rating.Construction
import InterRater.Proofs.Table.Layout
import InterRater.Proofs.Table.Survey

/-!
# Reading back a survey table

A survey table may be written in any layout, and its ratings with a point and zeros behind them
(`Survey.Writes`).  What is read from the text is the table that was written, as long as the ratings
are integers that the numbers have exactly (`Survey.parse_written`).
-/

namespace InterRater

namespace Survey

/-! ### Ratings -/

/-- The text writes the rating, with a point and zeros behind it or without. -/
inductive RatingText (n : ℤ) : List Char → Prop
  | integer : RatingText n (toString n).toList
  | decimal (zeros : ℕ) : RatingText n ((toString n).toList ++ '.' :: List.replicate zeros '0')

/-- The text writes a table of the labels and the rows, in some layout. -/
def Writes (labels : List String) (rows : List (List ℤ)) (text : List Char) : Prop :=
  ∃ contents, List.Forall₂ (List.Forall₂ RatingText) rows contents ∧
    Table.Layout (labels.map String.toList :: contents) text

theorem RatingText.exists_append {n : ℤ} {content : List Char} (h : RatingText n content) :
    ∃ rest, content = (toString n).toList ++ rest ∧
      (rest = [] ∨ ∃ k, rest = '.' :: List.replicate k '0') := by
  cases h with
  | integer => exact ⟨[], (List.append_nil _).symm, .inl rfl⟩
  | decimal zeros => exact ⟨_, rfl, .inr ⟨zeros, rfl⟩⟩

theorem RatingText.isContent {n : ℤ} {content : List Char} (h : RatingText n content) :
    Table.IsContent content := by
  have hdigits : ∀ c ∈ Nat.toDigits 10 n.natAbs, isBlank c = false := by
    intro c hc
    exact isBlank_eq_false_of_isDigit (isDigit_of_mem_toDigits hc)
  have hinteger : (toString n).toList ≠ [] ∧ ∀ c ∈ (toString n).toList, isBlank c = false := by
    rw [toList_toString]
    split_ifs
    · exact ⟨List.cons_ne_nil _ _, List.forall_mem_cons.mpr ⟨rfl, hdigits⟩⟩
    · exact ⟨toDigits_ne_nil _, hdigits⟩
  obtain ⟨hfilled, hvisible⟩ := hinteger
  cases h with
  | integer => exact Table.isContent_of_not_blank hfilled hvisible
  | decimal zeros =>
    refine Table.isContent_of_not_blank (List.append_ne_nil_of_left_ne_nil hfilled _) ?_
    intro c hc
    rcases List.mem_append.mp hc with hc | hc
    · exact hvisible c hc
    · rcases List.mem_cons.mp hc with rfl | hc
      · rfl
      · exact isBlank_eq_false_of_isDigit (isDigit_of_mem_replicate_zero hc)

theorem RatingText.read? {n : ℤ} {content : List Char} (h : RatingText n content)
    (hn : n.natAbs ≤ 2 ^ 53) : Numeral.read? content = some (.ofInt n) := by
  obtain ⟨rest, rfl, hrest⟩ := h.exists_append
  exact Numeral.read?_toString (Binary64.lt_tenPow_of_le hn) hrest

/-! ### Reading what was written -/

section Written

variable {labels : List String} {scale : OrdinalScale} {rows : List (List ℤ)}

/-- The numbers in a line of ratings. -/
theorem numbers_of_ratingTexts {line : List Char} {row : List ℤ} (rater : ℕ)
    (htexts : List.Forall₂ RatingText row (Table.cells line))
    (hwidth : row.length = labels.length) (hbound : ∀ n ∈ row, n.natAbs ≤ 2 ^ 53) :
    numbers labels line rater = .ok (row.map .ofInt) := by
  rw [numbers_eq_ok_iff, ← htexts.length_eq]
  refine ⟨hwidth, ?_⟩
  have hread : List.Forall₂ (fun n cell => Numeral.read? cell = some (.ofInt n)) row
      (Table.cells line) := by
    refine ((List.forall₂_and_left _ _).mpr ⟨hbound, htexts⟩).imp ?_
    rintro n cell ⟨hn, htext⟩
    exact htext.read? hn
  rw [List.map_map, ← List.forall₂_eq_eq_eq, List.forall₂_map_left_iff, List.forall₂_map_right_iff]
  exact hread.flip

/-- The plain text of a table is one of the ways to write it. -/
theorem writes_render (hlabels : labels ≠ []) (hrows : ∀ row ∈ rows, row ≠ []) :
    Writes labels rows (render labels rows) := by
  refine ⟨rows.map (·.map fun n => (toString n).toList), ?_, ?_⟩
  · rw [List.forall₂_map_right_iff, List.forall₂_same]
    intro row hrow
    rw [List.forall₂_map_right_iff, List.forall₂_same]
    intro n hn
    exact .integer
  · have hne : ∀ contents ∈ labels.map String.toList ::
        rows.map (·.map fun n => (toString n).toList), contents ≠ [] := by
      rw [List.forall_mem_cons, List.forall_mem_map]
      exact ⟨mt List.map_eq_nil_iff.mp hlabels,
        fun row hrow => mt List.map_eq_nil_iff.mp (hrows row hrow)⟩
    have hlayout := Table.layout_plain hne
    rwa [List.flatMap_cons, List.flatMap_map] at hlayout

/-- The contents that a table is written with can be told apart. -/
theorem isContent_of_ratingTexts {contents : List (List (List Char))}
    (hlabel : ∀ label ∈ labels, Table.IsContent label.toList)
    (htexts : List.Forall₂ (List.Forall₂ RatingText) rows contents) :
    ∀ line ∈ labels.map String.toList :: contents, ∀ c ∈ line, Table.IsContent c := by
  rw [List.forall_mem_cons]
  constructor
  · intro c hc
    obtain ⟨label, hmem, rfl⟩ := List.mem_map.mp hc
    exact hlabel label hmem
  · intro line hline c hc
    obtain ⟨row, -, hrow⟩ := Traversal.exists_of_forall₂ htexts hline
    obtain ⟨n, -, hn⟩ := Traversal.exists_of_forall₂ hrow hc
    exact hn.isContent

/-- The numbers in the lines of a table. -/
theorem numbers_of_rows {lines : List (List Char)} {m : RatingMatrix}
    (htexts : List.Forall₂ (fun row line => List.Forall₂ RatingText row (Table.cells line))
      m.rows lines)
    (hbound : ∀ row ∈ m.rows, ∀ n ∈ row, n.natAbs ≤ 2 ^ 53) :
    lines.zipIdx.mapM (fun (line, rater) => numbers m.labels line rater) =
      .ok (m.rows.map (·.map .ofInt)) := by
  apply Traversal.mapM_zipIdx_eq_ok
  rw [List.forall₂_map_right_iff]
  refine List.Forall₂.flip (((List.forall₂_and_left _ _).mpr ⟨fun _ h => h, htexts⟩).imp ?_)
  rintro row line ⟨hrow, htext⟩ rater
  exact numbers_of_ratingTexts rater htext (m.width_eq row hrow) (hbound row hrow)

/-- The ratings of a table are found in the lines it is written with. -/
theorem parse_of_cells {header : List Char} {lines : List (List Char)} {text : List Char}
    {m : RatingMatrix} (hlines : Table.dataLines text = header :: lines)
    (hheader : Table.cells header = m.labels.map String.toList)
    (hfilled : ∀ label ∈ m.labels, label.toList ≠ [])
    (htexts : List.Forall₂ (fun row line => List.Forall₂ RatingText row (Table.cells line))
      m.rows lines)
    (hbound : ∀ row ∈ m.rows, ∀ n ∈ row, n.natAbs ≤ 2 ^ 53) :
    parse text m.scale = .ok m := by
  have hnotMem : [] ∉ Table.cells header := by
    rw [hheader]
    intro hmem
    obtain ⟨label, hlabel, hnil⟩ := List.mem_map.mp hmem
    exact hfilled label hlabel hnil
  have hlabels : labelsOf header = m.labels := by
    rw [labelsOf, hheader, List.map_map]
    conv_rhs => rw [← List.map_id m.labels]
    exact List.map_congr_left fun label _ => String.ofList_toList
  have hnumbers := numbers_of_rows htexts hbound
  rw [parse_of_header hlines hnotMem, hlabels]
  refine Traversal.bind_eq_ok_iff.mpr ⟨_, hnumbers, ?_⟩
  rw [RatingMatrix.ofNumbers_map_ofInt hbound]
  exact RatingMatrix.ofRatings_rows m

/-- **Reading what was written.**  A table of ratings on a scale of exact integers is read back,
from the text it is rendered as and from any other way to write it. -/
theorem parse_written (hlabels : labels ≠ [])
    (hlabel : ∀ label ∈ labels, Table.IsContent label.toList)
    (hleast : -2 ^ 53 ≤ scale.least) (hgreatest : scale.greatest ≤ 2 ^ 53)
    (hrows : ∀ row ∈ rows, row.length = labels.length ∧ ∀ n ∈ row, scale.contains n = true) :
    ∃ m : RatingMatrix, m.labels = labels ∧ m.rows = rows ∧ m.scale = scale ∧
      parse (render labels rows) scale = .ok m ∧
      ∀ text, Writes labels rows text → parse text scale = .ok m := by
  let m : RatingMatrix := ⟨labels, rows, scale, fun row hrow => (hrows row hrow).1,
    fun row hrow => (hrows row hrow).2⟩
  have hbound : ∀ row ∈ m.rows, ∀ n ∈ row, n.natAbs ≤ 2 ^ 53 := by
    intro row hrow n hn
    have hcontains := m.contains row hrow n hn
    rw [OrdinalScale.contains, Bool.and_eq_true, decide_eq_true_iff, decide_eq_true_iff]
      at hcontains
    have hlow := Int.le_trans hleast hcontains.1
    have hhigh := Int.le_trans hcontains.2 hgreatest
    omega
  have hwritten : ∀ text, Writes labels rows text → parse text scale = .ok m := by
    rintro text ⟨contents, htexts, hlayout⟩
    have hcells := hlayout.map_cells_dataLines (isContent_of_ratingTexts hlabel htexts)
    obtain ⟨header, lines, hlines, hheader, rfl⟩ := List.map_eq_cons_iff.mp hcells
    rw [List.forall₂_map_right_iff] at htexts
    exact parse_of_cells (m := m) hlines hheader (fun label h => (hlabel label h).filled) htexts
      hbound
  refine ⟨m, rfl, rfl, rfl, ?_, hwritten⟩
  refine hwritten _ (writes_render hlabels ?_)
  intro row hrow hnil
  have hwidth := (hrows row hrow).1
  rw [hnil] at hwidth
  exact hlabels (List.length_eq_zero_iff.mp hwidth.symm)

end Written

/-- A table with all freedoms of the layout: blank lines, padding of several kinds, two ends of
lines, ratings with a point, and a last line without an end. -/
def spacedTable : List Char :=
  "\n\u3000Ease of use \tGröße\r\n \t \n-2.00\t 1.\r\n1 \t3".toList

theorem parse_spacedTable : ∃ m : RatingMatrix, parse spacedTable ⟨-2, 3⟩ = .ok m ∧
    m.labels = ["Ease of use", "Größe"] ∧ m.rows = [[-2, 1], [1, 3]] := by
  have hwrites : Writes ["Ease of use", "Größe"] [[-2, 1], [1, 3]] spacedTable := by
    refine ⟨_, .cons (.cons (.decimal 2) (.cons (.decimal 0) .nil))
      (.cons (.cons .integer (.cons .integer .nil)) .nil), ?_⟩
    have hspace : Table.IsPadding [' '] := by decide
    have hwide : Table.IsPadding ['\u3000'] := by decide
    have hblank : Table.IsBlankLine [' ', '\t', ' '] := by decide
    have hempty : Table.IsBlankLine [] := by decide
    have hquestion : Table.Padded "Ease of use".toList (['\u3000'] ++ "Ease of use".toList ++ [' ']) :=
      .intro hwide hspace
    have hpoint : Table.Padded ((toString (1 : ℤ)).toList ++ '.' :: List.replicate 0 '0')
        ([' '] ++ ((toString (1 : ℤ)).toList ++ '.' :: List.replicate 0 '0') ++ []) :=
      .intro hspace Table.isPadding_nil
    have hone : Table.Padded (toString (1 : ℤ)).toList ([] ++ (toString (1 : ℤ)).toList ++ [' ']) :=
      .intro Table.isPadding_nil hspace
    have hlayout := Table.Layout.blank hempty .newline <|
      .row (.cons hquestion (.last (Table.padded_self "Größe".toList))) .returnNewline <|
      .blank hblank .newline <|
      .row (.cons (Table.padded_self ((toString (-2 : ℤ)).toList ++ '.' :: List.replicate 2 '0'))
        (.last hpoint)) .returnNewline <|
      .row (.cons hone (.last (Table.padded_self (toString (3 : ℤ)).toList))) (.missing rfl) .nil
    exact Eq.mp (congrArg (Table.Layout _) (by decide)) hlayout
  have hnonempty : ["Ease of use", "Größe"] ≠ [] := by decide
  obtain ⟨m, hlabels, hrows, -, -, hwritten⟩ :=
    parse_written hnonempty (by decide) (by decide : -2 ^ 53 ≤ (⟨-2, 3⟩ : OrdinalScale).least)
      (by decide) (by decide : ∀ row ∈ [[-2, 1], [1, 3]], _)
  exact ⟨m, hwritten _ hwrites, hlabels, hrows⟩

end Survey

end InterRater
