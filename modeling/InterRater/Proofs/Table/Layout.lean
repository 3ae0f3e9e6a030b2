import InterRater.Proofs.Text.Trim
import InterRater.Table.Lines

/-!
# The ways to write a table

`Layout rows text` says that `text` is a way to write a table with these contents of its cells: the
cells of a line may be padded, lines may end as they do on any system, blank lines may stand
anywhere, and the last line needs no end.  Each of these freedoms is undone by one step of reading:
padding by trimming, tabs by splitting (`cells_of_line`), blank lines and ends of lines by
`dataLines`.  What is read are thus the contents, trimmed, of the lines with a visible one
(`Layout.map_cells_filter`); contents that are trimmed and visible are read as they stand
(`Layout.map_cells_dataLines`).  Every text is a layout of its own parts (`layout_splitOn`).
-/

namespace InterRater

namespace Table

/-! ### Layouts -/

/-- Blanks that neither end a line nor a cell. -/
def IsPadding (text : List Char) : Prop :=
  ∀ c ∈ text, isBlank c = true ∧ c ≠ '\t' ∧ c ≠ '\n'

/-- Blanks that do not end a line. -/
def IsBlankLine (text : List Char) : Prop :=
  ∀ c ∈ text, isBlank c = true ∧ c ≠ '\n'

instance (text : List Char) : Decidable (IsPadding text) :=
  List.decidableBAll (fun c => isBlank c = true ∧ c ≠ '\t' ∧ c ≠ '\n') text

instance (text : List Char) : Decidable (IsBlankLine text) :=
  List.decidableBAll (fun c => isBlank c = true ∧ c ≠ '\n') text

/-- The cell has the given content, with padding around it. -/
inductive Padded (content : List Char) : List Char → Prop
  | intro {before after : List Char} (hbefore : IsPadding before) (hafter : IsPadding after) :
      Padded content (before ++ content ++ after)

/-- The line has cells with the given contents, separated by tabs. -/
inductive Line : List (List Char) → List Char → Prop
  | last {content cell : List Char} (hcell : Padded content cell) : Line [content] cell
  | cons {content cell line : List Char} {contents : List (List Char)}
      (hcell : Padded content cell) (hline : Line contents line) :
      Line (content :: contents) (cell ++ '\t' :: line)

/-- The text is `rest` after the end of a line.  The last line may lack its end. -/
inductive Ended (rest : List Char) : List Char → Prop
  | newline : Ended rest ('\n' :: rest)
  | returnNewline : Ended rest ('\r' :: '\n' :: rest)
  | missing (hrest : rest = []) : Ended rest []

/-- The text has lines with the given contents of the cells, and blank lines among them. -/
inductive Layout : List (List (List Char)) → List Char → Prop
  | nil : Layout [] []
  | blank {rows : List (List (List Char))} {line rest tail : List Char} (hline : IsBlankLine line)
      (hend : Ended rest tail) (hrest : Layout rows rest) : Layout rows (line ++ tail)
  | row {contents : List (List Char)} {rows : List (List (List Char))} {line rest tail : List Char}
      (hline : Line contents line) (hend : Ended rest tail) (hrest : Layout rows rest) :
      Layout (contents :: rows) (line ++ tail)

/-- A content that stays within its cell. -/
structure IsCell (content : List Char) : Prop where
  tab_notMem : '\t' ∉ content
  newline_notMem : '\n' ∉ content

instance (content : List Char) : Decidable (IsCell content) :=
  decidable_of_iff ('\t' ∉ content ∧ '\n' ∉ content)
    ⟨fun h => ⟨h.1, h.2⟩, fun h => ⟨h.tab_notMem, h.newline_notMem⟩⟩

/-- A content that can be told from its padding and that stays within its cell. -/
structure IsContent (content : List Char) : Prop where
  filled : content ≠ []
  trimmed : trim content = content
  tab_notMem : '\t' ∉ content
  newline_notMem : '\n' ∉ content

instance (content : List Char) : Decidable (IsContent content) :=
  decidable_of_iff (content ≠ [] ∧ trim content = content ∧ '\t' ∉ content ∧ '\n' ∉ content)
    ⟨fun ⟨h₁, h₂, h₃, h₄⟩ => ⟨h₁, h₂, h₃, h₄⟩, fun ⟨h₁, h₂, h₃, h₄⟩ => ⟨h₁, h₂, h₃, h₄⟩⟩

theorem isContent_of_not_blank {content : List Char} (hfilled : content ≠ [])
    (h : ∀ c ∈ content, isBlank c = false) : IsContent content := by
  refine ⟨hfilled, trim_eq_self h, ?_, ?_⟩
  · intro htab
    cases h _ htab
  · intro hnewline
    cases h _ hnewline

theorem IsContent.isCell {content : List Char} (h : IsContent content) : IsCell content :=
  ⟨h.tab_notMem, h.newline_notMem⟩

theorem IsContent.all_isBlank {content : List Char} (h : IsContent content) :
    content.all isBlank = false := by
  obtain ⟨c, hc, hblank⟩ := exists_not_blank h.trimmed h.filled
  exact List.all_eq_false.mpr ⟨c, hc, Bool.eq_false_iff.mp hblank⟩

/-! ### Cells -/

theorem isPadding_nil : IsPadding [] :=
  nofun

theorem IsPadding.append {before after : List Char} (hbefore : IsPadding before)
    (hafter : IsPadding after) : IsPadding (before ++ after) := by
  intro c hc
  rcases List.mem_append.mp hc with hc | hc
  · exact hbefore c hc
  · exact hafter c hc

theorem isPadding_return : IsPadding ['\r'] := by
  intro c hc
  rw [List.mem_singleton.mp hc]
  exact ⟨rfl, by decide, by decide⟩

theorem padded_self (content : List Char) : Padded content content := by
  have h : Padded content ([] ++ content ++ []) := .intro isPadding_nil isPadding_nil
  rwa [List.nil_append, List.append_nil] at h

theorem Padded.append {content cell after : List Char} (h : Padded content cell)
    (hafter : IsPadding after) : Padded content (cell ++ after) := by
  obtain ⟨hbefore, hafter'⟩ := h
  rw [List.append_assoc]
  exact .intro hbefore (hafter'.append hafter)

theorem Padded.trim_eq {content cell : List Char} (h : Padded content cell) :
    trim cell = trim content := by
  obtain ⟨hbefore, hafter⟩ := h
  exact trim_padded (fun c hc => (hbefore c hc).1) fun c hc => (hafter c hc).1

theorem Padded.all_isBlank {content cell : List Char} (h : Padded content cell) :
    cell.all isBlank = content.all isBlank := by
  have hpadding : ∀ {text : List Char}, IsPadding text → text.all isBlank = true := by
    intro text htext
    exact List.all_eq_true.mpr fun c hc => (htext c hc).1
  obtain ⟨hbefore, hafter⟩ := h
  rw [List.all_append, List.all_append, hpadding hbefore, hpadding hafter, Bool.true_and,
    Bool.and_true]

theorem Padded.notMem {content cell : List Char} {c : Char} (h : Padded content cell)
    (hcontent : c ∉ content) (hc : c = '\t' ∨ c = '\n') : c ∉ cell := by
  have hpadding : ∀ {text : List Char}, IsPadding text → c ∉ text := by
    rintro text htext hmem
    obtain ⟨-, htab, hnewline⟩ := htext c hmem
    exact hc.elim htab hnewline
  obtain ⟨hbefore, hafter⟩ := h
  rw [List.mem_append, List.mem_append]
  rintro ((hmem | hmem) | hmem)
  · exact hpadding hbefore hmem
  · exact hcontent hmem
  · exact hpadding hafter hmem

/-! ### Lines -/

section Line

variable {contents : List (List Char)} {line : List Char}

/-- Padding behind a line belongs to its last cell. -/
theorem Line.append {after : List Char} (h : Line contents line) (hafter : IsPadding after) :
    Line contents (line ++ after) := by
  induction h with
  | last hcell => exact .last (hcell.append hafter)
  | cons hcell hline ih =>
    rw [List.append_assoc]
    exact .cons hcell ih

/-- The contents joined by tabs. -/
theorem line_intercalate (h : contents ≠ []) : Line contents (['\t'].intercalate contents) := by
  induction contents with
  | nil => exact absurd rfl h
  | cons content rest ih =>
    cases rest with
    | nil =>
      rw [List.intercalate_singleton]
      exact .last (padded_self content)
    -- A tab stands between two contents only.
    | cons content' rest =>
      rw [List.intercalate_cons_cons, List.append_assoc]
      exact .cons (padded_self content) (ih (List.cons_ne_nil _ _))

/-- Splitting undoes the tabs, trimming the padding. -/
theorem cells_of_line (h : Line contents line) (hcontents : ∀ c ∈ contents, IsCell c) :
    cells line = contents.map trim := by
  rw [cells]
  induction h with
  | last hcell =>
    have hcontent := hcontents _ List.mem_cons_self
    rw [splitOn_eq_singleton (hcell.notMem hcontent.tab_notMem (.inl rfl)), List.map_singleton,
      List.map_singleton, hcell.trim_eq]
  | cons hcell hline ih =>
    obtain ⟨hcontent, hrest⟩ := List.forall_mem_cons.mp hcontents
    rw [splitOn_append_cons (hcell.notMem hcontent.tab_notMem (.inl rfl)), List.map_cons,
      List.map_cons, hcell.trim_eq, ih hrest]

theorem Line.newline_notMem (h : Line contents line) (hcontents : ∀ c ∈ contents, IsCell c) :
    '\n' ∉ line := by
  induction h with
  | last hcell =>
    exact hcell.notMem (hcontents _ List.mem_cons_self).newline_notMem (.inr rfl)
  | cons hcell hline ih =>
    obtain ⟨hcontent, hrest⟩ := List.forall_mem_cons.mp hcontents
    rw [List.mem_append, List.mem_cons]
    rintro (hmem | heq | hmem)
    · exact hcell.notMem hcontent.newline_notMem (.inr rfl) hmem
    · cases heq
    · exact ih hrest hmem

/-- A line is blank if all its contents are. -/
theorem Line.all_isBlank (h : Line contents line) :
    line.all isBlank = contents.all (·.all isBlank) := by
  induction h with
  | last hcell => rw [hcell.all_isBlank, List.all_cons, List.all_nil, Bool.and_true]
  | cons hcell hline ih =>
    have htab : isBlank '\t' = true := by decide
    rw [List.all_append, List.all_cons, htab, Bool.true_and, hcell.all_isBlank, ih, List.all_cons]

theorem Line.ne_nil (h : Line contents line) : contents ≠ [] := by
  cases h <;> exact List.cons_ne_nil _ _

end Line

/-! ### Texts -/

theorem dataLines_nil : dataLines [] = [] :=
  rfl

theorem dataLines_append_newline {line rest : List Char} (h : '\n' ∉ line) :
    dataLines (line ++ '\n' :: rest) =
      if line.all isBlank then dataLines rest else line :: dataLines rest := by
  rw [dataLines, splitOn_append_cons h, List.filter_cons]
  cases line.all isBlank <;> rfl

theorem dataLines_of_notMem {line : List Char} (h : '\n' ∉ line) :
    dataLines line = if line.all isBlank then [] else [line] := by
  rw [dataLines, splitOn_eq_singleton h, List.filter_cons]
  cases line.all isBlank <;> rfl

theorem dataLines_blank {line rest tail : List Char} (hline : IsBlankLine line)
    (hend : Ended rest tail) : dataLines (line ++ tail) = dataLines rest := by
  have hnewline : ∀ {text : List Char}, IsBlankLine text → '\n' ∉ text := by
    intro text htext hmem
    exact (htext _ hmem).2 rfl
  have hblank : ∀ {text : List Char}, IsBlankLine text → text.all isBlank = true := by
    intro text htext
    exact List.all_eq_true.mpr fun c hc => (htext c hc).1
  cases hend with
  | newline => rw [dataLines_append_newline (hnewline hline), if_pos (hblank hline)]
  | returnNewline =>
    have hreturn : IsBlankLine (line ++ ['\r']) := by
      intro c hc
      rcases List.mem_append.mp hc with hc | hc
      · exact hline c hc
      · rw [List.mem_singleton.mp hc]
        exact ⟨rfl, by decide⟩
    rw [List.append_cons, dataLines_append_newline (hnewline hreturn), if_pos (hblank hreturn)]
  | missing hrest =>
    rw [List.append_nil, dataLines_of_notMem (hnewline hline), if_pos (hblank hline), hrest,
      dataLines_nil]

/-- The carriage return before the end of a line pads its last cell. -/
theorem dataLines_row {contents : List (List Char)} {line rest tail : List Char}
    (hline : Line contents line) (hcontents : ∀ c ∈ contents, IsCell c) (hend : Ended rest tail) :
    ∃ line', Line contents line' ∧ dataLines (line ++ tail) =
      if contents.all (·.all isBlank) then dataLines rest else line' :: dataLines rest := by
  cases hend with
  | newline =>
    refine ⟨line, hline, ?_⟩
    rw [dataLines_append_newline (hline.newline_notMem hcontents), hline.all_isBlank]
  | returnNewline =>
    have hreturn := hline.append isPadding_return
    refine ⟨line ++ ['\r'], hreturn, ?_⟩
    rw [List.append_cons, dataLines_append_newline (hreturn.newline_notMem hcontents),
      hreturn.all_isBlank]
  | missing hrest =>
    refine ⟨line, hline, ?_⟩
    rw [List.append_nil, dataLines_of_notMem (hline.newline_notMem hcontents), hline.all_isBlank,
      hrest, dataLines_nil]

/-- The cells of a text are the contents it was written with, trimmed, of the lines that are not
blank. -/
theorem Layout.map_cells_filter {rows : List (List (List Char))} {text : List Char}
    (h : Layout rows text) (hrows : ∀ contents ∈ rows, ∀ c ∈ contents, IsCell c) :
    (dataLines text).map cells =
      (rows.filter fun contents => !contents.all (·.all isBlank)).map (·.map trim) := by
  induction h with
  | nil => rfl
  | blank hline hend hrest ih => rw [dataLines_blank hline hend, ih hrows]
  | @row contents _ _ _ _ hline hend hrest ih =>
    obtain ⟨hcontents, hrows⟩ := List.forall_mem_cons.mp hrows
    obtain ⟨line', hline', hlines⟩ := dataLines_row hline hcontents hend
    rw [hlines, List.filter_cons]
    cases contents.all (·.all isBlank) with
    | true =>
      rw [if_pos rfl, Bool.not_true, if_neg Bool.false_ne_true]
      exact ih hrows
    | false =>
      rw [if_neg Bool.false_ne_true, Bool.not_false, if_pos rfl, List.map_cons, List.map_cons,
        cells_of_line hline' hcontents, ih hrows]

theorem Layout.ne_nil {rows : List (List (List Char))} {text : List Char} (h : Layout rows text) :
    ∀ contents ∈ rows, contents ≠ [] := by
  induction h with
  | nil => exact nofun
  | blank _ _ _ ih => exact ih
  | row hline _ _ ih => exact List.forall_mem_cons.mpr ⟨hline.ne_nil, ih⟩

/-- The cells of a text are the contents it was written with. -/
theorem Layout.map_cells_dataLines {rows : List (List (List Char))} {text : List Char}
    (h : Layout rows text) (hrows : ∀ contents ∈ rows, ∀ c ∈ contents, IsContent c) :
    (dataLines text).map cells = rows := by
  have hkept : ∀ contents ∈ rows, (!contents.all (·.all isBlank)) = true := by
    intro contents hcontents
    obtain ⟨content, hcontent⟩ := List.exists_mem_of_ne_nil _ (h.ne_nil contents hcontents)
    have hvisible := (hrows contents hcontents content hcontent).all_isBlank
    rw [List.all_eq_false.mpr ⟨content, hcontent, Bool.eq_false_iff.mp hvisible⟩, Bool.not_false]
  have htrim : ∀ contents ∈ rows, contents.map trim = contents := by
    intro contents hcontents
    exact (List.map_congr_left fun c hc => (hrows contents hcontents c hc).trimmed).trans
      (List.map_id' _)
  rw [h.map_cells_filter fun contents hcontents c hc => (hrows contents hcontents c hc).isCell,
    List.filter_eq_self.mpr hkept]
  exact (List.map_congr_left htrim).trans (List.map_id' _)

/-- The plain layout, without padding and blank lines. -/
theorem layout_plain {rows : List (List (List Char))} (h : ∀ contents ∈ rows, contents ≠ []) :
    Layout rows (rows.flatMap fun contents => ['\t'].intercalate contents ++ ['\n']) := by
  induction rows with
  | nil => exact .nil
  | cons contents rows ih =>
    obtain ⟨hcontents, hrows⟩ := List.forall_mem_cons.mp h
    rw [List.flatMap_cons, List.append_assoc]
    exact .row (line_intercalate hcontents) .newline (ih hrows)

/-! ### The layout of any text -/

theorem newline_notMem_of_mem_splitOn {text line : List Char} (h : line ∈ splitOn '\n' text) :
    '\n' ∉ line :=
  fun hmem => (mem_of_mem_splitOn h hmem).2 rfl

/-- The parts of a line stay within their cells. -/
theorem isCell_of_mem_splitOn {text line part : List Char} (hline : line ∈ dataLines text)
    (hpart : part ∈ splitOn '\t' line) : IsCell part := by
  have hnewline := newline_notMem_of_mem_splitOn (List.mem_filter.mp hline).1
  exact ⟨fun hmem => (mem_of_mem_splitOn hpart hmem).2 rfl,
    fun hmem => hnewline (mem_of_mem_splitOn hpart hmem).1⟩

theorem line_splitOn (line : List Char) : Line (splitOn '\t' line) line := by
  have hparts : splitOn '\t' line ≠ [] := by
    rw [splitOn_eq]
    exact List.splitOn_ne_nil _ _
  have h := line_intercalate hparts
  rwa [splitOn_eq, List.intercalate_splitOn, ← splitOn_eq] at h

theorem layout_line {line rest tail : List Char} {rows : List (List (List Char))}
    (hline : '\n' ∉ line) (hend : Ended rest tail) (hrest : Layout rows rest) :
    Layout (([line].filter fun line => !line.all isBlank).map (splitOn '\t') ++ rows)
      (line ++ tail) := by
  cases hblank : line.all isBlank with
  | true =>
    have hline' : IsBlankLine line := fun c hc =>
      ⟨List.all_eq_true.mp hblank c hc, ne_of_mem_of_not_mem hc hline⟩
    rw [List.filter_cons_of_neg (by rw [hblank]; decide)]
    exact .blank hline' hend hrest
  | false =>
    rw [List.filter_cons_of_pos (by rw [hblank]; rfl)]
    exact .row (line_splitOn line) hend hrest

/-- Every text is a layout of the parts of its lines, with the blanks around a part belonging to
it. -/
theorem layout_splitOn (text : List Char) :
    Layout ((dataLines text).map (splitOn '\t')) text := by
  have hlayout : ∀ lines : List (List Char), lines ≠ [] → (∀ line ∈ lines, '\n' ∉ line) →
      Layout ((lines.filter fun line => !line.all isBlank).map (splitOn '\t'))
        (['\n'].intercalate lines) := by
    intro lines hne hlines
    induction lines with
    | nil => exact absurd rfl hne
    | cons line rest ih =>
      obtain ⟨hline, hrest⟩ := List.forall_mem_cons.mp hlines
      -- What follows the last separator is a line that lacks its end.
      cases rest with
      | nil =>
        have h := layout_line hline (.missing rfl) .nil
        rw [List.append_nil, List.append_nil] at h
        rwa [List.intercalate_singleton]
      | cons next rest =>
        have h := layout_line hline .newline (ih (List.cons_ne_nil _ _) hrest)
        rwa [← List.map_append, ← List.filter_append, List.singleton_append, List.append_cons,
          ← List.intercalate_cons_cons] at h
  have hparts : splitOn '\n' text ≠ [] := by
    rw [splitOn_eq]
    exact List.splitOn_ne_nil _ _
  have h := hlayout (splitOn '\n' text) hparts fun line => newline_notMem_of_mem_splitOn
  rwa [splitOn_eq, List.intercalate_splitOn, ← splitOn_eq] at h

end Table

end InterRater
