import InterRater.Proofs.Order.Reorder
import InterRater.Proofs.Rating.Alpha

/-!
# Alpha depends on the order of the ratings only

Ordinal alpha does not change if the items are put in another order and the ratings are recoded by
a function that keeps their order or reverses it (`RatingMatrix.exists_ordinalAlpha_recoded`).

Such a function changes a difference of two mid-ranks in its sign at most
(`Alpha.rankDistance_map`), so that both disagreements stay.  With fewer than two raters there is
no alpha before or after (`Alpha.ofUnits_eq_none_of_length_lt`).
-/

namespace InterRater

namespace Alpha

/-! ### Disagreement of recoded ratings -/

/-- A function that keeps or reverses the order of the elements of a list. -/
def OrderCode (f : ℤ → ℤ) (l : List ℤ) : Prop :=
  StrictMonoOn f {x | x ∈ l} ∨ StrictAntiOn f {x | x ∈ l}

variable {f : ℤ → ℤ} {pooled l : List ℤ} {units : List (List ℤ)}

theorem rankDistance_map (hf : OrderCode f pooled) {c k : ℤ} (hc : c ∈ pooled) (hk : k ∈ pooled) :
    rankDistance (pooled.map f) (f c) (f k) = rankDistance pooled c k := by
  rw [rankDistance, rankDistance]
  rcases hf with hmono | hanti
  · rw [Statistics.midRank_map_of_strictMonoOn (fun _ => id) hc hmono,
      Statistics.midRank_map_of_strictMonoOn (fun _ => id) hk hmono]
  · rw [Statistics.midRank_map_of_strictAntiOn (fun _ => id) hc hanti,
      Statistics.midRank_map_of_strictAntiOn (fun _ => id) hk hanti]
    ring

theorem disagreement_map (hf : OrderCode f pooled) (hl : l ⊆ pooled) :
    disagreement (pooled.map f) (l.map f) = disagreement pooled l := by
  have hinner : ∀ x ∈ l, ((l.map f).map fun y => rankDistance (pooled.map f) (f x) y)
      = l.map fun y => rankDistance pooled x y := by
    intro x hx
    rw [List.map_map]
    exact List.map_congr_left fun y hy => rankDistance_map hf (hl hx) (hl hy)
  rw [disagreement, disagreement, List.length_map, List.map_map]
  congr 2
  exact List.map_congr_left fun x hx => congrArg List.sum (hinner x hx)

theorem withinItems_map (hf : OrderCode f units.flatten) :
    withinItems (units.map (List.map f)) = withinItems units := by
  rw [withinItems, withinItems, ← List.map_flatten, List.map_map]
  congr 1
  exact List.map_congr_left fun unit hunit => disagreement_map hf (subset_flatten hunit)

theorem overall_map (hf : OrderCode f units.flatten) :
    overall (units.map (List.map f)) = overall units := by
  rw [overall, overall, ← List.map_flatten]
  exact disagreement_map hf (List.Subset.refl _)

/-! ### Disagreement of items in another order -/

variable {units' : List (List ℤ)}

theorem disagreement_perm {pooled' l' : List ℤ} (hpooled : pooled.Perm pooled') (h : l.Perm l') :
    disagreement pooled l = disagreement pooled' l' := by
  have hdistance : rankDistance pooled = rankDistance pooled' := by
    funext c k
    rw [rankDistance, Statistics.midRank_perm hpooled, Statistics.midRank_perm hpooled,
      rankDistance]
  rw [disagreement, disagreement, hdistance, h.length_eq, (h.map _).sum_eq]
  simp only [fun x => (h.map (rankDistance pooled' x)).sum_eq]

theorem withinItems_perm (h : units.Perm units') : withinItems units = withinItems units' := by
  have hdisagreement : disagreement units.flatten = disagreement units'.flatten :=
    funext fun _ => disagreement_perm h.flatten (List.Perm.refl _)
  rw [withinItems, withinItems, hdisagreement, (h.map _).sum_eq]

theorem overall_perm (h : units.Perm units') : overall units = overall units' :=
  disagreement_perm h.flatten h.flatten

/-! ### Alpha -/

theorem exists_first_eq_marginal {rows : List (Row ℝ)} {p : ValuePair ℝ}
    (hp : p ∈ valuePairs rows) : ∃ row ∈ rows, p.first = row.marginal := by
  obtain ⟨⟨row, i⟩, hrow, hp⟩ := List.mem_flatMap.mp hp
  obtain ⟨⟨⟨other, entry⟩, j⟩, -, hp⟩ := List.mem_filterMap.mp hp
  refine ⟨row, List.fst_mem_of_mem_zipIdx hrow, ?_⟩
  rw [Option.ite_none_left_eq_some] at hp
  obtain rfl := Option.some.inj hp.2
  rfl

/-- Where no item has two ratings, there are no coincidences and there is no alpha. -/
theorem ofUnits_eq_none_of_length_lt (h : ∀ unit ∈ units, unit.length < 2) :
    ofUnits units = (none : Option ℝ) := by
  have hunits : ∀ c, unitsWith units c = [] := by
    intro c
    refine List.filter_eq_nil_iff.mpr fun unit hunit => ?_
    simp [(h unit hunit).not_ge]
  have hmarginal : ∀ row ∈ (table units : List (Row ℝ)), row.marginal = 0 := by
    intro row hrow
    rw [table_eq] at hrow
    obtain ⟨c, -, rfl⟩ := List.mem_map.mp hrow
    rw [rowOf, hunits, Scalar.sum_eq]
    refine List.sum_eq_zero fun d hd => ?_
    obtain ⟨-, -, rfl⟩ := List.mem_map.mp (List.map_map ▸ hd)
    rfl
  have hchance : (valuePairs (table units)).foldl
      (fun sum p => sum + p.first * p.second * p.distance) (0 : ℝ) = 0 := by
    rw [Scalar.foldl_add_eq, zero_add]
    refine List.sum_eq_zero fun d hd => ?_
    obtain ⟨p, hp, rfl⟩ := List.mem_map.mp hd
    obtain ⟨row, hrow, hfirst⟩ := exists_first_eq_marginal hp
    rw [hfirst, hmarginal row hrow, zero_mul, zero_mul]
  rw [ofUnits, ofTable, hchance]
  split_ifs with hvalues hexpected
  · rfl
  · rfl
  · exact absurd (zero_div _).le hexpected

/-- Items of `r` ratings each have the same alpha if they have the same disagreements. -/
theorem ofUnits_congr {r : ℕ} (h : ∀ unit ∈ units, unit.length = r)
    (h' : ∀ unit ∈ units', unit.length = r) (hwithin : withinItems units = withinItems units')
    (hoverall : overall units = overall units') :
    (ofUnits units : Option ℝ) = ofUnits units' := by
  rcases Nat.lt_or_ge r 2 with hr | hr
  · rw [ofUnits_eq_none_of_length_lt fun unit hunit => (h unit hunit).symm ▸ hr,
      ofUnits_eq_none_of_length_lt fun unit hunit => (h' unit hunit).symm ▸ hr]
  have hiff : Varied units.flatten ↔ Varied units'.flatten := by
    rw [← overall_pos_iff, hoverall, overall_pos_iff]
  have htwo : ∀ unit ∈ units, 2 ≤ unit.length := fun unit hunit => (h unit hunit).symm ▸ hr
  have htwo' : ∀ unit ∈ units', 2 ≤ unit.length := fun unit hunit => (h' unit hunit).symm ▸ hr
  by_cases hvar : Varied units.flatten
  · rw [ofUnits_eq_some htwo hvar, ofUnits_eq_some htwo' (hiff.mp hvar), hwithin, hoverall]
  · rw [ofUnits_eq_none hvar, ofUnits_eq_none fun hvar' => hvar (hiff.mpr hvar')]

end Alpha

/-! ### Recoded matrices -/

namespace RatingMatrix

/-- The matrix of the given columns. -/
def reorderItems (order : List ℕ) (m : RatingMatrix) : RatingMatrix where
  labels := reorder order m.labels
  rows := m.rows.map (reorder order)
  scale := m.scale
  width_eq := by
    simp only [List.forall_mem_map]
    exact fun row hrow => length_reorder_congr (m.width_eq row hrow) order
  contains := by
    simp only [List.forall_mem_map]
    exact fun row hrow rating hrating => m.contains row hrow rating (mem_of_mem_reorder hrating)

/-- The matrix with each rating replaced by its code on another scale. -/
def recode (f : ℤ → ℤ) (scale : OrdinalScale) (m : RatingMatrix)
    (h : ∀ rating ∈ m.rows.flatten, scale.contains (f rating) = true) : RatingMatrix where
  labels := m.labels
  rows := m.rows.map (List.map f)
  scale := scale
  width_eq := by
    simp only [List.forall_mem_map, List.length_map]
    exact m.width_eq
  contains := by
    simp only [List.forall_mem_map]
    exact fun row hrow rating hrating => h rating (List.mem_flatten.mpr ⟨row, hrow, hrating⟩)

variable {m : RatingMatrix} {order : List ℕ} {f : ℤ → ℤ} {scale : OrdinalScale}

theorem columns_eq_map (m : RatingMatrix) :
    m.columns = (List.range m.itemCount).map m.column := by
  rw [columns, items, List.map_map, itemCount, List.range_eq_range', ← List.zipIdx_map_snd,
    List.map_map]
  rfl

theorem columns_recode (h : ∀ rating ∈ m.rows.flatten, scale.contains (f rating) = true) :
    (m.recode f scale h).columns = m.columns.map (List.map f) := by
  rw [columns_eq_map, columns_eq_map, List.map_map]
  refine List.map_congr_left fun u _ => ?_
  rw [column, Function.comp, column, recode, List.filterMap_map, List.map_filterMap]
  simp only [Function.comp_def, List.getElem?_map]

theorem column_reorderItems (horder : order.Perm (List.range m.itemCount)) {u : ℕ}
    (hu : u < order.length) : (m.reorderItems order).column u = m.column order[u] := by
  rw [column, reorderItems, List.filterMap_map, column]
  refine List.filterMap_congr fun row hrow => ?_
  have hinside : ∀ i ∈ order, i < row.length := by
    intro i hi
    rw [m.width_eq row hrow]
    exact List.mem_range.mp (horder.subset hi)
  have hlt := hinside _ (List.getElem_mem hu)
  rw [Function.comp, reorder_eq_map hinside 0, List.getElem?_map, List.getElem?_eq_getElem hu]
  simp [List.getD_eq_getElem?_getD, List.getElem?_eq_getElem hlt]

/-- The columns of the reordered matrix are those of the matrix. -/
theorem columns_reorderItems_perm (horder : order.Perm (List.range m.itemCount)) :
    (m.reorderItems order).columns.Perm m.columns := by
  have hcount : (m.reorderItems order).itemCount = order.length :=
    (reorder_perm horder).length_eq.trans (horder.length_eq.trans List.length_range).symm
  have hcolumns : (m.reorderItems order).columns = order.map m.column := by
    rw [columns_eq_map, hcount]
    refine List.ext_getElem (by simp) fun u hu hu' => ?_
    rw [List.length_map] at hu'
    rw [List.getElem_map, List.getElem_range, List.getElem_map, column_reorderItems horder hu']
  rw [hcolumns, columns_eq_map]
  exact horder.map _

/-- **Alpha depends on the order of the ratings only**: the matrix of the columns in any order, with
the ratings recoded by a function that keeps or reverses their order, has the alpha of the matrix,
or none if that has none. -/
theorem exists_ordinalAlpha_recoded (horder : order.Perm (List.range m.itemCount))
    (hf : StrictMonoOn f {x | x ∈ m.rows.flatten} ∨ StrictAntiOn f {x | x ∈ m.rows.flatten})
    (hscale : ∀ rating ∈ m.rows.flatten, scale.contains (f rating) = true) :
    ∃ m', ofRatings (reorder order m.labels) (m.rows.map fun row => (reorder order row).map f) scale
        = .ok m' ∧
      m'.ordinalAlpha = (m.ordinalAlpha : Option ℝ) := by
  set m' := (m.recode f scale hscale).reorderItems order
  have hrows : m'.rows = m.rows.map fun row => (reorder order row).map f := by
    show (m.rows.map (List.map f)).map (reorder order) = _
    rw [List.map_map]
    exact List.map_congr_left fun row _ => reorder_map order f row
  have hcount : m'.raterCount = m.raterCount := by
    rw [raterCount, hrows, List.length_map, raterCount]
  have hperm : m'.columns.Perm (m.columns.map (List.map f)) := by
    rw [← columns_recode hscale]
    exact columns_reorderItems_perm horder
  have hcode : Alpha.OrderCode f m.columns.flatten := by
    simpa only [Alpha.OrderCode, m.flatten_columns_perm.mem_iff] using hf
  have hwithin : Alpha.withinItems m'.columns = Alpha.withinItems m.columns := by
    rw [Alpha.withinItems_perm hperm, Alpha.withinItems_map hcode]
  have hoverall : Alpha.overall m'.columns = Alpha.overall m.columns := by
    rw [Alpha.overall_perm hperm, Alpha.overall_map hcode]
  refine ⟨m', hrows ▸ ofRatings_rows m', ?_⟩
  exact Alpha.ofUnits_congr (hcount ▸ m'.length_of_mem_columns) m.length_of_mem_columns hwithin
    hoverall

theorem exists_ordinalAlpha_reversed_recoded :
    ∃ m', ofRatings ["Q1_3", "Q1_1", "Q1_2"] [[1, 7, 4], [7, 1, 4]] ⟨0, 10⟩ = .ok m' ∧
      m'.ordinalAlpha = (reversed.ordinalAlpha : Option ℝ) := by
  have horder : [2, 0, 1].Perm (List.range reversed.itemCount) := by decide
  have hanti : StrictAntiOn (fun x : ℤ => 10 - 3 * x) {x | x ∈ reversed.rows.flatten} :=
    fun x _ y _ hxy => by
      show 10 - 3 * y < 10 - 3 * x
      omega
  exact exists_ordinalAlpha_recoded (m := reversed) horder (Or.inr hanti) (by decide)

end RatingMatrix

end InterRater
