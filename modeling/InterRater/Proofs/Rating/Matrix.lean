import InterRater.Rating.Matrix
import Mathlib.Data.List.FinRange
import Mathlib.Data.Multiset.Bind
import Mathlib.Tactic.Ring

/-!
# Rows and columns of a rating matrix

`rating m i u` is the rating of item `u` by rater `i`.  Every item has exactly one rating by each
rater (`column_eq_ofFn`, `length_ratings`), and the columns together hold the ratings of the rows
together (`flatten_columns_perm`).
-/

namespace InterRater

namespace RatingMatrix

variable (m : RatingMatrix)

/-- A matrix is what is made of its own rows. -/
theorem ofRatings_rows : ofRatings m.labels m.rows m.scale = .ok m := by
  have hrow : ∀ (row : List ℤ) (rater : ℕ), row ∈ m.rows →
      rowFault? m.labels m.scale row rater = none := by
    intro row rater hrow
    rw [rowFault?, if_neg (by simpa using m.width_eq row hrow)]
    refine List.findSome?_eq_none_iff.mpr ?_
    rintro ⟨rating, label⟩ hx
    have hc := m.contains row hrow rating (List.of_mem_zip hx).1
    simp [OrdinalScale.check, hc]
  have hfault : fault? m.labels m.scale m.rows = none := by
    refine List.findSome?_eq_none_iff.mpr ?_
    rintro ⟨row, rater⟩ hx
    exact hrow row rater (List.fst_mem_of_mem_zipIdx hx)
  unfold ofRatings
  split
  · rename_i e h
    rw [hfault] at h
    cases h
  · rfl

/-! ### The rating of an item by a rater -/

theorem length_row (i : Fin m.raterCount) : (m.rows[i]).length = m.itemCount :=
  m.width_eq _ (List.getElem_mem i.isLt)

/-- The rating of item `u` by rater `i`. -/
def rating (i : Fin m.raterCount) (u : Fin m.itemCount) : ℤ :=
  m.rows[i].get ⟨u, by rw [length_row]; exact u.isLt⟩

theorem row_eq_ofFn (i : Fin m.raterCount) : m.rows[i] = List.ofFn (m.rating i) := by
  refine List.ext_getElem (by rw [List.length_ofFn, length_row]) fun u hu _ => ?_
  rw [List.getElem_ofFn]
  rfl

theorem rows_eq_ofFn : m.rows = List.ofFn fun i => List.ofFn (m.rating i) := by
  refine List.ext_getElem (by rw [List.length_ofFn]; rfl) fun i hi _ => ?_
  rw [List.getElem_ofFn]
  exact row_eq_ofFn m ⟨i, hi⟩

@[simp]
theorem length_flatten_rows : m.rows.flatten.length = m.raterCount * m.itemCount := by
  rw [rows_eq_ofFn]
  simp [List.length_flatten, Function.comp_def]

/-- In a list of rows of one length, the rows stand one behind the other. -/
theorem getElem?_flatten_of_length {α : Type*} {n : ℕ} {rows : List (List α)}
    (h : ∀ row ∈ rows, row.length = n) {u : ℕ} (hu : u < n) :
    ∀ i : ℕ, rows.flatten[i * n + u]? = rows[i]?.bind (·[u]?) := by
  induction rows with
  | nil => intro i; rfl
  | cons row rows ih =>
    intro i
    have hlen := h row List.mem_cons_self
    rw [List.flatten_cons]
    cases i with
    | zero => rw [Nat.zero_mul, Nat.zero_add, List.getElem?_append_left (by omega)]; rfl
    | succ i =>
      -- The first row takes up the first `n` places.
      have hsucc : (i + 1) * n + u = row.length + (i * n + u) := by rw [hlen]; ring
      rw [hsucc, List.getElem?_append_right (by omega), Nat.add_sub_cancel_left,
        ih fun r hr => h r (List.mem_cons_of_mem _ hr)]
      rfl

theorem getElem?_flatten_rows (i : Fin m.raterCount) (u : Fin m.itemCount) :
    m.rows.flatten[i * m.itemCount + u]? = some (m.rating i u) := by
  have hrow : m.rows[(i : ℕ)]? = some (List.ofFn (m.rating i)) := by
    rw [← row_eq_ofFn]
    exact List.getElem?_eq_getElem i.isLt
  have hwidth : ∀ row ∈ m.rows, row.length = m.itemCount := m.width_eq
  rw [getElem?_flatten_of_length hwidth u.isLt, hrow, Option.bind_some]
  simp

/-! ### Columns -/

/-- No rater is left out of a column. -/
theorem column_eq_ofFn (u : Fin m.itemCount) :
    m.column u = List.ofFn fun i => m.rating i u := by
  rw [column, rows_eq_ofFn, List.ofFn_eq_map, List.filterMap_map, List.ofFn_eq_map]
  rw [← List.filterMap_eq_map]
  refine List.filterMap_congr fun i _ => ?_
  simp

/-- The ratings of the items, item by item. -/
def columns : List (List ℤ) :=
  m.items.map (·.ratings)

theorem columns_eq_ofFn :
    m.columns = List.ofFn fun u => List.ofFn fun i => m.rating i u := by
  refine List.ext_getElem (by simp [columns, items, itemCount]) fun u hu hu' => ?_
  rw [List.length_ofFn] at hu'
  rw [List.getElem_ofFn, ← column_eq_ofFn]
  simp [columns, items]

theorem length_columns : m.columns.length = m.itemCount := by
  rw [columns_eq_ofFn, List.length_ofFn]

theorem length_of_mem_columns : ∀ unit ∈ m.columns, unit.length = m.raterCount := by
  intro unit hunit
  rw [columns_eq_ofFn, List.mem_ofFn] at hunit
  obtain ⟨u, rfl⟩ := hunit
  rw [List.length_ofFn]

theorem two_le_length_of_mem_columns {m : RatingMatrix} (h : 2 ≤ m.raterCount) :
    ∀ unit ∈ m.columns, 2 ≤ unit.length := by
  intro unit hunit
  rwa [m.length_of_mem_columns unit hunit]

/-! ### Items -/

theorem length_items : m.items.length = m.itemCount := by
  rw [items, List.length_map, List.length_zipIdx, itemCount]

theorem item?_eq_getElem? (index : ℕ) : m.item? index = m.items[index]? := by
  rw [item?, items, List.getElem?_map, List.getElem?_zipIdx, Option.map_map, Nat.zero_add]
  rfl

theorem map_index_items : m.items.map (·.index) = List.range m.itemCount := by
  rw [items, List.map_map, List.range_eq_range']
  exact List.zipIdx_map_snd 0 m.labels

theorem pairwise_index_items : m.items.Pairwise fun a b => a.index < b.index := by
  refine List.pairwise_map.mp ?_
  rw [map_index_items]
  exact List.pairwise_lt_range

variable {m}

theorem index_lt_of_mem_items {item : RatingItem} (h : item ∈ m.items) :
    item.index < m.itemCount := by
  obtain ⟨⟨label, index⟩, hmem, rfl⟩ := List.mem_map.mp h
  exact List.snd_lt_of_mem_zipIdx hmem

theorem getElem?_labels_of_mem_items {item : RatingItem} (h : item ∈ m.items) :
    m.labels[item.index]? = some item.label := by
  obtain ⟨⟨label, index⟩, hmem, rfl⟩ := List.mem_map.mp h
  exact List.mk_mem_zipIdx_iff_getElem?.mp hmem

theorem ratings_eq_column {item : RatingItem} (h : item ∈ m.items) :
    item.ratings = m.column item.index := by
  obtain ⟨⟨label, index⟩, hmem, rfl⟩ := List.mem_map.mp h
  rfl

/-- Every rater has rated the item. -/
theorem length_ratings {item : RatingItem} (h : item ∈ m.items) :
    item.ratings.length = m.raterCount :=
  m.length_of_mem_columns _ (List.mem_map_of_mem h)

/-- The ratings of an item are on the scale. -/
theorem contains_of_mem_ratings {item : RatingItem} (h : item ∈ m.items) {rating : ℤ}
    (hrating : rating ∈ item.ratings) : m.scale.contains rating = true := by
  rw [ratings_eq_column h, column, List.mem_filterMap] at hrating
  obtain ⟨row, hrow, hget⟩ := hrating
  exact m.contains row hrow rating (List.mem_of_getElem? hget)

variable (m)

/-- The columns hold the ratings that the rows hold. -/
theorem flatten_columns_perm : m.columns.flatten.Perm m.rows.flatten := by
  rw [columns_eq_ofFn, rows_eq_ofFn]
  simp only [List.ofFn_eq_map, ← List.flatMap_def]
  rw [← Multiset.coe_eq_coe, ← Multiset.coe_bind, ← Multiset.coe_bind]
  simp only [← Multiset.map_coe]
  exact Multiset.bind_map_comm _ _

end RatingMatrix

end InterRater
