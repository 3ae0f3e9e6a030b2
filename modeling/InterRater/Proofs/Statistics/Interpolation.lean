import InterRater.Proofs.Statistics.Percentile
import Mathlib.Data.List.GetD
import Mathlib.Order.Interval.Set.Basic
import Mathlib.Tactic.Ring

/-!
# Percentiles as an interpolation

In exact arithmetic a percentile is the height at the place of the quantile of the line that joins
the values of the list one after the other (`percentile_eq_polyline`).

* Between two neighbours the line is straight (`polyline_add`), and it meets every value of the list
  at its place (`polyline_natCast`).
* The line of an ascending list ascends (`monotoneOn_polyline`).  Two places with a value of the list
  between them are compared through that value, all others are in one cell and on one straight line.
* Counted from the other end, the two neighbours of a place change their roles (`floor_last_sub`,
  `ceil_last_sub`), so that the line of the negated values is the line turned over
  (`polyline_mirrored`).

`interpolates_of_pairwise` says this of the percentiles of an ascending list.
-/

namespace InterRater

namespace Statistics

/-! ### The law -/

/-- The percentiles of a list with at least one value interpolate it. -/
structure Interpolates (sorted : List ℝ) (hne : sorted ≠ []) : Prop where
  /-- Both neighbours of a place are in the list, for every quantile. -/
  neighbours : ∀ quantile : ℝ, let place := quantilePlace sorted.length quantile
    ∃ (hlow : Scalar.floor place < sorted.length) (hhigh : Scalar.ceil place < sorted.length),
      percentile sorted quantile
        = sorted[Scalar.floor place] + (sorted[Scalar.ceil place] - sorted[Scalar.floor place])
          * (place - Scalar.floor place)
  monotone : ∀ p q, p ≤ q → percentile sorted p ≤ percentile sorted q
  head_le : ∀ quantile, sorted.head hne ≤ percentile sorted quantile
  le_getLast : ∀ quantile, percentile sorted quantile ≤ sorted.getLast hne
  /-- The values of the list are the percentiles of evenly spaced quantiles. -/
  values : 2 ≤ sorted.length → ∀ (i : ℕ) (hi : i < sorted.length),
    percentile sorted (i / (sorted.length - 1 : ℕ)) = sorted[i]
  /-- Between two neighbours the percentile is a linear function of the quantile. -/
  linear : ∀ (i : ℕ) (hi : i + 1 < sorted.length) (t : ℝ), 0 ≤ t → t ≤ 1 →
    percentile sorted ((i + t) / (sorted.length - 1 : ℕ))
      = sorted[i] + (sorted[i + 1] - sorted[i]) * t
  /-- The negated values, from the last to the first, have the negated percentiles, from 1 to 0. -/
  mirrored : ∀ quantile, percentile (sorted.map Neg.neg).reverse (1 - quantile)
    = -percentile sorted quantile

/-! ### The line through a sequence -/

/-- The height at a place of the line through the values of a sequence. -/
noncomputable def polyline (a : ℕ → ℝ) (x : ℝ) : ℝ :=
  a ⌊x⌋₊ + (a ⌈x⌉₊ - a ⌊x⌋₊) * (x - ⌊x⌋₊)

@[simp]
theorem polyline_natCast (a : ℕ → ℝ) (i : ℕ) : polyline a i = a i := by
  simp [polyline]

theorem polyline_add (a : ℕ → ℝ) (i : ℕ) {t : ℝ} (h0 : 0 ≤ t) (h1 : t ≤ 1) :
    polyline a (i + t) = a i + (a (i + 1) - a i) * t := by
  rcases h0.eq_or_lt with rfl | h0
  · rw [add_zero, polyline_natCast, mul_zero, add_zero]
  rcases h1.eq_or_lt with rfl | h1
  · rw [← Nat.cast_succ, polyline_natCast, mul_one, add_sub_cancel]
  -- Inside of the cell, its ends are the nearest integers.
  have hfloor : ⌊(i : ℝ) + t⌋₊ = i := by
    rw [Nat.floor_eq_iff (by positivity)]
    exact ⟨by linarith, by linarith⟩
  have hceil : ⌈(i : ℝ) + t⌉₊ = i + 1 := by
    rw [Nat.ceil_eq_iff i.succ_ne_zero, Nat.succ_sub_one, Nat.cast_succ]
    exact ⟨by linarith, by linarith⟩
  unfold polyline
  rw [hfloor, hceil, add_sub_cancel_left]

/-! ### Ascending sequences -/

section Ascending

variable {a : ℕ → ℝ} {last : ℕ} {x y : ℝ}

theorem le_polyline (h : a ⌊x⌋₊ ≤ a ⌈x⌉₊) (hx : 0 ≤ x) : a ⌊x⌋₊ ≤ polyline a x := by
  have hfloor := Nat.floor_le hx
  exact le_add_of_nonneg_right (mul_nonneg (sub_nonneg.mpr h) (sub_nonneg.mpr hfloor))

theorem polyline_le (h : a ⌊x⌋₊ ≤ a ⌈x⌉₊) : polyline a x ≤ a ⌈x⌉₊ := by
  have hcell : x - ⌊x⌋₊ ≤ 1 := by
    have := Nat.lt_floor_add_one x
    linarith
  have hrise := mul_le_of_le_one_right (sub_nonneg.mpr h) hcell
  unfold polyline
  linarith

/-- The line through values that ascend up to the last one ascends as far. -/
theorem monotoneOn_polyline (ha : MonotoneOn a (Set.Iic last)) :
    MonotoneOn (polyline a) (Set.Icc 0 last) := by
  have hneighbours : ∀ z ≤ (last : ℝ), a ⌊z⌋₊ ≤ a ⌈z⌉₊ := by
    intro z hz
    have hceil : ⌈z⌉₊ ≤ last := Nat.ceil_le.mpr hz
    exact ha ((Nat.floor_le_ceil z).trans hceil) hceil (Nat.floor_le_ceil z)
  rintro x ⟨hx0, hx⟩ y ⟨hy0, hy⟩ hxy
  rcases le_or_gt ⌈x⌉₊ ⌊y⌋₊ with hbetween | hcell
  · -- A value lies between the places: the line has passed it on the way from one to the other.
    calc polyline a x ≤ a ⌈x⌉₊ := polyline_le (hneighbours x hx)
      _ ≤ a ⌊y⌋₊ := ha (Nat.ceil_le.mpr hx) (Nat.floor_le_of_le hy) hbetween
      _ ≤ polyline a y := le_polyline (hneighbours y hy) hy0
  · -- No value lies between the places: they have the same neighbours.
    have hfloor := Nat.floor_mono hxy
    have hceil := Nat.ceil_mono hxy
    have hwidth := Nat.ceil_le_floor_add_one x
    have hwidth' := Nat.ceil_le_floor_add_one y
    have hlow : ⌊y⌋₊ = ⌊x⌋₊ := by omega
    have hhigh : ⌈y⌉₊ = ⌈x⌉₊ := by omega
    have hrise := sub_nonneg.mpr (hneighbours x hx)
    unfold polyline
    rw [hlow, hhigh]
    gcongr

end Ascending

/-! ### Counting from the other end -/

section Mirror

variable {last : ℕ} {x : ℝ}

theorem floor_last_sub (h0 : 0 ≤ x) (hle : x ≤ last) : ⌊last - x⌋₊ = last - ⌈x⌉₊ := by
  rw [Nat.floor_eq_iff (sub_nonneg.mpr hle), Nat.cast_sub (Nat.ceil_le.mpr hle)]
  have hceil := Nat.le_ceil x
  have hlt := Nat.ceil_lt_add_one h0
  exact ⟨by linarith, by linarith⟩

theorem ceil_last_sub (h0 : 0 ≤ x) (hle : x ≤ last) : ⌈last - x⌉₊ = last - ⌊x⌋₊ := by
  -- The floor of the place mirrored twice.
  have hfloor : ⌊last - (last - x)⌋₊ = last - ⌈last - x⌉₊ :=
    floor_last_sub (sub_nonneg.mpr hle) (sub_le_self _ h0)
  have hceil : ⌈last - x⌉₊ ≤ last := Nat.ceil_le.mpr (sub_le_self _ h0)
  rw [sub_sub_cancel] at hfloor
  omega

theorem polyline_mirrored {a b : ℕ → ℝ} (h : ∀ i ≤ last, b i = -a (last - i)) (h0 : 0 ≤ x)
    (hle : x ≤ last) : polyline b (last - x) = -polyline a x := by
  have hceil : ⌈x⌉₊ ≤ last := Nat.ceil_le.mpr hle
  have hfloor := Nat.floor_le_ceil x
  unfold polyline
  rw [floor_last_sub h0 hle, ceil_last_sub h0 hle, h _ (Nat.sub_le _ _), h _ (Nat.sub_le _ _),
    Nat.sub_sub_self hceil, Nat.sub_sub_self (hfloor.trans hceil), Nat.cast_sub hceil]
  -- The neighbours are one value or two that follow each other.
  rcases (show ⌈x⌉₊ = ⌊x⌋₊ ∨ ⌈x⌉₊ = ⌊x⌋₊ + 1 by
    have := Nat.ceil_le_floor_add_one x
    omega) with heq | heq
  · rw [heq]
    ring
  · rw [heq, Nat.cast_succ]
    ring

end Mirror

/-! ### The line through a list -/

theorem percentile_eq_polyline (sorted : List ℝ) (quantile : ℝ) : percentile sorted quantile
    = polyline (sorted.getD · 0) (quantilePlace sorted.length quantile) := by
  match sorted with
  | [] => simp [percentile, polyline]
  | [v] =>
    -- All quantiles of a single value have the place 0.
    simp [percentile, polyline, quantilePlace_eq]
  | _ :: _ :: _ => rfl

theorem monotoneOn_getD {sorted : List ℝ} (hne : sorted ≠ []) (h : sorted.Pairwise (· ≤ ·)) :
    MonotoneOn (sorted.getD · 0) (Set.Iic (sorted.length - 1)) := by
  have hpos := List.length_pos_iff.mpr hne
  intro i hi j hj hij
  rw [Set.mem_Iic] at hi hj
  show sorted.getD i 0 ≤ sorted.getD j 0
  rw [List.getD_eq_getElem _ _ (show i < sorted.length by omega),
    List.getD_eq_getElem _ _ (show j < sorted.length by omega)]
  rcases hij.eq_or_lt with rfl | hlt
  · exact le_rfl
  · exact List.pairwise_iff_getElem.mp h i j _ _ hlt

theorem getD_mirrored (sorted : List ℝ) {i : ℕ} (hi : i < sorted.length) :
    (sorted.map Neg.neg).reverse.getD i 0 = -sorted.getD (sorted.length - 1 - i) 0 := by
  rw [List.getD_eq_getElem _ _ (by simpa using hi), List.getElem_reverse, List.getElem_map,
    List.getD_eq_getElem _ _ (by omega)]
  simp only [List.length_map]

/-! ### Percentiles -/

/-- What a percentile reads is in the list. -/
theorem percentile_eq_getElem {sorted : List ℝ} (hne : sorted ≠ []) (quantile : ℝ) :
    let place := quantilePlace sorted.length quantile
    ∃ (hlow : Scalar.floor place < sorted.length) (hhigh : Scalar.ceil place < sorted.length),
      percentile sorted quantile
        = sorted[Scalar.floor place] + (sorted[Scalar.ceil place] - sorted[Scalar.floor place])
          * (place - Scalar.floor place) := by
  intro place
  have hhigh : Scalar.ceil place < sorted.length :=
    ceil_quantilePlace_lt (List.length_pos_iff.mpr hne) quantile
  have hlow : Scalar.floor place < sorted.length := (floor_le_ceil_exact place).trans_lt hhigh
  refine ⟨hlow, hhigh, ?_⟩
  rw [percentile_eq_polyline, ← List.getD_eq_getElem _ 0 hlow, ← List.getD_eq_getElem _ 0 hhigh]
  rfl

theorem monotone_percentile {sorted : List ℝ} (hne : sorted ≠ []) (h : sorted.Pairwise (· ≤ ·)) :
    Monotone (percentile sorted) := by
  intro p q hpq
  rw [percentile_eq_polyline, percentile_eq_polyline]
  exact monotoneOn_polyline (monotoneOn_getD hne h) (quantilePlace_mem_Icc _ p)
    (quantilePlace_mem_Icc _ q) (monotone_quantilePlace _ hpq)

/-- The percentiles do not leave the list, as their places do not. -/
theorem percentile_mem_Icc {sorted : List ℝ} (hne : sorted ≠ []) (h : sorted.Pairwise (· ≤ ·))
    (quantile : ℝ) :
    percentile sorted quantile ∈ Set.Icc (sorted.head hne) (sorted.getLast hne) := by
  have hpos := List.length_pos_iff.mpr hne
  have hmono := monotoneOn_polyline (monotoneOn_getD hne h)
  have hplace := quantilePlace_mem_Icc sorted.length quantile
  have hends : (0 : ℝ) ≤ (sorted.length - 1 : ℕ) := Nat.cast_nonneg _
  have hhead : polyline (sorted.getD · 0) 0 = sorted.head hne := by
    rw [← Nat.cast_zero, polyline_natCast, List.getD_eq_getElem _ _ hpos, List.head_eq_getElem]
  have hlast : polyline (sorted.getD · 0) (sorted.length - 1 : ℕ) = sorted.getLast hne := by
    rw [polyline_natCast, List.getD_eq_getElem _ _ (by omega), List.getLast_eq_getElem]
  rw [percentile_eq_polyline, ← hhead, ← hlast]
  exact ⟨hmono (Set.left_mem_Icc.mpr hends) hplace hplace.1,
    hmono hplace (Set.right_mem_Icc.mpr hends) hplace.2⟩

theorem percentile_div {sorted : List ℝ} (h : 2 ≤ sorted.length) {i : ℕ} (hi : i < sorted.length) :
    percentile sorted (i / (sorted.length - 1 : ℕ)) = sorted[i] := by
  have hle : (i : ℝ) ≤ (sorted.length - 1 : ℕ) := Nat.cast_le.mpr (by omega)
  rw [percentile_eq_polyline, quantilePlace_div h (Nat.cast_nonneg i) hle, polyline_natCast,
    List.getD_eq_getElem _ _ hi]

theorem percentile_add_div {sorted : List ℝ} {i : ℕ} (hi : i + 1 < sorted.length) {t : ℝ}
    (h0 : 0 ≤ t) (h1 : t ≤ 1) : percentile sorted ((i + t) / (sorted.length - 1 : ℕ))
      = sorted[i] + (sorted[i + 1] - sorted[i]) * t := by
  have hle : (i : ℝ) + t ≤ (sorted.length - 1 : ℕ) := by
    have hnext : ((i + 1 : ℕ) : ℝ) ≤ (sorted.length - 1 : ℕ) := Nat.cast_le.mpr (by omega)
    rw [Nat.cast_succ] at hnext
    linarith
  rw [percentile_eq_polyline, quantilePlace_div (by omega) (by positivity) hle,
    polyline_add _ _ h0 h1, List.getD_eq_getElem _ _ hi,
    List.getD_eq_getElem _ _ (show i < sorted.length by omega)]

theorem percentile_mirrored (sorted : List ℝ) (quantile : ℝ) :
    percentile (sorted.map Neg.neg).reverse (1 - quantile) = -percentile sorted quantile := by
  rcases eq_or_ne sorted [] with rfl | hne
  · exact neg_zero.symm
  have hpos := List.length_pos_iff.mpr hne
  obtain ⟨h0, hle⟩ := quantilePlace_mem_Icc sorted.length quantile
  rw [percentile_eq_polyline, percentile_eq_polyline, List.length_reverse, List.length_map,
    quantilePlace_one_sub]
  apply polyline_mirrored _ h0 hle
  intro i hi
  exact getD_mirrored sorted (by omega)

/-- **The percentiles** of an ascending list interpolate it. -/
theorem interpolates_of_pairwise {sorted : List ℝ} (hne : sorted ≠ []) (h : sorted.Pairwise (· ≤ ·)) :
    Interpolates sorted hne where
  neighbours := percentile_eq_getElem hne
  monotone _ _ hpq := monotone_percentile hne h hpq
  head_le quantile := (percentile_mem_Icc hne h quantile).1
  le_getLast quantile := (percentile_mem_Icc hne h quantile).2
  values h _ hi := percentile_div h hi
  linear _ hi _ h0 h1 := percentile_add_div hi h0 h1
  mirrored := percentile_mirrored sorted

end Statistics

end InterRater
