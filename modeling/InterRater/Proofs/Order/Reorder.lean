import Mathlib.Data.List.Basic

/-!
# Lists in another order

`reorder order l` lists the entries of `l` at the positions `order`.  If the positions are those of
`l` in any order, it has the entries of `l` (`reorder_perm`), so that a function of the entries that
does not see their order takes the same value on it.
-/

namespace InterRater

/-- The entries of a list at the given positions. -/
def reorder {β : Type*} (order : List ℕ) (l : List β) : List β :=
  order.filterMap fun i => l[i]?

section Reorder

variable {β γ : Type*} {order : List ℕ} {l : List β}

theorem reorder_map (order : List ℕ) (f : β → γ) (l : List β) :
    reorder order (l.map f) = (reorder order l).map f := by
  rw [reorder, reorder, List.map_filterMap]
  simp only [List.getElem?_map]

theorem mem_of_mem_reorder {x : β} (h : x ∈ reorder order l) : x ∈ l := by
  obtain ⟨i, -, hget⟩ := List.mem_filterMap.mp h
  exact List.mem_of_getElem? hget

/-- Lists of one length keep one length, whatever the positions. -/
theorem length_reorder_congr {l' : List γ} (h : l.length = l'.length) (order : List ℕ) :
    (reorder order l).length = (reorder order l').length := by
  induction order with
  | nil => rfl
  | cons i order ih =>
    rw [reorder] at ih ⊢
    rw [reorder] at ih ⊢
    rcases Nat.lt_or_ge i l.length with hi | hi
    · rw [List.filterMap_cons_some (List.getElem?_eq_getElem hi),
        List.filterMap_cons_some (List.getElem?_eq_getElem (h ▸ hi)), List.length_cons, ih,
        List.length_cons]
    · rw [List.filterMap_cons_none (List.getElem?_eq_none hi),
        List.filterMap_cons_none (List.getElem?_eq_none (h ▸ hi)), ih]

/-- Positions inside the list have an entry each. -/
theorem reorder_eq_map (h : ∀ i ∈ order, i < l.length) (default : β) :
    reorder order l = order.map fun i => l.getD i default := by
  rw [reorder, ← List.filterMap_eq_map]
  refine List.filterMap_congr fun i hi => ?_
  simp [List.getD_eq_getElem?_getD, List.getElem?_eq_getElem (h i hi)]

/-- If no entry is left out, nothing comes in between. -/
theorem map_some_filterMap {f : β → Option γ} (h : ∀ x ∈ l, ∃ y, f x = some y) :
    (l.filterMap f).map some = l.map f := by
  induction l with
  | nil => rfl
  | cons x l ih =>
    obtain ⟨⟨y, hy⟩, hl⟩ := List.forall_mem_cons.mp h
    rw [List.filterMap_cons_some hy, List.map_cons, List.map_cons, ih hl, hy]

/-- Positions inside the list: none is left out. -/
theorem map_some_reorder (h : ∀ i ∈ order, i < l.length) :
    (reorder order l).map some = order.map fun i => l[i]? :=
  map_some_filterMap fun i hi => ⟨_, List.getElem?_eq_getElem (h i hi)⟩

theorem length_reorder (h : ∀ i ∈ order, i < l.length) :
    (reorder order l).length = order.length := by
  have hlength := congrArg List.length (map_some_reorder h)
  rwa [List.length_map, List.length_map] at hlength

theorem reorder_range (l : List β) : reorder (List.range l.length) l = l := by
  rcases l with _ | ⟨x, l⟩
  · rfl
  rw [reorder_eq_map (fun i hi => List.mem_range.mp hi) x]
  refine List.ext_getElem (by simp) fun i _ hi => ?_
  rw [List.getElem_map, List.getElem_range, List.getD_eq_getElem?_getD,
    List.getElem?_eq_getElem hi, Option.getD_some]

/-- The position at a position is that position. -/
theorem reorder_positions {n : ℕ} (h : ∀ i ∈ order, i < n) :
    reorder order (List.range n) = order := by
  conv_rhs => rw [← List.filterMap_some (l := order)]
  exact List.filterMap_congr fun i hi => List.getElem?_range (h i hi)

/-- The positions of a list, in any order, give its entries, each once. -/
theorem reorder_perm (h : order.Perm (List.range l.length)) : (reorder order l).Perm l := by
  have hperm := h.filterMap fun i => l[i]?
  rwa [← reorder, ← reorder, reorder_range] at hperm

end Reorder

end InterRater
