import Mathlib.Data.List.Nodup
import Mathlib.Order.Lattice

/-!
# Sorted lists

* `pairwise_mergeSort_stable`: a stable sort keeps the order of the list among the elements that
  the sorting order does not separate.
* `mergeSort_eq_of_perm`: sorting by distinct keys has one possible result.
* `mergeSort_congr`, `min?_congr`, `max?_congr`: the sorted list, the least and the greatest element
  depend on the elements only.
* `pairwise_eraseReps`, `mem_eraseReps`: the runs of an ascending list are its elements, each
  once, in strictly ascending order.
-/

namespace InterRater

namespace Sorting

variable {α : Type*}

/-! ### Stability -/

/-- Sorting keeps the relation `R` of the list between elements of the same rank. -/
theorem pairwise_mergeSort_stable (le : α → α → Bool) {R : α → α → Prop}
    (trans : ∀ a b c : α, le a b → le b c → le a c) (total : ∀ a b : α, le a b || le b a)
    {l : List α} (h : l.Pairwise R) :
    (l.mergeSort le).Pairwise fun a b => le a b ∧ (le b a → R a b) := by
  induction l with
  | nil => simp
  | cons a l ih =>
    obtain ⟨ha, hl⟩ := List.pairwise_cons.mp h
    obtain ⟨l₁, l₂, hal, hsplit, hlt⟩ := List.mergeSort_cons trans total a l
    have hsorted := List.pairwise_mergeSort trans total (a :: l)
    have hmem : ∀ b ∈ l₁ ++ l₂, b ∈ l := fun b hb => by
      rw [← hsplit] at hb
      exact List.mem_mergeSort.mp hb
    have hrest := ih hl
    rw [hsplit] at hrest
    rw [hal] at hsorted ⊢
    obtain ⟨h₁, h₂, h₁₂⟩ := List.pairwise_append.mp hrest
    obtain ⟨-, hsorted₂, -⟩ := List.pairwise_append.mp hsorted
    refine List.pairwise_append.mpr ⟨h₁, List.pairwise_cons.mpr ⟨fun b hb => ?_, h₂⟩, ?_⟩
    · exact ⟨(List.pairwise_cons.mp hsorted₂).1 b hb,
        fun _ => ha b (hmem b (List.mem_append_right _ hb))⟩
    · rintro b hb c hc
      rcases List.mem_cons.mp hc with rfl | hc
      · have hcb : le c b = false := by simpa using hlt b hb
        refine ⟨?_, fun h => absurd h (by simp [hcb])⟩
        simpa [hcb] using total b c
      · exact h₁₂ b hb c hc

/-! ### Sorting by a key -/

theorem pairwise_mergeSort_key {β : Type*} [LinearOrder β] (key : α → β) (l : List α) :
    (l.mergeSort fun x y => key x ≤ key y).Pairwise fun x y => key x ≤ key y := by
  refine List.Pairwise.imp (fun h => of_decide_eq_true h)
    (List.pairwise_mergeSort (fun x y z hxy hyz => ?_) (fun x y => ?_) l)
  · exact decide_eq_true ((of_decide_eq_true hxy).trans (of_decide_eq_true hyz))
  · simpa using le_total (key x) (key y)

/-- Sorted by keys that are all different, a list is whichever rearrangement has them ascending. -/
theorem mergeSort_eq_of_perm {β : Type*} [LinearOrder β] (key : α → β) {l l' : List α}
    (h : l.Perm l') (hl' : l'.Pairwise fun x y => key x < key y) :
    l.mergeSort (fun x y => key x ≤ key y) = l' := by
  have hperm := (List.mergeSort_perm l fun x y => key x ≤ key y).trans h
  have hkeys : (l'.map key).Nodup := List.pairwise_map.mpr (hl'.imp fun h => h.ne)
  exact hperm.eq_of_pairwise (fun x y hx hy hxy hyx =>
    List.inj_on_of_nodup_map hkeys (hperm.subset hx) hy (le_antisymm hxy hyx))
    (pairwise_mergeSort_key key l) (hl'.imp fun h => h.le)

/-! ### Functions that do not see the order of a list -/

theorem mergeSort_congr [LinearOrder α] {l l' : List α} (h : l.Perm l') :
    l.mergeSort (· ≤ ·) = l'.mergeSort (· ≤ ·) := by
  have hperm : (l.mergeSort (· ≤ ·)).Perm (l'.mergeSort (· ≤ ·)) :=
    ((List.mergeSort_perm l _).trans h).trans (List.mergeSort_perm l' _).symm
  exact hperm.eq_of_pairwise (fun _ _ _ _ => le_antisymm) (pairwise_mergeSort_key id l)
    (pairwise_mergeSort_key id l')

theorem min?_congr [Min α] [LE α] [Std.IsLinearOrder α] [Std.LawfulOrderMin α] {l l' : List α}
    (h : l.Perm l') : l.min? = l'.min? := by
  refine Option.ext fun x => ?_
  simp only [List.min?_eq_some_iff, h.mem_iff]

theorem max?_congr [Max α] [LE α] [Std.IsLinearOrder α] [Std.LawfulOrderMax α] {l l' : List α}
    (h : l.Perm l') : l.max? = l'.max? := by
  refine Option.ext fun x => ?_
  simp only [List.max?_eq_some_iff, h.mem_iff]

/-! ### Runs of an ascending list -/

section Runs

variable [LinearOrder α]

theorem mem_eraseRepsBy_loop (x : α) (l : List α) : ∀ (a : α) (acc : List α),
    x ∈ List.eraseRepsBy.loop (· == ·) a l acc ↔ x ∈ acc ∨ x = a ∨ x ∈ l := by
  induction l with
  | nil => intro a acc; simp [List.eraseRepsBy.loop, or_comm]
  | cons b l ih =>
    intro a acc
    rw [List.eraseRepsBy.loop]
    split
    · rename_i hab
      rw [ih, show b = a from (eq_of_beq hab).symm]
      simp
    · rw [ih]
      simp only [List.mem_cons]
      tauto

@[simp]
theorem mem_eraseReps (x : α) (l : List α) : x ∈ l.eraseReps ↔ x ∈ l := by
  cases l with
  | nil => rfl
  | cons a l => simp [List.eraseReps, List.eraseRepsBy, mem_eraseRepsBy_loop]

/-- The values collected so far are descending and below the current one. -/
theorem pairwise_eraseRepsBy_loop (l : List α) : ∀ (a : α) (acc : List α),
    (a :: l).Pairwise (· ≤ ·) → (a :: acc).Pairwise (· > ·) →
      (List.eraseRepsBy.loop (· == ·) a l acc).Pairwise (· < ·) := by
  induction l with
  | nil =>
    intro a acc _ hacc
    rw [List.eraseRepsBy.loop]
    exact List.pairwise_reverse.mpr hacc
  | cons b l ih =>
    intro a acc hl hacc
    obtain ⟨ha, hbl⟩ := List.pairwise_cons.mp hl
    rw [List.eraseRepsBy.loop]
    split
    · rename_i hab
      have hab : a = b := eq_of_beq hab
      exact ih a acc (hab ▸ hbl) hacc
    · rename_i hab
      have hlt : a < b := lt_of_le_of_ne (ha b List.mem_cons_self) (by simpa using hab)
      refine ih b (a :: acc) hbl (List.pairwise_cons.mpr ⟨fun c hc => ?_, hacc⟩)
      rcases List.mem_cons.mp hc with rfl | hc
      · exact hlt
      · exact lt_trans ((List.pairwise_cons.mp hacc).1 c hc) hlt

theorem pairwise_eraseReps {l : List α} (h : l.Pairwise (· ≤ ·)) :
    l.eraseReps.Pairwise (· < ·) := by
  cases l with
  | nil => exact List.Pairwise.nil
  | cons a l => exact pairwise_eraseRepsBy_loop l a [] h (List.pairwise_singleton _ _)

end Runs

end Sorting

end InterRater
