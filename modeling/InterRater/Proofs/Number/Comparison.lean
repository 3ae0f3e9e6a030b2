import InterRater.Proofs.Number.Sign
import InterRater.Proofs.Statistics.Ranks

/-!
# Values that every comparison orders alike

An arithmetic has several comparisons: `<` and `≤`, equality, and the order in which values are
sorted.  On a set of values that are `Comparable` they are those of one linear order.  All real
numbers are, and so are the rounded numbers without a sign bit.
-/

namespace InterRater

/-- Values on which all comparisons are those of the order in which values are sorted. -/
structure Comparable {α : Type} [Scalar α] (P : α → Prop) : Prop where
  beq_self : ∀ {x}, P x → (x == x) = true
  lt_iff : ∀ {x y}, P x → P y → (x < y ↔ Scalar.precedes y x = false)
  antisymm : ∀ {x y}, P x → P y → Scalar.precedes x y = true → Scalar.precedes y x = true → x = y
  /-- A value behind one that reaches a threshold reaches it as well. -/
  le_of_precedes : ∀ {t x y}, P x → P y → t ≤ x → Scalar.precedes x y = true → t ≤ y

/-! ### The first of several values -/

/-- A choice that takes the first of two values, made along a list, comes to the first value of the
list. -/
theorem foldl_first {α : Type} {P : α → Prop} {before : α → α → Bool}
    (total : ∀ x y, before x y || before y x)
    (trans : ∀ x y z, before x y → before y z → before x z) {choice : α → α → α}
    (hchoice : ∀ {x y}, P x → P y → choice x y = if before x y then x else y) (values : List α) :
    ∀ v, (∀ w ∈ v :: values, P w) →
      values.foldl choice v ∈ v :: values ∧
        ∀ w ∈ v :: values, before (values.foldl choice v) w := by
  have refl : ∀ x, before x x := fun x => by simpa using total x x
  induction values with
  | nil => exact fun v _ => ⟨List.mem_singleton_self v, List.forall_mem_singleton.mpr (refl v)⟩
  | cons u values ih =>
    intro v hP
    obtain ⟨hv, hrest⟩ := List.forall_mem_cons.mp hP
    obtain ⟨hu, hvalues⟩ := List.forall_mem_cons.mp hrest
    rw [List.foldl_cons, hchoice hv hu]
    -- The value chosen of the first two stands for both of them.
    split_ifs with hvu
    · obtain ⟨hin, hall⟩ := ih v (List.forall_mem_cons.mpr ⟨hv, hvalues⟩)
      obtain ⟨hfirst, hall⟩ := List.forall_mem_cons.mp hall
      refine ⟨?_, List.forall_mem_cons.mpr ⟨hfirst, List.forall_mem_cons.mpr ⟨?_, hall⟩⟩⟩
      · rcases List.mem_cons.mp hin with heq | hin
        · exact List.mem_cons.mpr (Or.inl heq)
        · exact List.mem_cons_of_mem _ (List.mem_cons_of_mem _ hin)
      · exact trans _ _ _ hfirst hvu
    · have huv : before u v := by simpa [hvu] using total v u
      obtain ⟨hin, hall⟩ := ih u (List.forall_mem_cons.mpr ⟨hu, hvalues⟩)
      refine ⟨List.mem_cons_of_mem _ hin, List.forall_mem_cons.mpr ⟨?_, hall⟩⟩
      exact trans _ _ _ (hall u List.mem_cons_self) huv

namespace Comparable

variable {α : Type} [Scalar α] {P : α → Prop} (h : Comparable P)
include h

theorem larger_eq {x y : α} (hx : P x) (hy : P y) :
    Scalar.larger x y = if Scalar.precedes y x then x else y := by
  rw [Scalar.larger, h.beq_self hx, if_pos rfl]
  have hlt := h.lt_iff hx hy
  cases hyx : Scalar.precedes y x
  · rw [if_pos (hlt.mpr hyx), if_neg Bool.false_ne_true]
  · rw [if_neg (by simp [hlt, hyx]), if_pos rfl]

theorem smaller_eq {x y : α} (hx : P x) (hy : P y) :
    Scalar.smaller x y = if Scalar.precedes x y then x else y := by
  rw [Scalar.smaller, h.beq_self hx, if_pos rfl]
  have hlt := h.lt_iff hy hx
  cases hxy : Scalar.precedes x y
  · rw [if_pos (hlt.mpr hxy), if_neg Bool.false_ne_true]
  · rw [if_neg (by simp [hlt, hxy]), if_pos rfl]

variable [Statistics.RankOrder α]

theorem foldl_larger (values : List α) (v : α) (hP : ∀ w ∈ v :: values, P w) :
    values.foldl Scalar.larger v ∈ v :: values ∧
      ∀ w ∈ v :: values, Scalar.precedes w (values.foldl Scalar.larger v) = true :=
  foldl_first (fun x y => Statistics.RankOrder.total y x)
    (fun x y z hxy hyz => Statistics.RankOrder.trans z y x hyz hxy) h.larger_eq values v hP

theorem foldl_smaller (values : List α) (v : α) (hP : ∀ w ∈ v :: values, P w) :
    values.foldl Scalar.smaller v ∈ v :: values ∧
      ∀ w ∈ v :: values, Scalar.precedes (values.foldl Scalar.smaller v) w = true :=
  foldl_first Statistics.RankOrder.total Statistics.RankOrder.trans h.smaller_eq values v hP

end Comparable

/-! ### Exact and rounded values -/

theorem comparable_exact : Comparable fun _ : ℝ => True where
  beq_self _ := beq_self_eq_true _
  lt_iff _ _ := by
    rw [Scalar.precedes_eq, decide_eq_false_iff_not, not_le]
  antisymm _ _ hxy hyx := le_antisymm (of_decide_eq_true hxy) (of_decide_eq_true hyx)
  le_of_precedes _ _ ht hxy := le_trans ht (of_decide_eq_true hxy)

namespace Binary64

variable {x y : Binary64}

theorem precedes_iff : Scalar.precedes x y = true ↔ x.rank ≤ y.rank :=
  decide_eq_true_iff

theorem beq_iff :
    Scalar.beq x y = true ↔ x.isNaN = false ∧ y.isNaN = false ∧ x.place = y.place := by
  show (!x.isNaN && !y.isNaN && x.place == y.place) = true ↔ _
  simp [and_assoc]

theorem lt_iff : x < y ↔ x.isNaN = false ∧ y.isNaN = false ∧ x.place < y.place := by
  show (!x.isNaN && !y.isNaN && decide (x.place < y.place)) = true ↔ _
  simp [and_assoc]

theorem le_iff : x ≤ y ↔ x.isNaN = false ∧ y.isNaN = false ∧ x.place ≤ y.place := by
  show (!x.isNaN && !y.isNaN && decide (x.place ≤ y.place)) = true ↔ _
  simp [and_assoc]

/-! ### The order of all patterns -/

/-- Ranks separate the two zeros, which share a place. -/
theorem place_le_place (h : x.rank ≤ y.rank) : x.place ≤ y.place := by
  rw [rank, rank] at h
  rw [place, place]
  split_ifs at h ⊢ <;> omega

/-- The NaNs stand at the ends. -/
theorem isNaN_of_between {z : Binary64} (hx : x.isNaN = false) (hz : z.isNaN = false)
    (hxy : x.rank ≤ y.rank) (hyz : y.rank ≤ z.rank) : y.isNaN = false := by
  simp only [isNaN, decide_eq_false_iff_not, not_lt] at hx hz ⊢
  rw [rank, rank] at hxy hyz
  split_ifs at hxy hyz <;> omega

instance : Statistics.RankOrder Binary64 where
  total x y := by
    rw [Bool.or_eq_true, precedes_iff, precedes_iff]
    exact le_total _ _
  trans x y z := by
    simp only [precedes_iff]
    exact le_trans
  beq_symm x y h := by
    obtain ⟨hx, hy, hplace⟩ := beq_iff.mp h
    exact beq_iff.mpr ⟨hy, hx, hplace.symm⟩
  beq_trans x y z h h' := by
    obtain ⟨hx, -, hxy⟩ := beq_iff.mp h
    obtain ⟨-, hz, hyz⟩ := beq_iff.mp h'
    exact beq_iff.mpr ⟨hx, hz, hxy.trans hyz⟩
  beq_of_between x y z hxy hyz h := by
    obtain ⟨hx, hz, hplace⟩ := beq_iff.mp h
    rw [precedes_iff] at hxy hyz
    exact beq_iff.mpr ⟨hx, isNaN_of_between hx hz hxy hyz,
      le_antisymm (place_le_place hxy) (hplace ▸ place_le_place hyz)⟩

/-! ### Numbers without a sign bit -/

theorem Unsigned.rank (h : x.Unsigned) : x.rank = x.magnitude := by
  rw [Binary64.rank, h.negative, if_neg Bool.false_ne_true]

theorem Unsigned.place (h : x.Unsigned) : x.place = x.magnitude := by
  rw [Binary64.place, h.negative, if_neg Bool.false_ne_true]

theorem comparable_unsigned : Comparable Unsigned where
  beq_self hx := beq_iff.mpr ⟨hx.isNaN, hx.isNaN, rfl⟩
  lt_iff hx hy := by
    rw [lt_iff, and_iff_right hx.isNaN, and_iff_right hy.isNaN, hx.place, hy.place,
      ← Bool.not_eq_true, precedes_iff, hx.rank, hy.rank, not_le]
  antisymm hx hy hxy hyx := by
    rw [precedes_iff, hx.rank, hy.rank] at hxy
    rw [precedes_iff, hx.rank, hy.rank] at hyx
    exact hx.ext hy (by omega)
  le_of_precedes hx hy ht hxy := by
    obtain ⟨hnan, -, hplace⟩ := le_iff.mp ht
    exact le_iff.mpr ⟨hnan, hy.isNaN, hplace.trans (place_le_place (precedes_iff.mp hxy))⟩

end Binary64

end InterRater
