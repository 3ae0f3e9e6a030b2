import InterRater.Proofs.Number.Exact
import InterRater.Proofs.Order.Sorting
import InterRater.Statistics.Ranks
import Mathlib.Data.List.Count

/-!
# The counting definition of ranks

`averageRanks_eq`: the rank of a value is half of `doubledRank`, which counts the values sorted
before it, apart from those equal to it, twice, and the values equal to it once.  This holds of
every arithmetic whose order and equality fit together (`RankOrder`); a value need not be equal to
itself.  Where all values are, the rank is a function of the value, `countedRank`, which does not
depend on the order of the list (`averageRanks_eq_map_countedRank`).  The ranks of `n` values add up
to `n * (n + 1) / 2`, whatever the values are (`sum_doubledRank`).

On the real numbers the rank of `v` is the number of values below `v`, and half of the number of
values equal to `v` increased by one (`averageRanks_eq_map`).
-/

namespace InterRater

namespace Statistics

/-- What the ranks need of the order in which values are sorted, and of their equality. -/
class RankOrder (α : Type) [Scalar α] : Prop where
  total : ∀ x y : α, Scalar.precedes x y || Scalar.precedes y x
  trans : ∀ x y z : α, Scalar.precedes x y → Scalar.precedes y z → Scalar.precedes x z
  beq_symm : ∀ x y : α, x == y → y == x
  beq_trans : ∀ x y z : α, x == y → y == z → x == z
  /-- Equal values stand together when they are sorted. -/
  beq_of_between : ∀ x y z : α, Scalar.precedes x y → Scalar.precedes y z → x == z → x == y

variable {α : Type} [Scalar α]

theorem RankOrder.refl [RankOrder α] (x : α) : Scalar.precedes x x = true := by
  simpa using RankOrder.total x x

/-- At one position there are not two values. -/
theorem fst_eq_of_mem_zipIdx {β : Type*} {l : List β} {x y : β × ℕ} (hx : x ∈ l.zipIdx)
    (hy : y ∈ l.zipIdx) (h : x.2 = y.2) : x.1 = y.1 := by
  have hx := List.mem_zipIdx_iff_getElem?.mp hx
  rw [h, List.mem_zipIdx_iff_getElem?.mp hy] at hx
  exact (Option.some.inj hx).symm

/-! ### Sorted positions -/

/-- Whether `x` is sorted before `y`, as a value at a position. -/
def sortsBefore (x y : α × ℕ) : Bool :=
  Scalar.precedes x.1 y.1 && (!Scalar.precedes y.1 x.1 || x.2 < y.2)

/-- Whether `x` shares the rank of `y`, as a value at a position. -/
def sharesRank (x y : α × ℕ) : Bool :=
  x.1 == y.1 || x.2 == y.2

/-- Twice the rank of `y` among the values of the list. -/
def doubledRank (l : List (α × ℕ)) (y : α × ℕ) : ℕ :=
  2 * l.countP (fun x => sortsBefore x y && !sharesRank x y) + l.countP (sharesRank · y) + 1

theorem doubledRank_perm {l l' : List (α × ℕ)} (h : l.Perm l') (y : α × ℕ) :
    doubledRank l y = doubledRank l' y := by
  rw [doubledRank, doubledRank, h.countP_eq, h.countP_eq]

/-- The rank of a value that shares it with all of `l` and is sorted before all of `l'`. -/
theorem doubledRank_append_left {l l' : List (α × ℕ)} {y : α × ℕ}
    (h : ∀ x ∈ l, sharesRank x y)
    (h' : ∀ x ∈ l', sortsBefore x y = false ∧ sharesRank x y = false) :
    doubledRank (l ++ l') y = l.length + 1 := by
  have hbefore : (l ++ l').countP (fun x => sortsBefore x y && !sharesRank x y) = 0 := by
    rw [List.countP_eq_zero]
    intro x hx
    rcases List.mem_append.mp hx with hx | hx
    · simp [h x hx]
    · simp [(h' x hx).1]
  have hties : (l ++ l').countP (sharesRank · y) = l.length := by
    rw [List.countP_append, List.countP_eq_length.mpr h,
      List.countP_eq_zero.mpr fun x hx => by simp [(h' x hx).2], Nat.add_zero]
  rw [doubledRank, hbefore, hties]
  omega

/-- The rank of a value behind all of `l`. -/
theorem doubledRank_append_right {l l' : List (α × ℕ)} {y : α × ℕ}
    (h : ∀ x ∈ l, sortsBefore x y ∧ sharesRank x y = false) :
    doubledRank (l ++ l') y = 2 * l.length + doubledRank l' y := by
  have hbefore : l.countP (fun x => sortsBefore x y && !sharesRank x y) = l.length :=
    List.countP_eq_length.mpr fun x hx => by simp [h x hx]
  have hties : l.countP (sharesRank · y) = 0 :=
    List.countP_eq_zero.mpr fun x hx => by simp [(h x hx).2]
  rw [doubledRank, doubledRank, List.countP_append, List.countP_append, hbefore, hties]
  omega

theorem sortedPositions_perm (values : List α) : (sortedPositions values).Perm values.zipIdx :=
  List.mergeSort_perm _ _

theorem sortedPositions_pairwise [RankOrder α] (values : List α) :
    (sortedPositions values).Pairwise fun x y => sortsBefore x y ∧ x.2 ≠ y.2 := by
  have hidx : values.zipIdx.Pairwise fun x y => x.2 < y.2 := by
    have h : (values.zipIdx.map Prod.snd).Pairwise (· < ·) := by
      rw [List.zipIdx_map_snd]
      exact List.pairwise_lt_range'
    exact List.pairwise_map.mp h
  have hstable := Sorting.pairwise_mergeSort_stable
    (fun x y : α × ℕ => Scalar.precedes x.1 y.1) (fun _ _ _ => RankOrder.trans _ _ _)
    (fun _ _ => RankOrder.total _ _) hidx
  have hne : (sortedPositions values).Pairwise fun x y => x.2 ≠ y.2 :=
    ((sortedPositions_perm values).pairwise_iff fun h => h.symm).mpr (hidx.imp fun h => h.ne)
  refine (hstable.and hne).imp fun {x y} h => ⟨?_, h.2⟩
  cases hyx : Scalar.precedes y.1 x.1
  · simp [sortsBefore, h.1.1, hyx]
  · simp [sortsBefore, h.1.1, hyx, h.1.2 hyx]

/-! ### Runs of equal values -/

theorem sharesRank_comm [RankOrder α] (x y : α × ℕ) : sharesRank x y = sharesRank y x := by
  have hval : (x.1 == y.1) = (y.1 == x.1) :=
    Bool.eq_iff_iff.mpr ⟨RankOrder.beq_symm _ _, RankOrder.beq_symm _ _⟩
  rw [sharesRank, sharesRank, hval, Bool.beq_comm (a := x.2)]

/-- All values of the first run share their rank with its first value. -/
theorem sharesRank_of_mem_run [RankOrder α] {v : α} {i : ℕ} {rest : List (α × ℕ)} {x y : α × ℕ}
    (hx : x ∈ (v, i) :: rest.takeWhile fun z => z.1 == v)
    (hy : y ∈ (v, i) :: rest.takeWhile fun z => z.1 == v) : sharesRank x y := by
  have htake : ∀ z ∈ rest.takeWhile (fun z => z.1 == v), z.1 == v :=
    fun z hz => List.all_eq_true.mp (List.all_takeWhile ..) z hz
  simp only [sharesRank, Bool.or_eq_true]
  rcases List.mem_cons.mp hx with rfl | hx <;> rcases List.mem_cons.mp hy with rfl | hy
  · exact Or.inr (beq_self_eq_true i)
  · exact Or.inl (RankOrder.beq_symm _ _ (htake y hy))
  · exact Or.inl (htake x hx)
  · exact Or.inl (RankOrder.beq_trans _ _ _ (htake x hx) (RankOrder.beq_symm _ _ (htake y hy)))

/-- No value behind the first run equals the first value. -/
theorem beq_eq_false_of_mem_dropWhile [RankOrder α] {v : α} {i : ℕ} {rest : List (α × ℕ)}
    (h : ((v, i) :: rest).Pairwise fun x y => sortsBefore x y ∧ x.2 ≠ y.2) {y : α × ℕ}
    (hy : y ∈ rest.dropWhile fun z => z.1 == v) : (v == y.1) = false := by
  obtain ⟨hv, hrest⟩ := List.pairwise_cons.mp h
  have hdrop := hrest.sublist (List.dropWhile_sublist fun z => z.1 == v)
  rcases hd : rest.dropWhile (fun z => z.1 == v) with _ | ⟨w, tail⟩
  · rw [hd] at hy
    exact absurd hy List.not_mem_nil
  have hw : ¬ (w.1 == v) := by
    have hne : rest.dropWhile (fun z => z.1 == v) ≠ [] := by simp [hd]
    have := List.head_dropWhile_not _ hne
    simpa [hd] using this
  have hwmem : w ∈ rest :=
    (List.dropWhile_sublist _).subset (hd ▸ List.mem_cons_self)
  have hvw : Scalar.precedes v w.1 := by
    have := (hv w hwmem).1
    simp only [sortsBefore, Bool.and_eq_true] at this
    exact this.1
  rw [hd] at hy hdrop
  rw [← Bool.not_eq_true]
  intro hvy
  refine hw (RankOrder.beq_symm _ _ ?_)
  rcases List.mem_cons.mp hy with rfl | hy
  · exact hvy
  · have hwy := ((List.pairwise_cons.mp hdrop).1 y hy).1
    simp only [sortsBefore, Bool.and_eq_true] at hwy
    exact RankOrder.beq_of_between _ _ _ hvw hwy.1 hvy

/-- A value of the first run does not share its rank with a value behind the run. -/
theorem sharesRank_eq_false_of_mem_dropWhile [RankOrder α] {v : α} {i : ℕ}
    {rest : List (α × ℕ)}
    (h : ((v, i) :: rest).Pairwise fun x y => sortsBefore x y ∧ x.2 ≠ y.2) {x y : α × ℕ}
    (hx : x ∈ (v, i) :: rest.takeWhile fun z => z.1 == v)
    (hy : y ∈ rest.dropWhile fun z => z.1 == v) (hxy : x.2 ≠ y.2) :
    sharesRank x y = false := by
  have hvy := beq_eq_false_of_mem_dropWhile h hy
  have hval : (x.1 == y.1) = false := by
    rw [← Bool.not_eq_true] at hvy ⊢
    rcases List.mem_cons.mp hx with rfl | hx
    · exact hvy
    · have hxv : x.1 == v := List.all_eq_true.mp (List.all_takeWhile ..) x hx
      exact fun hxy => hvy (RankOrder.beq_trans _ _ _ (RankOrder.beq_symm _ _ hxv) hxy)
  simp [sharesRank, hval, hxy]

theorem not_sortsBefore_of_sortsBefore {x y : α × ℕ} (h : sortsBefore x y) :
    sortsBefore y x = false := by
  simp only [sortsBefore, Bool.and_eq_true, Bool.or_eq_true, Bool.not_eq_true',
    decide_eq_true_eq] at h ⊢
  rw [Bool.and_eq_false_iff]
  rcases h with ⟨hxy, hyx | hlt⟩
  · exact Or.inl hyx
  · exact Or.inr (by simp [hxy, hlt.le])

/-- The ranks of sorted values, counted. -/
theorem rankRuns_eq [RankOrder α] (start : ℕ) (l : List (α × ℕ))
    (h : l.Pairwise fun x y => sortsBefore x y ∧ x.2 ≠ y.2) :
    rankRuns start l
      = l.map fun y => (((2 * start + doubledRank l y : ℕ) : α) / ((2 : ℕ) : α), y.2) := by
  fun_induction rankRuns start l with
  | case1 start => rfl
  | case2 start v i rest run stop ih =>
    set rem := rest.dropWhile fun z => z.1 == v
    have hsplit : (v, i) :: rest = run ++ rem := by
      show _ = ((v, i) :: rest.takeWhile _) ++ rest.dropWhile _
      rw [List.cons_append, List.takeWhile_append_dropWhile]
    have hpair := h
    rw [hsplit, List.pairwise_append] at hpair
    obtain ⟨-, hrem, hcross⟩ := hpair
    -- a value of the run has the whole run for company and nothing of the rest
    have hrun : ∀ y ∈ run, doubledRank (run ++ rem) y = run.length + 1 := by
      refine fun y hy => doubledRank_append_left (fun x hx => sharesRank_of_mem_run hx hy)
        fun x hx => ?_
      obtain ⟨hyx, hne⟩ := hcross y hy x hx
      rw [sharesRank_comm]
      exact ⟨not_sortsBefore_of_sortsBefore hyx,
        sharesRank_eq_false_of_mem_dropWhile h hy hx hne⟩
    -- a value of the rest has the run before it
    have hrest : ∀ y ∈ rem, doubledRank (run ++ rem) y = 2 * run.length + doubledRank rem y :=
      fun y hy => doubledRank_append_right fun x hx => ⟨(hcross x hx y hy).1,
        sharesRank_eq_false_of_mem_dropWhile h hx hy (hcross x hx y hy).2⟩
    rw [hsplit, List.map_append, ih hrem]
    congr 1
    · refine List.map_congr_left fun y hy => ?_
      rw [hrun y hy, sharedRank]
      congr 3
      show start + (start + run.length) + 1 = _
      omega
    · refine List.map_congr_left fun y hy => ?_
      rw [hrest y hy]
      congr 3
      show 2 * (start + run.length) + _ = _
      omega

/-! ### Ranks in the order of the list -/

/-- **The counting definition**: the rank of each value, by the number of values sorted before it
and the number of values equal to it. -/
theorem averageRanks_eq [RankOrder α] (values : List α) :
    averageRanks values
      = values.zipIdx.map fun y => ((doubledRank values.zipIdx y : ℕ) : α) / ((2 : ℕ) : α) := by
  have hperm := sortedPositions_perm values
  rw [averageRanks, rankRuns_eq 0 _ (sortedPositions_pairwise values)]
  simp only [Nat.mul_zero, Nat.zero_add, doubledRank_perm hperm]
  set rank : α × ℕ → α × ℕ :=
    fun y => (((doubledRank values.zipIdx y : ℕ) : α) / ((2 : ℕ) : α), y.2)
  -- sorted by position, the ranks are in the order of the list
  have hsorted : (values.zipIdx.map rank).Pairwise fun x y => x.2 < y.2 := by
    rw [← List.pairwise_map, List.map_map, show Prod.snd ∘ rank = Prod.snd from rfl,
      List.zipIdx_map_snd]
    exact List.pairwise_lt_range'
  rw [Sorting.mergeSort_eq_of_perm Prod.snd (hperm.map rank) hsorted, List.map_map]
  rfl

@[simp]
theorem length_averageRanks [RankOrder α] (values : List α) :
    (averageRanks values).length = values.length := by
  rw [averageRanks_eq, List.length_map, List.length_zipIdx]

/-! ### The sum of the ranks -/

theorem sortsBefore_total [RankOrder α] {x y : α × ℕ} (hne : x.2 ≠ y.2) :
    sortsBefore x y ∨ sortsBefore y x := by
  have htotal := RankOrder.total x.1 y.1
  simp only [sortsBefore, Bool.and_eq_true, Bool.or_eq_true, Bool.not_eq_true',
    decide_eq_true_eq] at htotal ⊢
  cases hxy : Scalar.precedes x.1 y.1 <;> cases hyx : Scalar.precedes y.1 x.1
  · simp [hxy, hyx] at htotal
  · simp
  · simp
  · simpa using lt_or_gt_of_ne hne

/-- What a value `x` adds to twice the rank of a value `y`. -/
def rankGain (x y : α × ℕ) : ℕ :=
  if sharesRank x y then 1 else if sortsBefore x y then 2 else 0

theorem doubledRank_cons (x : α × ℕ) (l : List (α × ℕ)) (y : α × ℕ) :
    doubledRank (x :: l) y = rankGain x y + doubledRank l y := by
  rw [doubledRank, doubledRank, List.countP_cons, List.countP_cons, rankGain]
  cases sharesRank x y <;> cases sortsBefore x y <;> simp <;> omega

/-- Two values share their ranks, or one of them is behind the other. -/
theorem rankGain_add_rankGain [RankOrder α] (x y : α × ℕ) : rankGain x y + rankGain y x = 2 := by
  rw [rankGain, rankGain, sharesRank_comm y x]
  cases hshares : sharesRank x y
  · have hne : x.2 ≠ y.2 := by
      rw [sharesRank, Bool.or_eq_false_iff, beq_eq_false_iff_ne (a := x.2)] at hshares
      exact hshares.2
    rcases sortsBefore_total hne with h | h
    · rw [h, not_sortsBefore_of_sortsBefore h]
      rfl
    · rw [h, not_sortsBefore_of_sortsBefore h]
      rfl
  · rfl

/-- What the values of `l` add to the rank of `x`, and `x` to theirs. -/
theorem doubledRank_add_sum [RankOrder α] (l : List (α × ℕ)) (x : α × ℕ) :
    doubledRank l x + (l.map (rankGain x)).sum = 2 * l.length + 1 := by
  induction l with
  | nil => rfl
  | cons y l ih =>
    have hpair := rankGain_add_rankGain x y
    rw [doubledRank_cons, List.map_cons, List.sum_cons, List.length_cons]
    omega

/-- **The sum of the ranks** does not depend on the values. -/
theorem sum_doubledRank [RankOrder α] (l : List (α × ℕ)) :
    (l.map (doubledRank l)).sum = l.length * (l.length + 1) := by
  induction l with
  | nil => rfl
  | cons x l ih =>
    have hself := rankGain_add_rankGain x x
    have hx := doubledRank_add_sum l x
    have hothers : (l.map (doubledRank (x :: l))).sum
        = (l.map (rankGain x)).sum + (l.map (doubledRank l)).sum := by
      rw [← List.sum_map_add]
      exact congrArg List.sum (List.map_congr_left fun y _ => doubledRank_cons x l y)
    rw [List.map_cons, List.sum_cons, doubledRank_cons, hothers, ih, List.length_cons]
    linarith

theorem sum_doubledRank_div_two [RankOrder α] {K : Type*} [Field K] (l : List (α × ℕ)) :
    (l.map fun y => (doubledRank l y : K) / 2).sum = l.length * (l.length + 1) / 2 := by
  have htotal := congrArg (Nat.cast : ℕ → K) (sum_doubledRank l)
  rw [Nat.cast_list_sum, List.map_map, Nat.cast_mul, Nat.cast_add, Nat.cast_one] at htotal
  simp only [div_eq_mul_inv]
  rw [List.sum_map_mul_right, ← htotal]
  rfl

/-! ### Ranks of values that equal themselves -/

/-- Counting values at positions is counting values. -/
theorem countP_zipIdx {β : Type*} (values : List β) (p : β → Bool) :
    values.zipIdx.countP (fun x => p x.1) = values.countP p := by
  conv_rhs => rw [← List.zipIdx_map_fst 0 values, List.countP_map]
  rfl

/-- The rank of `v` among the values, counted: it comes behind the values sorted before it and
shares the ranks of those equal to it. -/
def countedRank (values : List α) (v : α) : α :=
  ((2 * values.countP (fun x => Scalar.precedes x v && !(x == v))
    + values.countP (· == v) + 1 : ℕ) : α) / ((2 : ℕ) : α)

theorem countedRank_perm {l l' : List α} (h : l.Perm l') (v : α) :
    countedRank l v = countedRank l' v := by
  rw [countedRank, countedRank, h.countP_eq, h.countP_eq]

/-- The rank of a value that equals itself does not depend on its position. -/
theorem doubledRank_zipIdx [RankOrder α] {values : List α} {y : α × ℕ} (hy : y ∈ values.zipIdx)
    (hself : y.1 == y.1) :
    doubledRank values.zipIdx y
      = 2 * values.countP (fun x => Scalar.precedes x y.1 && !(x == y.1))
        + values.countP (· == y.1) + 1 := by
  have hshares : ∀ x ∈ values.zipIdx, sharesRank x y = (x.1 == y.1) := by
    intro x hx
    rw [sharesRank, Bool.eq_iff_iff, Bool.or_eq_true, beq_iff_eq (a := x.2)]
    refine ⟨fun hor => hor.elim id fun hpos => ?_, Or.inl⟩
    rw [fst_eq_of_mem_zipIdx hx hy hpos]
    exact hself
  have hbefore : ∀ x ∈ values.zipIdx,
      (sortsBefore x y && !sharesRank x y) = (Scalar.precedes x.1 y.1 && !(x.1 == y.1)) := by
    intro x hx
    rw [hshares x hx, sortsBefore]
    cases hxy : Scalar.precedes x.1 y.1 <;> cases hyx : Scalar.precedes y.1 x.1
    · rfl
    · rfl
    · rw [Bool.not_false, Bool.true_or, Bool.and_true]
    · -- Two values each of which precedes the other are equal.
      have hbeq : x.1 == y.1 :=
        RankOrder.beq_symm _ _ (RankOrder.beq_of_between _ _ _ hyx hxy hself)
      rw [hbeq, Bool.not_true, Bool.and_false, Bool.and_false]
  rw [doubledRank, ← countP_zipIdx values, ← countP_zipIdx values (· == y.1)]
  congr 2
  · exact congrArg (2 * ·) (List.countP_congr fun x hx => by rw [hbefore x hx])
  · exact List.countP_congr fun x hx => by rw [hshares x hx]

/-- Where every value equals itself, the rank of a value does not depend on its position. -/
theorem averageRanks_eq_map_countedRank [RankOrder α] {values : List α}
    (h : ∀ v ∈ values, v == v) : averageRanks values = values.map (countedRank values) := by
  have hrank : ∀ y ∈ values.zipIdx,
      ((doubledRank values.zipIdx y : ℕ) : α) / ((2 : ℕ) : α) = countedRank values y.1 := by
    intro y hy
    rw [doubledRank_zipIdx hy (h _ (List.fst_mem_of_mem_zipIdx hy)), countedRank]
  rw [averageRanks_eq, List.map_congr_left hrank]
  conv_rhs => rw [← List.zipIdx_map_fst 0 values, List.map_map]
  simp only [List.zipIdx_map_fst]
  rfl

/-! ### Ranks in a linear order -/

section LinearOrder

variable [LinearOrder α] (hprecedes : ∀ x y : α, Scalar.precedes x y = decide (x ≤ y))
  (hbeq : ∀ x y : α, Scalar.beq x y = decide (x = y))
include hprecedes hbeq

theorem rankOrder_of_linearOrder : RankOrder α := by
  have heq : ∀ x y : α, Scalar.beq x y = true ↔ x = y := fun x y => by rw [hbeq, decide_eq_true_iff]
  have hle : ∀ x y : α, Scalar.precedes x y = true ↔ x ≤ y := fun x y => by
    rw [hprecedes, decide_eq_true_iff]
  constructor
  · intro x y
    simpa [hle] using le_total x y
  · intro x y z hxy hyz
    exact (hle x z).mpr (((hle x y).mp hxy).trans ((hle y z).mp hyz))
  · intro x y h
    exact (heq y x).mpr ((heq x y).mp h).symm
  · intro x y z hxy hyz
    exact (heq x z).mpr (((heq x y).mp hxy).trans ((heq y z).mp hyz))
  · intro x y z hxy hyz hxz
    rw [(heq x z).mp hxz] at hxy ⊢
    exact (heq z y).mpr (le_antisymm ((hle z y).mp hxy) ((hle y z).mp hyz))

theorem countedRank_of_linearOrder (values : List α) (v : α) : countedRank values v
    = ((2 * values.countP (· < v) + values.count v + 1 : ℕ) : α) / ((2 : ℕ) : α) := by
  have hbelow : values.countP (fun x => Scalar.precedes x v && !Scalar.beq x v)
      = values.countP (· < v) := by
    refine List.countP_congr fun x _ => ?_
    rw [hprecedes, hbeq, Bool.and_eq_true, Bool.not_eq_true', decide_eq_true_iff,
      decide_eq_false_iff_not, decide_eq_true_iff]
    exact lt_iff_le_and_ne.symm
  have hties : values.countP (fun x => Scalar.beq x v) = values.count v :=
    List.countP_congr fun x _ => by rw [hbeq, beq_eq_decide]
  show ((2 * values.countP (fun x => Scalar.precedes x v && !Scalar.beq x v)
    + values.countP (fun x => Scalar.beq x v) + 1 : ℕ) : α) / ((2 : ℕ) : α) = _
  rw [hbelow, hties]

end LinearOrder

/-- The average rank of `v` among the values: it shares the ranks of the values equal to it, which
follow those of the values below it. -/
noncomputable def midRank {β : Type*} [LinearOrder β] (values : List β) (v : β) : ℝ :=
  sharedRank (values.countP (· < v)) (values.countP (· < v) + values.count v)

section MidRank

variable {β : Type*} [LinearOrder β]

theorem midRank_eq (values : List β) (v : β) :
    midRank values v = values.countP (· < v) + (values.count v + 1) / 2 := by
  show ((values.countP (· < v) + (values.countP (· < v) + values.count v) + 1 : ℕ) : ℝ)
    / ((2 : ℕ) : ℝ) = _
  push_cast
  ring

theorem midRank_perm {l l' : List β} (h : l.Perm l') (v : β) : midRank l v = midRank l' v := by
  rw [midRank, midRank, h.countP_eq, h.count_eq]

/-- The ranks of the values below `w`, by those below `v < w`: the values between the two, and half
of the values equal to either. -/
theorem midRank_sub {l : List β} {v w : β} (h : v < w) :
    midRank l w - midRank l v
      = l.countP (fun x => v < x && x < w) + (l.count v + l.count w : ℝ) / 2 := by
  have hsplit : l.countP (· < w)
      = l.countP (· < v) + l.count v + l.countP (fun x => v < x && x < w) := by
    induction l with
    | nil => rfl
    | cons x l ih =>
      simp only [List.countP_cons, List.count_cons, ih, beq_iff_eq, Bool.and_eq_true,
        decide_eq_true_eq]
      rcases lt_trichotomy x v with hx | rfl | hx
      · simp [hx, hx.trans h, hx.not_gt, hx.ne]
        omega
      · simp [h]
        omega
      · simp [hx, hx.not_gt, hx.ne']
        omega
  rw [midRank_eq, midRank_eq, hsplit]
  push_cast
  ring

/-- A value that occurs has a rank of its own. -/
theorem midRank_lt_midRank {l : List β} {v w : β} (h : v < w) (hv : v ∈ l) :
    midRank l v < midRank l w := by
  have hcount : (0 : ℝ) < l.count v := by exact_mod_cast List.count_pos_iff.mpr hv
  have hsub := midRank_sub (l := l) h
  have hnonneg : (0 : ℝ) ≤ l.countP (fun x => v < x && x < w) := Nat.cast_nonneg _
  have hnonneg' : (0 : ℝ) ≤ l.count w := Nat.cast_nonneg _
  linarith

theorem strictMonoOn_midRank (l : List β) : StrictMonoOn (midRank l) {v | v ∈ l} :=
  fun _ hv _ _ h => midRank_lt_midRank h hv

theorem midRank_inj {l : List β} {v w : β} (hv : v ∈ l) (hw : w ∈ l) :
    midRank l v = midRank l w ↔ v = w :=
  (strictMonoOn_midRank l).injOn.eq_iff hv hw

section Map

variable {γ : Type*} [LinearOrder γ] {f : β → γ} {l : List β} {v : β}

theorem countP_add_count_add_countP (l : List β) (v : β) :
    l.countP (· < v) + l.count v + l.countP (v < ·) = l.length := by
  induction l with
  | nil => rfl
  | cons x l ih =>
    simp only [List.countP_cons, List.count_cons, List.length_cons, beq_iff_eq, decide_eq_true_eq]
    rcases lt_trichotomy x v with hx | rfl | hx
    · simp [hx, hx.not_gt, hx.ne]
      omega
    · simp
      omega
    · simp [hx, hx.not_gt, hx.ne']
      omega

variable {s : Set β} (hl : ∀ x ∈ l, x ∈ s) (hv : v ∈ s)
include hl hv

theorem count_map_of_injOn (hf : Set.InjOn f s) : (l.map f).count (f v) = l.count v := by
  rw [List.count, List.countP_map, List.count]
  refine List.countP_congr fun x hx => ?_
  simpa using hf.eq_iff (hl x hx) hv

/-- Recoding the values without change of their order does not change the ranks. -/
theorem midRank_map_of_strictMonoOn (hf : StrictMonoOn f s) :
    midRank (l.map f) (f v) = midRank l v := by
  have hbelow : (l.map f).countP (· < f v) = l.countP (· < v) := by
    rw [List.countP_map]
    refine List.countP_congr fun x hx => ?_
    simpa using hf.lt_iff_lt (hl x hx) hv
  rw [midRank_eq, midRank_eq, count_map_of_injOn hl hv hf.injOn, hbelow]

/-- Recoding the values in the opposite order counts the ranks from the other end. -/
theorem midRank_map_of_strictAntiOn (hf : StrictAntiOn f s) :
    midRank (l.map f) (f v) = l.length + 1 - midRank l v := by
  have hbelow : (l.map f).countP (· < f v) = l.countP (v < ·) := by
    rw [List.countP_map]
    refine List.countP_congr fun x hx => ?_
    simpa using hf.lt_iff_gt (hl x hx) hv
  have hlength : ((l.countP (· < v) + l.count v + l.countP (v < ·) : ℕ) : ℝ) = l.length := by
    exact_mod_cast countP_add_count_add_countP l v
  rw [midRank_eq, midRank_eq, count_map_of_injOn hl hv hf.injOn, hbelow, ← hlength]
  push_cast
  ring

end Map

theorem midRank_map {γ : Type*} [LinearOrder γ] {f : β → γ} (hf : StrictMono f) (l : List β)
    (v : β) : midRank (l.map f) (f v) = midRank l v :=
  midRank_map_of_strictMonoOn (fun _ _ => Set.mem_univ _) (Set.mem_univ v) (hf.strictMonoOn _)

end MidRank

/-! ### Ranks of real numbers -/

instance : RankOrder ℝ :=
  rankOrder_of_linearOrder (fun _ _ => rfl) fun _ _ => rfl

theorem countedRank_eq_midRank (values : List ℝ) (v : ℝ) :
    countedRank values v = midRank values v := by
  rw [countedRank_of_linearOrder (fun _ _ => rfl) (fun _ _ => rfl), midRank_eq]
  push_cast
  ring

theorem averageRanks_eq_map (values : List ℝ) :
    averageRanks values = values.map (midRank values) := by
  rw [averageRanks_eq_map_countedRank fun v _ => beq_self_eq_true v]
  exact List.map_congr_left fun v _ => countedRank_eq_midRank values v

end Statistics

end InterRater
