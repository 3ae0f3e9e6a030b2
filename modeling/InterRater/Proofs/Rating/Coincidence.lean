import InterRater.Proofs.Number.Exact
import InterRater.Proofs.Order.Sorting
import InterRater.Proofs.Statistics.Moments
import InterRater.Proofs.Statistics.Ranks
import InterRater.Rating.Alpha
import Mathlib.Algebra.BigOperators.Group.Finset.Sigma
import Mathlib.Algebra.BigOperators.Group.List.Lemmas
import Mathlib.Algebra.BigOperators.Ring.Finset
import Mathlib.Tactic.FieldSimp
import Mathlib.Tactic.Ring

/-!
# The coincidence table in exact arithmetic

Items with two ratings or more are regarded, as lists of their ratings; `pooled` is the list of
all ratings.

* `coincidence_unitsWith`: a coincidence is the sum of what all items contribute to it;
* `marginal_eq`: the coincidences of a value add up to the number of its ratings;
* `distanceAt_table`: the distance of two values, computed by running sums of the marginals, is
  the squared difference of their mid-ranks in `pooled` (`Statistics.midRank`).
-/

namespace InterRater

namespace Alpha

/-! ### The values that occur -/

theorem mem_domain (units : List (List ℤ)) (c : ℤ) : c ∈ domain units ↔ c ∈ units.flatten := by
  rw [domain, Sorting.mem_eraseReps, List.mem_mergeSort]

theorem domain_pairwise (units : List (List ℤ)) : (domain units).Pairwise (· < ·) :=
  Sorting.pairwise_eraseReps (Sorting.pairwise_mergeSort_key id units.flatten)

theorem domain_nodup (units : List (List ℤ)) : (domain units).Nodup :=
  (domain_pairwise units).imp fun h => h.ne

/-- The ratings of an item are among all ratings. -/
theorem subset_flatten {units : List (List ℤ)} {unit : List ℤ} (h : unit ∈ units) :
    unit ⊆ units.flatten :=
  fun _ hx => List.mem_flatten.mpr ⟨unit, h, hx⟩

/-- The ratings below a value, counted value by value. -/
theorem sum_count_of_domain_eq_append {units : List (List ℤ)} {pre suf : List ℤ} {c : ℤ}
    (h : domain units = pre ++ c :: suf) :
    (pre.map units.flatten.count).sum = units.flatten.countP (· < c) := by
  have hpair := domain_pairwise units
  rw [h] at hpair
  obtain ⟨-, hsuf, hpre⟩ := List.pairwise_append.mp hpair
  have hfilter : (domain units).filter (· < c) = pre := by
    rw [h, List.filter_append, List.filter_eq_self.mpr, List.filter_eq_nil_iff.mpr,
      List.append_nil]
    · intro k hk
      rcases List.mem_cons.mp hk with rfl | hk
      · simp
      · simpa using ((List.pairwise_cons.mp hsuf).1 k hk).le
    · intro k hk
      simpa using hpre k hk c List.mem_cons_self
  have hperm : (domain units).Perm units.flatten.dedup :=
    (List.perm_ext_iff_of_nodup (domain_nodup units) (List.nodup_dedup _)).mpr fun k => by
      rw [mem_domain, List.mem_dedup]
  rw [← hfilter, ((hperm.filter _).map _).sum_eq,
    List.sum_map_count_dedup_filter_eq_countP]

/-- Two values are needed for two ratings to differ. -/
theorem two_le_length_domain_iff (units : List (List ℤ)) :
    2 ≤ (domain units).length ↔ ∃ x ∈ units.flatten, ∃ y ∈ units.flatten, x ≠ y := by
  simp only [← mem_domain]
  constructor
  · intro h
    have hlt := List.pairwise_iff_getElem.mp (domain_pairwise units) 0 1 (by omega) h (by omega)
    exact ⟨_, List.getElem_mem (by omega), _, List.getElem_mem h, hlt.ne⟩
  · rintro ⟨x, hx, y, hy, hne⟩
    by_contra hlt
    have hlen : (domain units).length ≤ 1 := by omega
    rcases hd : domain units with _ | ⟨a, _ | ⟨b, l⟩⟩
    · simp [hd] at hx
    · rw [hd, List.mem_singleton] at hx hy
      exact hne (hx.trans hy.symm)
    · simp [hd] at hlen

/-! ### Sums over the values -/

theorem sum_domain_map (units : List (List ℤ)) (f : ℤ → ℝ) :
    ((domain units).map f).sum = ∑ c ∈ (domain units).toFinset, f c :=
  (List.sum_toFinset f (domain_nodup units)).symm

/-- A sum over ratings, value by value. -/
theorem sum_map_eq_sum_count {units : List (List ℤ)} {l : List ℤ} (h : l ⊆ units.flatten)
    (f : ℤ → ℝ) :
    (l.map f).sum = ∑ c ∈ (domain units).toFinset, (l.count c : ℝ) * f c := by
  have hsubset : l ⊆ domain units := fun c hc => (mem_domain units c).mpr (h hc)
  rw [Statistics.sum_map_eq_sum_count (domain_nodup units) hsubset, sum_domain_map]

/-- Sums over items and over values may be taken in either order. -/
theorem sum_sum_map (values : Finset ℤ) (units : List (List ℤ)) (g : List ℤ → ℤ → ℝ) :
    ∑ k ∈ values, (units.map fun unit => g unit k).sum
      = (units.map fun unit => ∑ k ∈ values, g unit k).sum := by
  induction units with
  | nil => simp
  | cons unit units ih => simp only [List.map_cons, List.sum_cons, Finset.sum_add_distrib, ih]

/-! ### Coincidences -/

theorem contribution_eq (unit : List ℤ) (c k : ℤ) :
    (contribution unit c k : ℝ)
      = unit.count c * (if c = k then unit.count k - 1 else unit.count k : ℝ)
        * (1 / (unit.length - 1 : ℕ)) := rfl

theorem contribution_eq_zero {unit : List ℤ} {c k : ℤ} (h : c ∉ unit ∨ k ∉ unit) :
    (contribution unit c k : ℝ) = 0 := by
  rw [contribution_eq]
  by_cases hc : c ∈ unit
  · have hk : k ∉ unit := h.resolve_left fun hn => hn hc
    have hck : c ≠ k := fun heq => hk (heq ▸ hc)
    rw [if_neg hck, List.count_eq_zero_of_not_mem hk]
    simp
  · rw [List.count_eq_zero_of_not_mem hc]
    simp

theorem coincidence_eq (units : List (List ℤ)) (c k : ℤ) :
    (coincidence units c k : ℝ)
      = (units.map fun unit => (contribution unit c k : ℝ)).sum := by
  -- Where `k` does not occur the step leaves out a contribution of 0.
  have hstep : (fun (total : ℝ) (unit : List ℤ) =>
      if unit.contains k then total + contribution unit c k else total)
        = fun total unit => total + contribution unit c k := by
    funext total unit
    by_cases hk : k ∈ unit
    · simp [hk]
    · simp [hk, contribution_eq_zero (Or.inr hk)]
  show units.foldl (fun (total : ℝ) (unit : List ℤ) =>
    if unit.contains k then total + contribution unit c k else total) 0 = _
  rw [hstep, Scalar.foldl_add_eq, zero_add]

/-- The items without `c` contribute nothing. -/
theorem sum_contribution_unitsWith {units : List (List ℤ)} (h : ∀ unit ∈ units, 2 ≤ unit.length)
    (c k : ℤ) :
    ((unitsWith units c).map fun unit => (contribution unit c k : ℝ)).sum
      = (units.map fun unit => (contribution unit c k : ℝ)).sum := by
  induction units with
  | nil => rfl
  | cons unit units ih =>
    have ih := ih fun u hu => h u (List.mem_cons_of_mem _ hu)
    rw [unitsWith] at ih ⊢
    have hunit := h unit List.mem_cons_self
    by_cases hc : c ∈ unit
    · rw [List.filter_cons_of_pos (by simp [hunit, hc]), List.map_cons, List.sum_cons, ih,
        List.map_cons, List.sum_cons]
    · rw [List.filter_cons_of_neg (by simp [hc]), ih, List.map_cons, List.sum_cons,
        contribution_eq_zero (Or.inl hc), zero_add]

/-- A coincidence, added up over all items. -/
theorem coincidence_unitsWith {units : List (List ℤ)} (h : ∀ unit ∈ units, 2 ≤ unit.length)
    (c k : ℤ) :
    (coincidence (unitsWith units c) c k : ℝ)
      = (units.map fun unit => (contribution unit c k : ℝ)).sum := by
  rw [coincidence_eq, sum_contribution_unitsWith h]

/-- Each rating of a value has all other ratings of its item for partners. -/
theorem sum_contribution {units : List (List ℤ)} {unit : List ℤ} (hunit : unit ∈ units)
    (h : 2 ≤ unit.length) (c : ℤ) :
    ∑ k ∈ (domain units).toFinset, (contribution unit c k : ℝ) = unit.count c := by
  by_cases hc : c ∈ unit
  · have hsub := subset_flatten hunit
    have hmem : c ∈ (domain units).toFinset :=
      List.mem_toFinset.mpr ((mem_domain units c).mpr (hsub hc))
    -- One of the ratings of `c` is the rating itself, which is no partner.
    have hpartners : ∑ k ∈ (domain units).toFinset,
        (if c = k then unit.count k - 1 else unit.count k : ℝ) = (unit.length - 1 : ℕ) := by
      have hlen := sum_map_eq_sum_count hsub fun _ => 1
      simp only [List.map_const', List.sum_replicate, nsmul_eq_mul, mul_one] at hlen
      have hite : ∀ k, (if c = k then unit.count k - 1 else unit.count k : ℝ)
          = unit.count k - if c = k then 1 else 0 := fun k => by split_ifs <;> simp
      simp only [hite, Finset.sum_sub_distrib, ← hlen, Finset.sum_ite_eq, if_pos hmem]
      rw [Nat.cast_sub (by omega), Nat.cast_one]
    have hne : ((unit.length - 1 : ℕ) : ℝ) ≠ 0 := by
      have : unit.length - 1 ≠ 0 := by omega
      exact_mod_cast this
    simp only [contribution_eq, ← Finset.sum_mul, ← Finset.mul_sum, hpartners]
    field_simp
  · rw [List.count_eq_zero_of_not_mem hc, Nat.cast_zero]
    exact Finset.sum_eq_zero fun k _ => contribution_eq_zero (Or.inl hc)

/-- The row of the value `c` in the coincidence table. -/
def rowOf {α : Type} [Scalar α] (units : List (List ℤ)) (c : ℤ) : Row α :=
  let entries := (domain units).map fun k => (k, coincidence (unitsWith units c) c k)
  ⟨c, entries, Scalar.sum (entries.map (·.2))⟩

theorem table_eq {α : Type} [Scalar α] (units : List (List ℤ)) :
    table (α := α) units = (domain units).map (rowOf units) := rfl

/-- The coincidences of a value add up to the number of its ratings. -/
theorem marginal_eq {units : List (List ℤ)} (h : ∀ unit ∈ units, 2 ≤ unit.length) (c : ℤ) :
    (rowOf units c : Row ℝ).marginal = units.flatten.count c := by
  rw [rowOf, Scalar.sum_eq, List.map_map]
  show ((domain units).map fun k => (coincidence (unitsWith units c) c k : ℝ)).sum = _
  simp only [coincidence_unitsWith h]
  have hunits : units.map (fun unit => ∑ k ∈ (domain units).toFinset, (contribution unit c k : ℝ))
      = units.map fun unit => (unit.count c : ℝ) :=
    List.map_congr_left fun unit hunit => sum_contribution hunit (h unit hunit) c
  rw [sum_domain_map, sum_sum_map, hunits, List.count_flatten, Nat.cast_list_sum, List.map_map]
  rfl

/-! ### Distances -/

/-- The squared difference of the mid-ranks of two values. -/
noncomputable def rankDistance (pooled : List ℤ) (c k : ℤ) : ℝ :=
  (Statistics.midRank pooled c - Statistics.midRank pooled k) ^ 2

theorem rankDistance_self (pooled : List ℤ) (c : ℤ) : rankDistance pooled c c = 0 := by
  simp [rankDistance]

theorem rankDistance_comm (pooled : List ℤ) (c k : ℤ) :
    rankDistance pooled c k = rankDistance pooled k c :=
  sub_sq_comm _ _

section Lookup

variable {α : Type} [Scalar α]

theorem length_distancesFrom (low : Row α) (rows : List (Row α)) : ∀ sum : α,
    (distancesFrom low sum rows).length = rows.length := by
  induction rows with
  | nil => intro sum; rfl
  | cons high rows ih => intro sum; rw [distancesFrom, List.length_cons, ih, List.length_cons]

theorem distances_getElem? (rows : List (Row α)) : ∀ i : ℕ,
    (distances rows)[i]? = rows[i]?.map fun low => distancesFrom low (-0) (rows.drop i) := by
  induction rows with
  | nil => intro i; rfl
  | cons low rows ih =>
    intro i
    cases i with
    | zero => rfl
    | succ i => rw [distances, List.getElem?_cons_succ, ih, List.getElem?_cons_succ,
        List.drop_succ_cons]

/-- The table of distances has an entry for any two rows. -/
theorem exists_distance (rows : List (Row α)) {i j : ℕ} (hi : i < rows.length)
    (hj : j < rows.length) :
    ∃ entries d, (distances rows)[min i j]? = some entries ∧
      entries[max i j - min i j]? = some d := by
  have hmin : min i j < rows.length := by omega
  have hentries := distances_getElem? rows (min i j)
  rw [List.getElem?_eq_getElem hmin, Option.map_some] at hentries
  have hlen : max i j - min i j
      < (distancesFrom rows[min i j] (-0) (rows.drop (min i j))).length := by
    rw [length_distancesFrom, List.length_drop]
    omega
  exact ⟨_, _, hentries, List.getElem?_eq_getElem hlen⟩

theorem distanceAt_eq {rows : List (Row α)} {i j : ℕ} {entries : List α} {d : α}
    (hentries : (distances rows)[min i j]? = some entries)
    (hd : entries[max i j - min i j]? = some d) :
    distanceAt ((distances rows).map List.toArray).toArray i j = d := by
  simp [distanceAt, hentries, hd]

end Lookup

/-- The distances from the value `a`, where the running sum has reached the values `suf`. -/
theorem distancesFrom_eq {units : List (List ℤ)} (h : ∀ unit ∈ units, 2 ≤ unit.length) (a : ℤ)
    (suf : List ℤ) : ∀ pre, domain units = pre ++ suf →
      distancesFrom (rowOf units a)
          ((pre.map units.flatten.count).sum - units.flatten.countP (· < a) : ℝ)
          (suf.map (rowOf units))
        = suf.map fun c => rankDistance units.flatten c a := by
  induction suf with
  | nil => intro pre _; rfl
  | cons c suf ih =>
    intro pre hpre
    have hbelow : ((pre.map units.flatten.count).sum : ℝ) = units.flatten.countP (· < c) := by
      exact_mod_cast congrArg (Nat.cast (R := ℝ)) (sum_count_of_domain_eq_append hpre)
    have hnext := ih (pre ++ [c]) (by rw [hpre, List.append_assoc]; rfl)
    rw [List.map_cons, distancesFrom, List.map_cons]
    -- The marginals add up to the ratings before `c`, which are those below it.
    congr 1
    · rw [Scalar.square_eq, marginal_eq h, marginal_eq h, rankDistance, Statistics.midRank_eq,
        Statistics.midRank_eq, hbelow]
      show ((_ : ℝ) - _ + _ - (_ + _) / ((2 : ℕ) : ℝ)) ^ 2 = _
      push_cast
      ring
    · rw [← hnext]
      congr 1
      rw [List.map_append, List.sum_append, marginal_eq h]
      show (_ : ℝ) - _ + _ = _
      simp only [List.map_cons, List.map_nil, List.sum_cons, List.sum_nil]
      push_cast
      ring

/-- The running sums give the squared difference of the mid-ranks. -/
theorem distanceAt_table {units : List (List ℤ)} (h : ∀ unit ∈ units, 2 ≤ unit.length) {i j : ℕ}
    (hi : i < (domain units).length) (hj : j < (domain units).length) :
    distanceAt ((distances (table units)).map List.toArray).toArray i j
      = rankDistance units.flatten (domain units)[i] (domain units)[j] := by
  have hmin : min i j < (domain units).length := by omega
  have hmax : max i j < (domain units).length := by omega
  have hdrop := List.drop_eq_getElem_cons hmin
  have hsplit : domain units
      = (domain units).take (min i j) ++ (domain units).drop (min i j) :=
    (List.take_append_drop _ _).symm
  have hstart : (-0 : ℝ)
      = ((((domain units).take (min i j)).map units.flatten.count).sum
        - units.flatten.countP (· < (domain units)[min i j]) : ℝ) := by
    rw [sum_count_of_domain_eq_append (hsplit.trans (by rw [hdrop])), sub_self, neg_zero]
  have hentries := distances_getElem? (table (α := ℝ) units) (min i j)
  rw [table_eq, List.getElem?_map, List.getElem?_eq_getElem hmin, Option.map_some,
    Option.map_some, ← List.map_drop] at hentries
  -- The sum starts from 0 at the lower value, as if all smaller values were taken off again.
  have hfrom := distancesFrom_eq h (domain units)[min i j] _ _ hsplit
  rw [← hstart] at hfrom
  refine distanceAt_eq (hentries.trans (congrArg some hfrom)) ?_
  rw [List.getElem?_map, List.getElem?_drop, show min i j + (max i j - min i j) = max i j by omega,
    List.getElem?_eq_getElem hmax, Option.map_some]
  rcases le_total i j with hij | hij
  · simp only [min_eq_left hij, max_eq_right hij]
    rw [rankDistance_comm]
  · simp only [min_eq_right hij, max_eq_left hij]

/-! ### Pairs of values -/

/-- The pair of the values `c` and `k` of the table. -/
noncomputable def pairOf (units : List (List ℤ)) (c k : ℤ) : ValuePair ℝ :=
  ⟨(rowOf units c).marginal, (rowOf units k).marginal, coincidence (unitsWith units c) c k,
    rankDistance units.flatten c k⟩

theorem getElem_zipIdx_inj {l : List ℤ} (h : l.Nodup) {x y : ℤ × ℕ} (hx : x ∈ l.zipIdx)
    (hy : y ∈ l.zipIdx) : x.2 = y.2 ↔ x.1 = y.1 := by
  refine ⟨Statistics.fst_eq_of_mem_zipIdx hx hy, fun heq => ?_⟩
  have hx := List.mem_zipIdx_iff_getElem?.mp hx
  have hy := List.mem_zipIdx_iff_getElem?.mp hy
  rw [← heq] at hy
  exact (List.getElem?_inj (List.getElem?_eq_some_iff.mp hx).1 h).mp (hx.trans hy.symm)

theorem flatMap_zipIdx {β γ : Type} (l : List β) (f : β → List γ) :
    l.zipIdx.flatMap (fun x => f x.1) = l.flatMap f := by
  conv_rhs => rw [← List.zipIdx_map_fst 0 l, List.flatMap_map]

theorem filterMap_zipIdx {β γ : Type} (l : List β) (f : β → Option γ) :
    l.zipIdx.filterMap (fun x => f x.1) = l.filterMap f := by
  conv_rhs => rw [← List.zipIdx_map_fst 0 l, List.filterMap_map]
  rfl

/-- The pairs of different rows are those of different values. -/
theorem valuePairs_table {units : List (List ℤ)} (h : ∀ unit ∈ units, 2 ≤ unit.length) :
    valuePairs (table (α := ℝ) units)
      = (domain units).flatMap fun c =>
          (domain units).filterMap fun k => if c = k then none else some (pairOf units c k) := by
  rw [← flatMap_zipIdx, valuePairs, table_eq, List.zipIdx_map, List.flatMap_map]
  refine List.flatMap_congr fun x hx => ?_
  rw [← filterMap_zipIdx]
  simp only [Prod.map, id]
  rw [show (rowOf units x.1 : Row ℝ).entries
      = (domain units).map fun k => (k, coincidence (unitsWith units x.1) x.1 k) from rfl,
    List.zip_map', List.zipIdx_map, List.filterMap_map]
  refine List.filterMap_congr fun y hy => ?_
  have hinj := getElem_zipIdx_inj (domain_nodup units) hx hy
  by_cases hxy : x.1 = y.1
  · simp [hxy, hinj.mpr hxy]
  · have hne : x.2 ≠ y.2 := fun heq => hxy (hinj.mp heq)
    obtain ⟨hxlt, hxval⟩ := List.getElem?_eq_some_iff.mp (List.mem_zipIdx_iff_getElem?.mp hx)
    obtain ⟨hylt, hyval⟩ := List.getElem?_eq_some_iff.mp (List.mem_zipIdx_iff_getElem?.mp hy)
    have hdist := distanceAt_table h hxlt hylt
    rw [hxval, hyval, table_eq] at hdist
    simp only [Function.comp, Prod.map, id, if_neg hne, if_neg hxy, hdist]
    rfl

/-- A term that is 0 for a value paired with itself may be added for it. -/
theorem sum_filterMap_pairOf (units : List (List ℤ)) {f : ValuePair ℝ → ℝ}
    (hf : ∀ c, f (pairOf units c c) = 0) (c : ℤ) (l : List ℤ) :
    ((l.filterMap fun k => if c = k then none else some (pairOf units c k)).map f).sum
      = (l.map fun k => f (pairOf units c k)).sum := by
  induction l with
  | nil => rfl
  | cons k l ih =>
    rw [List.map_cons, List.sum_cons, ← ih]
    by_cases hck : c = k
    · rw [List.filterMap_cons_none (by simp [hck]), hck, hf, zero_add]
    · rw [List.filterMap_cons_some (by rw [if_neg hck]), List.map_cons, List.sum_cons]

/-- Terms over the pairs of different values add up to a double sum over the values. -/
theorem foldl_valuePairs {units : List (List ℤ)} (h : ∀ unit ∈ units, 2 ≤ unit.length)
    (f : ValuePair ℝ → ℝ) (hf : ∀ c, f (pairOf units c c) = 0) :
    (valuePairs (table units)).foldl (fun sum p => sum + f p) 0
      = ∑ c ∈ (domain units).toFinset, ∑ k ∈ (domain units).toFinset, f (pairOf units c k) := by
  rw [Scalar.foldl_add_eq, zero_add, valuePairs_table h, List.map_flatMap, List.flatMap_def,
    List.sum_flatten, List.map_map]
  simp only [Function.comp_def, sum_filterMap_pairOf units hf, sum_domain_map]

end Alpha

end InterRater
