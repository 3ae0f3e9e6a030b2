import InterRater.Proofs.Number.Comparison
import InterRater.Proofs.Number.Value

/-!
# The ranks of rounded numbers

`countedAt` counts the rank of a value of a list of rounded numbers: of a NaN by its place in the
order of all patterns, of every other value by the number of values that are sorted before it
without being equal to it, and the number of values equal to it.  The two zeros are equal, although
the order separates them.

`averageRanks_counted`: these are the ranks, without an error in lists of up to `2 ^ 52` values, and
they add up to `n * (n + 1) / 2`.
-/

namespace InterRater

namespace Statistics

/-- The rank of the value `v` at position `i`, counted. -/
def countedAt (values : List Binary64) (i : ℕ) (v : Binary64) : ℚ :=
  if v.isNaN then
    1 + values.zipIdx.countP fun x => x.1.rank < v.rank || x.1.rank == v.rank && x.2 < i
  else
    values.countP (fun x => x.rank < v.rank && !Scalar.beq x v)
      + (values.countP (fun x => Scalar.beq x v) + 1) / 2

section Counts

variable {values : List Binary64} {i : ℕ} {v : Binary64}

/-- A NaN shares its rank with no other value. -/
theorem doubledRank_of_isNaN (hmem : (v, i) ∈ values.zipIdx) (hnan : v.isNaN = true) :
    doubledRank values.zipIdx (v, i) = 2 * (1 + values.zipIdx.countP
      fun x => x.1.rank < v.rank || x.1.rank == v.rank && x.2 < i) := by
  have hshares : ∀ x : Binary64 × ℕ, sharesRank x (v, i) = (x.2 == i) := by
    intro x
    have hne : Scalar.beq x.1 v = false := by
      rw [← Bool.not_eq_true, Binary64.beq_iff]
      exact fun h => absurd hnan (by simp [h.2.1])
    show (Scalar.beq x.1 v || x.2 == i) = _
    rw [hne, Bool.false_or]
  have hone : values.zipIdx.countP (sharesRank · (v, i)) = 1 := by
    simp only [hshares]
    have hcount : (values.zipIdx.map Prod.snd).count i = 1 := by
      refine List.count_eq_one_of_mem ?_ (List.mem_map_of_mem hmem)
      rw [List.zipIdx_map_snd]
      exact List.nodup_range'
    rwa [List.count, List.countP_map] at hcount
  have hbefore : ∀ x ∈ values.zipIdx, (sortsBefore x (v, i) && !sharesRank x (v, i))
      = (x.1.rank < v.rank || x.1.rank == v.rank && x.2 < i) := by
    rintro ⟨w, j⟩ hx
    rw [hshares, Bool.eq_iff_iff]
    simp only [sortsBefore, Bool.and_eq_true, Bool.or_eq_true, Bool.not_eq_true',
      ← Bool.not_eq_true, Binary64.precedes_iff, decide_eq_true_eq, beq_iff_eq, not_le]
    constructor
    · rintro ⟨⟨hle, hlt | hji⟩, -⟩
      · exact Or.inl hlt
      · exact (lt_or_eq_of_le hle).imp id fun heq => ⟨heq, hji⟩
    · rintro (hlt | ⟨heq, hji⟩)
      · -- A value sorted before another one is not at its position.
        refine ⟨⟨hlt.le, Or.inl hlt⟩, fun hji => hlt.ne ?_⟩
        exact congrArg Binary64.rank (fst_eq_of_mem_zipIdx hx hmem hji)
      · exact ⟨⟨heq.le, Or.inr hji⟩, hji.ne⟩
  rw [doubledRank, hone, List.countP_congr fun x hx => by rw [hbefore x hx]]
  omega

theorem doubledRank_eq_countedAt (hmem : (v, i) ∈ values.zipIdx) :
    (doubledRank values.zipIdx (v, i) : ℚ) / 2 = countedAt values i v := by
  rw [countedAt]
  split_ifs with hnan
  · rw [doubledRank_of_isNaN hmem hnan]
    push_cast
    ring
  · rw [Bool.not_eq_true] at hnan
    have hself : Scalar.beq v v = true := Binary64.beq_iff.mpr ⟨hnan, hnan, rfl⟩
    -- Values that are not equal are not at one place of the order.
    have hbelow : values.countP (fun x => Scalar.precedes x v && !Scalar.beq x v)
        = values.countP (fun x => x.rank < v.rank && !Scalar.beq x v) := by
      refine List.countP_congr fun x _ => ?_
      simp only [Bool.and_eq_true, Bool.not_eq_true', Binary64.precedes_iff, decide_eq_true_eq]
      refine and_congr_left fun hne => ⟨fun hle => lt_of_le_of_ne hle fun heq => ?_, le_of_lt⟩
      have hbetween : Scalar.beq v x = true := RankOrder.beq_of_between v x v
        (Binary64.precedes_iff.mpr heq.ge) (Binary64.precedes_iff.mpr hle) hself
      have hbeq : Scalar.beq x v = true := RankOrder.beq_symm _ _ hbetween
      rw [hbeq] at hne
      cases hne
    have hrank : doubledRank values.zipIdx (v, i)
        = 2 * values.countP (fun x => Scalar.precedes x v && !Scalar.beq x v)
          + values.countP (fun x => Scalar.beq x v) + 1 := doubledRank_zipIdx hmem hself
    rw [hrank, hbelow]
    push_cast
    ring

/-- No rank is behind the length of the list. -/
theorem doubledRank_bounds (hmem : (v, i) ∈ values.zipIdx) :
    0 < doubledRank values.zipIdx (v, i) ∧
      doubledRank values.zipIdx (v, i) ≤ 2 * values.length := by
  refine ⟨Nat.succ_pos _, ?_⟩
  have htotal := doubledRank_add_sum values.zipIdx (v, i)
  have hself : 1 ≤ (values.zipIdx.map (rankGain (v, i))).sum := by
    have hgain : rankGain (v, i) (v, i) = 1 := by
      have htwice := rankGain_add_rankGain (v, i) (v, i)
      omega
    exact hgain ▸ List.single_le_sum (fun _ _ => Nat.zero_le _) _ (List.mem_map_of_mem hmem)
  rw [List.length_zipIdx] at htotal
  omega

end Counts

/-- **The ranks of rounded numbers are the counted ones.**  Each is the quotient by 2 of a natural
number, twice the counted rank, and not rounded in a list of up to `2 ^ 52` values.  The ranks add
up to the sum of the numbers from 1 to the length of the list. -/
theorem averageRanks_counted (values : List Binary64) :
    (averageRanks values).length = values.length ∧
    (∀ i v, values[i]? = some v → ∃ rank, (averageRanks values)[i]? = some rank ∧
      (∃ k : ℕ, (k : ℚ) / 2 = countedAt values i v ∧
        rank = (k : Binary64) / ((2 : ℕ) : Binary64)) ∧
      (2 * values.length ≤ 2 ^ 53 →
        rank.isFinite = true ∧ rank.toReal = countedAt values i v)) ∧
    (values.zipIdx.map fun y => countedAt values y.2 y.1).sum
      = values.length * (values.length + 1) / 2 ∧
    (2 * values.length ≤ 2 ^ 53 → ((averageRanks values).map Binary64.toReal).sum
      = values.length * (values.length + 1) / 2) := by
  have hexact : 2 * values.length ≤ 2 ^ 53 → ∀ y ∈ values.zipIdx,
      let rank := ((doubledRank values.zipIdx y : ℕ) : Binary64) / ((2 : ℕ) : Binary64)
      rank.isFinite = true ∧ rank.toReal = (doubledRank values.zipIdx y : ℝ) / 2 := by
    intro hlength y hy
    obtain ⟨hpos, hle⟩ := doubledRank_bounds hy
    exact Binary64.toReal_half hpos (hle.trans hlength)
  refine ⟨length_averageRanks values, ?_, ?_, ?_⟩
  · intro i v hi
    have hmem : (v, i) ∈ values.zipIdx := List.mk_mem_zipIdx_iff_getElem?.mpr hi
    have hcounted := doubledRank_eq_countedAt hmem
    refine ⟨_, ?_, ⟨_, hcounted, rfl⟩, fun hlength => ?_⟩
    · rw [averageRanks_eq, List.getElem?_map, List.getElem?_zipIdx, hi, Nat.zero_add]
      rfl
    · obtain ⟨hfinite, hreal⟩ := hexact hlength _ hmem
      refine ⟨hfinite, hreal.trans ?_⟩
      rw [← hcounted, Rat.cast_div, Rat.cast_natCast, Rat.cast_ofNat]
  · rw [← List.length_zipIdx (l := values), ← sum_doubledRank_div_two]
    exact congrArg List.sum (List.map_congr_left fun y hy => (doubledRank_eq_countedAt hy).symm)
  · intro hlength
    have hranks : (averageRanks values).map Binary64.toReal
        = values.zipIdx.map fun y => (doubledRank values.zipIdx y : ℝ) / 2 := by
      rw [averageRanks_eq, List.map_map]
      refine List.map_congr_left fun y hy => ?_
      rw [Function.comp_apply, (hexact hlength y hy).2]
    rw [hranks, sum_doubledRank_div_two, List.length_zipIdx]

theorem averageRanks_zeros :
    let values : List Binary64 :=
      [.ofParts false 0, .nan false, .ofParts true 0, .infinity true, .nan true]
    2 * values.length ≤ 2 ^ 53 ∧
      (∀ i ∈ [0, 2], ∃ rank, (averageRanks values)[i]? = some rank ∧ rank.toReal = 7 / 2) ∧
      ((averageRanks values).map Binary64.toReal).sum = 15 := by
  intro values
  have hlength : 2 * values.length ≤ 2 ^ 53 := by decide
  obtain ⟨-, hranks, -, hsum⟩ := averageRanks_counted values
  refine ⟨hlength, fun i hi => ?_, ?_⟩
  · -- Behind the negative NaN and the infinity, both zeros share the ranks 3 and 4.
    have hcounted : ∃ v, values[i]? = some v ∧ countedAt values i v = 7 / 2 := by
      rcases List.mem_pair.mp hi with rfl | rfl
      · exact ⟨_, rfl, by decide +kernel⟩
      · exact ⟨_, rfl, by decide +kernel⟩
    obtain ⟨v, hv, hcount⟩ := hcounted
    obtain ⟨rank, hrank, -, hexact⟩ := hranks i v hv
    refine ⟨rank, hrank, ?_⟩
    rw [(hexact hlength).2, hcount]
    norm_num
  · rw [hsum hlength]
    norm_num [values]

end Statistics

end InterRater
