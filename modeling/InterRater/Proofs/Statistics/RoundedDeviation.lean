import InterRater.Proofs.Number.Comparison
import InterRater.Statistics.Moments

/-!
# The deviation in rounded arithmetic

A sum of squares has no sign bit unless it is a NaN, and this carries over to the quotient and the
root: the sample deviation is never a negative zero (`signFree_sampleDeviation`).  So two deviations
that are equal are not separated by the order in which values are sorted
(`SignFree.precedes_of_beq`).
-/

namespace InterRater

namespace Binary64

/-- A value that has no sign bit, if it is a number. -/
def SignFree (x : Binary64) : Prop :=
  x.isNaN = false → x.negative = false

variable {x y : Binary64}

theorem Unsigned.signFree (h : x.Unsigned) : x.SignFree :=
  fun _ => h.negative

theorem signFree_of_isNaN (h : x.isNaN = true) : x.SignFree :=
  fun hnan => absurd h (by rw [hnan]; decide)

theorem signFree_invalid : invalid.SignFree :=
  signFree_of_isNaN (by decide)

theorem SignFree.unsigned (h : x.SignFree) (hnan : x.isNaN = false) : x.Unsigned :=
  ⟨hnan, h hnan⟩

/-- Values without a sign bit that are equal stand at one place of the order of all patterns. -/
theorem SignFree.precedes_of_beq (hx : x.SignFree) (hy : y.SignFree)
    (h : Scalar.beq x y = true) : Scalar.precedes x y = true := by
  obtain ⟨hxnan, hynan, hplace⟩ := beq_iff.mp h
  have hx := hx.unsigned hxnan
  have hy := hy.unsigned hynan
  rw [hx.place, hy.place] at hplace
  rw [precedes_iff, hx.rank, hy.rank, hplace]

/-! ### Operations -/

theorem signFree_square (x : Binary64) : (mul x x).SignFree := by
  have hsign : (x.negative != x.negative) = false := bne_self_eq_false _
  rw [mul, hsign]
  split_ifs with hnan hinf hzero
  · exact signFree_of_isNaN hnan
  · exact signFree_invalid
  · exact unsigned_infinity.signFree
  · exact fun _ => negative_ofScaled _ _ _

/-- Adding a value without a sign bit to one that is not below 0 leaves none. -/
theorem signFree_add (hx : x.isNaN = true ∨ x.Nonneg) (hy : y.SignFree) :
    (add x y).SignFree := by
  rcases hx with hxnan | hx
  · rw [add, if_pos hxnan]
    exact signFree_of_isNaN hxnan
  cases hynan : y.isNaN
  · have hy := hy.unsigned hynan
    exact fun _ => (nonneg_add hx hy.nonneg).2 hy.negative
  · rw [add, hx.isNaN, if_neg Bool.false_ne_true, if_pos hynan]
    exact signFree_of_isNaN hynan

theorem signFree_foldl {values : List Binary64} (h : ∀ v ∈ values, v.SignFree) :
    ∀ {start : Binary64}, start.SignFree → (values.foldl add start).SignFree := by
  induction values with
  | nil => exact fun hstart => hstart
  | cons v values ih =>
    obtain ⟨hv, hvalues⟩ := List.forall_mem_cons.mp h
    intro start hstart
    refine ih hvalues (signFree_add ?_ hv)
    exact (Bool.eq_false_or_eq_true start.isNaN).imp_right fun hnan => (hstart.unsigned hnan).nonneg

theorem signFree_sum {values : List Binary64} (hne : values ≠ [])
    (h : ∀ v ∈ values, v.SignFree) : (Scalar.sum values).SignFree := by
  obtain ⟨v, rest, rfl⟩ := List.exists_cons_of_ne_nil hne
  obtain ⟨hv, hrest⟩ := List.forall_mem_cons.mp h
  -- The negative zero, at which the sum starts, is lost in the first addition.
  have hstart : (neg (ofParts false 0)).Nonneg := ⟨by decide, by decide⟩
  exact signFree_foldl hrest (signFree_add (Or.inr hstart) hv)

theorem signFree_div (hx : x.SignFree) (hy : y.Unsigned) : (div x y).SignFree := by
  cases hxnan : x.isNaN
  swap
  · rw [div, if_pos hxnan]
    exact signFree_of_isNaN hxnan
  have hsign : (x.negative != y.negative) = false := by rw [hx hxnan, hy.negative]; rfl
  rw [div, hsign, hxnan, hy.isNaN, if_neg Bool.false_ne_true, if_neg Bool.false_ne_true]
  split_ifs
  · exact signFree_invalid
  · exact unsigned_infinity.signFree
  · exact fun _ => by decide
  · exact signFree_invalid
  · exact unsigned_infinity.signFree
  · rw [divFinite]
    split_ifs <;> exact (unsigned_ofRatio _ _).signFree

theorem signFree_sqrt (hx : x.SignFree) : (sqrt x).SignFree := by
  rw [sqrt]
  split_ifs
  · exact hx
  · exact hx
  · exact signFree_invalid
  · exact hx
  · exact fun _ => negative_ofScaled _ _ _

end Binary64

namespace Statistics

theorem signFree_squaredDeviations {values : List Binary64} (hne : values ≠ []) :
    (squaredDeviations values).SignFree := by
  refine Binary64.signFree_sum (by simpa using hne) (List.forall_mem_map.mpr fun v _ => ?_)
  exact Binary64.signFree_square (v - mean values)

theorem signFree_sampleDeviation (values : List Binary64) :
    (sampleDeviation values).SignFree := by
  have hzero : (Binary64.ofParts false 0).SignFree := fun _ => by decide
  rw [sampleDeviation]
  split_ifs with hfew
  · exact hzero
  · have hne : values ≠ [] := by
      rintro rfl
      exact hfew (by decide)
    exact Binary64.signFree_sqrt
      (Binary64.signFree_div (signFree_squaredDeviations hne) (Binary64.unsigned_ofNat _))

end Statistics

end InterRater
