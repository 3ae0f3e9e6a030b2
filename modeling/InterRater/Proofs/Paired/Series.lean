import InterRater.Paired.Series
import InterRater.Proofs.Order.Reorder

/-!
# Which scores make a paired series

Two lists of scores make a series exactly if they are its two columns (`ofScores_eq_ok_iff`), so
that the check of the lists finds no fault in the columns of a series.  The samples of a series at
any two or more of its positions are a series again (`PairedSeries.reorder`), made of the scores at
those positions (`ofScores_reorder`).
-/

namespace InterRater

namespace PairedSeries

variable {α : Type} [Scalar α]

theorem nonFinite?_eq_none_iff {series : SeriesKind} {scores : List α} :
    nonFinite? series scores = none ↔ ∀ score ∈ scores, Scalar.isFinite score = true := by
  refine ⟨isFinite_of_nonFinite?_eq_none, fun h => List.findSome?_eq_none_iff.mpr ?_⟩
  rintro ⟨score, i⟩ hmem
  have hfinite := h score (List.fst_mem_of_mem_zipIdx hmem)
  rw [Scalar.isFinite, Option.isNone_iff_eq_none] at hfinite
  simp only [hfinite, Option.map_none]

@[simp]
theorem length_automated (series : PairedSeries α) : series.automated.length = series.size :=
  List.length_map _

@[simp]
theorem length_human (series : PairedSeries α) : series.human.length = series.size :=
  List.length_map _

@[simp]
theorem zip_automated_human (series : PairedSeries α) :
    series.automated.zip series.human = series.samples := by
  rw [automated, human, List.zip_map', List.map_id'']
  exact fun _ => rfl

/-- There is no fault in the columns of a series. -/
theorem fault?_automated_human (series : PairedSeries α) :
    fault? series.automated series.human = none := by
  have hautomated : ∀ score ∈ series.automated, Scalar.isFinite score = true := by
    intro score hscore
    obtain ⟨sample, hsample, rfl⟩ := List.mem_map.mp hscore
    exact (series.finite sample hsample).1
  have hhuman : ∀ score ∈ series.human, Scalar.isFinite score = true := by
    intro score hscore
    obtain ⟨sample, hsample, rfl⟩ := List.mem_map.mp hscore
    exact (series.finite sample hsample).2
  have htwo : ¬ series.automated.length < 2 := by
    rw [length_automated]
    exact Nat.not_lt.mpr series.two_le
  rw [fault?, if_neg (by simp), nonFinite?_eq_none_iff.mpr hautomated,
    nonFinite?_eq_none_iff.mpr hhuman, if_neg htwo]
  rfl

/-- **The making of a series**: two lists make the series of which they are the columns. -/
theorem ofScores_eq_ok_iff {automated human : List α} {series : PairedSeries α} :
    ofScores automated human = .ok series
      ↔ series.automated = automated ∧ series.human = human := by
  constructor
  · intro h
    unfold ofScores at h
    split at h
    · cases h
    · rename_i hfault
      obtain ⟨hlength, -, -, -⟩ := of_fault?_eq_none hfault
      cases h
      exact ⟨List.map_fst_zip (Nat.le_of_eq hlength), List.map_snd_zip (Nat.le_of_eq hlength.symm)⟩
  · rintro ⟨rfl, rfl⟩
    unfold ofScores
    split
    · rename_i hfault
      rw [fault?_automated_human] at hfault
      cases hfault
    · simp only [zip_automated_human]

/-! ### Some samples of a series -/

/-- The series of the samples at the given positions, in their order. -/
def reorder (series : PairedSeries α) (order : List ℕ)
    (h : 2 ≤ (InterRater.reorder order series.samples).length) : PairedSeries α where
  samples := InterRater.reorder order series.samples
  two_le := h
  finite := fun sample hsample => series.finite sample (mem_of_mem_reorder hsample)

theorem ofScores_reorder (series : PairedSeries α) (order : List ℕ)
    (h : 2 ≤ (InterRater.reorder order series.samples).length) :
    ofScores (InterRater.reorder order series.automated) (InterRater.reorder order series.human)
      = .ok (series.reorder order h) := by
  refine ofScores_eq_ok_iff.mpr ⟨?_, ?_⟩
  · rw [automated, automated, reorder_map]
    rfl
  · rw [human, human, reorder_map]
    rfl

end PairedSeries

end InterRater
