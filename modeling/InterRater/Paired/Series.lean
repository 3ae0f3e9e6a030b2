import InterRater.Error

/-!
# Paired series of scores

A `PairedSeries` holds, sample by sample, an automated score and the aggregate of human scores.
It has at least two samples, and all its scores are numbers.
-/

namespace InterRater

/-- Two series of scores for the same samples: automated (first) and human (second). -/
structure PairedSeries (α : Type) [Scalar α] where
  samples : List (α × α)
  two_le : 2 ≤ samples.length
  finite : ∀ s ∈ samples, Scalar.isFinite s.1 ∧ Scalar.isFinite s.2

namespace PairedSeries

variable {α : Type} [Scalar α]

/-- The first score of a series that is no number. -/
def nonFinite? (series : SeriesKind) (scores : List α) : Option AnalysisError :=
  scores.zipIdx.findSome? fun (score, i) =>
    (Scalar.nonFinite? score).map fun kind => .nonFiniteScore series i kind

/-- The first fault of two series. -/
def fault? (automated human : List α) : Option AnalysisError :=
  if automated.length ≠ human.length then
    some (.unequalSeries automated.length human.length)
  else
    (nonFinite? .automated automated).or <|
      (nonFinite? .human human).or <|
        if automated.length < 2 then some (.tooFew .observations automated.length) else none

/-- A series in which no score is reported has only numbers. -/
theorem isFinite_of_nonFinite?_eq_none {series : SeriesKind} {scores : List α}
    (h : nonFinite? series scores = none) : ∀ score ∈ scores, Scalar.isFinite score = true := by
  intro score hs
  obtain ⟨i, hi, rfl⟩ := List.mem_iff_getElem.mp hs
  have hz : (scores[i], i) ∈ scores.zipIdx :=
    List.mem_iff_getElem.mpr ⟨i, by simpa using hi, by simp⟩
  have := List.findSome?_eq_none_iff.mp h _ hz
  simpa [Scalar.isFinite] using this

/-- Two series without a fault are as long as each other, with two samples or more, and hold only
numbers. -/
theorem of_fault?_eq_none {automated human : List α} (h : fault? automated human = none) :
    automated.length = human.length ∧ 2 ≤ automated.length ∧
      (∀ score ∈ automated, Scalar.isFinite score = true) ∧
      ∀ score ∈ human, Scalar.isFinite score = true := by
  unfold fault? at h
  split at h
  · simp at h
  · rename_i hl
    simp only [Option.or_eq_none_iff] at h
    obtain ⟨ha, hh, hn⟩ := h
    refine ⟨by simpa using hl, ?_, isFinite_of_nonFinite?_eq_none ha,
      isFinite_of_nonFinite?_eq_none hh⟩
    by_cases h2 : automated.length < 2
    · simp [h2] at hn
    · omega

/-- The paired series of two lists of scores, or their first fault. -/
def ofScores (automated human : List α) : Except AnalysisError (PairedSeries α) :=
  match h : fault? automated human with
  | some e => .error e
  | none => .ok {
      samples := automated.zip human
      two_le := by
        obtain ⟨hl, h2, -, -⟩ := of_fault?_eq_none h
        simp [List.length_zip]
        omega
      finite := fun s hs => by
        obtain ⟨-, -, ha, hh⟩ := of_fault?_eq_none h
        exact ⟨ha _ (List.of_mem_zip hs).1, hh _ (List.of_mem_zip hs).2⟩ }

/-- The number of samples. -/
def size (series : PairedSeries α) : Nat :=
  series.samples.length

def automated (series : PairedSeries α) : List α :=
  series.samples.map (·.1)

def human (series : PairedSeries α) : List α :=
  series.samples.map (·.2)

/-- The automated score minus the human one, sample by sample. -/
def differences (series : PairedSeries α) : List α :=
  series.samples.map fun s => s.1 - s.2

end PairedSeries

end InterRater
