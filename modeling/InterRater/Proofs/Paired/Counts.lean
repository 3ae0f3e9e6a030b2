import InterRater.Proofs.Command.Printed
import InterRater.Proofs.Number.Order
import InterRater.Proofs.Paired.Series

/-!
# Exact and close agreement

A sample agrees exactly if its scores are nearer to each other than one tolerance, and closely if
they are not farther apart than another.  Both are counted among the samples
(`Comparison.counts_le`).  The two tolerances of a configuration are not tied to each other: exact
agreement implies close agreement just if no value lies between the close tolerance and the exact
one (`Comparison.exact_close_iff`), and configurations with such values are accepted
(`Comparison.exact_not_close`).
-/

namespace InterRater

namespace Config

variable {α : Type} [Scalar α]

/-- The scores of a sample agree exactly. -/
def AgreesExactly (config : Config α) (sample : α × α) : Prop :=
  Scalar.abs (sample.1 - sample.2) < config.exactAgreementTolerance

/-- The scores of a sample agree closely. -/
def AgreesClosely (config : Config α) (sample : α × α) : Prop :=
  Scalar.abs (sample.1 - sample.2) ≤ config.closeAgreementTolerance

instance (config : Config α) : DecidablePred config.AgreesExactly := fun _ =>
  inferInstanceAs (Decidable (_ < _))

instance (config : Config α) : DecidablePred config.AgreesClosely := fun _ =>
  inferInstanceAs (Decidable (_ ≤ _))

end Config

namespace Comparison

/-! ### What is counted -/

section Counts

variable {α : Type} [Scalar α] [Special α] (config : Config α) (series : PairedSeries α)

theorem exactCount_ofSeries : (ofSeries config series).agreement.exactCount
    = series.samples.countP (config.AgreesExactly ·) := by
  show ((series.samples.map _).map Scalar.abs).countP _ = _
  rw [List.map_map, List.countP_map]
  rfl

theorem closeCount_ofSeries : (ofSeries config series).agreement.closeCount
    = series.samples.countP (config.AgreesClosely ·) := by
  show ((series.samples.map _).map Scalar.abs).countP _ = _
  rw [List.map_map, List.countP_map]
  rfl

theorem total_ofSeries : (ofSeries config series).agreement.total = series.size :=
  List.length_map _

/-- Samples are counted once at most, and all of them are compared. -/
theorem counts_le :
    (ofSeries config series).agreement.exactCount ≤ (ofSeries config series).agreement.total ∧
    (ofSeries config series).agreement.closeCount ≤ (ofSeries config series).agreement.total ∧
    (ofSeries config series).agreement.total = (ofSeries config series).observations := by
  rw [exactCount_ofSeries, closeCount_ofSeries, total_ofSeries]
  exact ⟨List.countP_le_length, List.countP_le_length, rfl⟩

variable {config series}

/-- Where exact agreement implies close agreement, no fewer samples agree closely. -/
theorem exactCount_le_closeCount
    (h : ∀ sample ∈ series.samples, config.AgreesExactly sample → config.AgreesClosely sample) :
    (ofSeries config series).agreement.exactCount
      ≤ (ofSeries config series).agreement.closeCount := by
  rw [exactCount_ofSeries, closeCount_ofSeries]
  refine List.countP_mono_left fun sample hsample hexact => ?_
  exact decide_eq_true (h sample hsample (of_decide_eq_true hexact))

end Counts

end Comparison

/-! ### Tolerances with values between them -/

namespace Binary64

variable {x : Binary64}

theorem place_nonneg (hfinite : x.isFinite = true) (h : ¬ x < 0) : 0 ≤ x.place := by
  have hzero : (0 : Binary64).isNaN = false ∧ (0 : Binary64).place = 0 := by decide +kernel
  rw [lt_iff, hzero.2] at h
  by_contra! hlt
  exact h ⟨not_isNaN_of_isFinite hfinite, hzero.1, hlt⟩

/-- The distance of a value from zero is its magnitude. -/
theorem abs_sub_zero (hfinite : x.isFinite = true) :
    (Scalar.abs (x - 0)).isNaN = false ∧ (Scalar.abs (x - 0)).place = x.magnitude := by
  have hzero : (0 : Binary64).isFinite = true ∧ (0 : Binary64).toReal = 0 :=
    ⟨by decide +kernel, toReal_eq_zero_iff.mpr (by decide +kernel)⟩
  have hround : Rounds x.toReal (x - 0) := by
    have hsub := rounds_sub hfinite hzero.1
    rwa [hzero.2, sub_zero] at hsub
  have hmagnitude : (Scalar.abs (x - 0)).magnitude = x.magnitude :=
    (magnitude_abs _).trans (hround.magnitude_eq hfinite)
  constructor
  · apply not_isNaN_of_isFinite
    rw [isFinite, hmagnitude, ← isFinite, hfinite]
  · show (if (Scalar.abs (x - 0)).negative then _ else _) = _
    rw [show (Scalar.abs (x - 0)).negative = false from negative_abs _,
      if_neg Bool.false_ne_true, hmagnitude]

/-- Between two values of which the second is not the next behind the first there is another. -/
theorem exists_magnitude_between {low high : Binary64} (hhigh : high.isFinite = true)
    (hlow : 0 ≤ low.place) (h : low.place + 1 < high.place) :
    ∃ x : Binary64,
      x.isFinite = true ∧ low.place < x.magnitude ∧ (x.magnitude : ℤ) < high.place := by
  have hbound : high.place ≤ high.magnitude := by
    rw [place]
    split_ifs <;> omega
  have hinfinite : infiniteMagnitude < twoPow 63 := by decide
  rw [isFinite, decide_eq_true_eq] at hhigh
  have hmagnitude : (ofParts false (low.place + 1).toNat).magnitude = (low.place + 1).toNat :=
    magnitude_ofParts false (by omega)
  refine ⟨ofParts false (low.place + 1).toNat, ?_, ?_, ?_⟩
  · rw [isFinite, hmagnitude, decide_eq_true_eq]
    omega
  · omega
  · omega

end Binary64

namespace Config

variable {config : Config Binary64}

/-- No value is nearer than the exact tolerance and farther than the close one: the exact tolerance
is at most the next value behind the close tolerance. -/
def TolerancesMeet (config : Config Binary64) : Prop :=
  config.exactAgreementTolerance.place ≤ config.closeAgreementTolerance.place + 1

theorem TolerancesMeet.agreesClosely (h : config.TolerancesMeet)
    (hclose : config.closeAgreementTolerance.isFinite = true) {sample : Binary64 × Binary64}
    (hexact : config.AgreesExactly sample) : config.AgreesClosely sample := by
  obtain ⟨hnan, -, hlt⟩ := Binary64.lt_iff.mp hexact
  exact Binary64.le_iff.mpr
    ⟨hnan, Binary64.not_isNaN_of_isFinite hclose, Int.lt_add_one_iff.mp (hlt.trans_le h)⟩

/-- Tolerances in the usual order meet. -/
theorem tolerancesMeet_of_le
    (h : config.exactAgreementTolerance ≤ config.closeAgreementTolerance) :
    config.TolerancesMeet :=
  (Binary64.le_iff.mp h).2.2.trans (Int.le_add_one le_rfl)

/-- The tolerances of a configuration in effect are numbers, and none is negative. -/
theorem InEffect.tolerances {reader : FileReader} {path? : Option String}
    (h : InEffect reader path? config) :
    config.exactAgreementTolerance.isFinite = true ∧
    config.closeAgreementTolerance.isFinite = true ∧
    0 ≤ config.exactAgreementTolerance.place ∧ 0 ≤ config.closeAgreementTolerance.place := by
  have hfinite := h.storable.isFinite
  simp only [numbers, List.forall_mem_cons] at hfinite
  obtain ⟨-, -, -, -, -, -, -, -, -, hexact, hclose, -⟩ := hfinite
  have hflaw := h.flaw?_eq_none
  simp only [flaw?, List.findSome?_eq_none_iff, List.forall_mem_cons, id_eq] at hflaw
  obtain ⟨-, -, -, -, -, -, -, -, hsign, -⟩ := hflaw
  obtain ⟨hexact', hclose'⟩ := not_or.mp fun hnegative => by
    rw [if_pos hnegative] at hsign
    cases hsign
  exact ⟨hexact, hclose, Binary64.place_nonneg hexact hexact', Binary64.place_nonneg hclose hclose'⟩

end Config

namespace Comparison

/-- The series that has the same finite score twice, against 0. -/
def sameTwice (x : Binary64) (h : x.isFinite = true) : PairedSeries Binary64 where
  samples := [(x, 0), (x, 0)]
  two_le := le_rfl
  finite := by
    have hzero : Scalar.isFinite (0 : Binary64) = true := by decide +kernel
    have hx : Scalar.isFinite x = true := Binary64.scalar_isFinite h
    intro sample hsample
    simp only [List.mem_cons, List.not_mem_nil, or_false, or_self] at hsample
    rw [hsample]
    exact ⟨hx, hzero⟩

/-- If the tolerances do not meet, all samples of some series agree exactly and none closely. -/
theorem exists_exact_not_close {config : Config Binary64} (hmeet : ¬ config.TolerancesMeet)
    (hexact : config.exactAgreementTolerance.isFinite = true)
    (hclose : 0 ≤ config.closeAgreementTolerance.place) :
    ∃ series : PairedSeries Binary64,
      ∀ sample ∈ series.samples, config.AgreesExactly sample ∧ ¬ config.AgreesClosely sample := by
  obtain ⟨x, hfinite, hfar, hnear⟩ :=
    Binary64.exists_magnitude_between hexact hclose (not_le.mp hmeet)
  obtain ⟨hnan, hplace⟩ := Binary64.abs_sub_zero hfinite
  refine ⟨sameTwice x hfinite, ?_⟩
  intro sample hsample
  have hsample : sample = (x, 0) := by simpa [sameTwice] using hsample
  subst hsample
  constructor
  · exact Binary64.lt_iff.mpr ⟨hnan, Binary64.not_isNaN_of_isFinite hexact, by rwa [hplace]⟩
  · intro hle
    have hle := (Binary64.le_iff.mp hle).2.2
    rw [hplace] at hle
    omega

/-- **Exact and close agreement.**  Under a configuration in effect, exact agreement implies close
agreement in every series just if the tolerances meet, and just then no series has more samples that
agree exactly than ones that agree closely.  A close tolerance that is not below the exact one is
enough.  Neither count is above the number of samples. -/
theorem exact_close_iff {reader : FileReader} {path? : Option String} {config : Config Binary64}
    (hconfig : Config.InEffect reader path? config) :
    (∀ series : PairedSeries Binary64,
      let comparison := ofSeries config series
      comparison.agreement.exactCount ≤ comparison.agreement.total ∧
      comparison.agreement.closeCount ≤ comparison.agreement.total ∧
      comparison.agreement.total = comparison.observations) ∧
    (config.exactAgreementTolerance ≤ config.closeAgreementTolerance → config.TolerancesMeet) ∧
    (config.TolerancesMeet ↔ ∀ series : PairedSeries Binary64, ∀ sample ∈ series.samples,
      config.AgreesExactly sample → config.AgreesClosely sample) ∧
    (config.TolerancesMeet ↔ ∀ series : PairedSeries Binary64,
      (ofSeries config series).agreement.exactCount
        ≤ (ofSeries config series).agreement.closeCount) := by
  obtain ⟨hexact, hclose, -, hsign⟩ := hconfig.tolerances
  have hsamples : config.TolerancesMeet → ∀ series : PairedSeries Binary64,
      ∀ sample ∈ series.samples, config.AgreesExactly sample → config.AgreesClosely sample :=
    fun hmeet _ _ _ => hmeet.agreesClosely hclose
  refine ⟨counts_le config, Config.tolerancesMeet_of_le, ⟨hsamples, ?_⟩, ⟨?_, ?_⟩⟩
  · intro himplies
    by_contra hmeet
    obtain ⟨series, hseries⟩ := exists_exact_not_close hmeet hexact hsign
    obtain ⟨sample, hsample⟩ := List.exists_mem_of_length_pos (two_pos.trans_le series.two_le)
    exact (hseries sample hsample).2 (himplies series sample hsample (hseries sample hsample).1)
  · exact fun hmeet series => exactCount_le_closeCount (hsamples hmeet series)
  · intro hcounts
    by_contra hmeet
    obtain ⟨series, hseries⟩ := exists_exact_not_close hmeet hexact hsign
    have hall : series.samples.countP (config.AgreesExactly ·) = series.samples.length :=
      List.countP_eq_length.mpr fun sample hsample => decide_eq_true (hseries sample hsample).1
    have hnone : series.samples.countP (config.AgreesClosely ·) = 0 :=
      List.countP_eq_zero.mpr fun sample hsample =>
        fun hyes => (hseries sample hsample).2 (of_decide_eq_true hyes)
    have hle := hcounts series
    rw [exactCount_ofSeries, closeCount_ofSeries, hall, hnone] at hle
    have := series.two_le
    omega

theorem exact_close_standard :
    (Config.standard : Config Binary64).TolerancesMeet ∧
    ∀ series : PairedSeries Binary64,
      (ofSeries Config.standard series).agreement.exactCount
        ≤ (ofSeries Config.standard series).agreement.closeCount := by
  have hiff := exact_close_iff (.standard : Config.InEffect (FileSystem.empty []).read none _)
  have hmeet := hiff.2.1 (by decide +kernel)
  exact ⟨hmeet, hiff.2.2.2.mp hmeet⟩

/-! ### Tolerances the other way round -/

/-- A file in which the exact tolerance is above the close one. -/
def crossedFile : String :=
  "\x7b\"exact_agreement_tolerance\": 1.0, \"close_agreement_tolerance\": 0.5\x7d"

def crossedConfig : Config Binary64 :=
  { Config.standard with
    exactAgreementTolerance := 1.0
    closeAgreementTolerance := 0.5 }

/-- A working directory with the file in it. -/
def crossedFiles : FileSystem :=
  (FileSystem.empty ["work"]).insert ["work", "c.json"] (.file crossedFile.toUTF8)

/-- Scores that are three quarters apart. -/
def crossedSeries : PairedSeries Binary64 where
  samples := [(1.0, 0.25), (2.0, 1.25)]
  two_le := le_rfl
  finite := by decide +kernel

/-- The file is accepted, and both samples agree exactly, but not closely. -/
theorem exact_not_close :
    Config.InEffect crossedFiles.read (some "c.json") crossedConfig ∧
    (∀ sample ∈ crossedSeries.samples,
      crossedConfig.AgreesExactly sample ∧ ¬ crossedConfig.AgreesClosely sample) ∧
    (ofSeries crossedConfig crossedSeries).agreement.exactCount = 2 ∧
    (ofSeries crossedConfig crossedSeries).agreement.closeCount = 0 := by
  have hparse : Config.parse crossedFile.toList true = .ok crossedConfig := by decide +kernel
  have hflaw : crossedConfig.flaw? = none := by decide +kernel
  refine ⟨.file rfl (Config.ofFile_eq_ok_iff.mpr ?_), ?_, ?_, ?_⟩
  · rw [Utf8.readable_toUTF8]
    exact ⟨hparse, hflaw⟩
  · decide +kernel
  · decide +kernel
  · decide +kernel

end Comparison

end InterRater
