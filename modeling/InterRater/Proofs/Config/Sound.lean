import InterRater.Config.Basic
import InterRater.Proofs.Number.Exact

/-!
# What a configuration without a flaw promises

`Config.flaw?_eq_none_iff`: in exact arithmetic no flaw is found exactly if all rules hold.  The
settings where a file gives none have no flaw (`Config.flaw?_standard`).
-/

namespace InterRater

namespace Config

/-- The rules for the settings. -/
structure Sound (config : Config ℝ) : Prop where
  scale_lt : config.scaleMin < config.scaleMax
  varianceCeiling_pos : 0 < config.varianceCeiling
  rangeCeiling_pos : 0 < config.rangeCeiling
  ciZCritical_pos : 0 < config.ciZCritical
  compositeScaleFactor_pos : 0 < config.compositeScaleFactor
  compositeScaleFactor_le : config.compositeScaleFactor ≤ 1
  moderate_le_high : config.moderateThreshold ≤ config.highThreshold
  tentative_le_acceptable : config.reliabilityTentative ≤ config.reliabilityAcceptable
  significanceLevel_pos : 0 < config.significanceLevel
  significanceLevel_lt : config.significanceLevel < 1
  exactAgreementTolerance_nonneg : 0 ≤ config.exactAgreementTolerance
  closeAgreementTolerance_nonneg : 0 ≤ config.closeAgreementTolerance
  pattern : config.patternFlaw? = none

theorem positiveFlaw?_eq_none_iff (field : String) (value : ℝ) :
    positiveFlaw? field value = none ↔ 0 < value := by
  rw [positiveFlaw?, Scalar.isFinite_eq, Bool.true_and]
  split_ifs with h
  · exact ⟨fun _ => of_decide_eq_true h, fun _ => rfl⟩
  · exact ⟨nofun, fun hpos => absurd (decide_eq_true hpos) h⟩

/-- A label pattern is accepted exactly if it can be read and has a group for the item and one for
the metric. -/
theorem patternFlaw?_eq_none_iff {α : Type} (config : Config α) :
    config.patternFlaw? = none ↔
      ∃ compiled, config.compiledPattern? = some compiled ∧ 2 ≤ compiled.groups := by
  unfold patternFlaw?
  cases config.compiledPattern? with
  | none => simp
  | some compiled => simp [Nat.succ_le_iff]

/-- **The check of a configuration** finds no flaw exactly if every rule holds. -/
theorem flaw?_eq_none_iff (config : Config ℝ) : config.flaw? = none ↔ config.Sound := by
  have hite : ∀ {P : Prop} [Decidable P] (e : ConfigFlaw ℝ),
      (if P then some e else none) = none ↔ ¬ P := fun e => by split_ifs <;> simp [*]
  have hite' : ∀ {P : Prop} [Decidable P] (e : ConfigFlaw ℝ),
      (if P then none else some e) = none ↔ P := fun e => by split_ifs <;> simp [*]
  simp only [flaw?, List.findSome?_eq_none_iff, List.forall_mem_cons, id_eq, hite, hite',
    positiveFlaw?_eq_none_iff, not_le, not_lt, not_or, List.not_mem_nil, false_imp_iff,
    implies_true, and_true]
  constructor
  · rintro ⟨h₁, h₂, h₃, h₄, ⟨h₅, h₆⟩, h₇, h₈, ⟨h₉, h₁₀⟩, ⟨h₁₁, h₁₂⟩, h₁₃⟩
    exact ⟨h₁, h₂, h₃, h₄, h₅, h₆, h₇, h₈, h₉, h₁₀, h₁₁, h₁₂, h₁₃⟩
  · intro h
    exact ⟨h.scale_lt, h.varianceCeiling_pos, h.rangeCeiling_pos, h.ciZCritical_pos,
      ⟨h.compositeScaleFactor_pos, h.compositeScaleFactor_le⟩, h.moderate_le_high,
      h.tentative_le_acceptable, ⟨h.significanceLevel_pos, h.significanceLevel_lt⟩,
      ⟨h.exactAgreementTolerance_nonneg, h.closeAgreementTolerance_nonneg⟩, h.pattern⟩

/-- In any arithmetic, the scale factor of a configuration without a flaw is positive, and at most
1. -/
theorem factor_of_flaw?_eq_none {α : Type} [Scalar α] {config : Config α}
    (h : config.flaw? = none) :
    0 < config.compositeScaleFactor ∧ config.compositeScaleFactor ≤ 1 := by
  have hrule := List.findSome?_eq_none_iff.mp h _ (List.mem_of_getElem? (i := 4) rfl)
  by_contra hnot
  rw [id, if_neg hnot] at hrule
  cases hrule

/-- In any arithmetic, the significance level of a configuration without a flaw is a probability. -/
theorem significanceLevel_of_flaw?_eq_none {α : Type} [Scalar α] {config : Config α}
    (h : config.flaw? = none) :
    0 < config.significanceLevel ∧ config.significanceLevel < 1 := by
  have hrule := List.findSome?_eq_none_iff.mp h _ (List.mem_of_getElem? (i := 7) rfl)
  by_contra hnot
  rw [id, if_neg hnot] at hrule
  cases hrule

/-- In any arithmetic, the critical value of a configuration without a flaw is a positive number. -/
theorem ciZCritical_of_flaw?_eq_none {α : Type} [Scalar α] {config : Config α}
    (h : config.flaw? = none) :
    Scalar.isFinite config.ciZCritical = true ∧ 0 < config.ciZCritical := by
  have hrule := List.findSome?_eq_none_iff.mp h _ (List.mem_of_getElem? (i := 3) rfl)
  rw [id, positiveFlaw?] at hrule
  by_contra hnot
  rw [if_neg (by simpa using hnot)] at hrule
  cases hrule

theorem sound_standard : (standard : Config ℝ).Sound where
  scale_lt := by decide
  varianceCeiling_pos := by norm_num [standard]
  rangeCeiling_pos := by norm_num [standard]
  ciZCritical_pos := by norm_num [standard]
  compositeScaleFactor_pos := by norm_num [standard]
  compositeScaleFactor_le := by norm_num [standard]
  moderate_le_high := by norm_num [standard]
  tentative_le_acceptable := by norm_num [standard]
  significanceLevel_pos := by norm_num [standard]
  significanceLevel_lt := by norm_num [standard]
  exactAgreementTolerance_nonneg := by norm_num [standard]
  closeAgreementTolerance_nonneg := by norm_num [standard]
  pattern := rfl

/-- The settings without a file are accepted. -/
theorem flaw?_standard : (standard : Config ℝ).flaw? = none :=
  (flaw?_eq_none_iff _).mpr sound_standard

end Config

end InterRater
