import InterRater.Proofs.Rating.Composite
import InterRater.Proofs.Rating.Reliability
import Mathlib.Algebra.Order.BigOperators.Group.List

/-!
# The summaries of a report

The ranking, the bands of agreement and the spread are computed from the items of a report one by
one.  They agree with each other (`Coherent`) in every report: in exact arithmetic, and in rounded
arithmetic because composite agreements have no sign bit (`ReliabilityReport.ofMatrix_coherent`).

The proof needs of the arithmetic only that the composites of the items are `Comparable`.  The
ranking then is the one list of the items that descends by composite and, among equal ones, ascends
by column (`order_sorted`), so that its levels stand together (`map_level_order`) and its ends have
the greatest and the least composite (`head?_rank`, `getLast?_rank`).
-/

namespace InterRater

/-! ### Levels in order -/

namespace AgreementLevel

/-- The place of a level among the levels, best first. -/
def place : AgreementLevel → ℕ
  | high => 0
  | moderate => 1
  | low => 2

theorem place_injective : Function.Injective place := by
  intro a b
  cases a <;> cases b <;> simp [place]

theorem perm_flatMap_replicate (levels : List AgreementLevel) :
    levels.Perm (all.flatMap fun level => List.replicate (levels.count level) level) := by
  rw [List.perm_iff_count]
  intro level
  cases level <;> simp [all, List.count_append, List.count_replicate]

/-- Levels that do not get better are those of each level, together. -/
theorem eq_flatMap_replicate {levels : List AgreementLevel}
    (h : levels.Pairwise fun a b => a.place ≤ b.place) :
    levels = all.flatMap fun level => List.replicate (levels.count level) level := by
  refine (perm_flatMap_replicate levels).eq_of_pairwise
    (fun _ _ _ _ hab hba => place_injective (le_antisymm hab hba)) h ?_
  simp [all, List.pairwise_append, List.pairwise_replicate, List.mem_replicate, place]

end AgreementLevel

/-- Better agreement has no worse a level. -/
theorem ItemAgreement.place_classify_le {α : Type} [Scalar α] {P : α → Prop}
    (hcomparable : Comparable P) (config : Config α) {x y : α} (hx : P x) (hy : P y)
    (h : Scalar.precedes x y = true) :
    (classify config y).place ≤ (classify config x).place := by
  -- Whatever the thresholds are, even if they cross or are no numbers, `y` reaches those that `x`
  -- reaches.
  rw [classify, classify]
  by_cases hhigh : config.highThreshold ≤ x
  · rw [if_pos hhigh, if_pos (hcomparable.le_of_precedes hx hy hhigh h)]
  rw [if_neg hhigh]
  by_cases hmoderate : config.moderateThreshold ≤ x
  · rw [if_pos hmoderate, if_pos (hcomparable.le_of_precedes hx hy hmoderate h)]
    split_ifs <;> decide
  · rw [if_neg hmoderate]
    split_ifs <;> decide

theorem ItemAgreement.level_score {α : Type} [Scalar α] (config : Config α) (ratings : List ℤ) :
    (score config ratings).level = classify config (score config ratings).composite := by
  rw [score, ofRange]
  split_ifs <;> rfl

namespace ReliabilityReport

variable {α : Type} [Scalar α]

/-! ### The law -/

/-- The items in the order of their ranks. -/
structure RankedBy (report : ReliabilityReport α) (order : List (ItemDiagnostics α)) : Prop where
  /-- Each item is ranked once. -/
  perm : order.Perm report.items
  /-- Better agreement comes first, and of equal ones the earlier column. -/
  sorted : order.Pairwise fun a b => b.agreement.composite < a.agreement.composite ∨
    a.agreement.composite = b.agreement.composite ∧ a.item.index < b.item.index
  ranks : report.ranking.map (·.rank) = List.range' 1 report.items.length
  entries : report.ranking.map (fun r => (r.index, r.label, r.composite))
    = order.map fun d => (d.item.index, d.item.label, d.agreement.composite)
  /-- The levels of the items follow each other in the counts of the bands. -/
  levels : order.map (·.agreement.level)
    = report.bands.flatMap fun band => List.replicate band.count band.level

/-- The summaries of a report on a matrix agree with its items and with each other. -/
structure Coherent (m : RatingMatrix) (rankingSize : ℕ) (report : ReliabilityReport α) : Prop where
  items : report.items.map (·.item) = m.items
  ranking : ∃ order, report.RankedBy order
  best : report.best <+: report.ranking ∧ report.best.length = min rankingSize m.itemCount
  worst : report.worst <:+ report.ranking ∧ report.worst.length = min rankingSize m.itemCount
  bands : report.bands.map (·.level) = [.high, .moderate, .low]
  counts : (report.bands.map (·.count)).sum = m.itemCount
  greatest : report.ranking.head?.map (·.composite) = some report.spread.max
  least : report.ranking.getLast?.map (·.composite) = some report.spread.min

/-! ### The order of the ranking -/

/-- The items as they are sorted for the ranking. -/
def order (items : List (ItemDiagnostics α)) : List (ItemDiagnostics α) :=
  items.mergeSort fun a b => Scalar.precedes b.agreement.composite a.agreement.composite

theorem order_perm (items : List (ItemDiagnostics α)) : (order items).Perm items :=
  List.mergeSort_perm _ _

theorem rank_eq (items : List (ItemDiagnostics α)) :
    rank items = (order items).zipIdx.map fun (d, i) =>
      ⟨i + 1, d.item.index, d.item.label, d.agreement.composite⟩ := rfl

theorem map_rank_rank (items : List (ItemDiagnostics α)) :
    (rank items).map (·.rank) = List.range' 1 items.length := by
  rw [rank_eq, List.map_map, ← (order_perm items).length_eq, List.range'_eq_map_range,
    List.range_eq_range', ← List.zipIdx_map_snd, List.map_map]
  exact List.map_congr_left fun entry _ => Nat.add_comm _ _

theorem map_entry_rank (items : List (ItemDiagnostics α)) :
    (rank items).map (fun r => (r.index, r.label, r.composite))
      = (order items).map fun d => (d.item.index, d.item.label, d.agreement.composite) := by
  conv_rhs => rw [← List.zipIdx_map_fst 0 (order items), List.map_map]
  rw [rank_eq, List.map_map]
  rfl

theorem map_composite_rank (items : List (ItemDiagnostics α)) :
    (rank items).map (·.composite) = (order items).map (·.agreement.composite) := by
  have hentry := congrArg (List.map fun e : ℕ × String × α => e.2.2) (map_entry_rank items)
  rwa [List.map_map, List.map_map] at hentry

/-! ### Comparable composites -/

section Comparable

variable [Statistics.RankOrder α] {P : α → Prop} (hcomparable : Comparable P)

/-- The ranking descends by composite, and ascends by column among equal composites. -/
theorem order_stable {items : List (ItemDiagnostics α)}
    (hindex : items.Pairwise fun a b => a.item.index < b.item.index) :
    (order items).Pairwise fun a b =>
      Scalar.precedes b.agreement.composite a.agreement.composite = true ∧
        (Scalar.precedes a.agreement.composite b.agreement.composite = true →
          a.item.index < b.item.index) :=
  Sorting.pairwise_mergeSort_stable
    (fun a b : ItemDiagnostics α => Scalar.precedes b.agreement.composite a.agreement.composite)
    (fun _ _ _ hab hbc => Statistics.RankOrder.trans _ _ _ hbc hab)
    (fun _ _ => Statistics.RankOrder.total _ _) hindex

include hcomparable

theorem order_sorted {items : List (ItemDiagnostics α)}
    (hP : ∀ d ∈ items, P d.agreement.composite)
    (hindex : items.Pairwise fun a b => a.item.index < b.item.index) :
    (order items).Pairwise fun a b => b.agreement.composite < a.agreement.composite ∨
      a.agreement.composite = b.agreement.composite ∧ a.item.index < b.item.index := by
  refine (order_stable hindex).imp_of_mem fun {a b} ha hb hab => ?_
  have ha := hP a (List.mem_mergeSort.mp ha)
  have hb := hP b (List.mem_mergeSort.mp hb)
  rw [hcomparable.lt_iff hb ha]
  cases hba : Scalar.precedes a.agreement.composite b.agreement.composite
  · exact Or.inl rfl
  · exact Or.inr ⟨hcomparable.antisymm ha hb hba hab.1, hab.2 hba⟩

/-! ### The bands -/

/-- In the order of the ranking the levels do not get better. -/
theorem pairwise_level_order (config : Config α) {items : List (ItemDiagnostics α)}
    (hP : ∀ d ∈ items, P d.agreement.composite)
    (hindex : items.Pairwise fun a b => a.item.index < b.item.index)
    (hlevel : ∀ d ∈ items, d.agreement.level
      = ItemAgreement.classify config d.agreement.composite) :
    ((order items).map (·.agreement.level)).Pairwise fun a b => a.place ≤ b.place := by
  refine List.pairwise_map.mpr ((order_stable hindex).imp_of_mem fun {a b} ha hb hab => ?_)
  have ha := List.mem_mergeSort.mp ha
  have hb := List.mem_mergeSort.mp hb
  rw [hlevel a ha, hlevel b hb]
  exact ItemAgreement.place_classify_le hcomparable config (hP b hb) (hP a ha) hab.1

end Comparable

theorem count_level_order (items : List (ItemDiagnostics α)) (level : AgreementLevel) :
    ((order items).map (·.agreement.level)).count level
      = items.countP fun d => d.agreement.level = level := by
  rw [List.count, List.countP_map, ← (order_perm items).countP_eq]
  exact List.countP_congr fun d _ => by simp

theorem map_level_order {items : List (ItemDiagnostics α)}
    (h : ((order items).map (·.agreement.level)).Pairwise fun a b => a.place ≤ b.place) :
    (order items).map (·.agreement.level)
      = (countBands items).flatMap fun band => List.replicate band.count band.level := by
  rw [AgreementLevel.eq_flatMap_replicate h]
  simp only [count_level_order, countBands, List.flatMap_map]

/-- Each item has one of the levels. -/
theorem sum_count_countBands (items : List (ItemDiagnostics α)) :
    ((countBands items).map (·.count)).sum = items.length := by
  have hlength := (AgreementLevel.perm_flatMap_replicate
    ((order items).map (·.agreement.level))).length_eq
  rw [List.length_map, (order_perm items).length_eq, List.length_flatMap] at hlength
  simp only [List.length_replicate, count_level_order] at hlength
  exact hlength.symm

/-! ### The ends of the ranking -/

section Ends

variable [Statistics.RankOrder α] {P : α → Prop} (hcomparable : Comparable P)
include hcomparable

section Values

variable {values : List α} (hP : ∀ w ∈ values, P w) (hne : values ≠ [])
include hP hne

theorem greatest_spec : ReliabilityReport.greatest values ∈ values ∧
    ∀ w ∈ values, Scalar.precedes w (ReliabilityReport.greatest values) = true := by
  have hfilter : values.filter (fun v => v == v) = values :=
    List.filter_eq_self.mpr fun v hv => hcomparable.beq_self (hP v hv)
  obtain ⟨v, rest, rfl⟩ := List.exists_cons_of_ne_nil hne
  rw [ReliabilityReport.greatest, hfilter]
  exact hcomparable.foldl_larger rest v hP

theorem least_spec : ReliabilityReport.least values ∈ values ∧
    ∀ w ∈ values, Scalar.precedes (ReliabilityReport.least values) w = true := by
  have hfilter : values.filter (fun v => v == v) = values :=
    List.filter_eq_self.mpr fun v hv => hcomparable.beq_self (hP v hv)
  obtain ⟨v, rest, rfl⟩ := List.exists_cons_of_ne_nil hne
  rw [ReliabilityReport.least, hfilter]
  exact hcomparable.foldl_smaller rest v hP

variable {l : List α} (hperm : l.Perm values)
  (hsorted : l.Pairwise fun x y => Scalar.precedes y x = true)
include hperm hsorted

theorem head?_eq_greatest : l.head? = some (ReliabilityReport.greatest values) := by
  obtain ⟨hmem, hall⟩ := greatest_spec hcomparable hP hne
  have hgreatest := hperm.mem_iff.mpr hmem
  have hl : l ≠ [] := List.ne_nil_of_mem hgreatest
  rw [List.head?_eq_some_head hl]
  -- The first value and the greatest one precede each other.
  have hhead := hperm.mem_iff.mp (List.head_mem hl)
  refine congrArg some (hcomparable.antisymm (hP _ hhead) (hP _ hmem) (hall _ hhead) ?_)
  exact hsorted.rel_head_of_rel_head_head hgreatest (Statistics.RankOrder.refl _)

theorem getLast?_eq_least : l.getLast? = some (ReliabilityReport.least values) := by
  obtain ⟨hmem, hall⟩ := least_spec hcomparable hP hne
  have hleast := hperm.mem_iff.mpr hmem
  have hl : l ≠ [] := List.ne_nil_of_mem hleast
  rw [List.getLast?_eq_some_getLast hl]
  have hlast := hperm.mem_iff.mp (List.getLast_mem hl)
  refine congrArg some (hcomparable.antisymm (hP _ hlast) (hP _ hmem) ?_ (hall _ hlast))
  exact hsorted.rel_getLast_of_rel_getLast_getLast hleast (Statistics.RankOrder.refl _)

end Values

variable {items : List (ItemDiagnostics α)} (hP : ∀ d ∈ items, P d.agreement.composite)
  (hindex : items.Pairwise fun a b => a.item.index < b.item.index) (hne : items ≠ [])
include hP hindex hne

theorem head?_rank : (rank items).head?.map (·.composite) = some (spreadOf items).max := by
  rw [← List.head?_map, map_composite_rank]
  exact head?_eq_greatest hcomparable (List.forall_mem_map.mpr hP) (by simpa using hne)
    ((order_perm items).map _) (List.pairwise_map.mpr ((order_stable hindex).imp And.left))

theorem getLast?_rank : (rank items).getLast?.map (·.composite) = some (spreadOf items).min := by
  rw [← List.getLast?_map, map_composite_rank]
  exact getLast?_eq_least hcomparable (List.forall_mem_map.mpr hP) (by simpa using hne)
    ((order_perm items).map _) (List.pairwise_map.mpr ((order_stable hindex).imp And.left))

end Ends

/-! ### Every report -/

theorem map_item_diagnosis (config : Config α) (m : RatingMatrix) :
    (m.items.map (diagnosis config m.scale)).map (·.item) = m.items := by
  rw [List.map_map]
  exact List.map_id _

theorem coherent_of_comparable [Statistics.RankOrder α] {P : α → Prop}
    (hcomparable : Comparable P) {config : Config α} {m : RatingMatrix}
    (hP : ∀ item ∈ m.items, P (ItemAgreement.score config item.ratings).composite)
    {report : ReliabilityReport α} (h : ofMatrix config m = .ok report) :
    Coherent m config.rankingSize report := by
  obtain ⟨hbest, hworst⟩ := length_best_worst config h
  obtain ⟨-, hitems, rfl⟩ := eq_ofDiagnostics config h
  have hlength : (m.items.map (diagnosis config m.scale)).length = m.itemCount := by
    rw [List.length_map, RatingMatrix.length_items]
  have hne : m.items.map (diagnosis config m.scale) ≠ [] :=
    List.ne_nil_of_length_pos (hlength ▸ hitems)
  have hindex : (m.items.map (diagnosis config m.scale)).Pairwise
      fun a b => a.item.index < b.item.index := List.pairwise_map.mpr m.pairwise_index_items
  have hP : ∀ d ∈ m.items.map (diagnosis config m.scale), P d.agreement.composite :=
    List.forall_mem_map.mpr hP
  have hlevel : ∀ d ∈ m.items.map (diagnosis config m.scale), d.agreement.level
      = ItemAgreement.classify config d.agreement.composite :=
    List.forall_mem_map.mpr fun item _ => ItemAgreement.level_score config item.ratings
  exact
    { items := map_item_diagnosis config m
      ranking := ⟨order (m.items.map (diagnosis config m.scale)),
        { perm := order_perm _
          sorted := order_sorted hcomparable hP hindex
          ranks := map_rank_rank _
          entries := map_entry_rank _
          levels := map_level_order (pairwise_level_order hcomparable config hP hindex hlevel) }⟩
      best := ⟨List.take_prefix _ _, hbest⟩
      worst := ⟨List.drop_suffix _ _, hworst⟩
      bands := rfl
      counts := (sum_count_countBands _).trans hlength
      greatest := head?_rank hcomparable hP hindex hne
      least := getLast?_rank hcomparable hP hindex hne }

/-! ### Mean and percentages in exact arithmetic -/

theorem min_le_mean_le_max {items : List (ItemDiagnostics ℝ)} (hne : items ≠ []) :
    (spreadOf items).min ≤ (spreadOf items).mean ∧
      (spreadOf items).mean ≤ (spreadOf items).max := by
  have hvalues : items.map (·.agreement.composite) ≠ [] := by simpa using hne
  obtain ⟨-, hleast⟩ := least_spec comparable_exact (fun _ _ => trivial) hvalues
  obtain ⟨-, hgreatest⟩ := greatest_spec comparable_exact (fun _ _ => trivial) hvalues
  exact ⟨Statistics.le_mean hvalues fun x hx => of_decide_eq_true (hleast x hx),
    Statistics.mean_le hvalues fun x hx => of_decide_eq_true (hgreatest x hx)⟩

theorem sum_percentage_countBands {items : List (ItemDiagnostics ℝ)} (hne : items ≠ []) :
    ((countBands items).map (·.percentage)).sum = 100 := by
  have hpercentages : (countBands items).map (·.percentage) = ((countBands items).map
      (·.count)).map fun count => RatingSummary.percentage count items.length := by
    simp only [countBands, List.map_map, List.isEmpty_eq_false_iff.mpr hne,
      if_neg Bool.false_ne_true]
    rfl
  rw [hpercentages]
  exact RatingSummary.sum_percentage (mt List.length_eq_zero_iff.mp hne)
    (sum_count_countBands items)

/-- **The summaries of a report** agree with its items and with each other, in rounded arithmetic
for as many raters as a word of 64 bits can count.  In exact arithmetic the mean lies between the
least and the greatest composite, and the percentages of the bands add up to 100. -/
theorem ofMatrix_coherent (m : RatingMatrix) :
    (∀ config : Config Binary64, config.flaw? = none → m.raterCount < 2 ^ 64 →
      ∀ report, ofMatrix config m = .ok report → Coherent m config.rankingSize report) ∧
    ∀ config : Config ℝ, ∀ report, ofMatrix config m = .ok report →
      Coherent m config.rankingSize report ∧
        report.spread.min ≤ report.spread.mean ∧ report.spread.mean ≤ report.spread.max ∧
        (report.bands.map (·.percentage)).sum = 100 := by
  constructor
  · intro config hconfig hcount report h
    refine coherent_of_comparable Binary64.comparable_unsigned (fun item hitem => ?_) h
    exact ItemAgreement.unsigned_composite hconfig
      (by rwa [RatingMatrix.length_ratings hitem])
  · intro config report h
    refine ⟨coherent_of_comparable comparable_exact (fun _ _ => trivial) h, ?_⟩
    obtain ⟨-, hitems, rfl⟩ := eq_ofDiagnostics config h
    have hne : m.items.map (diagnosis config m.scale) ≠ [] := by
      rw [Ne, List.map_eq_nil_iff, ← List.length_eq_zero_iff, RatingMatrix.length_items]
      omega
    obtain ⟨hmin, hmax⟩ := min_le_mean_le_max hne
    exact ⟨hmin, hmax, sum_percentage_countBands hne⟩

theorem coherent_reversed :
    (∃ report : ReliabilityReport Binary64,
      ofMatrix Config.standard RatingMatrix.reversed = .ok report ∧
        Coherent RatingMatrix.reversed 5 report) ∧
    ∃ report : ReliabilityReport ℝ,
      ofMatrix Config.standard RatingMatrix.reversed = .ok report ∧
        Coherent RatingMatrix.reversed 5 report ∧ (report.bands.map (·.percentage)).sum = 100 := by
  obtain ⟨hrounded, hexact⟩ := ofMatrix_coherent RatingMatrix.reversed
  have hok := ofMatrix_eq_ok (Config.standard : Config Binary64) (m := RatingMatrix.reversed)
    (by decide) (by decide)
  have hok' := ofMatrix_eq_ok (Config.standard : Config ℝ) (m := RatingMatrix.reversed)
    (by decide) (by decide)
  obtain ⟨hcoherent, -, -, hpercent⟩ := hexact Config.standard _ hok'
  exact ⟨⟨_, hok, hrounded Config.standard (by decide +kernel) (by decide) _ hok⟩,
    _, hok', hcoherent, hpercent⟩

end ReliabilityReport

end InterRater
