import InterRater.Proofs.Label.Partition
import InterRater.Proofs.Order.Reorder
import InterRater.Proofs.Rating.Reliability
import InterRater.Proofs.Statistics.RoundedDeviation
import InterRater.Rating.Description

/-!
# The description of a survey

A description fails if the labels cannot be grouped, or if there are items and no ratings.  All
other surveys have one (`DescribeReport.ofMatrix_cases`), in which every item is in one group and
once, with the statistics of its column (`DescribeReport.Describes`).  The items that vary most and
least are the first of two stable sorts.  In exact arithmetic the mean of the means of a group is
the mean of all its ratings, as all its items have as many of them.
-/

namespace InterRater

namespace DescribeReport

variable {α : Type} [Scalar α]

/-! ### The law -/

/-- The labels are those of the first `count` items in an order of their deviations, in which items
of equal deviation follow each other as in the list. -/
def FirstBy (before : α → α → Bool) (items : List (ItemDescription α)) (count : ℕ)
    (labels : List String) : Prop :=
  ∃ order : List (ItemDescription α), order.Perm items ∧
    (order.Pairwise fun a b => before a.summary.stdDev b.summary.stdDev = true ∧
      (before b.summary.stdDev a.summary.stdDev = true ∨
        Scalar.beq a.summary.stdDev b.summary.stdDev = true → [a, b].Sublist items)) ∧
    labels = (order.take count).map (·.label)

/-- The entry describes the items of the group. -/
structure DescribesGroup (config : Config α) (m : RatingMatrix) (group : MetricGroup)
    (entry : MetricDescription α) : Prop where
  metric : entry.metric = group.metric
  name : entry.name = group.name
  /-- No item is left out, and the items are in the order of the group. -/
  indexes : entry.items.map (·.index) = group.positions
  /-- The label and the statistics are those of the column. -/
  items : ∀ item ∈ entry.items, m.labels[item.index]? = some item.label ∧
    RatingSummary.describe item.label (m.column item.index) m.scale = .ok item.summary
  mostVariable : FirstBy (fun x y => Scalar.precedes y x) entry.items
    (min config.rankingSize entry.items.length) entry.mostVariable
  leastVariable : FirstBy Scalar.precedes entry.items
    (min config.rankingSize entry.items.length) entry.leastVariable

/-- The report describes the matrix, group by group. -/
structure Describes (config : Config α) (m : RatingMatrix) (report : DescribeReport α) : Prop where
  raterCount : report.raterCount = m.raterCount
  itemCount : report.itemCount = m.itemCount
  groups : ∃ groups, MetricGroup.partition config m.labels = .ok groups ∧
    List.Forall₂ (DescribesGroup config m) groups report.metrics
  /-- Every item is in one group, and once. -/
  covers : (report.metrics.flatMap fun entry => entry.items.map (·.index)).Perm
    (List.range m.itemCount)

/-- What becomes of the description of a matrix. -/
structure Outcome (config : Config α) (m : RatingMatrix) : Prop where
  fails : (∃ e, ofMatrix config m = .error e) ↔
    (∃ e, MetricGroup.partition config m.labels = .error e) ∨
      (1 ≤ m.itemCount ∧ m.raterCount = 0)
  /-- A fault of the labels comes first. -/
  grouping : ∀ e, ofMatrix config m = .error (.grouping e) ↔
    MetricGroup.partition config m.labels = .error e
  item : ∀ e, ofMatrix config m = .error (.item e) ↔
    (∃ groups, MetricGroup.partition config m.labels = .ok groups) ∧
      1 ≤ m.itemCount ∧ m.raterCount = 0 ∧ e = .tooFew .ratings 0
  describes : ∀ report, ofMatrix config m = .ok report → Describes config m report

/-! ### The items of a group -/

/-- The description of an item whose ratings are on the scale. -/
def description (scale : OrdinalScale) (item : RatingItem) : ItemDescription α :=
  ⟨item.index, item.label, RatingSummary.ofRatings item.ratings scale⟩

/-- The descriptions of the items of a group. -/
def descriptions (m : RatingMatrix) (group : MetricGroup) : List (ItemDescription α) :=
  (reorder group.positions m.items).map (description m.scale)

variable {config : Config α} {m : RatingMatrix} {group : MetricGroup}

theorem describeItem_eq_ok {item : RatingItem} (hitem : item ∈ m.items)
    (hraters : 1 ≤ m.raterCount) :
    describeItem m item = .ok (description (α := α) m.scale item) := by
  rw [describeItem, RatingSummary.describe_eq_ok hitem hraters]
  rfl

theorem describeItem_eq_error {item : RatingItem} (hitem : item ∈ m.items)
    (hraters : m.raterCount = 0) :
    describeItem (α := α) m item = .error (.item (.tooFew .ratings 0)) := by
  have hempty : item.ratings = [] := by
    rw [← List.length_eq_zero_iff, RatingMatrix.length_ratings hitem, hraters]
  rw [describeItem, hempty]
  rfl

theorem filterMap_item? (m : RatingMatrix) (positions : List ℕ) :
    positions.filterMap m.item? = reorder positions m.items :=
  List.filterMap_congr fun i _ => m.item?_eq_getElem? i

theorem describeGroup_eq_ok (config : Config α) (group : MetricGroup)
    (hraters : 1 ≤ m.itemCount → 1 ≤ m.raterCount) :
    describeGroup config m group = .ok (ofItems config group (descriptions m group)) := by
  have hitems : (reorder group.positions m.items).mapM (describeItem (α := α) m)
      = .ok (descriptions m group) := by
    refine Traversal.mapM_eq_ok fun item hitem => ?_
    have hmem : item ∈ m.items := mem_of_mem_reorder hitem
    exact describeItem_eq_ok hmem (hraters ((Nat.zero_le _).trans_lt
      (RatingMatrix.index_lt_of_mem_items hmem)))
  rw [describeGroup, filterMap_item?, hitems]
  rfl

/-- Without ratings the first item of a group is at fault. -/
theorem describeGroup_eq_error (config : Config α) (hraters : m.raterCount = 0)
    (hne : group.positions ≠ []) (hrange : ∀ i ∈ group.positions, i < m.itemCount) :
    describeGroup config m group = .error (.item (.tooFew .ratings 0)) := by
  have hlength : (reorder group.positions m.items).length = group.positions.length :=
    length_reorder (by rwa [RatingMatrix.length_items])
  obtain ⟨item, rest, hitems⟩ : ∃ item rest, reorder group.positions m.items = item :: rest := by
    refine List.exists_cons_of_ne_nil fun hnil => hne ?_
    rw [← List.length_eq_zero_iff, ← hlength, hnil, List.length_nil]
  have hmem : item ∈ m.items := mem_of_mem_reorder (hitems ▸ List.mem_cons_self)
  rw [describeGroup, filterMap_item?, hitems,
    Traversal.mapM_cons_of_error (describeItem_eq_error hmem hraters)]
  rfl

theorem map_index_descriptions (hrange : ∀ i ∈ group.positions, i < m.itemCount) :
    (descriptions (α := α) m group).map (·.index) = group.positions := by
  have hindex : (descriptions (α := α) m group).map (·.index)
      = (reorder group.positions m.items).map (·.index) := by
    rw [descriptions, List.map_map]
    rfl
  rw [hindex, ← reorder_map, RatingMatrix.map_index_items, reorder_positions hrange]

theorem mem_descriptions {item : ItemDescription α} (h : item ∈ descriptions m group) :
    ∃ source ∈ m.items, item = description m.scale source := by
  obtain ⟨source, hsource, rfl⟩ := List.mem_map.mp h
  exact ⟨source, mem_of_mem_reorder hsource, rfl⟩

/-! ### The items that vary most and least -/

theorem firstBy_labelsBy (before : α → α → Bool)
    (trans : ∀ x y z, before x y → before y z → before x z)
    (total : ∀ x y, before x y || before y x) {items : List (ItemDescription α)}
    (hequal : ∀ a ∈ items, ∀ b ∈ items, Scalar.beq a.summary.stdDev b.summary.stdDev = true →
      before b.summary.stdDev a.summary.stdDev = true) (count : ℕ) :
    FirstBy before items count (labelsBy items count fun a b => before a.stdDev b.stdDev) := by
  have hlisted : items.Pairwise fun a b => [a, b].Sublist items :=
    List.pairwise_iff_forall_sublist.mpr fun h => h
  refine ⟨_, List.mergeSort_perm _ _, ?_, rfl⟩
  have hstable := Sorting.pairwise_mergeSort_stable
    (fun a b : ItemDescription α => before a.summary.stdDev b.summary.stdDev)
    (fun _ _ _ => trans _ _ _) (fun _ _ => total _ _) hlisted
  refine hstable.imp_of_mem fun {a b} ha hb hab => ⟨hab.1, fun h => hab.2 ?_⟩
  rcases h with h | h
  · exact h
  · exact hequal a (List.mem_mergeSort.mp ha) b (List.mem_mergeSort.mp hb) h

/-! ### Every matrix -/

/-- The three ways in which a description ends. -/
theorem ofMatrix_cases (config : Config α) (m : RatingMatrix) :
    (∃ e, MetricGroup.partition config m.labels = .error e ∧
      ofMatrix config m = .error (.grouping e)) ∨
    ∃ groups, MetricGroup.partition config m.labels = .ok groups ∧
      ((1 ≤ m.itemCount ∧ m.raterCount = 0 ∧
          ofMatrix config m = .error (.item (.tooFew .ratings 0))) ∨
        ((1 ≤ m.itemCount → 1 ≤ m.raterCount) ∧
          ofMatrix config m = .ok ⟨m.raterCount, m.itemCount,
            groups.map fun group => ofItems config group (descriptions m group)⟩)) := by
  cases hgroups : MetricGroup.partition config m.labels with
  | error e => exact .inl ⟨e, rfl, by rw [ofMatrix, hgroups]⟩
  | ok groups =>
    refine .inr ⟨groups, rfl, ?_⟩
    obtain ⟨pattern, hpartition⟩ := MetricGroup.exists_isPartition hgroups
    by_cases hraters : 1 ≤ m.itemCount → 1 ≤ m.raterCount
    · have hmetrics : groups.mapM (describeGroup config m)
          = .ok (groups.map fun group => ofItems config group (descriptions m group)) :=
        Traversal.mapM_eq_ok fun group _ => describeGroup_eq_ok config group hraters
      refine .inr ⟨hraters, ?_⟩
      rw [ofMatrix, hgroups]
      dsimp only
      rw [hmetrics]
      rfl
    · obtain ⟨hitems, hraters⟩ := Classical.not_imp.mp hraters
      have hraters : m.raterCount = 0 := by omega
      -- There is a group, and the first one cannot be described.
      obtain ⟨group, rest, rfl⟩ : ∃ group rest, groups = group :: rest := by
        refine List.exists_cons_of_ne_nil ?_
        rintro rfl
        have hnone := hpartition.covers.length_eq
        rw [List.flatMap_nil, List.length_nil, List.length_range] at hnone
        exact absurd hitems (by rw [RatingMatrix.itemCount, ← hnone]; decide)
      have herror := describeGroup_eq_error config hraters
        (hpartition.nonempty group List.mem_cons_self)
        fun _ => MetricGroup.lt_of_covers hpartition.covers List.mem_cons_self
      refine .inl ⟨hitems, hraters, ?_⟩
      rw [ofMatrix, hgroups]
      dsimp only
      rw [Traversal.mapM_cons_of_error herror]
      rfl

section Report

variable [Statistics.RankOrder α]
  (hequal : ∀ v w : List α,
    Scalar.beq (Statistics.sampleDeviation v) (Statistics.sampleDeviation w) = true →
      Scalar.precedes (Statistics.sampleDeviation v) (Statistics.sampleDeviation w) = true)
include hequal

theorem describesGroup_ofItems (hraters : 1 ≤ m.itemCount → 1 ≤ m.raterCount)
    (hrange : ∀ i ∈ group.positions, i < m.itemCount) :
    DescribesGroup config m group (ofItems config group (descriptions m group)) := by
  have hdeviations : ∀ a ∈ descriptions (α := α) m group, ∀ b ∈ descriptions m group,
      Scalar.beq a.summary.stdDev b.summary.stdDev = true →
        Scalar.precedes a.summary.stdDev b.summary.stdDev = true := by
    intro a ha b hb
    obtain ⟨source, -, rfl⟩ := mem_descriptions ha
    obtain ⟨source', -, rfl⟩ := mem_descriptions hb
    exact hequal _ _
  constructor
  case metric => rfl
  case name => rfl
  case indexes => exact map_index_descriptions hrange
  case items =>
    intro item hitem
    obtain ⟨source, hsource, rfl⟩ := mem_descriptions hitem
    have hindex := RatingMatrix.index_lt_of_mem_items hsource
    refine ⟨RatingMatrix.getElem?_labels_of_mem_items hsource, ?_⟩
    show RatingSummary.describe source.label (m.column source.index) m.scale = _
    rw [← RatingMatrix.ratings_eq_column hsource]
    exact RatingSummary.describe_eq_ok hsource (hraters ((Nat.zero_le _).trans_lt hindex))
  case mostVariable =>
    exact firstBy_labelsBy (fun x y => Scalar.precedes y x)
      (fun _ _ _ hxy hyz => Statistics.RankOrder.trans _ _ _ hyz hxy)
      (fun _ _ => Statistics.RankOrder.total _ _) hdeviations _
  case leastVariable =>
    exact firstBy_labelsBy Scalar.precedes Statistics.RankOrder.trans Statistics.RankOrder.total
      (fun a ha b hb h => hdeviations b hb a ha (Statistics.RankOrder.beq_symm _ _ h)) _

theorem outcome_ofMatrix (config : Config α) (m : RatingMatrix) : Outcome config m := by
  rcases ofMatrix_cases config m with ⟨e, hpartition, hresult⟩ |
    ⟨groups, hpartition, ⟨hitems, hraters, hresult⟩ | ⟨hraters, hresult⟩⟩
  · constructor <;> rw [hresult] <;> simp [hpartition, eq_comm]
  · constructor <;> rw [hresult] <;> simp [hpartition, hitems, hraters, eq_comm]
  · obtain ⟨pattern, partition⟩ := MetricGroup.exists_isPartition hpartition
    have hrange : ∀ group ∈ groups, ∀ i ∈ group.positions, i < m.itemCount :=
      fun group hgroup i hi => MetricGroup.lt_of_covers partition.covers hgroup hi
    have hnone : ¬ (1 ≤ m.itemCount ∧ m.raterCount = 0) := fun h => by
      have := hraters h.1
      omega
    constructor
    case fails => simp [hresult, hpartition, hnone]
    case grouping => simp [hresult, hpartition]
    case item =>
      intro e
      simp only [hresult, reduceCtorEq, false_iff]
      rintro ⟨-, hitems, hzero, -⟩
      exact hnone ⟨hitems, hzero⟩
    case describes =>
      rintro report hreport
      rw [hresult] at hreport
      cases hreport
      refine ⟨rfl, rfl, ⟨groups, hpartition, ?_⟩, ?_⟩
      · rw [List.forall₂_map_right_iff, List.forall₂_same]
        exact fun group hgroup => describesGroup_ofItems hequal hraters (hrange group hgroup)
      · have hindexes : (groups.flatMap fun group =>
            (descriptions (α := α) m group).map (·.index)) = groups.flatMap (·.positions) :=
          List.flatMap_congr fun group hgroup => map_index_descriptions (hrange group hgroup)
        have hmetrics := partition.covers
        rw [← hindexes] at hmetrics
        rw [List.flatMap_map]
        exact hmetrics

end Report

/-! ### Means in exact arithmetic -/

theorem meanOfMeans_eq {config : Config ℝ} {report : DescribeReport ℝ}
    (h : ofMatrix config m = .ok report) {entry : MetricDescription ℝ}
    (hentry : entry ∈ report.metrics) :
    entry.meanOfMeans = Statistics.mean (entry.items.flatMap fun item =>
      (m.column item.index).map fun rating : ℤ => (rating : ℝ)) := by
  rcases ofMatrix_cases config m with ⟨e, -, hresult⟩ |
    ⟨groups, -, ⟨-, -, hresult⟩ | ⟨-, hresult⟩⟩
  · rw [hresult] at h
    cases h
  · rw [hresult] at h
    cases h
  rw [hresult] at h
  cases h
  obtain ⟨group, -, rfl⟩ := List.mem_map.mp hentry
  set sources := reorder group.positions m.items
  have hmem : ∀ source ∈ sources, source ∈ m.items := fun _ => mem_of_mem_reorder
  -- All items of the group have a rating by each rater.
  have hlength : ∀ l ∈ sources.map fun source => source.ratings.map fun n : ℤ => (n : ℝ),
      l.length = m.raterCount := by
    refine List.forall_mem_map.mpr fun source hsource => ?_
    rw [List.length_map, RatingMatrix.length_ratings (hmem source hsource)]
  have hmeans : (ofItems config group (descriptions m group)).meanOfMeans
      = Statistics.mean ((sources.map fun source =>
          source.ratings.map fun n : ℤ => (n : ℝ)).map Statistics.mean) := by
    rw [List.map_map]
    show Statistics.mean ((descriptions m group).map _) = _
    rw [descriptions, List.map_map]
    rfl
  have hpooled : ((descriptions (α := ℝ) m group).flatMap fun item =>
      (m.column item.index).map fun rating : ℤ => (rating : ℝ))
        = (sources.map fun source => source.ratings.map fun n : ℤ => (n : ℝ)).flatten := by
    rw [descriptions, List.flatMap_map, ← List.flatMap_def]
    refine List.flatMap_congr fun source hsource => ?_
    rw [RatingMatrix.ratings_eq_column (hmem source hsource)]
    rfl
  rw [hmeans, Statistics.mean_map_mean hlength, ← hpooled]
  rfl

/-- **The description of a matrix** fails exactly if its labels cannot be grouped, or else if it has
items and no rater.  If it succeeds, every item is in one group, with the statistics of its column,
and the items of a group that vary most and least are the first in the order of their deviations.
In exact arithmetic the mean of the means of a group is the mean of all the ratings of its items. -/
theorem ofMatrix_describes (m : RatingMatrix) :
    (∀ config : Config Binary64, Outcome config m) ∧
    ∀ config : Config ℝ, Outcome config m ∧
      ∀ report, ofMatrix config m = .ok report → ∀ entry ∈ report.metrics,
        entry.meanOfMeans = Statistics.mean (entry.items.flatMap fun item =>
          (m.column item.index).map fun rating : ℤ => (rating : ℝ)) := by
  refine ⟨fun config => outcome_ofMatrix (fun v w h => ?_) config m,
    fun config => ⟨outcome_ofMatrix (fun v w h => ?_) config m,
      fun report hreport entry hentry => meanOfMeans_eq hreport hentry⟩⟩
  · exact (Statistics.signFree_sampleDeviation v).precedes_of_beq
      (Statistics.signFree_sampleDeviation w) h
  · exact decide_eq_true (eq_of_beq h).le

/-- Two raters of three items, two of which have a metric. -/
def threeItems : RatingMatrix where
  labels := ["Q2_1", "notes", "Q1_1"]
  rows := [[1, 5, 2], [4, 5, 4]]
  scale := ⟨1, 5⟩
  width_eq := by decide
  contains := by decide

theorem describes_threeItems : ∃ report : DescribeReport ℝ,
    ofMatrix Config.standard threeItems = .ok report ∧
      Describes Config.standard threeItems report ∧
      ∃ grouped ungrouped, report.metrics = [grouped, ungrouped] ∧
        grouped.items.map (·.index) = [2, 0] ∧ grouped.meanOfMeans = 11 / 4 := by
  obtain ⟨-, hexact⟩ := ofMatrix_describes threeItems
  obtain ⟨houtcome, hmeans⟩ := hexact Config.standard
  have hpartition : MetricGroup.partition (Config.standard : Config ℝ) threeItems.labels =
      .ok [⟨some 1, "comprehensibility", [2, 0]⟩, ⟨none, "ungrouped", [1]⟩] :=
    MetricGroup.partition_three
  cases hreport : ofMatrix (Config.standard : Config ℝ) threeItems with
  | error e =>
    rcases houtcome.fails.mp ⟨e, hreport⟩ with ⟨e', hfault⟩ | ⟨-, hraters⟩
    · rw [hpartition] at hfault
      cases hfault
    · exact absurd hraters (by decide)
  | ok report =>
    have hdescribes := houtcome.describes report hreport
    obtain ⟨groups, hgroups, hmetrics⟩ := hdescribes.groups
    rw [hpartition] at hgroups
    cases hgroups
    obtain ⟨grouped, rest, hgrouped, hrest, hsplit⟩ := List.forall₂_cons_left_iff.mp hmetrics
    obtain ⟨ungrouped, rest, -, hnil, rfl⟩ := List.forall₂_cons_left_iff.mp hrest
    cases List.forall₂_nil_left_iff.mp hnil
    refine ⟨report, rfl, hdescribes, grouped, ungrouped, hsplit, hgrouped.indexes, ?_⟩
    have hpooled : (grouped.items.flatMap fun item =>
        (threeItems.column item.index).map fun rating : ℤ => (rating : ℝ))
          = [((2 : ℤ) : ℝ), ((4 : ℤ) : ℝ), ((1 : ℤ) : ℝ), ((4 : ℤ) : ℝ)] := by
      have hindexes : (grouped.items.flatMap fun item =>
          (threeItems.column item.index).map fun rating : ℤ => (rating : ℝ))
            = (grouped.items.map (·.index)).flatMap fun i =>
                (threeItems.column i).map fun rating : ℤ => (rating : ℝ) := by
        rw [List.flatMap_map]
      rw [hindexes, hgrouped.indexes]
      rfl
    rw [hmeans report hreport grouped (hsplit ▸ List.mem_cons_self), hpooled,
      Statistics.mean_eq]
    norm_num

end DescribeReport

end InterRater
