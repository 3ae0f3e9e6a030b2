import InterRater.Label.Group
import InterRater.Proofs.Label.Grammar
import InterRater.Proofs.Label.Token
import InterRater.Proofs.Order.Sorting
import InterRater.Proofs.Order.Traversal

/-!
# The groups of a list of labels

The groups are an ordered partition of the positions (`MetricGroup.IsPartition`): metrics ascend and
the group without a metric is the last; inside a group positions follow the items of their labels.
Grouping fails exactly if a label is faulty, and reports the first that is
(`MetricGroup.partition_outcome`).

The tokens of the labels are looked at as a list of results with ascending positions, so that the
statements on groups need neither labels nor pattern.
-/

namespace InterRater

namespace MetricGroup

/-! ### Ordered partitions -/

/-- The order of groups: metrics ascend, and the group without a metric is the last. -/
def Before (group group' : MetricGroup) : Prop :=
  match group.metric, group'.metric with
  | some metric, some metric' => metric < metric'
  | some _, none => True
  | none, _ => False

/-- What is read in the label at position `i`. -/
def ReadsAt (pattern : Program) (labels : List String) (i : ℕ) (token : Option LabelToken) : Prop :=
  ∃ label, labels[i]? = some label ∧ LabelToken.read pattern label = .ok token

/-- The groups are an ordered partition of the positions of the labels. -/
structure IsPartition {α : Type} (config : Config α) (pattern : Program) (labels : List String)
    (groups : List MetricGroup) : Prop where
  /-- Every position is in one group, and once. -/
  covers : (groups.flatMap (·.positions)).Perm (List.range labels.length)
  nonempty : ∀ group ∈ groups, group.positions ≠ []
  ordered : groups.Pairwise Before
  named : ∀ group ∈ groups, group.name = (group.metric.map config.metricName).getD ungroupedName
  /-- A position is in the group of the metric that its label has. -/
  mem_metric : ∀ metric i, (∃ group ∈ groups, group.metric = some metric ∧ i ∈ group.positions) ↔
    ∃ item, ReadsAt pattern labels i (some ⟨item, metric⟩)
  /-- A position is in the last group if the pattern does not match its label. -/
  mem_rest : ∀ i, (∃ group ∈ groups, group.metric = none ∧ i ∈ group.positions) ↔
    ∃ label, labels[i]? = some label ∧ pattern.find? (trim label.toList) = none
  /-- Inside the group of a metric, the order is that of the items, and of the positions among
  labels with the same item. -/
  sorted_metric : ∀ group ∈ groups, ∀ metric, group.metric = some metric →
    group.positions.Pairwise fun i j => ∃ a b, ReadsAt pattern labels i (some ⟨a, metric⟩) ∧
      ReadsAt pattern labels j (some ⟨b, metric⟩) ∧ (a < b ∨ a = b ∧ i < j)
  sorted_rest : ∀ group ∈ groups, group.metric = none → group.positions.Pairwise (· < ·)

theorem lt_of_covers {groups : List MetricGroup} {n : ℕ}
    (h : (groups.flatMap (·.positions)).Perm (List.range n)) {group : MetricGroup}
    (hgroup : group ∈ groups) {i : ℕ} (hi : i ∈ group.positions) : i < n :=
  List.mem_range.mp (h.mem_iff.mp (List.mem_flatMap_of_mem hgroup hi))

/-! ### Groups of tokens -/

section Tokens

variable {tokens : List (Option LabelToken × ℕ)} {metric i : ℕ}

theorem mem_metrics :
    metric ∈ metrics tokens ↔ ∃ item i, (some ⟨item, metric⟩, i) ∈ tokens := by
  rw [metrics, Sorting.mem_eraseReps, List.mem_mergeSort, List.mem_filterMap]
  constructor
  · rintro ⟨⟨token, i⟩, hmem, htoken⟩
    obtain ⟨t, rfl, rfl⟩ := Option.map_eq_some_iff.mp htoken
    exact ⟨t.item, i, hmem⟩
  · rintro ⟨item, i, hmem⟩
    exact ⟨_, hmem, rfl⟩

theorem pairwise_metrics (tokens : List (Option LabelToken × ℕ)) :
    (metrics tokens).Pairwise (· < ·) :=
  Sorting.pairwise_eraseReps (Sorting.pairwise_mergeSort_key id _)

/-- The items that have the metric, with their positions, in the order of the labels. -/
def members (tokens : List (Option LabelToken × ℕ)) (metric : ℕ) : List (ℕ × ℕ) :=
  tokens.filterMap fun (token, i) =>
    token.bind fun t => if t.metric = metric then some (t.item, i) else none

theorem mem_members {item : ℕ} :
    (item, i) ∈ members tokens metric ↔ (some ⟨item, metric⟩, i) ∈ tokens := by
  rw [members, List.mem_filterMap]
  constructor
  · rintro ⟨⟨token, j⟩, hmem, htoken⟩
    obtain ⟨t, rfl, ht⟩ := Option.bind_eq_some_iff.mp htoken
    split at ht
    · rename_i hmetric
      cases ht
      rw [← hmetric]
      exact hmem
    · cases ht
  · intro hmem
    exact ⟨_, hmem, by simp⟩

theorem mem_positionsOf :
    i ∈ positionsOf tokens metric ↔ ∃ item, (some ⟨item, metric⟩, i) ∈ tokens := by
  have hmem : i ∈ positionsOf tokens metric ↔ ∃ item, (item, i) ∈ members tokens metric := by
    unfold positionsOf
    rw [List.mem_map]
    simp only [List.mem_mergeSort, Prod.exists, exists_eq_right]
    rfl
  simp only [hmem, mem_members]

theorem mem_positionsWithout : i ∈ positionsWithout tokens ↔ (none, i) ∈ tokens := by
  rw [positionsWithout, List.mem_filterMap]
  constructor
  · rintro ⟨⟨token, j⟩, hmem, htoken⟩
    cases token with
    | none =>
      cases htoken
      exact hmem
    | some t => cases htoken
  · intro hmem
    exact ⟨_, hmem, rfl⟩

/-! ### Order inside a group -/

section Ascending

variable (hascending : tokens.Pairwise fun x y => x.2 < y.2)
include hascending

theorem pairwise_members (metric : ℕ) :
    (members tokens metric).Pairwise fun x y => x.2 < y.2 := by
  apply hascending.filterMap
  rintro ⟨token, i⟩ ⟨token', j⟩ hlt x hx y hy
  obtain ⟨t, -, ht⟩ := Option.bind_eq_some_iff.mp hx
  obtain ⟨t', -, ht'⟩ := Option.bind_eq_some_iff.mp hy
  split at ht <;> cases ht
  split at ht' <;> cases ht'
  exact hlt

theorem pairwise_positionsOf (metric : ℕ) :
    (positionsOf tokens metric).Pairwise fun i j => ∃ a b, (some ⟨a, metric⟩, i) ∈ tokens ∧
      (some ⟨b, metric⟩, j) ∈ tokens ∧ (a < b ∨ a = b ∧ i < j) := by
  set before : ℕ × ℕ → ℕ × ℕ → Bool := fun a b => a.1 < b.1 || a.1 == b.1 && a.2 ≤ b.2
  have hperm := List.mergeSort_perm (members tokens metric) before
  have hsorted : ((members tokens metric).mergeSort before).Pairwise fun x y => before x y := by
    apply List.pairwise_mergeSort
    · intro x y z hxy hyz
      simp only [before, Bool.or_eq_true, Bool.and_eq_true, decide_eq_true_eq,
        beq_iff_eq] at hxy hyz ⊢
      omega
    · intro x y
      simp only [before, Bool.or_eq_true, Bool.and_eq_true, decide_eq_true_eq, beq_iff_eq]
      omega
  -- The order is strict: a position has one member.
  have hne : ((members tokens metric).mergeSort before).Pairwise fun x y => x.2 ≠ y.2 :=
    (hperm.pairwise_iff fun h => h.symm).mpr
      ((pairwise_members hascending metric).imp fun h => h.ne)
  show (((members tokens metric).mergeSort before).map (·.2)).Pairwise _
  rw [List.pairwise_map]
  refine (hsorted.and hne).imp_of_mem ?_
  rintro ⟨a, i⟩ ⟨b, j⟩ hx hy ⟨hle, hij⟩
  refine ⟨a, b, mem_members.mp (hperm.mem_iff.mp hx), mem_members.mp (hperm.mem_iff.mp hy), ?_⟩
  simp only [before, Bool.or_eq_true, Bool.and_eq_true, decide_eq_true_eq, beq_iff_eq] at hle hij
  omega

theorem pairwise_positionsWithout : (positionsWithout tokens).Pairwise (· < ·) := by
  apply hascending.filterMap
  rintro ⟨token, i⟩ ⟨token', j⟩ hlt x hx y hy
  cases token <;> cases hx
  cases token' <;> cases hy
  exact hlt

/-- A position has one token. -/
theorem token_unique {token token' : Option LabelToken} (h : (token, i) ∈ tokens)
    (h' : (token', i) ∈ tokens) : token = token' := by
  have hnodup : (tokens.map (·.2)).Nodup := List.pairwise_map.mpr (hascending.imp fun h => h.ne)
  have heq := List.inj_on_of_nodup_map hnodup h h' rfl
  exact (Prod.mk.inj heq).1

end Ascending

end Tokens

/-! ### The groups -/

section Groups

variable {α : Type} {config : Config α} {tokens : List (Option LabelToken × ℕ)}
  {group group' : MetricGroup} {i : ℕ}

theorem mem_ofTokens : group ∈ ofTokens config tokens ↔
    (∃ metric ∈ metrics tokens,
      group = ⟨some metric, config.metricName metric, positionsOf tokens metric⟩) ∨
    positionsWithout tokens ≠ [] ∧ group = ⟨none, ungroupedName, positionsWithout tokens⟩ := by
  rw [ofTokens, List.mem_append, List.mem_map]
  apply or_congr
  · simp only [eq_comm (a := group)]
  · by_cases hrest : positionsWithout tokens = []
    · simp [hrest]
    · simp [hrest, List.isEmpty_iff]

/-- A group holds the positions whose token has its metric, or that have no token. -/
theorem mem_positions_iff (h : group ∈ ofTokens config tokens) :
    i ∈ group.positions ↔ ∃ token, (token, i) ∈ tokens ∧ token.map (·.metric) = group.metric := by
  rcases mem_ofTokens.mp h with ⟨metric, -, rfl⟩ | ⟨-, rfl⟩
  · rw [mem_positionsOf]
    constructor
    · rintro ⟨item, hmem⟩
      exact ⟨_, hmem, rfl⟩
    · rintro ⟨token, hmem, htoken⟩
      obtain ⟨t, rfl, rfl⟩ := Option.map_eq_some_iff.mp htoken
      exact ⟨t.item, hmem⟩
  · rw [mem_positionsWithout]
    constructor
    · intro hmem
      exact ⟨none, hmem, rfl⟩
    · rintro ⟨token, hmem, htoken⟩
      rwa [Option.map_eq_none_iff.mp htoken] at hmem

/-- Every token has a group. -/
theorem exists_group {token : Option LabelToken} (h : (token, i) ∈ tokens) :
    ∃ group ∈ ofTokens config tokens, group.metric = token.map (·.metric) ∧
      i ∈ group.positions := by
  cases token with
  | none =>
    have hmem : i ∈ positionsWithout tokens := mem_positionsWithout.mpr h
    exact ⟨_, mem_ofTokens.mpr (Or.inr ⟨List.ne_nil_of_mem hmem, rfl⟩), rfl, hmem⟩
  | some t =>
    have hmetric : t.metric ∈ metrics tokens := mem_metrics.mpr ⟨t.item, i, h⟩
    exact ⟨_, mem_ofTokens.mpr (Or.inl ⟨t.metric, hmetric, rfl⟩), rfl,
      mem_positionsOf.mpr ⟨t.item, h⟩⟩

theorem exists_mem_positions_iff {metric : Option ℕ} :
    (∃ group ∈ ofTokens config tokens, group.metric = metric ∧ i ∈ group.positions) ↔
      ∃ token, (token, i) ∈ tokens ∧ token.map (·.metric) = metric := by
  constructor
  · rintro ⟨group, hgroup, rfl, hi⟩
    exact (mem_positions_iff hgroup).mp hi
  · rintro ⟨token, hmem, rfl⟩
    exact exists_group hmem

theorem positions_ne_nil (h : group ∈ ofTokens config tokens) : group.positions ≠ [] := by
  rcases mem_ofTokens.mp h with ⟨metric, hmetric, rfl⟩ | ⟨hrest, rfl⟩
  · obtain ⟨item, i, hmem⟩ := mem_metrics.mp hmetric
    exact List.ne_nil_of_mem (mem_positionsOf.mpr ⟨item, hmem⟩)
  · exact hrest

theorem name_eq (h : group ∈ ofTokens config tokens) :
    group.name = (group.metric.map config.metricName).getD ungroupedName := by
  rcases mem_ofTokens.mp h with ⟨metric, -, rfl⟩ | ⟨-, rfl⟩ <;> rfl

theorem pairwise_before : (ofTokens config tokens).Pairwise Before := by
  rw [ofTokens, List.pairwise_append]
  refine ⟨?_, ?_, ?_⟩
  · rw [List.pairwise_map]
    exact pairwise_metrics tokens
  · split
    · exact List.Pairwise.nil
    · exact List.pairwise_singleton _ _
  · intro group hgroup group' hgroup'
    obtain ⟨metric, -, rfl⟩ := List.mem_map.mp hgroup
    split at hgroup'
    · cases hgroup'
    · rw [List.mem_singleton.mp hgroup']
      trivial

theorem metric_ne_of_before (h : Before group group') : group.metric ≠ group'.metric := by
  unfold Before at h
  intro heq
  rw [heq] at h
  cases hmetric : group'.metric with
  | none => simp [hmetric] at h
  | some metric => simp [hmetric] at h

variable (hascending : tokens.Pairwise fun x y => x.2 < y.2)
include hascending

theorem nodup_positions (h : group ∈ ofTokens config tokens) : group.positions.Nodup := by
  rcases mem_ofTokens.mp h with ⟨metric, -, rfl⟩ | ⟨-, rfl⟩
  · refine (pairwise_positionsOf hascending metric).imp ?_
    rintro i j ⟨a, b, hi, hj, hlt⟩ rfl
    cases token_unique hascending hi hj
    omega
  · exact (pairwise_positionsWithout hascending).imp fun h => h.ne

/-- No position is lost, and none is in two groups. -/
theorem flatMap_positions_perm :
    ((ofTokens config tokens).flatMap (·.positions)).Perm (tokens.map (·.2)) := by
  have hnodup : (tokens.map (·.2)).Nodup := List.pairwise_map.mpr (hascending.imp fun h => h.ne)
  have hnodup' : ((ofTokens config tokens).flatMap (·.positions)).Nodup := by
    rw [List.nodup_flatMap]
    refine ⟨fun group hgroup => nodup_positions hascending hgroup, ?_⟩
    refine pairwise_before.imp_of_mem ?_
    intro group group' hgroup hgroup' hbefore i hi hi'
    -- The token of a position in both groups would have two metrics.
    obtain ⟨token, hmem, hmetric⟩ := (mem_positions_iff hgroup).mp hi
    obtain ⟨token', hmem', hmetric'⟩ := (mem_positions_iff hgroup').mp hi'
    rw [token_unique hascending hmem hmem', hmetric'] at hmetric
    exact metric_ne_of_before hbefore hmetric.symm
  rw [List.perm_ext_iff_of_nodup hnodup' hnodup]
  intro i
  rw [List.mem_flatMap, List.mem_map]
  constructor
  · rintro ⟨group, hgroup, hi⟩
    obtain ⟨token, hmem, -⟩ := (mem_positions_iff hgroup).mp hi
    exact ⟨_, hmem, rfl⟩
  · rintro ⟨⟨token, i⟩, hmem, rfl⟩
    obtain ⟨group, hgroup, -, hi⟩ : ∃ group ∈ ofTokens config tokens,
        group.metric = token.map (·.metric) ∧ i ∈ group.positions := exists_group hmem
    exact ⟨group, hgroup, hi⟩

end Groups

/-! ### The tokens of labels -/

section Labels

variable {pattern : Program} {labels : List String} {results : List (Option LabelToken × ℕ)}

/-- One step of the traversal of the labels: the position is handed on. -/
theorem tokens_step_eq_ok_iff {label : String} {token : Option LabelToken} {i j : ℕ} :
    (do let token ← LabelToken.read pattern label; return (token, i)) =
        (.ok (token, j) : Except LabelFault (Option LabelToken × ℕ)) ↔
      LabelToken.read pattern label = .ok token ∧ i = j := by
  cases LabelToken.read pattern label <;> simp [bind, Except.bind, pure, Except.pure]

theorem tokens_step_eq_error_iff {label : String} {fault : LabelFault} {i : ℕ} :
    (do let token ← LabelToken.read pattern label; return (token, i)) =
        (.error fault : Except LabelFault (Option LabelToken × ℕ)) ↔
      LabelToken.read pattern label = .error fault := by
  cases LabelToken.read pattern label <;> simp [bind, Except.bind, pure, Except.pure]

theorem mem_tokens (h : tokens pattern labels = .ok results) {token : Option LabelToken} {i : ℕ} :
    (token, i) ∈ results ↔ ReadsAt pattern labels i token := by
  rw [Traversal.mem_iff_of_mapM_eq_ok h]
  constructor
  · rintro ⟨⟨label, j⟩, hmem, hstep⟩
    obtain ⟨hread, rfl⟩ := tokens_step_eq_ok_iff.mp hstep
    exact ⟨label, List.mk_mem_zipIdx_iff_getElem?.mp hmem, hread⟩
  · rintro ⟨label, hlabel, hread⟩
    exact ⟨(label, i), List.mk_mem_zipIdx_iff_getElem?.mpr hlabel,
      tokens_step_eq_ok_iff.mpr ⟨hread, rfl⟩⟩

theorem map_snd_tokens (h : tokens pattern labels = .ok results) :
    results.map (·.2) = List.range labels.length := by
  have hmap : results.map (·.2) = labels.zipIdx.map (·.2) := by
    apply Traversal.map_eq_of_mapM_eq_ok h
    rintro ⟨label, i⟩ ⟨token, j⟩ hstep
    exact (tokens_step_eq_ok_iff.mp hstep).2
  rw [hmap, List.zipIdx_map_snd, List.range_eq_range']

theorem pairwise_tokens (h : tokens pattern labels = .ok results) :
    results.Pairwise fun x y => x.2 < y.2 := by
  have hrange : (results.map (·.2)).Pairwise (· < ·) := by
    rw [map_snd_tokens h]
    exact List.pairwise_lt_range
  exact List.pairwise_map.mp hrange

/-- The fault is that of the first faulty label. -/
theorem tokens_eq_error_iff {fault : LabelFault} : tokens pattern labels = .error fault ↔
    ∃ before label after, labels = before ++ label :: after ∧
      (∀ l ∈ before, ¬ LabelToken.Misindexed pattern l) ∧
      LabelToken.read pattern label = .error fault := by
  rw [tokens, Traversal.mapM_eq_error_iff]
  constructor
  · rintro ⟨before, ⟨label, i⟩, after, hsplit, hbefore, hstep⟩
    refine ⟨before.map (·.1), label, after.map (·.1), ?_, ?_, tokens_step_eq_error_iff.mp hstep⟩
    · have hmap := congrArg (List.map (·.1)) hsplit
      rwa [List.zipIdx_map_fst, List.map_append, List.map_cons] at hmap
    · rintro l hl
      obtain ⟨⟨l, j⟩, hmem, rfl⟩ := List.mem_map.mp hl
      obtain ⟨⟨token, k⟩, hok⟩ := hbefore _ hmem
      rw [← LabelToken.exists_read_eq_error_iff]
      rintro ⟨fault', hread⟩
      rw [(tokens_step_eq_ok_iff.mp hok).1] at hread
      cases hread
  · rintro ⟨before, label, after, rfl, hbefore, hread⟩
    refine ⟨before.zipIdx, (label, before.length), after.zipIdx (before.length + 1), ?_, ?_,
      tokens_step_eq_error_iff.mpr hread⟩
    · rw [List.zipIdx_append, List.zipIdx_cons, Nat.zero_add]
    · rintro ⟨l, j⟩ hmem
      have hl := hbefore l (List.fst_mem_of_mem_zipIdx hmem)
      rw [← LabelToken.exists_read_eq_error_iff] at hl
      cases hread' : LabelToken.read pattern l with
      | error fault' => exact absurd ⟨fault', hread'⟩ hl
      | ok token => exact ⟨(token, j), tokens_step_eq_ok_iff.mpr ⟨hread', rfl⟩⟩

end Labels

/-! ### Grouping -/

section Grouping

variable {α : Type} {config : Config α} {compiled : CompiledPattern} {labels : List String}

theorem partition_eq_ok_iff (h : config.compiledPattern? = some compiled)
    {groups : List MetricGroup} : partition config labels = .ok groups ↔ ∃ results,
      tokens compiled.program labels = .ok results ∧ ofTokens config results = groups := by
  simp only [partition, h]
  cases tokens compiled.program labels <;> simp

theorem partition_eq_error_iff (h : config.compiledPattern? = some compiled)
    {fault : GroupingFault} : partition config labels = .error fault ↔
      ∃ e, tokens compiled.program labels = .error e ∧ .label e = fault := by
  simp only [partition, h]
  cases tokens compiled.program labels <;> simp

theorem isPartition_of_partition_eq_ok (h : config.compiledPattern? = some compiled)
    {groups : List MetricGroup} (hgroups : partition config labels = .ok groups) :
    IsPartition config compiled.program labels groups := by
  obtain ⟨results, hresults, rfl⟩ := (partition_eq_ok_iff h).mp hgroups
  have hascending := pairwise_tokens hresults
  constructor
  case covers =>
    rw [← map_snd_tokens hresults]
    exact flatMap_positions_perm hascending
  case nonempty => exact fun group hgroup => positions_ne_nil hgroup
  case ordered => exact pairwise_before
  case named => exact fun group hgroup => name_eq hgroup
  case mem_metric =>
    intro metric i
    rw [exists_mem_positions_iff]
    constructor
    · rintro ⟨token, hmem, htoken⟩
      obtain ⟨⟨item, _⟩, rfl, rfl⟩ := Option.map_eq_some_iff.mp htoken
      exact ⟨item, (mem_tokens hresults).mp hmem⟩
    · rintro ⟨item, hread⟩
      exact ⟨_, (mem_tokens hresults).mpr hread, rfl⟩
  case mem_rest =>
    intro i
    rw [exists_mem_positions_iff]
    simp only [Option.map_eq_none_iff, exists_eq_right, mem_tokens hresults, ReadsAt,
      LabelToken.read_eq_none_iff]
  case sorted_metric =>
    rintro group hgroup metric hmetric
    rcases mem_ofTokens.mp hgroup with ⟨metric', -, rfl⟩ | ⟨-, rfl⟩
    · cases hmetric
      refine (pairwise_positionsOf hascending metric).imp ?_
      rintro i j ⟨a, b, hi, hj, hlt⟩
      exact ⟨a, b, (mem_tokens hresults).mp hi, (mem_tokens hresults).mp hj, hlt⟩
    · cases hmetric
  case sorted_rest =>
    rintro group hgroup hmetric
    rcases mem_ofTokens.mp hgroup with ⟨metric', -, rfl⟩ | ⟨-, rfl⟩
    · cases hmetric
    · exact pairwise_positionsWithout hascending

/-- Labels are grouped by a pattern that is well formed. -/
theorem exists_isPartition {groups : List MetricGroup}
    (hgroups : partition config labels = .ok groups) :
    ∃ pattern, IsPartition config pattern labels groups := by
  cases hcompiled : config.compiledPattern? with
  | none =>
    rw [partition, hcompiled] at hgroups
    cases hgroups
  | some compiled => exact ⟨_, isPartition_of_partition_eq_ok hcompiled hgroups⟩

/-- **Grouping** labels gives an ordered partition of their positions.  It fails exactly if a label
is faulty, with the fault of the first such label. -/
theorem partition_outcome (h : config.compiledPattern? = some compiled) (labels : List String) :
    (∀ groups, partition config labels = .ok groups →
      IsPartition config compiled.program labels groups) ∧
    ((∃ fault, partition config labels = .error fault) ↔
      ∃ label ∈ labels, LabelToken.Misindexed compiled.program label) ∧
    ∀ fault, partition config labels = .error fault ↔ ∃ before label after e,
      labels = before ++ label :: after ∧
      (∀ l ∈ before, ¬ LabelToken.Misindexed compiled.program l) ∧
      LabelToken.read compiled.program label = .error e ∧ fault = .label e := by
  have hfirst : ∀ fault, partition config labels = .error fault ↔ ∃ before label after e,
      labels = before ++ label :: after ∧
      (∀ l ∈ before, ¬ LabelToken.Misindexed compiled.program l) ∧
      LabelToken.read compiled.program label = .error e ∧ fault = .label e := by
    intro fault
    rw [partition_eq_error_iff h]
    constructor
    · rintro ⟨e, htokens, rfl⟩
      obtain ⟨before, label, after, hsplit, hbefore, hread⟩ := tokens_eq_error_iff.mp htokens
      exact ⟨before, label, after, e, hsplit, hbefore, hread, rfl⟩
    · rintro ⟨before, label, after, e, hsplit, hbefore, hread, rfl⟩
      exact ⟨e, tokens_eq_error_iff.mpr ⟨before, label, after, hsplit, hbefore, hread⟩, rfl⟩
  refine ⟨fun groups hgroups => isPartition_of_partition_eq_ok h hgroups, ?_, hfirst⟩
  constructor
  · rintro ⟨fault, hfault⟩
    obtain ⟨before, label, after, e, rfl, -, hread, -⟩ := (hfirst fault).mp hfault
    exact ⟨label, by simp, LabelToken.exists_read_eq_error_iff.mp ⟨e, hread⟩⟩
  · rintro ⟨label, hlabel, hmisindexed⟩
    obtain ⟨e, hread⟩ := LabelToken.exists_read_eq_error_iff.mpr hmisindexed
    cases hgroups : partition config labels with
    | error fault => exact ⟨fault, rfl⟩
    | ok groups =>
      -- A position of the label would be in a group, and so have been read.
      obtain ⟨results, hresults, -⟩ := (partition_eq_ok_iff h).mp hgroups
      obtain ⟨i, hi⟩ := List.mem_iff_getElem?.mp hlabel
      have hmem : i ∈ results.map (·.2) := by
        rw [map_snd_tokens hresults, List.mem_range]
        exact (List.getElem?_eq_some_iff.mp hi).1
      obtain ⟨⟨token, j⟩, htoken, rfl⟩ := List.mem_map.mp hmem
      obtain ⟨label', hlabel', hread'⟩ := (mem_tokens hresults).mp htoken
      rw [hi] at hlabel'
      cases hlabel'
      rw [hread] at hread'
      cases hread'

/-- Three labels, grouped by the standard pattern: two of one metric, and one without. -/
theorem partition_three [Scalar α] :
    partition (Config.standard : Config α) ["Q2_1", "notes", "Q1_1"] =
      .ok [⟨some 1, "comprehensibility", [2, 0]⟩, ⟨none, "ungrouped", [1]⟩] := by
  have hfirst : LabelToken.read standardProgram "Q2_1" = .ok (some ⟨2, 1⟩) :=
    LabelToken.read_of_isIndex (show StandardLabel _ ['2'] ['1'] from ⟨by decide, by decide, rfl⟩)
      (by decide) (by decide)
  have hnotes : LabelToken.read standardProgram "notes" = .ok none :=
    LabelToken.read_of_head?_ne (by decide)
  have hlast : LabelToken.read standardProgram "Q1_1" = .ok (some ⟨1, 1⟩) :=
    LabelToken.read_of_isIndex (show StandardLabel _ ['1'] ['1'] from ⟨by decide, by decide, rfl⟩)
      (by decide) (by decide)
  have htokens : tokens standardProgram ["Q2_1", "notes", "Q1_1"] =
      .ok [(some ⟨2, 1⟩, 0), (none, 1), (some ⟨1, 1⟩, 2)] := by
    rw [tokens, Traversal.mapM_eq_ok_iff]
    simp [hfirst, hnotes, hlast, pure, Except.pure, bind, Except.bind]
  rw [partition_eq_ok_iff compiledPattern?_standard]
  refine ⟨_, htokens, ?_⟩
  simp [ofTokens, metrics, positionsOf, positionsWithout, List.mergeSort, List.eraseReps,
    List.eraseRepsBy, List.eraseRepsBy.loop, ungroupedName]
  rfl

theorem isPartition_three :
    let config : Config Binary64 := Config.standard
    let labels := ["Q2_1", "notes", "Q1_1"]
    let groups := [⟨some 1, "comprehensibility", [2, 0]⟩, ⟨none, "ungrouped", [1]⟩]
    config.compiledPattern? = some ⟨standardProgram, 2⟩ ∧ partition config labels = .ok groups ∧
      IsPartition config standardProgram labels groups :=
  ⟨compiledPattern?_standard, partition_three,
    (partition_outcome compiledPattern?_standard _).1 _ partition_three⟩

end Grouping

end MetricGroup

end InterRater
