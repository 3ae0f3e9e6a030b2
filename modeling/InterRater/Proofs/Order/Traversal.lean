import Mathlib.Data.List.Forall2

/-!
# Traversals that may fail

Of two computations in turn, the second decides where the first succeeds (`bind_eq_ok_iff`), and a
fold keeps what each of its steps keeps (`foldlM_invariant`).  A traversal of a list by a function
that may fail succeeds exactly if the function does on every entry (`mapM_eq_ok_iff`), and else ends
in the error of the first entry on which it fails (`mapM_eq_error_iff`).  The same by position: for
one list (`mapM_eq_error_iff_getElem?`), for a list with its positions (`mapM_zipIdx_eq_error_iff`),
and for two lists side by side (`mapM_zip_eq_ok_iff`, `mapM_zip_eq_error_iff`).  A traversal that
only checks the entries ends in their first fault (`mapM_eq_elim`).
-/

namespace InterRater

namespace Traversal

variable {β γ δ ε : Type} {f : β → Except ε γ} {l : List β}

/-! ### Two computations in turn -/

section Bind

variable {x : Except ε β} {e : ε}

theorem bind_eq_ok_iff {y : γ} : x >>= f = .ok y ↔ ∃ a, x = .ok a ∧ f a = .ok y := by
  cases x with
  | error e => exact iff_of_false nofun nofun
  | ok a =>
    constructor
    · intro h
      exact ⟨a, rfl, h⟩
    · rintro ⟨a', ha, h⟩
      cases ha
      exact h

theorem bind_eq_error_iff :
    x >>= f = .error e ↔ x = .error e ∨ ∃ a, x = .ok a ∧ f a = .error e := by
  cases x with
  | error e' =>
    constructor
    · intro h
      cases h
      exact .inl rfl
    · rintro (h | ⟨a, ha, -⟩)
      · cases h
        rfl
      · cases ha
  | ok a =>
    constructor
    · intro h
      exact .inr ⟨a, rfl, h⟩
    · rintro (h | ⟨a', ha, h⟩)
      · cases h
      · cases ha
        exact h

theorem map_eq_ok_iff {g : β → γ} {y : γ} : x.map g = .ok y ↔ ∃ a, x = .ok a ∧ g a = y := by
  cases x with
  | error e => exact iff_of_false nofun nofun
  | ok a =>
    constructor
    · intro h
      cases h
      exact ⟨a, rfl, rfl⟩
    · rintro ⟨a', ha, rfl⟩
      cases ha
      rfl

theorem mapError_eq_ok_iff {g : ε → δ} {y : β} : x.mapError g = .ok y ↔ x = .ok y := by
  cases x with
  | error e => exact iff_of_false nofun nofun
  | ok a =>
    constructor
    · intro h
      cases h
      rfl
    · intro h
      cases h
      rfl

/-- A value is returned exactly if the condition for it holds. -/
theorem ite_eq_ok_iff {p : Prop} [Decidable p] {a b : β} :
    (if p then pure a else throw e : Except ε β) = .ok b ↔ p ∧ a = b := by
  split_ifs with hp
  · constructor
    · intro h
      cases h
      exact ⟨hp, rfl⟩
    · rintro ⟨-, rfl⟩
      rfl
  · exact iff_of_false nofun fun h => hp h.1

end Bind

/-! ### Folds -/

/-- What every step preserves, a fold preserves. -/
theorem foldlM_invariant {P : γ → Prop} {step : γ → β → Except ε γ}
    (hstep : ∀ c x c', P c → step c x = .ok c' → P c') {c c' : γ} (hc : P c)
    (h : l.foldlM step c = .ok c') : P c' := by
  induction l generalizing c with
  | nil =>
    cases h
    exact hc
  | cons x l ih =>
    rw [List.foldlM_cons] at h
    obtain ⟨next, hnext, h⟩ := bind_eq_ok_iff.mp h
    exact ih (hstep c x next hc hnext) h

/-! ### Lists -/

theorem mapM_cons_of_error {x : β} {e : ε} (h : f x = .error e) :
    (x :: l).mapM f = .error e := by
  rw [List.mapM_cons, h]
  rfl

theorem mapM_cons_of_ok {x : β} {y : γ} (h : f x = .ok y) :
    (x :: l).mapM f = (l.mapM f).map (y :: ·) := by
  rw [List.mapM_cons, h]
  cases l.mapM f <;> rfl

theorem mapM_eq_ok_iff {r : List γ} : l.mapM f = .ok r ↔ l.map f = r.map .ok := by
  induction l generalizing r with
  | nil => cases r <;> simp [pure, Except.pure]
  | cons x l ih =>
    cases hx : f x with
    | error e =>
      rw [mapM_cons_of_error hx, List.map_cons, hx]
      cases r <;> simp
    | ok y =>
      rw [mapM_cons_of_ok hx, List.map_cons, hx]
      cases hl : l.mapM f with
      | error e =>
        -- The traversal fails further on, so that no list of results will do.
        have hnone : ∀ r' : List γ, l.map f ≠ r'.map .ok := fun r' h => by
          rw [ih.mpr h] at hl
          cases hl
        cases r <;> simp [Except.map, hnone]
      | ok r' =>
        have hmap := ih.mp hl
        cases r with
        | nil => simp [Except.map]
        | cons z r =>
          simp only [Except.map, Except.ok.injEq, List.cons.injEq, List.map_cons, hmap]
          rw [List.map_inj_right fun _ _ => Except.ok.inj]

theorem mapM_eq_ok {g : β → γ} (h : ∀ x ∈ l, f x = .ok (g x)) : l.mapM f = .ok (l.map g) := by
  rw [mapM_eq_ok_iff, List.map_map]
  exact List.map_congr_left h

/-- The results are those of the entries. -/
theorem mem_iff_of_mapM_eq_ok {r : List γ} (h : l.mapM f = .ok r) (y : γ) :
    y ∈ r ↔ ∃ x ∈ l, f x = .ok y := by
  have hmem : y ∈ r ↔ Except.ok y ∈ r.map (Except.ok (ε := ε)) := by simp
  rw [hmem, ← mapM_eq_ok_iff.mp h, List.mem_map]

/-- Entry by entry, the results are those of the function. -/
theorem forall₂_of_mapM_eq_ok {r : List γ} (h : l.mapM f = .ok r) :
    List.Forall₂ (fun x y => f x = .ok y) l r := by
  have hmap := mapM_eq_ok_iff.mp h
  rwa [← List.forall₂_eq_eq_eq, List.forall₂_map_left_iff, List.forall₂_map_right_iff] at hmap

theorem exists_of_forall₂ {R : β → γ → Prop} {r : List γ} (h : List.Forall₂ R l r) {y : γ}
    (hy : y ∈ r) : ∃ x ∈ l, R x y := by
  induction h with
  | nil => cases hy
  | cons hx hrest ih =>
    rcases List.mem_cons.mp hy with rfl | hy
    · exact ⟨_, List.mem_cons_self, hx⟩
    · obtain ⟨x, hmem, hxy⟩ := ih hy
      exact ⟨x, List.mem_cons_of_mem _ hmem, hxy⟩

/-- What a result has from its entry. -/
theorem map_eq_of_mapM_eq_ok {r : List γ} (h : l.mapM f = .ok r) {g : β → δ} {k : γ → δ}
    (hgk : ∀ x y, f x = .ok y → g x = k y) : r.map k = l.map g := by
  symm
  rw [← List.forall₂_eq_eq_eq, List.forall₂_map_left_iff, List.forall₂_map_right_iff]
  exact (forall₂_of_mapM_eq_ok h).imp hgk

/-- A traversal fails with the error of the first entry that has one. -/
theorem mapM_eq_error_iff {e : ε} : l.mapM f = .error e ↔
    ∃ before x after, l = before ++ x :: after ∧ (∀ y ∈ before, ∃ z, f y = .ok z) ∧
      f x = .error e := by
  induction l with
  | nil => simp [pure, Except.pure]
  | cons a l ih =>
    cases ha : f a with
    | error e' =>
      rw [mapM_cons_of_error ha]
      constructor
      · intro h
        cases h
        exact ⟨[], a, l, rfl, nofun, ha⟩
      · rintro ⟨before, x, after, hsplit, hbefore, hx⟩
        cases before with
        | nil =>
          cases hsplit
          rw [Except.error.inj (ha.symm.trans hx)]
        | cons b before =>
          cases hsplit
          obtain ⟨z, hz⟩ := hbefore a List.mem_cons_self
          rw [ha] at hz
          cases hz
    | ok y =>
      have htail : (a :: l).mapM f = .error e ↔ l.mapM f = .error e := by
        rw [mapM_cons_of_ok ha]
        cases l.mapM f <;> simp [Except.map]
      rw [htail, ih]
      constructor
      · rintro ⟨before, x, after, rfl, hbefore, hx⟩
        refine ⟨a :: before, x, after, rfl, ?_, hx⟩
        exact List.forall_mem_cons.mpr ⟨⟨y, ha⟩, hbefore⟩
      · rintro ⟨before, x, after, hsplit, hbefore, hx⟩
        cases before with
        | nil =>
          cases hsplit
          rw [ha] at hx
          cases hx
        | cons b before =>
          cases hsplit
          exact ⟨before, x, after, rfl, (List.forall_mem_cons.mp hbefore).2, hx⟩

/-- A traversal succeeds if the function does on every entry. -/
theorem exists_mapM_eq_ok (h : ∀ x ∈ l, ∃ y, f x = .ok y) : ∃ r, l.mapM f = .ok r := by
  cases hresult : l.mapM f with
  | ok r => exact ⟨r, rfl⟩
  | error e =>
    obtain ⟨before, x, after, rfl, -, hx⟩ := mapM_eq_error_iff.mp hresult
    obtain ⟨y, hy⟩ := h x (by simp)
    rw [hx] at hy
    cases hy

/-! ### By position -/

theorem mapM_eq_ok_iff_forall₂ {r : List γ} :
    l.mapM f = .ok r ↔ List.Forall₂ (fun x y => f x = .ok y) l r := by
  rw [mapM_eq_ok_iff, ← List.forall₂_eq_eq_eq, List.forall₂_map_left_iff,
    List.forall₂_map_right_iff]

theorem mapM_eq_error_iff_getElem? {e : ε} : l.mapM f = .error e ↔
    ∃ (i : ℕ) (x : β), l[i]? = some x ∧ f x = .error e ∧
      ∀ j < i, ∀ y, l[j]? = some y → ∃ z, f y = .ok z := by
  rw [mapM_eq_error_iff]
  constructor
  · rintro ⟨before, x, after, rfl, hbefore, hx⟩
    refine ⟨before.length, x, by simp, hx, ?_⟩
    intro j hj y hy
    rw [List.getElem?_append_left hj] at hy
    exact hbefore y (List.mem_of_getElem? hy)
  · rintro ⟨i, x, hget, hx, hbefore⟩
    obtain ⟨hi, rfl⟩ := List.getElem?_eq_some_iff.mp hget
    refine ⟨l.take i, l[i], l.drop (i + 1), ?_, ?_, hx⟩
    · rw [← List.drop_eq_getElem_cons hi, List.take_append_drop]
    · intro y hy
      obtain ⟨j, hj, rfl⟩ := List.mem_take_iff_getElem.mp hy
      have hj' : j < i := by omega
      exact hbefore j hj' _ (List.getElem?_eq_getElem (by omega))

theorem mapM_zipIdx_eq_error_iff {f : β × ℕ → Except ε γ} {e : ε} :
    l.zipIdx.mapM f = .error e ↔ ∃ (i : ℕ) (x : β), l[i]? = some x ∧ f (x, i) = .error e ∧
      ∀ j < i, ∀ y, l[j]? = some y → ∃ z, f (y, j) = .ok z := by
  rw [mapM_eq_error_iff_getElem?]
  simp only [List.getElem?_zipIdx, Nat.zero_add]
  constructor
  · rintro ⟨i, p, hget, hp, hbefore⟩
    obtain ⟨x, hx, rfl⟩ := Option.map_eq_some_iff.mp hget
    exact ⟨i, x, hx, hp, fun j hj y hy => hbefore j hj _ (by rw [hy]; rfl)⟩
  · rintro ⟨i, x, hx, he, hbefore⟩
    refine ⟨i, (x, i), by rw [hx]; rfl, he, ?_⟩
    intro j hj p hp
    obtain ⟨y, hy, rfl⟩ := Option.map_eq_some_iff.mp hp
    exact hbefore j hj y hy

/-- The results stand where the entries do. -/
theorem mapM_zipIdx_eq_ok_iff {f : β × ℕ → Except ε γ} {r : List γ} :
    l.zipIdx.mapM f = .ok r ↔ r.length = l.length ∧
      ∀ (i : ℕ) (x : β) (y : γ), l[i]? = some x → r[i]? = some y → f (x, i) = .ok y := by
  rw [mapM_eq_ok_iff_forall₂, List.forall₂_iff_get]
  refine and_congr (by rw [List.length_zipIdx, eq_comm]) ?_
  constructor
  · intro h i x y hx hy
    obtain ⟨hi, rfl⟩ := List.getElem?_eq_some_iff.mp hx
    obtain ⟨hi', rfl⟩ := List.getElem?_eq_some_iff.mp hy
    simpa using h i (by simpa using hi) hi'
  · intro h i hi hi'
    have hi'' : i < l.length := by simpa using hi
    simpa using h i _ _ (List.getElem?_eq_getElem hi'') (List.getElem?_eq_getElem hi')

/-- A traversal whose results do not depend on the positions. -/
theorem mapM_zipIdx_eq_ok {f : β × ℕ → Except ε γ} {r : List γ}
    (h : List.Forall₂ (fun x y => ∀ i, f (x, i) = .ok y) l r) : l.zipIdx.mapM f = .ok r := by
  rw [mapM_zipIdx_eq_ok_iff]
  refine ⟨h.length_eq.symm, fun i x y hx hy => ?_⟩
  obtain ⟨hi, rfl⟩ := List.getElem?_eq_some_iff.mp hx
  obtain ⟨hi', rfl⟩ := List.getElem?_eq_some_iff.mp hy
  exact h.get hi hi' i

/-- What a result has from the entry at its position. -/
theorem map_eq_of_mapM_zipIdx_eq_ok {f : β × ℕ → Except ε γ} {r : List γ}
    (h : l.zipIdx.mapM f = .ok r) {g : β → δ} {k : γ → δ}
    (hgk : ∀ x i y, f (x, i) = .ok y → g x = k y) : l.map g = r.map k := by
  have hmap := map_eq_of_mapM_eq_ok h (g := fun p => g p.1) fun p y hp => hgk p.1 p.2 y hp
  rw [hmap]
  conv_lhs => rw [← List.zipIdx_map_fst 0 l, List.map_map]
  rfl

section Zip

variable {m : List δ} {f : β × δ → Except ε γ} {g : β → Option γ}

/-- Two lists side by side, where the first says what the results are. -/
theorem mapM_zip_eq_ok_iff (hf : ∀ x d y, f (x, d) = .ok y ↔ g x = some y)
    (hlength : l.length = m.length) {r : List γ} :
    (l.zip m).mapM f = .ok r ↔ l.map g = r.map some := by
  have hfst : l.map g = (l.zip m).map fun p => g p.1 := by
    conv_lhs => rw [← List.map_fst_zip (Nat.le_of_eq hlength), List.map_map]
    rfl
  rw [hfst, mapM_eq_ok_iff_forall₂, ← List.forall₂_eq_eq_eq, List.forall₂_map_left_iff,
    List.forall₂_map_right_iff]
  constructor
  · intro h
    exact h.imp fun (p : β × δ) y => (hf p.1 p.2 y).mp
  · intro h
    exact h.imp fun (p : β × δ) y => (hf p.1 p.2 y).mpr

theorem mapM_zip_eq_error_iff (hf : ∀ x d y, f (x, d) = .ok y ↔ g x = some y)
    (hlength : l.length = m.length) {e : ε} :
    (l.zip m).mapM f = .error e ↔ ∃ (i : ℕ) (x : β) (d : δ), l[i]? = some x ∧ m[i]? = some d ∧
      f (x, d) = .error e ∧ ∀ j < i, ∀ y, l[j]? = some y → ∃ z, g y = some z := by
  rw [mapM_eq_error_iff_getElem?]
  constructor
  · rintro ⟨i, ⟨x, d⟩, hget, he, hbefore⟩
    obtain ⟨hx, hd⟩ := List.getElem?_zip_eq_some.mp hget
    refine ⟨i, x, d, hx, hd, he, ?_⟩
    intro j hj y hy
    -- The other list reaches as far.
    obtain ⟨hjlt, -⟩ := List.getElem?_eq_some_iff.mp hy
    have hd' : m[j]? = some m[j] := List.getElem?_eq_getElem (hlength ▸ hjlt)
    obtain ⟨z, hz⟩ := hbefore j hj (y, m[j]) (List.getElem?_zip_eq_some.mpr ⟨hy, hd'⟩)
    exact ⟨z, (hf _ _ _).mp hz⟩
  · rintro ⟨i, x, d, hx, hd, he, hbefore⟩
    refine ⟨i, (x, d), List.getElem?_zip_eq_some.mpr ⟨hx, hd⟩, he, ?_⟩
    rintro j hj ⟨y, d'⟩ hget
    obtain ⟨z, hz⟩ := hbefore j hj y (List.getElem?_zip_eq_some.mp hget).1
    exact ⟨z, (hf _ _ _).mpr hz⟩

end Zip

/-! ### Checks

A check of an entry yields its fault, if it has one. -/

section Check

variable {fault? : β → Option ε} {value : β → γ}

/-- A traversal that takes the values of entries without a fault ends in the first fault, or in the
values of all entries. -/
theorem mapM_eq_elim (hf : ∀ x ∈ l, f x = (fault? x).elim (.ok (value x)) .error) :
    l.mapM f = (l.findSome? fault?).elim (.ok (l.map value)) .error := by
  induction l with
  | nil => rfl
  | cons x l ih =>
    obtain ⟨hx, hl⟩ := List.forall_mem_cons.mp hf
    cases hfault : fault? x with
    | some e =>
      rw [hfault] at hx
      rw [mapM_cons_of_error hx, List.findSome?_cons, hfault]
      rfl
    | none =>
      rw [hfault] at hx
      rw [mapM_cons_of_ok hx, ih hl, List.findSome?_cons, hfault]
      cases l.findSome? fault? <;> rfl

/-- The first fault is what a traversal for nothing but the faults ends in. -/
theorem findSome?_eq_some_iff_mapM {e : ε} : l.findSome? fault? = some e ↔
    l.mapM (fun x => (fault? x).elim (Except.ok ()) .error) = .error e := by
  rw [mapM_eq_elim fun _ _ => rfl]
  cases l.findSome? fault? <;> simp

theorem elim_eq_error_iff {x : Option ε} {y : γ} {e : ε} :
    x.elim (.ok y) .error = Except.error e ↔ x = some e := by
  cases x <;> simp

theorem exists_elim_eq_ok_iff {x : Option ε} {y : γ} :
    (∃ z, x.elim (.ok y) .error = Except.ok z) ↔ x = none := by
  cases x <;> simp

theorem findSome?_zipIdx_eq_some_iff {fault? : β × ℕ → Option ε} {e : ε} :
    l.zipIdx.findSome? fault? = some e ↔ ∃ (i : ℕ) (x : β), l[i]? = some x ∧
      fault? (x, i) = some e ∧ ∀ j < i, ∀ y, l[j]? = some y → fault? (y, j) = none := by
  rw [findSome?_eq_some_iff_mapM, mapM_zipIdx_eq_error_iff]
  simp only [elim_eq_error_iff, exists_elim_eq_ok_iff]

/-- Two lists side by side, where the first says which entries have no fault. -/
theorem findSome?_zip_eq_some_iff {m : List δ} {fault? : β × δ → Option ε} {sound : β → Prop}
    (hsound : ∀ x d, fault? (x, d) = none ↔ sound x) (hlength : l.length = m.length) {e : ε} :
    (l.zip m).findSome? fault? = some e ↔ ∃ (i : ℕ) (x : β) (d : δ), l[i]? = some x ∧
      m[i]? = some d ∧ fault? (x, d) = some e ∧ ∀ j < i, ∀ y, l[j]? = some y → sound y := by
  classical
  have hok : ∀ x d (y : Unit), (fault? (x, d)).elim (Except.ok ()) .error = .ok y ↔
      (if sound x then some () else none) = some y := by
    intro x d y
    rw [← hsound x d]
    cases fault? (x, d) <;> simp
  have hfirst : ∀ y, (∃ z, (if sound y then some () else none) = some z) ↔ sound y := by
    intro y
    split_ifs with h <;> simp [h]
  rw [findSome?_eq_some_iff_mapM, mapM_zip_eq_error_iff hok hlength]
  simp only [elim_eq_error_iff, hfirst]

end Check

/-- In a table whose entries are results, each entry is that of the entry at its place. -/
theorem bind_getElem?_of_map_eq {rows : List (List β)} {results : List (List γ)}
    {g : β → Option γ} (h : rows.map (·.map g) = results.map (·.map some)) (i j : ℕ) :
    results[i]?.bind (·[j]?) = (rows[i]?.bind (·[j]?)).bind g := by
  have hentry : (rows[i]?.bind (·[j]?)).map g = (results[i]?.bind (·[j]?)).map some := by
    have hget := congrArg (fun l => l[i]?.bind (·[j]?)) h
    simpa only [List.getElem?_map, Option.bind_map, Option.map_bind, Function.comp_def] using hget
  cases hx : rows[i]?.bind (·[j]?) <;> cases hy : results[i]?.bind (·[j]?) <;> simp_all

end Traversal

end InterRater
