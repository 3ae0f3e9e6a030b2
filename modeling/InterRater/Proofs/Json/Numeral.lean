import InterRater.Proofs.Json.Grammar
import InterRater.Proofs.Number.Integer
import Mathlib.Data.List.TakeWhile

/-!
# Reading numbers in JSON text

A numeral ends where no character follows that could continue it (`Delimits`).  In front of such a
rest it is read (`JsonNumeral.read?_of_writes`), and what is read as a numeral is one
(`JsonNumeral.writes_of_read?`).  The digits of an integer of 64 bits are a numeral of that integer
(`JsonNumeral.writes_toString`, `JsonNumeral.integer?_toDigits`).
-/

namespace InterRater

/-- The text does not continue a number in front of it. -/
def Delimits (rest : List Char) : Prop :=
  ∀ c ∈ rest.head?, isDigit c = false ∧ c ≠ '.' ∧ c ≠ 'e' ∧ c ≠ 'E'

theorem delimits_nil : Delimits [] := by
  intro c hc
  cases hc

namespace JsonNumeral

variable {text left rest digits : List Char} {numeral : JsonNumeral}

/-! ### Digits -/

theorem DigitRun.exists_cons (h : DigitRun digits) :
    ∃ c tail, digits = c :: tail ∧ InterRater.isDigit c = true := by
  obtain ⟨c, tail, rfl⟩ := List.exists_cons_of_ne_nil h.ne_nil
  exact ⟨c, tail, rfl, h.isDigit c List.mem_cons_self⟩

theorem DigitRun.span_append (h : DigitRun digits)
    (hrest : ∀ c ∈ rest.head?, InterRater.isDigit c = false) :
    (digits ++ rest).span InterRater.isDigit = (digits, rest) :=
  Numeral.span_isDigit h.isDigit hrest

theorem digitRun_of_span (h : text.span InterRater.isDigit = (digits, rest)) (hne : digits ≠ []) :
    DigitRun digits ∧ text = digits ++ rest := by
  rw [List.span_eq_takeWhile_dropWhile, Prod.mk.injEq] at h
  obtain ⟨rfl, rfl⟩ := h
  exact ⟨⟨hne, fun c hc => List.mem_takeWhile_imp hc⟩, List.takeWhile_append_dropWhile.symm⟩

/-! ### The power -/

/-- A digit does not begin a sign. -/
theorem splitSign_digitRun (h : DigitRun digits) (rest : List Char) :
    splitSign (digits ++ rest) = (false, digits ++ rest) := by
  obtain ⟨c, tail, rfl, hc⟩ := h.exists_cons
  exact Numeral.splitSign_of_isDigit hc (tail ++ rest)

theorem readPower_exponent {e : Char} (he : e = 'e' ∨ e = 'E') {negative : Bool}
    (hsign : splitSign text = (negative, digits ++ rest)) (h : DigitRun digits)
    (hrest : Delimits rest) : readPower (e :: text) =
      some (some (if negative then -(digitsValue digits : ℤ) else digitsValue digits), rest) := by
  have hletter : (decide (e = 'e') || decide (e = 'E')) = true := by
    rwa [Bool.or_eq_true, decide_eq_true_iff, decide_eq_true_iff]
  have hspan := h.span_append fun c hc => (hrest c hc).1
  obtain ⟨c, tail, rfl, -⟩ := h.exists_cons
  rw [readPower, if_pos hletter, hsign]
  simp only [hspan]

/-- Without an `e` there is no power. -/
theorem readPower_of_delimits (hrest : Delimits rest) : readPower rest = some (none, rest) := by
  cases rest with
  | nil => rfl
  | cons c rest =>
    obtain ⟨-, -, hsmall, hlarge⟩ := hrest c rfl
    simp [readPower, hsmall, hlarge]

theorem readPower_of_writes {power : Option ℤ} (h : WritesPower text power)
    (hrest : Delimits rest) : readPower (text ++ rest) = some (power, rest) := by
  cases h with
  | none => exact readPower_of_delimits hrest
  | unsigned he h => exact readPower_exponent he (splitSign_digitRun h rest) h hrest
  | @plus e digits he h =>
    have hsign : splitSign ('+' :: (digits ++ rest)) = (false, digits ++ rest) := rfl
    exact readPower_exponent he hsign h hrest
  | @minus e digits he h =>
    have hsign : splitSign ('-' :: (digits ++ rest)) = (true, digits ++ rest) := rfl
    exact readPower_exponent he hsign h hrest

/-- The sign is one of three texts. -/
theorem splitSign_cases (text : List Char) :
    text = '-' :: (splitSign text).2 ∧ (splitSign text).1 = true ∨
      text = '+' :: (splitSign text).2 ∧ (splitSign text).1 = false ∨
        text = (splitSign text).2 ∧ (splitSign text).1 = false := by
  unfold splitSign
  split
  · exact .inl ⟨rfl, rfl⟩
  · exact .inr (.inl ⟨rfl, rfl⟩)
  · exact .inr (.inr ⟨rfl, rfl⟩)

theorem writes_of_readPower {power : Option ℤ} (h : readPower text = some (power, rest)) :
    ∃ token, text = token ++ rest ∧ WritesPower token power := by
  cases text with
  | nil =>
    cases h
    exact ⟨[], rfl, .none⟩
  | cons e text =>
    rw [readPower] at h
    split_ifs at h with he
    · have he : e = 'e' ∨ e = 'E' := by simpa using he
      have hsign := splitSign_cases text
      generalize splitSign text = parts at h hsign
      obtain ⟨negative, tail⟩ := parts
      simp only at h hsign
      split at h
      · cases h
      · next digits rest' hne hspan =>
        obtain ⟨hdigits, rfl⟩ := digitRun_of_span hspan hne
        cases h
        rcases hsign with ⟨rfl, rfl⟩ | ⟨rfl, rfl⟩ | ⟨rfl, rfl⟩
        · exact ⟨e :: '-' :: digits, rfl, .minus he hdigits⟩
        · exact ⟨e :: '+' :: digits, rfl, .plus he hdigits⟩
        · exact ⟨e :: digits, rfl, .unsigned he hdigits⟩
    · cases h
      exact ⟨[], rfl, .none⟩

/-! ### The fraction -/

theorem readFraction_point_iff {fraction : List Char} :
    readFraction ('.' :: text) = some (fraction, left) ↔
      text.span isDigit = (fraction, left) ∧ fraction ≠ [] := by
  rw [readFraction]
  split
  · next l hspan =>
    rw [hspan]
    refine iff_of_false nofun ?_
    rintro ⟨heq, hfraction⟩
    exact hfraction (Prod.ext_iff.mp heq).1.symm
  · next hempty =>
    rw [Option.some.injEq]
    refine ⟨fun heq => ⟨heq, ?_⟩, And.left⟩
    rintro rfl
    exact hempty left heq

/-- A power of ten, or what follows a numeral, continues neither digits nor a fraction. -/
theorem WritesPower.head?_append {power : Option ℤ} (h : WritesPower text power)
    (hrest : Delimits rest) :
    ∀ c ∈ (text ++ rest).head?, InterRater.isDigit c = false ∧ c ≠ '.' := by
  have hexponent : ∀ {e : Char} (tail : List Char), e = 'e' ∨ e = 'E' →
      ∀ c ∈ (e :: tail).head?, InterRater.isDigit c = false ∧ c ≠ '.' := by
    rintro e tail (rfl | rfl) c ⟨⟩
    all_goals decide
  cases h with
  | none => exact fun c hc => ⟨(hrest c hc).1, (hrest c hc).2.1⟩
  | unsigned he h => exact hexponent _ he
  | plus he h => exact hexponent _ he
  | minus he h => exact hexponent _ he

theorem readFraction_of_writes {fraction : List Char} (h : WritesFraction text fraction)
    (hrest : ∀ c ∈ rest.head?, InterRater.isDigit c = false ∧ c ≠ '.') :
    readFraction (text ++ rest) = some (fraction, rest) := by
  cases h with
  | none =>
    rw [List.nil_append]
    unfold readFraction
    split
    · exact absurd rfl (hrest _ rfl).2
    · rfl
  | point h =>
    rw [List.cons_append]
    exact readFraction_point_iff.mpr ⟨h.span_append fun c hc => (hrest c hc).1, h.ne_nil⟩

theorem writes_of_readFraction {fraction : List Char}
    (h : readFraction text = some (fraction, rest)) :
    ∃ token, text = token ++ rest ∧ WritesFraction token fraction := by
  unfold readFraction at h
  split at h
  · next tail =>
    obtain ⟨hspan, hne⟩ := readFraction_point_iff.mp h
    obtain ⟨hdigits, rfl⟩ := digitRun_of_span hspan hne
    exact ⟨'.' :: fraction, rfl, .point hdigits⟩
  · cases h
    exact ⟨[], rfl, .none⟩

/-- A fraction, or what follows it, does not continue digits. -/
theorem WritesFraction.head?_append {fraction : List Char} (h : WritesFraction text fraction)
    (hrest : ∀ c ∈ rest.head?, InterRater.isDigit c = false ∧ c ≠ '.') :
    ∀ c ∈ (text ++ rest).head?, InterRater.isDigit c = false := by
  cases h with
  | none => exact fun c hc => (hrest c hc).1
  | point h =>
    rintro c ⟨⟩
    rfl

/-! ### The parts of a number -/

theorem readWhole_eq_some_iff {whole : List Char} : readWhole text = some (whole, left) ↔
    text.span isDigit = (whole, left) ∧ whole ≠ [] ∧ ∀ d ds, whole ≠ '0' :: d :: ds := by
  unfold readWhole
  split
  · next l hspan =>
    rw [hspan]
    refine iff_of_false nofun ?_
    rintro ⟨heq, hwhole, -⟩
    exact hwhole (Prod.ext_iff.mp heq).1.symm
  · next d ds l hspan =>
    rw [hspan]
    refine iff_of_false nofun ?_
    rintro ⟨heq, -, hzero⟩
    exact hzero d ds (Prod.ext_iff.mp heq).1.symm
  · next hempty hzero =>
    rw [Option.some.injEq]
    constructor
    · intro heq
      refine ⟨heq, ?_, ?_⟩
      · rintro rfl
        exact hempty left heq
      · rintro d ds rfl
        exact hzero d ds left heq
    · exact And.left

/-- The number behind its sign. -/
def readUnsigned (negative : Bool) (text : List Char) : Option (JsonNumeral × List Char) := do
  let (whole, rest) ← readWhole text
  let (fraction, rest) ← readFraction rest
  let (power, rest) ← readPower rest
  return (⟨negative, whole, fraction, power⟩, rest)

theorem read?_of_ne_minus {c : Char} (hc : c ≠ '-') (text : List Char) :
    read? (c :: text) = readUnsigned false (c :: text) := by
  unfold read?
  split
  next negative unsigned heq =>
    split at heq
    · next h => exact absurd (List.cons.inj h).1 hc
    · cases heq
      rfl

theorem readUnsigned_eq_some_iff {negative : Bool} {numeral : JsonNumeral} :
    readUnsigned negative text = some (numeral, left) ↔ numeral.negative = negative ∧
      ∃ l l', readWhole text = some (numeral.whole, l) ∧
        readFraction l = some (numeral.fraction, l') ∧
        readPower l' = some (numeral.power, left) := by
  constructor
  · intro h
    obtain ⟨⟨whole, l⟩, hwhole, h⟩ := Option.bind_eq_some_iff.mp h
    obtain ⟨⟨fraction, l'⟩, hfraction, h⟩ := Option.bind_eq_some_iff.mp h
    obtain ⟨⟨power, l''⟩, hpower, h⟩ := Option.bind_eq_some_iff.mp h
    cases h
    exact ⟨rfl, l, l', hwhole, hfraction, hpower⟩
  · rintro ⟨rfl, l, l', hwhole, hfraction, hpower⟩
    refine Option.bind_eq_some_iff.mpr ⟨_, hwhole, ?_⟩
    refine Option.bind_eq_some_iff.mpr ⟨_, hfraction, ?_⟩
    exact Option.bind_eq_some_iff.mpr ⟨_, hpower, rfl⟩

/-! ### The numeral -/

/-- A numeral starts with a sign or a digit. -/
theorem Writes.exists_cons (h : numeral.Writes text) :
    ∃ c tail, text = c :: tail ∧ (c = '-' ∨ InterRater.isDigit c = true) := by
  obtain ⟨hwhole, -, fraction, power, -, -, rfl⟩ := h
  cases numeral.negative with
  | true => exact ⟨'-', _, rfl, .inl rfl⟩
  | false =>
    obtain ⟨c, tail, hcons, hc⟩ := hwhole.exists_cons
    rw [hcons]
    exact ⟨c, _, rfl, .inr hc⟩

theorem readUnsigned_of_writes {fraction power : List Char} (hwhole : DigitRun numeral.whole)
    (hzero : ∀ d ds, numeral.whole ≠ '0' :: d :: ds)
    (hfraction : WritesFraction fraction numeral.fraction)
    (hpower : WritesPower power numeral.power) (hrest : Delimits rest) :
    readUnsigned numeral.negative (numeral.whole ++ (fraction ++ (power ++ rest))) =
      some (numeral, rest) := by
  have hafter := hpower.head?_append hrest
  exact readUnsigned_eq_some_iff.mpr ⟨rfl, fraction ++ (power ++ rest), power ++ rest,
    readWhole_eq_some_iff.mpr
      ⟨hwhole.span_append (hfraction.head?_append hafter), hwhole.ne_nil, hzero⟩,
    readFraction_of_writes hfraction hafter, readPower_of_writes hpower hrest⟩

/-- **A numeral is read**, whatever follows it that does not continue it. -/
theorem read?_of_writes (h : numeral.Writes text) (hrest : Delimits rest) :
    read? (text ++ rest) = some (numeral, rest) := by
  obtain ⟨hwhole, hzero, fraction, power, hfraction, hpower, rfl⟩ := h
  have hread := readUnsigned_of_writes hwhole hzero hfraction hpower hrest
  rw [List.append_assoc, List.append_assoc, List.append_assoc]
  cases hnegative : numeral.negative with
  | true =>
    rw [hnegative] at hread
    exact hread
  | false =>
    obtain ⟨c, tail, hcons, hc⟩ := hwhole.exists_cons
    rw [hnegative, hcons] at hread
    rw [if_neg Bool.false_ne_true, List.nil_append, hcons, List.cons_append, read?_of_ne_minus]
    · exact hread
    · rintro rfl
      cases hc

theorem writes_of_readUnsigned {negative : Bool}
    (h : readUnsigned negative text = some (numeral, rest)) :
    ∃ token, (if negative then ['-'] else []) ++ text = token ++ rest ∧ numeral.Writes token := by
  obtain ⟨rfl, left, left', hwhole, hfraction, hpower⟩ := readUnsigned_eq_some_iff.mp h
  obtain ⟨hspan, hne, hzero⟩ := readWhole_eq_some_iff.mp hwhole
  obtain ⟨hdigits, rfl⟩ := digitRun_of_span hspan hne
  obtain ⟨fraction, rfl, hwrites⟩ := writes_of_readFraction hfraction
  obtain ⟨power, rfl, hwrites'⟩ := writes_of_readPower hpower
  refine ⟨_, ?_, hdigits, hzero, fraction, power, hwrites, hwrites', rfl⟩
  simp only [List.append_assoc]

/-- **What is read as a numeral** is one. -/
theorem writes_of_read? (h : read? text = some (numeral, rest)) :
    ∃ token, text = token ++ rest ∧ numeral.Writes token := by
  cases text with
  | nil => cases h
  | cons c text =>
    by_cases hc : c = '-'
    · subst hc
      exact writes_of_readUnsigned h
    · rw [read?_of_ne_minus hc] at h
      exact writes_of_readUnsigned h

/-! ### Integers -/

/-- The first digit of a positive number is not zero. -/
theorem head?_toDigits_ne {n : ℕ} (hn : 0 < n) : (Nat.toDigits 10 n).head? ≠ some '0' := by
  induction n using Nat.strong_induction_on with
  | _ n ih =>
    rw [Nat.toDigits_eq_if (by decide)]
    split_ifs with hlt
    · have hdigit : ∀ d < 10, 0 < d → [Nat.digitChar d].head? ≠ some '0' := by decide
      exact hdigit n hlt hn
    · have hquotient : 0 < n / 10 := by omega
      rw [List.head?_append_of_ne_nil _ (toDigits_ne_nil _)]
      exact ih (n / 10) (by omega) hquotient

/-- The digits of an integer and its sign are a numeral. -/
theorem writes_toString (n : ℤ) :
    Writes (toString n).toList ⟨decide (n < 0), Nat.toDigits 10 n.natAbs, [], none⟩ where
  whole := ⟨toDigits_ne_nil _, fun _ => isDigit_of_mem_toDigits⟩
  noLeadingZero d ds heq := by
    have heq : Nat.toDigits 10 n.natAbs = '0' :: d :: ds := heq
    rcases Nat.eq_zero_or_pos n.natAbs with hzero | hpos
    · rw [hzero] at heq
      cases heq
    · apply head?_toDigits_ne hpos
      rw [heq]
      rfl
  parts := by
    refine ⟨[], [], .none, .none, ?_⟩
    rw [toList_toString, List.append_nil, List.append_nil]
    by_cases hneg : n < 0
    · rw [if_pos hneg, decide_eq_true hneg]
      rfl
    · rw [if_neg hneg, decide_eq_false hneg]
      rfl

theorem integer?_toDigits {n : ℤ} (hlow : Int64.minValue.toInt ≤ n) (hhigh : n < UInt64.size) :
    integer? ⟨decide (n < 0), Nat.toDigits 10 n.natAbs, [], none⟩ = some n := by
  have hvalue : (if decide (n < 0) = true then -(n.natAbs : ℤ) else n.natAbs) = n := by
    split_ifs with hneg
    · have := of_decide_eq_true hneg
      omega
    · have := mt decide_eq_true hneg
      omega
  -- There is no negative zero among the integers.
  have hzero : (decide (n < 0) && decide (n = 0)) = false := by
    rw [Bool.and_eq_false_iff, decide_eq_false_iff_not, decide_eq_false_iff_not]
    omega
  have hword : (decide (Int64.minValue.toInt ≤ n) && decide (n < UInt64.size)) = true := by
    rw [decide_eq_true hlow, decide_eq_true hhigh]
    rfl
  unfold integer?
  simp only [digitsValue_toDigits, hvalue, hzero, hword, List.isEmpty_nil, Bool.not_true,
    Option.isSome_none, Bool.or_false, Bool.false_eq_true, if_false, if_true]

end JsonNumeral

end InterRater
