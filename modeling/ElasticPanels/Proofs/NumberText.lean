import ElasticPanels.Json.Printer
import ElasticPanels.Json.Reader
import ElasticPanels.Proofs.ShortestDecimal
import Mathlib.Data.List.TakeWhile
import Mathlib.Tactic.IntervalCases

/-!
# Numbers in JSON texts

A number that was written is read back: `readScalar_renderInt` for whole numbers within the limit of
digits, and `readScalar_renderFloat` for floating-point numbers in canonical form, which rests on
`shortest_near`.  What follows the number must not continue it (`EndsNumeral`).
-/

namespace ElasticPanels.Json

/-! ## Runs of digits -/

/-- Whether a text does not continue a numeral that stands before it. -/
def EndsNumeral : List Char → Prop
  | [] => True
  | c :: _ => c.isDigit = false ∧ c ≠ '.' ∧ c ≠ 'e' ∧ c ≠ 'E'

/-- Whether a text does not continue a run of digits that stands before it. -/
def EndsDigits : List Char → Prop
  | [] => True
  | c :: _ => c.isDigit = false

theorem EndsNumeral.endsDigits {cs : List Char} (h : EndsNumeral cs) : EndsDigits cs := by
  cases cs with
  | nil => trivial
  | cons c rest => exact h.1

theorem digitsValue_eq (ds : List Char) : digitsValue ds = Nat.ofDigitChars 10 ds 0 :=
  Nat.ofDigitChars_eq_foldl.symm

theorem digitsValue_append (ds es : List Char) :
    digitsValue (ds ++ es) = digitsValue ds * 10 ^ es.length + digitsValue es := by
  rw [digitsValue_eq, digitsValue_eq, digitsValue_eq, Nat.ofDigitChars_append,
    Nat.ofDigitChars_eq_ofDigitChars_zero, Nat.mul_comm]

theorem digitsValue_zeros (n : ℕ) : digitsValue (List.replicate n '0') = 0 := by
  rw [digitsValue_eq, Nat.ofDigitChars_replicate_zero, Nat.mul_zero]

theorem digitsValue_toDigits (n : ℕ) : digitsValue (Nat.toDigits 10 n) = n := by
  rw [digitsValue_eq, Nat.ofDigitChars_ten_toDigits]

theorem isDigit_of_mem_toDigits {n : ℕ} {c : Char} (h : c ∈ Nat.toDigits 10 n) :
    c.isDigit = true := Nat.isDigit_of_mem_toDigits (by decide) (by decide) h

theorem isDigit_of_mem_zeros {n : ℕ} {c : Char} (h : c ∈ List.replicate n '0') :
    c.isDigit = true := by
  rw [List.eq_of_mem_replicate h]
  rfl

theorem head?_toDigits_ne_zero {n : ℕ} (h : 0 < n) : (Nat.toDigits 10 n).head? ≠ some '0' := by
  induction n using Nat.strong_induction_on with
  | _ n ih =>
    rcases Nat.lt_or_ge n 10 with small | large
    · rw [Nat.toDigits_of_lt_base small]
      interval_cases n <;> decide
    · rw [Nat.toDigits_of_base_le (by decide) large,
        List.head?_append_of_ne_nil _ Nat.toDigits_ne_nil]
      exact ih (n / 10) (by omega) (by omega)

theorem spanDigits_append {ds rest : List Char} (digits : ∀ c ∈ ds, c.isDigit = true)
    (ends : EndsDigits rest) : spanDigits (ds ++ rest) = (ds, rest) := by
  have stop : ∀ c ∈ rest.head?, c.isDigit = false := by
    intro c hc
    cases rest with
    | nil => cases hc
    | cons d rest =>
      obtain rfl : d = c := by simpa using hc
      exact ends
  rw [spanDigits, Text.takeWhile_run digits stop, Text.dropWhile_run digits stop]

/-! ## The parts of a numeral -/

/-- The digits of a whole part: a zero stands alone. -/
structure IsWhole (ds : List Char) : Prop where
  ne_nil : ds ≠ []
  digits : ∀ c ∈ ds, c.isDigit = true
  zero : ds.head? = some '0' → ds = ['0']

theorem isWhole_toDigits (n : ℕ) : IsWhole (Nat.toDigits 10 n) where
  ne_nil := Nat.toDigits_ne_nil
  digits := fun _ h => isDigit_of_mem_toDigits h
  zero := fun h => by
    rcases Nat.eq_zero_or_pos n with rfl | pos
    · rfl
    · exact absurd h (head?_toDigits_ne_zero pos)

theorem readWholePart_append {whole rest : List Char} (h : IsWhole whole)
    (ends : EndsDigits rest) : readWholePart (whole ++ rest) = (whole, rest) := by
  obtain ⟨d, ds, rfl⟩ := List.exists_cons_of_ne_nil h.ne_nil
  by_cases zero : d = '0'
  · subst zero
    obtain rfl : ds = [] := by simpa using h.zero rfl
    rfl
  · rw [← spanDigits_append h.digits ends, List.cons_append]
    unfold readWholePart
    split <;> simp_all

section Magnitude

variable {start whole rest after₁ after₂ fraction : List Char} {negative : Bool}
  {exponent : Option Int}

theorem readMagnitude_float (hw : IsWhole whole) (ends : EndsDigits rest)
    (hf : readFraction rest = (fraction, after₁)) (he : readExponent after₁ = (exponent, after₂))
    (broken : fraction ≠ [] ∨ exponent ≠ none) :
    readMagnitude start negative (whole ++ rest) =
      .ok (.float (.ofDecimal negative (digitsValue (whole ++ fraction))
        (exponent.getD 0 - fraction.length)), after₂) := by
  have notWhole : (fraction.isEmpty && exponent.isNone) = false := by
    rcases broken with h | h
    · simp [h]
    · rw [Option.isNone_eq_false_iff.2 (Option.isSome_iff_ne_none.2 h), Bool.and_false]
  unfold readMagnitude
  rw [readWholePart_append hw ends]
  simp [hw.ne_nil, hf, he, notWhole]

theorem readFraction_none (h : rest.head? ≠ some '.') : readFraction rest = ([], rest) := by
  unfold readFraction
  split <;> simp_all

theorem readFraction_point (ne : fraction ≠ []) (digits : ∀ c ∈ fraction, c.isDigit = true)
    (ends : EndsDigits rest) : readFraction ('.' :: (fraction ++ rest)) = (fraction, rest) := by
  simp [readFraction, spanDigits_append digits ends, ne]

theorem EndsNumeral.readFraction (ends : EndsNumeral rest) : readFraction rest = ([], rest) := by
  apply readFraction_none
  cases rest with
  | nil => simp
  | cons c rest => simpa using ends.2.1

theorem EndsNumeral.readExponent (ends : EndsNumeral rest) :
    readExponent rest = (none, rest) := by
  cases rest with
  | nil => rfl
  | cons c rest => simp [Json.readExponent, ends.2.2.1, ends.2.2.2]

theorem readMagnitude_whole (hw : IsWhole whole) (ends : EndsNumeral rest)
    (short : whole.length ≤ Numeral.digitLimit) :
    readMagnitude start negative (whole ++ rest) =
      .ok (.int (if negative then -(digitsValue whole : Int) else digitsValue whole), rest) := by
  unfold readMagnitude
  rw [readWholePart_append hw ends.endsDigits]
  simp [hw.ne_nil, ends.readFraction, ends.readExponent, Nat.not_lt.2 short]

end Magnitude

/-! ## Whole numbers -/

/-- Whether a character may begin a number. -/
def opensNumber (c : Char) : Bool := c.isDigit || c = '-'

theorem renderInt_eq_cons (n : ℤ) : ∃ c tail, renderInt n = c :: tail ∧ opensNumber c = true := by
  unfold renderInt
  split_ifs
  · exact ⟨'-', _, rfl, rfl⟩
  · have whole := isWhole_toDigits n.natAbs
    obtain ⟨c, tail, e⟩ := List.exists_cons_of_ne_nil whole.ne_nil
    exact ⟨c, tail, e, by simp [opensNumber, whole.digits c (by simp [e])]⟩

/-- No word stands at the beginning of a number. -/
theorem find?_wordValues_number {d : Char} (h : d.isDigit = true) (cs : List Char) :
    (wordValues.find? fun word => word.1.isPrefixOf (d :: cs)) = none ∧
      (wordValues.find? fun word => word.1.isPrefixOf ('-' :: d :: cs)) = none := by
  have letters : d ≠ 'n' ∧ d ≠ 't' ∧ d ≠ 'f' ∧ d ≠ 'N' ∧ d ≠ 'I' ∧ d ≠ '-' := by
    refine ⟨?_, ?_, ?_, ?_, ?_, ?_⟩ <;> rintro rfl <;> exact absurd h (by decide)
  simp [wordValues, List.isPrefixOf, letters, Ne.symm]

/-- A number is read by its sign and its magnitude. -/
theorem readScalar_sign {d : Char} (h : d.isDigit = true) (cs : List Char) :
    readScalar (d :: cs) = readMagnitude (d :: cs) false (d :: cs) ∧
      readScalar ('-' :: d :: cs) = readMagnitude ('-' :: d :: cs) true (d :: cs) := by
  obtain ⟨plain, signed⟩ := find?_wordValues_number h cs
  have : d ≠ '-' := by rintro rfl; exact absurd h (by decide)
  unfold readScalar
  rw [plain, signed]
  simp [this]

theorem readScalar_renderInt {n : ℤ} {rest : List Char} (ends : EndsNumeral rest)
    (short : (Nat.toDigits 10 n.natAbs).length ≤ Numeral.digitLimit) :
    readScalar (renderInt n ++ rest) = .ok (.int n, rest) := by
  have whole := isWhole_toDigits n.natAbs
  obtain ⟨d, ds, e⟩ := List.exists_cons_of_ne_nil whole.ne_nil
  have digit : d.isDigit = true := whole.digits d (by simp [e])
  unfold renderInt
  split_ifs with h
  · rw [List.cons_append, e, List.cons_append, (readScalar_sign digit _).2, ← List.cons_append,
      ← e, readMagnitude_whole whole ends short, digitsValue_toDigits, if_pos rfl,
      show -(n.natAbs : ℤ) = n by omega]
  · rw [e, List.cons_append, (readScalar_sign digit _).1, ← List.cons_append, ← e,
      readMagnitude_whole whole ends short, digitsValue_toDigits, if_neg (by decide),
      show (n.natAbs : ℤ) = n by omega]

/-! ## Floating-point numbers -/

open Binary64

/-- The digits of a positive number without the zeros at its end. -/
structure IsSignificant (ds : List Char) : Prop where
  ne_nil : ds ≠ []
  digits : ∀ c ∈ ds, c.isDigit = true
  lead : ds.head? ≠ some '0'

theorem toDigits_eq_significant (n : ℕ) :
    ∃ zeros, Nat.toDigits 10 n = significantDigits n ++ List.replicate zeros '0' := by
  refine ⟨((Nat.toDigits 10 n).reverse.takeWhile (· == '0')).length, ?_⟩
  have zeros : (Nat.toDigits 10 n).reverse.takeWhile (· == '0') =
      List.replicate ((Nat.toDigits 10 n).reverse.takeWhile (· == '0')).length '0' :=
    List.eq_replicate_of_mem fun c h => by simpa using List.mem_takeWhile_imp h
  have parts := congrArg List.reverse
    (List.takeWhile_append_dropWhile (p := (· == '0')) (l := (Nat.toDigits 10 n).reverse))
  rw [List.reverse_append, List.reverse_reverse] at parts
  conv_lhs => rw [← parts]
  rw [significantDigits]
  conv_lhs => rw [zeros, List.reverse_replicate]

theorem isSignificant {n : ℕ} (h : 0 < n) : IsSignificant (significantDigits n) := by
  obtain ⟨zeros, e⟩ := toDigits_eq_significant n
  have ne : significantDigits n ≠ [] := by
    intro nil
    have := digitsValue_toDigits n
    rw [e, nil, List.nil_append, digitsValue_zeros] at this
    omega
  refine ⟨ne, fun c hc => isDigit_of_mem_toDigits (n := n) (by simp [e, hc]), ?_⟩
  have := head?_toDigits_ne_zero h
  rwa [e, List.head?_append_of_ne_nil _ ne] at this

/-- A decimal in terms of its significant digits. -/
theorem significant_value {n : ℕ} (p : ℤ) :
    (n : ℚ) * 10 ^ p = digitsValue (significantDigits n) *
      10 ^ (p + digitCount n - (significantDigits n).length) := by
  obtain ⟨zeros, e⟩ := toDigits_eq_significant n
  have value := digitsValue_toDigits n
  rw [e, digitsValue_append, digitsValue_zeros, Nat.add_zero, List.length_replicate] at value
  have count : digitCount n = (significantDigits n).length + zeros := by
    rw [digitCount, e, List.length_append, List.length_replicate]
  conv_lhs => rw [← value]
  rw [count]
  push_cast
  rw [mul_assoc, ← zpow_natCast, ← zpow_add₀ (by norm_num)]
  congr 2
  ring

section LayOut

variable (start : List Char) {ds rest whole fraction after₁ after₂ : List Char}
  {exponent : Option ℤ} {negative : Bool} {m : ℕ} {q point : ℤ}

/-- A numeral with fraction or exponent reads as the number it is near to. -/
theorem readMagnitude_near (hm : 0 < m) (canonical : Canonical (.finite negative m q))
    (hw : IsWhole whole) (ends : EndsDigits rest) (hf : readFraction rest = (fraction, after₁))
    (he : readExponent after₁ = (exponent, after₂)) (broken : fraction ≠ [] ∨ exponent ≠ none)
    (near : Near m q (digitsValue (whole ++ fraction) *
      10 ^ (exponent.getD 0 - fraction.length : ℤ))) :
    readMagnitude start negative (whole ++ rest) = .ok (.float (.finite negative m q), after₂) := by
  rw [readMagnitude_float hw ends hf he broken, ofDecimal_eq hm canonical near]

theorem IsSignificant.isWhole_append_zeros (hs : IsSignificant ds) (n : ℕ) :
    IsWhole (ds ++ List.replicate n '0') where
  ne_nil := by simp [hs.ne_nil]
  digits := fun c h => by
    rcases List.mem_append.1 h with h | h
    · exact hs.digits c h
    · exact isDigit_of_mem_zeros h
  zero := fun h => by
    rw [List.head?_append_of_ne_nil _ hs.ne_nil] at h
    exact absurd h hs.lead

theorem readMagnitude_below_one (hs : IsSignificant ds) (ends : EndsNumeral rest) (hm : 0 < m)
    (canonical : Canonical (.finite negative m q)) {zeros : ℕ}
    (near : Near m q (digitsValue ds * 10 ^ (-zeros - ds.length : ℤ))) :
    readMagnitude start negative ('0' :: '.' :: (List.replicate zeros '0' ++ ds ++ rest)) =
      .ok (.float (.finite negative m q), rest) := by
  have digits : ∀ c ∈ List.replicate zeros '0' ++ ds, c.isDigit = true := by
    intro c h
    rcases List.mem_append.1 h with h | h
    · exact isDigit_of_mem_zeros h
    · exact hs.digits c h
  show readMagnitude start negative (Nat.toDigits 10 0 ++ '.' :: _) = _
  refine readMagnitude_near start hm canonical (isWhole_toDigits 0) rfl
    (readFraction_point (by simp [hs.ne_nil]) digits ends.endsDigits) ends.readExponent
    (.inl (by simp [hs.ne_nil])) ?_
  have value : digitsValue (Nat.toDigits 10 0 ++ (List.replicate zeros '0' ++ ds)) =
      digitsValue ds := by
    rw [digitsValue_append, digitsValue_append, digitsValue_zeros, digitsValue_toDigits]
    simp
  rw [value, List.length_append, List.length_replicate, Option.getD_none]
  convert near using 3
  push_cast
  ring

theorem readMagnitude_trailing_zeros (hs : IsSignificant ds) (ends : EndsNumeral rest)
    (hm : 0 < m) (canonical : Canonical (.finite negative m q)) {zeros : ℕ}
    (near : Near m q (digitsValue ds * 10 ^ (zeros : ℤ))) :
    readMagnitude start negative (ds ++ List.replicate zeros '0' ++ '.' :: '0' :: rest) =
      .ok (.float (.finite negative m q), rest) := by
  have fraction : readFraction ('.' :: '0' :: rest) = (['0'], rest) :=
    readFraction_point (List.cons_ne_nil '0' []) (by simp) ends.endsDigits
  refine readMagnitude_near start hm canonical (hs.isWhole_append_zeros zeros) rfl fraction
    ends.readExponent (.inl (by simp)) ?_
  rw [digitsValue_append, digitsValue_append, digitsValue_zeros, Option.getD_none]
  convert near using 1
  rw [List.length_replicate, show digitsValue ['0'] = 0 from rfl]
  push_cast
  rw [zpow_natCast]
  norm_num
  ring

theorem IsSignificant.isWhole_take (hs : IsSignificant ds) {n : ℕ} (hn : 0 < n) :
    IsWhole (ds.take n) where
  ne_nil := by
    simp [List.take_eq_nil_iff, hs.ne_nil, hn.ne']
  digits := fun c h => hs.digits c (List.mem_of_mem_take h)
  zero := fun h => by
    rw [List.head?_take, if_neg hn.ne'] at h
    exact absurd h hs.lead

theorem readMagnitude_point_within (hs : IsSignificant ds) (ends : EndsNumeral rest)
    (hm : 0 < m) (canonical : Canonical (.finite negative m q)) {n : ℕ} (hn : 0 < n)
    (within : n < ds.length) (near : Near m q (digitsValue ds * 10 ^ ((n : ℤ) - ds.length))) :
    readMagnitude start negative (ds.take n ++ '.' :: (ds.drop n ++ rest)) =
      .ok (.float (.finite negative m q), rest) := by
  have ne : ds.drop n ≠ [] := by simp [List.drop_eq_nil_iff, within]
  refine readMagnitude_near start hm canonical (hs.isWhole_take hn) rfl
    (readFraction_point ne (fun c h => hs.digits c (List.mem_of_mem_drop h)) ends.endsDigits)
    ends.readExponent (.inl ne) ?_
  rw [List.take_append_drop, Option.getD_none, List.length_drop, Nat.cast_sub within.le]
  convert near using 3
  ring

/-- An exponent of two digits or more is read back. -/
theorem readExponent_written (ends : EndsNumeral rest) (order : ℤ) (zeros : ℕ) :
    readExponent ('e' :: (if order < 0 then '-' else '+') ::
      (List.replicate zeros '0' ++ Nat.toDigits 10 order.natAbs ++ rest)) =
      (some order, rest) := by
  have digits : ∀ c ∈ List.replicate zeros '0' ++ Nat.toDigits 10 order.natAbs,
      c.isDigit = true := by
    intro c h
    rcases List.mem_append.1 h with h | h
    · exact isDigit_of_mem_zeros h
    · exact isDigit_of_mem_toDigits h
  have value : digitsValue (List.replicate zeros '0' ++ Nat.toDigits 10 order.natAbs) =
      order.natAbs := by
    rw [digitsValue_append, digitsValue_zeros, digitsValue_toDigits]
    omega
  have ne : (List.replicate zeros '0' ++ Nat.toDigits 10 order.natAbs).isEmpty = false := by
    simp [Nat.toDigits_ne_nil]
  unfold readExponent
  split_ifs with negative
  · simp only [true_or, if_true, spanDigits_append digits ends.endsDigits, ne, value,
      Bool.false_eq_true, if_false]
    exact congrArg (fun n => (some n, rest)) (by omega)
  · simp only [true_or, if_true, spanDigits_append digits ends.endsDigits, ne, value,
      Bool.false_eq_true, if_false]
    exact congrArg (fun n => (some n, rest)) (by omega)

theorem readMagnitude_exponent (hs : IsSignificant ds) (ends : EndsNumeral rest)
    (hm : 0 < m) (canonical : Canonical (.finite negative m q)) {order : ℤ} (zeros : ℕ)
    (near : Near m q (digitsValue ds * 10 ^ (order + 1 - ds.length))) :
    readMagnitude start negative
      (ds.take 1 ++ (if ds.length ≤ 1 then [] else '.' :: ds.drop 1) ++
        'e' :: (if order < 0 then '-' else '+') ::
          (List.replicate zeros '0' ++ Nat.toDigits 10 order.natAbs ++ rest)) =
      .ok (.float (.finite negative m q), rest) := by
  have exponent := readExponent_written ends order zeros
  generalize (if order < 0 then '-' else '+') ::
    (List.replicate zeros '0' ++ Nat.toDigits 10 order.natAbs ++ rest) = tail at exponent ⊢
  have pos : 0 < ds.length := List.length_pos_iff.2 hs.ne_nil
  rw [List.append_assoc]
  split_ifs with single
  · rw [List.nil_append]
    refine readMagnitude_near start hm canonical (hs.isWhole_take Nat.one_pos) rfl
      (readFraction_none (by simp)) exponent (.inr (by simp)) ?_
    rw [List.append_nil, List.take_of_length_le single, Option.getD_some]
    convert near using 3
    have : ds.length = 1 := by omega
    rw [this]
    simp
  · have ne : ds.drop 1 ≠ [] := fun nil => single (List.drop_eq_nil_iff.1 nil)
    rw [List.cons_append]
    refine readMagnitude_near start hm canonical (hs.isWhole_take Nat.one_pos) rfl
      (readFraction_point ne (fun c h => hs.digits c (List.mem_of_mem_drop h)) rfl) exponent
      (.inr (by simp)) ?_
    rw [List.take_append_drop, Option.getD_some, List.length_drop, Nat.cast_sub pos]
    convert near using 3
    push_cast
    ring

theorem readMagnitude_layOut (hs : IsSignificant ds) (ends : EndsNumeral rest) (hm : 0 < m)
    (canonical : Canonical (.finite negative m q))
    (near : Near m q (digitsValue ds * 10 ^ (point - ds.length))) :
    readMagnitude start negative (layOut ds point ++ rest) =
      .ok (.float (.finite negative m q), rest) := by
  unfold layOut
  dsimp only
  by_cases positional : -4 ≤ point - 1 ∧ point - 1 < 16
  · rw [if_pos positional]
    by_cases below : point ≤ 0
    · rw [if_pos below, List.cons_append, List.cons_append, List.cons_append]
      apply readMagnitude_below_one start hs ends hm canonical
      rwa [show (-((-point).toNat : ℤ) - ds.length) = point - ds.length by omega]
    · rw [if_neg below]
      obtain ⟨n, rfl⟩ := Int.eq_ofNat_of_zero_le (by omega : 0 ≤ point)
      rw [Int.toNat_natCast]
      by_cases within : n < ds.length
      · have ne : (ds.drop n).isEmpty = false := by simp [List.drop_eq_nil_iff, within]
        rw [ne, if_neg (by decide), List.length_take, min_eq_left within.le, Nat.sub_self]
        simpa using readMagnitude_point_within start hs ends hm canonical (by omega) within near
      · have nil : ds.drop n = [] := List.drop_eq_nil_iff.2 (by omega)
        rw [nil, List.isEmpty_nil, if_pos rfl, List.take_of_length_le (by omega)]
        rw [← Nat.cast_sub (by omega)] at near
        simpa using readMagnitude_trailing_zeros start hs ends hm canonical near
  · rw [if_neg positional]
    rw [← sub_add_cancel point 1] at near
    simpa using readMagnitude_exponent start hs ends hm canonical
      (2 - (Nat.toDigits 10 (point - 1).natAbs).length) near

end LayOut

theorem layOut_eq_cons {ds : List Char} (hs : IsSignificant ds) (point : ℤ) :
    ∃ d tail, layOut ds point = d :: tail ∧ d.isDigit = true := by
  obtain ⟨d, ds', rfl⟩ := List.exists_cons_of_ne_nil hs.ne_nil
  have digit := hs.digits d (by simp)
  unfold layOut
  dsimp only
  by_cases positional : -4 ≤ point - 1 ∧ point - 1 < 16
  · rw [if_pos positional]
    by_cases below : point ≤ 0
    · rw [if_pos below]
      exact ⟨'0', _, rfl, rfl⟩
    · rw [if_neg below]
      obtain ⟨n, hn⟩ : ∃ n, point.toNat = n + 1 := ⟨point.toNat - 1, by omega⟩
      exact ⟨d, _, by rw [hn]; rfl, digit⟩
  · rw [if_neg positional]
    exact ⟨d, _, rfl, digit⟩

/-- The text of a finite number after its sign. -/
theorem renderFloat_finite (negative : Bool) (m : ℕ) (q : ℤ) :
    renderFloat (.finite negative m q) =
      (if negative then ['-'] else []) ++
        if m = 0 then ['0', '.', '0']
        else layOut (significantDigits (shortest m q).1)
          ((shortest m q).2 + digitCount (shortest m q).1) := by
  cases negative <;> simp [renderFloat, text]

/-- The text of a finite number in canonical form after its sign begins with a digit. -/
theorem magnitude_eq_cons {negative : Bool} {m : ℕ} {q : ℤ}
    (canonical : Canonical (.finite negative m q)) :
    ∃ d tail, (if m = 0 then ['0', '.', '0']
      else layOut (significantDigits (shortest m q).1)
        ((shortest m q).2 + digitCount (shortest m q).1)) = d :: tail ∧ d.isDigit = true := by
  split_ifs with zero
  · exact ⟨'0', _, rfl, rfl⟩
  · exact layOut_eq_cons (isSignificant (shortest_pos (Nat.pos_of_ne_zero zero) canonical)) _

theorem renderFloat_eq_cons {negative : Bool} {m : ℕ} {q : ℤ}
    (canonical : Canonical (.finite negative m q)) :
    ∃ c tail, renderFloat (.finite negative m q) = c :: tail ∧ opensNumber c = true := by
  obtain ⟨d, tail, body, digit⟩ := magnitude_eq_cons canonical
  rw [renderFloat_finite, body]
  cases negative with
  | false => exact ⟨d, tail, rfl, by simp [opensNumber, digit]⟩
  | true => exact ⟨'-', d :: tail, rfl, rfl⟩

/-- A finite number in canonical form is read back from its text after the sign. -/
theorem readMagnitude_finite (start : List Char) {negative : Bool} {m : ℕ} {q : ℤ}
    {rest : List Char} (ends : EndsNumeral rest) (canonical : Canonical (.finite negative m q)) :
    readMagnitude start negative ((if m = 0 then ['0', '.', '0']
        else layOut (significantDigits (shortest m q).1)
          ((shortest m q).2 + digitCount (shortest m q).1)) ++ rest) =
      .ok (.float (.finite negative m q), rest) := by
  split_ifs with zero
  · obtain rfl : q = -1074 := by
      apply canonical.2.2.2.resolve_left
      intro large
      rw [zero] at large
      exact absurd large (by decide)
    have fraction : readFraction ('.' :: '0' :: rest) = (['0'], rest) :=
      readFraction_point (List.cons_ne_nil '0' []) (by simp) ends.endsDigits
    show readMagnitude start negative (Nat.toDigits 10 0 ++ '.' :: '0' :: rest) = _
    refine (readMagnitude_float (isWhole_toDigits 0) (by rfl) fraction ends.readExponent
      (.inl (by simp))).trans ?_
    rw [zero]
    rfl
  · have hm : 0 < m := Nat.pos_of_ne_zero zero
    have near := shortest_near hm canonical
    rw [significant_value] at near
    exact readMagnitude_layOut start (isSignificant (shortest_pos hm canonical)) ends hm canonical
      near

/-- Each floating-point number in canonical form is read back from its text. -/
theorem readScalar_renderFloat {x : Binary64} {rest : List Char} (ends : EndsNumeral rest)
    (canonical : x.Canonical) : readScalar (renderFloat x ++ rest) = .ok (.float x, rest) := by
  match x with
  | .nan => simp [readScalar, wordValues, renderFloat]
  | .infinite negative => cases negative <;> simp [readScalar, wordValues, renderFloat]
  | .finite negative m q =>
    have read (start : List Char) := readMagnitude_finite start ends canonical
    obtain ⟨d, tail, body, digit⟩ := magnitude_eq_cons canonical
    rw [renderFloat_finite, body]
    rw [body] at read
    cases negative with
    | false => exact (readScalar_sign digit _).1.trans (read _)
    | true => exact (readScalar_sign digit _).2.trans (read _)

/-! ## Characters of numbers -/

/-- Whether a character may stand in the text of a number. -/
def isNumeric (c : Char) : Bool := c.isDigit || "+-.eNaInfity".toList.contains c

theorem isNumeric_of_isDigit {c : Char} (h : c.isDigit = true) : isNumeric c = true := by
  simp [isNumeric, h]

theorem isNumeric_toDigits (n : ℕ) : ∀ c ∈ Nat.toDigits 10 n, isNumeric c = true :=
  fun _ h => isNumeric_of_isDigit (isDigit_of_mem_toDigits h)

theorem isNumeric_zeros (n : ℕ) : ∀ c ∈ List.replicate n '0', isNumeric c = true :=
  fun _ h => isNumeric_of_isDigit (isDigit_of_mem_zeros h)

theorem isNumeric_renderInt (n : ℤ) : ∀ c ∈ renderInt n, isNumeric c = true := by
  unfold renderInt
  split_ifs
  · exact List.forall_mem_cons.2 ⟨rfl, isNumeric_toDigits _⟩
  · exact isNumeric_toDigits _

theorem isNumeric_significantDigits (n : ℕ) : ∀ c ∈ significantDigits n, isNumeric c = true := by
  intro c h
  obtain ⟨zeros, e⟩ := toDigits_eq_significant n
  exact isNumeric_toDigits n c (by simp [e, h])

theorem isNumeric_layOut {ds : List Char} (digits : ∀ c ∈ ds, isNumeric c = true) (point : ℤ) :
    ∀ c ∈ layOut ds point, isNumeric c = true := by
  have taken (n : ℕ) : ∀ c ∈ ds.take n, isNumeric c = true :=
    fun c h => digits c (List.mem_of_mem_take h)
  have dropped (n : ℕ) : ∀ c ∈ ds.drop n, isNumeric c = true :=
    fun c h => digits c (List.mem_of_mem_drop h)
  unfold layOut
  dsimp only
  split_ifs <;> simp only [List.cons_append, List.forall_mem_append, List.forall_mem_cons]
  · exact ⟨rfl, rfl, isNumeric_zeros _, digits⟩
  · exact ⟨⟨taken _, isNumeric_zeros _⟩, rfl, rfl, by simp⟩
  · exact ⟨⟨taken _, isNumeric_zeros _⟩, rfl, dropped _⟩
  · exact ⟨⟨taken _, by simp⟩, rfl, rfl, isNumeric_zeros _, isNumeric_toDigits _⟩
  · exact ⟨⟨taken _, by simp⟩, rfl, rfl, isNumeric_zeros _, isNumeric_toDigits _⟩
  · exact ⟨⟨taken _, rfl, dropped _⟩, rfl, rfl, isNumeric_zeros _, isNumeric_toDigits _⟩
  · exact ⟨⟨taken _, rfl, dropped _⟩, rfl, rfl, isNumeric_zeros _, isNumeric_toDigits _⟩

theorem isNumeric_renderFloat (x : Binary64) : ∀ c ∈ renderFloat x, isNumeric c = true := by
  match x with
  | .nan => decide
  | .infinite negative => cases negative <;> decide
  | .finite negative m q =>
    rw [renderFloat_finite, List.forall_mem_append]
    constructor
    · split_ifs <;> decide
    · split_ifs
      · decide
      · exact isNumeric_layOut (isNumeric_significantDigits _) _

end ElasticPanels.Json
