import ElasticPanels.Number.Binary64
import Mathlib.Algebra.Order.Field.Power
import Mathlib.Algebra.Order.Field.Rat
import Mathlib.Tactic.GCongr
import Mathlib.Tactic.Linarith
import Mathlib.Tactic.NormNum
import Mathlib.Tactic.Positivity
import Mathlib.Tactic.Ring

/-!
# Rounding to the nearest number

A quotient is `Near m q` if it lies between the two halfway points around `m · 2 ^ q`.
`Binary64.ofRatio_eq` and `Binary64.ofDecimal_eq` say that such a quotient, given as a fraction or
as a decimal, is rounded to the number with significand `m` and exponent `q`.
-/

namespace ElasticPanels.Binary64

theorem pow_toNat_div (b : ℚ) (q : ℤ) :
    b ^ (-q).toNat / b ^ q.toNat = b ^ (-q) := by
  rcases le_total 0 q with h | h
  · obtain ⟨n, rfl⟩ := Int.eq_ofNat_of_zero_le h
    simp
  · obtain ⟨n, hn⟩ := Int.eq_ofNat_of_zero_le (Int.neg_nonneg_of_nonpos h)
    obtain rfl : q = -n := by omega
    simp

/-- Scaling both sides of a quotient by powers of a base. -/
theorem scaled_quotient (b num den : ℕ) (q : ℤ) :
    ((num * b ^ (-q).toNat : ℕ) : ℚ) / (den * b ^ q.toNat : ℕ) = num / den * (b : ℚ) ^ (-q) := by
  rw [← pow_toNat_div (b : ℚ) q, Nat.cast_mul, Nat.cast_mul, Nat.cast_pow,
    Nat.cast_pow, mul_div_mul_comm]

/-- The whole part of a quotient that rounds to `n` is `n` or its predecessor. -/
theorem roundHalfEven_of_bounds {num den n : ℕ} (hd : 0 < den)
    (low : 2 * n * den ≤ 2 * num + den) (high : 2 * num ≤ 2 * n * den + den)
    (odd : n % 2 = 1 → 2 * n * den < 2 * num + den ∧ 2 * num < 2 * n * den + den) :
    roundHalfEven num den = n := by
  have split : den * (num / den) + num % den = num := Nat.div_add_mod num den
  have rest : num % den < den := Nat.mod_lt num hd
  unfold roundHalfEven
  dsimp only
  generalize num / den = whole at split ⊢
  generalize num % den = part at split rest ⊢
  subst split
  have above : n < whole + 2 := by
    have : den * (2 * n) < den * (2 * whole + 3) := by ring_nf at low ⊢; omega
    have := Nat.lt_of_mul_lt_mul_left this
    omega
  have below : whole < n + 1 := by
    have : den * (2 * whole) < den * (2 * n + 2) := by ring_nf at high ⊢; omega
    have := Nat.lt_of_mul_lt_mul_left this
    omega
  -- In either case the bounds say in which half of the step the rest lies.
  obtain rfl | rfl : n = whole ∨ n = whole + 1 := by omega
  · have half : 2 * part ≤ den := by ring_nf at high ⊢; omega
    have strict : n % 2 = 1 → 2 * part < den := fun h => by
      have := (odd h).2
      ring_nf at this ⊢
      omega
    split_ifs with h1 h2
    · rfl
    · omega
    · have := Nat.mod_two_eq_zero_or_one n
      omega
  · have half : den ≤ 2 * part := by ring_nf at low ⊢; omega
    have strict : (whole + 1) % 2 = 1 → den < 2 * part := fun h => by
      have := (odd h).1
      ring_nf at this ⊢
      omega
    split_ifs with h1 h2
    · omega
    · rfl
    · omega

theorem roundHalfEven_eq {num den n : ℕ} (hd : 0 < den) (low : (n : ℚ) - 1 / 2 ≤ num / den)
    (high : (num : ℚ) / den ≤ n + 1 / 2)
    (odd : n % 2 = 1 → (n : ℚ) - 1 / 2 < num / den ∧ (num : ℚ) / den < n + 1 / 2) :
    roundHalfEven num den = n := by
  have hd' : (0 : ℚ) < den := by exact_mod_cast hd
  rw [le_div_iff₀ hd'] at low
  rw [div_le_iff₀ hd'] at high
  apply roundHalfEven_of_bounds hd
  · have : (2 * n * den : ℚ) ≤ 2 * num + den := by linarith
    exact_mod_cast this
  · have : (2 * num : ℚ) ≤ 2 * n * den + den := by linarith
    exact_mod_cast this
  · intro h
    obtain ⟨h1, h2⟩ := odd h
    rw [lt_div_iff₀ hd'] at h1
    rw [div_lt_iff₀ hd'] at h2
    constructor
    · have : (2 * n * den : ℚ) < 2 * num + den := by linarith
      exact_mod_cast this
    · have : (2 * num : ℚ) < 2 * n * den + den := by linarith
      exact_mod_cast this

/-! ## The binary order of a quotient -/

theorem two_zpow_le_iff {a b : ℤ} : (2 : ℚ) ^ a ≤ 2 ^ b ↔ a ≤ b :=
  zpow_le_zpow_iff_right₀ (by norm_num)

theorem two_zpow_lt_iff {a b : ℤ} : (2 : ℚ) ^ a < 2 ^ b ↔ a < b :=
  zpow_lt_zpow_iff_right₀ (by norm_num)

theorem log2_bounds {n : ℕ} (h : 0 < n) :
    (2 : ℚ) ^ (n.log2 : ℤ) ≤ n ∧ (n : ℚ) < 2 ^ ((n.log2 : ℤ) + 1) := by
  constructor
  · rw [zpow_natCast]
    exact_mod_cast Nat.log2_self_le h.ne'
  · rw [← Nat.cast_succ, zpow_natCast]
    exact_mod_cast Nat.lt_log2_self

theorem scaled_lt_iff {num den : ℕ} (hd : 0 < den) (e : ℤ) :
    num * twoTo (-e).toNat < den * twoTo e.toNat ↔ (num : ℚ) / den < 2 ^ e := by
  have pos : (0 : ℚ) < (den * 2 ^ e.toNat : ℕ) := by positivity
  have scaled := scaled_quotient 2 num den e
  have cancel : (num : ℚ) / den < 2 ^ e ↔ (num : ℚ) / den * 2 ^ (-e) < 1 := by
    rw [zpow_neg, ← div_eq_mul_inv, div_lt_one (by positivity)]
  rw [cancel]
  push_cast at scaled
  rw [← scaled, div_lt_one (by positivity)]
  exact_mod_cast Iff.rfl

/-- The lengths of numerator and denominator locate a quotient between two powers of two. -/
theorem log2_quotient_bounds {num den : ℕ} (hn : 0 < num) (hd : 0 < den) :
    (2 : ℚ) ^ ((num.log2 : ℤ) - den.log2 - 1) ≤ num / den ∧
      (num : ℚ) / den < 2 ^ ((num.log2 : ℤ) - den.log2 + 1) := by
  obtain ⟨n1, n2⟩ := log2_bounds hn
  obtain ⟨d1, d2⟩ := log2_bounds hd
  have hd' : (0 : ℚ) < den := by exact_mod_cast hd
  constructor
  · rw [le_div_iff₀ hd']
    calc (2 : ℚ) ^ ((num.log2 : ℤ) - den.log2 - 1) * den
        ≤ 2 ^ ((num.log2 : ℤ) - den.log2 - 1) * 2 ^ ((den.log2 : ℤ) + 1) := by gcongr
      _ = 2 ^ (num.log2 : ℤ) := by rw [← zpow_add₀ (by norm_num)]; congr 1; omega
      _ ≤ num := n1
  · rw [div_lt_iff₀ hd']
    calc (num : ℚ) < 2 ^ ((num.log2 : ℤ) + 1) := n2
      _ = 2 ^ ((num.log2 : ℤ) - den.log2 + 1) * 2 ^ (den.log2 : ℤ) := by
        rw [← zpow_add₀ (by norm_num)]; congr 1; omega
      _ ≤ 2 ^ ((num.log2 : ℤ) - den.log2 + 1) * den := by gcongr

theorem binaryOrder_bounds {num den : ℕ} (hn : 0 < num) (hd : 0 < den) :
    (2 : ℚ) ^ binaryOrder num den ≤ num / den ∧
      (num : ℚ) / den < 2 ^ (binaryOrder num den + 1) := by
  obtain ⟨low, high⟩ := log2_quotient_bounds hn hd
  unfold binaryOrder
  dsimp only
  split_ifs with h
  · exact ⟨low, by simpa using (scaled_lt_iff hd _).1 h⟩
  · exact ⟨not_lt.1 ((scaled_lt_iff hd _).not.1 h), high⟩

theorem binaryOrder_eq {num den : ℕ} (hn : 0 < num) (hd : 0 < den) {e : ℤ}
    (low : (2 : ℚ) ^ e ≤ num / den) (high : (num : ℚ) / den < 2 ^ (e + 1)) :
    binaryOrder num den = e := by
  obtain ⟨h1, h2⟩ := binaryOrder_bounds hn hd
  have a := two_zpow_lt_iff.1 (low.trans_lt h2)
  have b := two_zpow_lt_iff.1 (h1.trans_lt high)
  omega

/-! ## The quotients that round to a number -/

/-- By how much of a unit a quotient may lie below `m · 2 ^ q` and still round to it.  Below a power
of two the grid is twice as fine. -/
def slack (m : ℕ) (q : ℤ) : ℚ := if m = twoTo 52 ∧ -1074 < q then 1 / 4 else 1 / 2

/-- The quotients that round to `m · 2 ^ q`; the ends belong to an even significand. -/
structure Near (m : ℕ) (q : ℤ) (r : ℚ) : Prop where
  low : (m - slack m q) * 2 ^ q ≤ r
  high : r ≤ (m + 1 / 2) * 2 ^ q
  odd : m % 2 = 1 → (m - slack m q) * 2 ^ q < r ∧ r < (m + 1 / 2) * 2 ^ q

theorem cast_twoTo (n : ℕ) : ((twoTo n : ℕ) : ℚ) = 2 ^ n := Nat.cast_pow 2 n

theorem slack_le_half (m : ℕ) (q : ℤ) : slack m q ≤ 1 / 2 := by
  unfold slack
  split_ifs <;> norm_num

theorem slack_eq_half_of_odd {m : ℕ} (q : ℤ) (h : m % 2 = 1) : slack m q = 1 / 2 := by
  unfold slack
  rw [if_neg]
  rintro ⟨rfl, -⟩
  revert h
  decide

section Near

variable {m num den : ℕ} {q : ℤ}

theorem Near.pos {r : ℚ} (near : Near m q r) (hm : 0 < m) : 0 < r := by
  have : (1 : ℚ) ≤ m := by exact_mod_cast hm
  have := slack_le_half m q
  exact (mul_pos (by linarith) (by positivity)).trans_le near.low

/-- At its own exponent a near quotient rounds to the significand. -/
theorem Near.round (near : Near m q (num / den)) (hd : 0 < den)
    (half : slack m q = 1 / 2 ∨ (m : ℚ) * 2 ^ q ≤ num / den) :
    roundHalfEven (num * twoTo (-q).toNat) (den * twoTo q.toNat) = m := by
  have scaled := scaled_quotient 2 num den q
  rw [zpow_neg, ← div_eq_mul_inv] at scaled
  have unit : (0 : ℚ) < 2 ^ q := by positivity
  refine roundHalfEven_eq (Nat.mul_pos hd (Nat.two_pow_pos _)) ?_ ?_ fun odd => ?_
  · rw [show ((num * twoTo (-q).toNat : ℕ) : ℚ) / (den * twoTo q.toNat : ℕ) = num / den / 2 ^ q
      from scaled, le_div_iff₀ unit]
    rcases half with half | half
    · have := near.low
      rwa [half] at this
    · exact le_trans (by nlinarith) half
  · rw [show ((num * twoTo (-q).toNat : ℕ) : ℚ) / (den * twoTo q.toNat : ℕ) = num / den / 2 ^ q
      from scaled, div_le_iff₀ unit]
    exact near.high
  · rw [show ((num * twoTo (-q).toNat : ℕ) : ℚ) / (den * twoTo q.toNat : ℕ) = num / den / 2 ^ q
      from scaled, lt_div_iff₀ unit, div_lt_iff₀ unit]
    have := near.odd odd
    rwa [slack_eq_half_of_odd q odd] at this

theorem two_zpow_add (k : ℕ) (q : ℤ) : (2 : ℚ) ^ (k + q : ℤ) = 2 ^ k * 2 ^ q := by
  rw [zpow_add₀ (by norm_num), zpow_natCast]

theorem Near.lt_two_zpow {r : ℚ} (near : Near m q r) (small : m < twoTo 53) :
    r < 2 ^ (52 + q + 1) := by
  have top : (m : ℚ) + 1 ≤ 2 ^ 53 := by exact_mod_cast small
  have unit : (0 : ℚ) < 2 ^ q := by positivity
  have split : (2 : ℚ) ^ (52 + q + 1) = 2 ^ 53 * 2 ^ q := by
    rw [← two_zpow_add 53]
    congr 1
    push_cast
    ring
  rw [split]
  exact near.high.trans_lt (by nlinarith)

/-- Only the power of two at which an exponent begins has quotients near it that lie below. -/
theorem Near.eq_of_lt {r : ℚ} (near : Near m q r) (large : twoTo 52 ≤ m)
    (below : r < 2 ^ (52 + q)) : m = twoTo 52 := by
  by_contra other
  have unit : (0 : ℚ) < 2 ^ q := by positivity
  have beyond : (2 : ℚ) ^ 52 + 1 ≤ m := by exact_mod_cast lt_of_le_of_ne large (Ne.symm other)
  have low := near.low
  have half := slack_le_half m q
  have split := two_zpow_add 52 q
  norm_num at split below
  nlinarith

/-- Below that power the grid is twice as fine. -/
theorem Near.finer {r : ℚ} (near : Near (twoTo 52) q r) (least : -1074 < q)
    (below : r < 2 ^ (52 + q)) : Near (twoTo 53) (q - 1) r ∧ (2 : ℚ) ^ (51 + q) ≤ r := by
  have quarter : slack (twoTo 52) q = 1 / 4 := if_pos ⟨rfl, least⟩
  have half : slack (twoTo 53) (q - 1) = 1 / 2 := if_neg fun h => absurd h.1 (by decide)
  have lower := near.low
  rw [quarter, cast_twoTo] at lower
  have unit : (0 : ℚ) < 2 ^ (q - 1) := by positivity
  have double : (2 : ℚ) ^ q = 2 * 2 ^ (q - 1) := by
    rw [← zpow_one_add₀ (by norm_num)]
    congr 1
    ring
  have split := two_zpow_add 52 q
  have split' := two_zpow_add 51 q
  push_cast at split split'
  refine ⟨⟨?_, ?_, fun odd => absurd odd (by decide)⟩, ?_⟩
  · rw [half, cast_twoTo]
    linarith
  · rw [cast_twoTo]
    linarith
  · rw [split']
    linarith

section Quotient

variable {negative : Bool} (hn : 0 < num) (hd : 0 < den) (most : q ≤ 971)
include hn hd most

/-- At the exponent itself the significand is that of the number. -/
theorem ofRatio_of_order (near : Near m q (num / den)) (small : m < twoTo 53)
    (half : slack m q = 1 / 2 ∨ (m : ℚ) * 2 ^ q ≤ num / den)
    (order : max (binaryOrder num den - 52) (-1074) = q) :
    ofRatio negative num den = .finite negative m q := by
  have fits : m ≠ twoTo 53 := small.ne
  have bounded : ¬ 971 < q := by omega
  simp only [ofRatio, hn.ne', if_false, near.round hd half, *]

/-- A quotient that is rounded up to a power of two carries into its exponent. -/
theorem ofRatio_of_carry (near : Near (twoTo 53) (q - 1) (num / den))
    (order : max (binaryOrder num den - 52) (-1074) = q - 1) :
    ofRatio negative num den = .finite negative (twoTo 52) q := by
  have half : slack (twoTo 53) (q - 1) = 1 / 2 := if_neg fun h => absurd h.1 (by decide)
  have bounded : ¬ 971 < q := by omega
  simp only [ofRatio, hn.ne', if_false, order, near.round hd (.inl half), if_true, sub_add_cancel,
    bounded]

end Quotient

/-- A quotient near a canonical number is rounded to it. -/
theorem ofRatio_eq {negative : Bool} (hm : 0 < m) (hd : 0 < den)
    (canonical : Canonical (.finite negative m q)) (near : Near m q (num / den)) :
    ofRatio negative num den = .finite negative m q := by
  obtain ⟨small, least, most, normal⟩ := canonical
  have hn : 0 < num := by
    have := near.pos hm
    by_contra h
    obtain rfl : num = 0 := by omega
    simp at this
  have upper := near.lt_two_zpow small
  by_cases below : (num : ℚ) / den < 2 ^ (52 + q)
  · have order := (binaryOrder_bounds hn hd).1.trans_lt below
    rw [two_zpow_lt_iff] at order
    by_cases bottom : q = -1074
    · have half : slack m q = 1 / 2 := by simp [slack, bottom]
      exact ofRatio_of_order hn hd most near small (.inl half) (by omega)
    · obtain rfl := near.eq_of_lt (normal.resolve_right bottom) below
      obtain ⟨finer, lower⟩ := near.finer (by omega) below
      have order : binaryOrder num den = 51 + q :=
        binaryOrder_eq hn hd lower (by rwa [show 51 + q + 1 = 52 + q by ring])
      exact ofRatio_of_carry hn hd most finer (by omega)
  · rw [not_lt] at below
    have order : binaryOrder num den = 52 + q := binaryOrder_eq hn hd below upper
    apply ofRatio_of_order hn hd most near small _ (by omega)
    by_cases quarter : m = twoTo 52 ∧ -1074 < q
    · right
      have split := two_zpow_add 52 q
      push_cast at split
      rwa [quarter.1, cast_twoTo, ← split]
    · exact .inl (if_neg quarter)

end Near

/-! ## Decimals -/

theorem digitCount_bounds {n : ℕ} (h : 0 < n) :
    (10 : ℚ) ^ ((digitCount n : ℤ) - 1) ≤ n ∧ (n : ℚ) < 10 ^ (digitCount n : ℤ) := by
  have pos : 0 < digitCount n := Nat.length_toDigits_pos
  constructor
  · have e : ((digitCount n : ℤ) - 1) = ((digitCount n - 1 : ℕ) : ℤ) := by omega
    rw [e, zpow_natCast]
    by_cases one : digitCount n = 1
    · rw [one]
      exact_mod_cast h
    · have := (Nat.length_toDigits_le_iff (n := n) (k := digitCount n - 1) (b := 10)
        (by decide) (by omega)).not.1 (by change ¬ digitCount n ≤ _; omega)
      exact_mod_cast not_lt.1 this
  · rw [zpow_natCast]
    exact_mod_cast (Nat.length_toDigits_le_iff (by decide) pos).1 le_rfl

theorem two_zpow_lt_ten_zpow : (2 : ℚ) ^ (1075 : ℤ) < 10 ^ (400 : ℤ) := by
  calc (2 : ℚ) ^ (1075 : ℤ) = (2 ^ 43) ^ 25 := by rw [← pow_mul, zpow_ofNat]
    _ < (10 ^ 16) ^ 25 := by gcongr; norm_num
    _ = 10 ^ (400 : ℤ) := by rw [← pow_mul, zpow_ofNat]

theorem Near.lt_ten_zpow {m : ℕ} {q : ℤ} {r : ℚ} (near : Near m q r) (small : m < twoTo 53)
    (most : q ≤ 971) : r < 10 ^ (400 : ℤ) := by
  have : (m : ℚ) + 1 ≤ 2 ^ 53 := by exact_mod_cast small
  calc r ≤ (m + 1 / 2) * 2 ^ q := near.high
    _ ≤ 2 ^ 53 * 2 ^ (971 : ℤ) := by
      gcongr
      · linarith
      · norm_num
    _ = 2 ^ (1024 : ℤ) := by rw [← zpow_natCast, ← zpow_add₀ (by norm_num)]; rfl
    _ < 2 ^ (1075 : ℤ) := two_zpow_lt_iff.2 (by norm_num)
    _ < 10 ^ (400 : ℤ) := two_zpow_lt_ten_zpow

theorem Near.ten_zpow_le {m : ℕ} {q : ℤ} {r : ℚ} (near : Near m q r) (hm : 0 < m)
    (least : -1074 ≤ q) : (10 : ℚ) ^ (-400 : ℤ) ≤ r := by
  have : (1 : ℚ) ≤ m := by exact_mod_cast hm
  have := slack_le_half m q
  have half : (1 / 2 : ℚ) ≤ m - slack m q := by linarith
  calc (10 : ℚ) ^ (-400 : ℤ) ≤ 2 ^ (-1075 : ℤ) := by
        rw [zpow_neg, zpow_neg]
        exact inv_anti₀ (by positivity) two_zpow_lt_ten_zpow.le
    _ = 1 / 2 * 2 ^ (-1074 : ℤ) := by
        rw [one_div, ← zpow_neg_one, ← zpow_add₀ (by norm_num)]
        rfl
    _ ≤ (m - slack m q) * 2 ^ q :=
        mul_le_mul half (two_zpow_le_iff.2 least) (by positivity) (by linarith)
    _ ≤ r := near.low

/-- The number of digits and the exponent locate a decimal between two powers of ten. -/
theorem decimal_bounds {digits : ℕ} (hd : 0 < digits) (e : ℤ) :
    (10 : ℚ) ^ ((digitCount digits : ℤ) - 1 + e) ≤ digits * 10 ^ e ∧
      (digits : ℚ) * 10 ^ e < 10 ^ ((digitCount digits : ℤ) + e) := by
  obtain ⟨low, high⟩ := digitCount_bounds hd
  have ten : (0 : ℚ) < 10 ^ e := by positivity
  rw [zpow_add₀ (by norm_num), zpow_add₀ (by norm_num)]
  exact ⟨by gcongr, by gcongr⟩

theorem decimal_quotient (digits : ℕ) (e : ℤ) :
    ((digits * tenTo e.toNat : ℕ) : ℚ) / (tenTo (-e).toNat : ℕ) = digits * 10 ^ e := by
  have := pow_toNat_div 10 (-e)
  rw [neg_neg] at this
  rw [Nat.cast_mul, mul_div_assoc]
  simpa [tenTo] using congrArg ((digits : ℚ) * ·) this

/-- A decimal near a canonical number is rounded to it. -/
theorem ofDecimal_eq {negative : Bool} {m digits : ℕ} {q e : ℤ} (hm : 0 < m)
    (canonical : Canonical (.finite negative m q)) (near : Near m q (digits * 10 ^ e)) :
    ofDecimal negative digits e = .finite negative m q := by
  obtain ⟨small, least, most, -⟩ := id canonical
  have hd : 0 < digits := by
    have := near.pos hm
    by_contra h
    obtain rfl : digits = 0 := by omega
    simp at this
  obtain ⟨low, high⟩ := decimal_bounds hd e
  have one : (1 : ℚ) < 10 := by norm_num
  have noOverflow := (zpow_lt_zpow_iff_right₀ one).1 (low.trans_lt (near.lt_ten_zpow small most))
  have noUnderflow := (zpow_lt_zpow_iff_right₀ one).1 ((near.ten_zpow_le hm least).trans_lt high)
  have tooLarge : ¬ 400 < e + digitCount digits := by omega
  have tooSmall : ¬ e + digitCount digits < -400 := by omega
  simp only [ofDecimal, hd.ne', if_false, tooLarge, tooSmall]
  refine ofRatio_eq hm (Nat.pow_pos (by decide)) canonical ?_
  rwa [decimal_quotient]

/-! ## Canonical form -/

theorem le_roundHalfEven {num den n : ℕ} (hd : 0 < den) (h : n * den ≤ num) :
    n ≤ roundHalfEven num den := by
  have whole : n ≤ num / den := (Nat.le_div_iff_mul_le hd).2 h
  unfold roundHalfEven
  dsimp only
  split_ifs <;> omega

theorem roundHalfEven_le {num den n : ℕ} (hd : 0 < den) (h : num ≤ n * den) :
    roundHalfEven num den ≤ n := by
  have whole : num / den ≤ n := Nat.div_le_of_le_mul (by rwa [Nat.mul_comm] at h)
  have split := Nat.div_add_mod num den
  by_cases same : num / den = n
  · have rest : num % den = 0 := by
      rw [same, Nat.mul_comm] at split
      omega
    simp [roundHalfEven, rest, hd, same]
  · unfold roundHalfEven
    dsimp only
    split_ifs <;> omega

/-- A quotient in units of its exponent is at most the next power of two. -/
theorem scaled_bounds {num den : ℕ} (hn : 0 < num) (hd : 0 < den) {q : ℤ}
    (order : max (binaryOrder num den - 52) (-1074) = q) :
    num * twoTo (-q).toNat ≤ twoTo 53 * (den * twoTo q.toNat) ∧
      (q ≠ -1074 → twoTo 52 * (den * twoTo q.toNat) ≤ num * twoTo (-q).toNat) := by
  obtain ⟨low, high⟩ := binaryOrder_bounds hn hd
  have pos : (0 : ℚ) < (den * twoTo q.toNat : ℕ) := by
    exact_mod_cast Nat.mul_pos hd (Nat.two_pow_pos _)
  have unit : (0 : ℚ) < 2 ^ q := by positivity
  have scaled : ((num * twoTo (-q).toNat : ℕ) : ℚ) / (den * twoTo q.toNat : ℕ) =
      num / den / 2 ^ q := by
    have := scaled_quotient 2 num den q
    rwa [zpow_neg, ← div_eq_mul_inv] at this
  constructor
  · have top : (num : ℚ) / den / 2 ^ q ≤ (twoTo 53 : ℕ) := by
      rw [div_le_iff₀ unit, cast_twoTo, ← two_zpow_add 53 q]
      exact high.le.trans (two_zpow_le_iff.2 (by push_cast; omega))
    rw [← scaled, div_le_iff₀ pos] at top
    exact_mod_cast top
  · intro above
    have bottom : ((twoTo 52 : ℕ) : ℚ) ≤ num / den / 2 ^ q := by
      rw [le_div_iff₀ unit, cast_twoTo, ← two_zpow_add 52 q]
      exact (two_zpow_le_iff.2 (by push_cast; omega)).trans low
    rw [← scaled, le_div_iff₀ pos] at bottom
    exact_mod_cast bottom

theorem canonical_zero (negative : Bool) : (zero negative).Canonical :=
  ⟨Nat.two_pow_pos 53, le_rfl, by decide, .inr rfl⟩

/-- What a quotient is rounded to is in canonical form. -/
theorem canonical_ofRatio (negative : Bool) (num : ℕ) {den : ℕ} (hd : 0 < den) :
    (ofRatio negative num den).Canonical := by
  unfold ofRatio
  by_cases none : num = 0
  · rw [if_pos none]
    exact canonical_zero negative
  rw [if_neg none]
  dsimp only
  generalize order : max (binaryOrder num den - 52) (-1074) = q
  obtain ⟨top, bottom⟩ := scaled_bounds (Nat.pos_of_ne_zero none) hd order
  have scale : 0 < den * twoTo q.toNat := Nat.mul_pos hd (Nat.two_pow_pos _)
  have most := roundHalfEven_le scale top
  have least (above : q ≠ -1074) := le_roundHalfEven scale (bottom above)
  generalize roundHalfEven (num * twoTo (-q).toNat) (den * twoTo q.toNat) = m at most least
  by_cases carry : m = twoTo 53
  · rw [if_pos carry]
    dsimp only
    split_ifs with large
    · trivial
    · exact ⟨by decide +kernel, by omega, by omega, .inl le_rfl⟩
  · rw [if_neg carry]
    dsimp only
    split_ifs with large
    · trivial
    · refine ⟨lt_of_le_of_ne most carry, by omega, by omega, ?_⟩
      by_cases smallest : q = -1074
      · exact .inr smallest
      · exact .inl (least smallest)

theorem canonical_ofDecimal (negative : Bool) (digits : ℕ) (e : ℤ) :
    (ofDecimal negative digits e).Canonical := by
  unfold ofDecimal
  dsimp only
  split_ifs
  · exact canonical_zero negative
  · trivial
  · exact canonical_zero negative
  · exact canonical_ofRatio negative _ (Nat.pow_pos (by decide))

end ElasticPanels.Binary64
