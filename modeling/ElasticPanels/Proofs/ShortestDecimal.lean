import ElasticPanels.Number.Shortest
import ElasticPanels.Proofs.Rounding

/-!
# The shortest decimal rounds back

`Binary64.shortest` gives a decimal near its number (`shortest_near`).  A decimal that
`Basin.onGrid?` finds is near by `holds_basin_iff`; that the search finds one is due to its last
grid: seventeen digits are finer than the gap between neighbours.
-/

namespace ElasticPanels.Binary64

theorem tenTo_pos (n : ℕ) : 0 < tenTo n := Nat.pow_pos (by decide)

section Quotients

variable {a den : ℕ}

/-- Comparing a multiple of a power of ten with a quotient. -/
theorem tenTo_scaled_le_iff (hd : 0 < den) (c : ℕ) (p : ℤ) :
    a * tenTo (-p).toNat ≤ c * tenTo p.toNat * den ↔ (a : ℚ) / den ≤ c * 10 ^ p := by
  have hd' : (0 : ℚ) < den := by exact_mod_cast hd
  have ten : (0 : ℚ) < 10 ^ (-p).toNat := by positivity
  have scale := pow_toNat_div 10 (-p)
  rw [neg_neg] at scale
  rw [← scale, div_le_iff₀ hd', ← mul_div_assoc, div_mul_eq_mul_div, le_div_iff₀ ten]
  simp only [tenTo]
  exact_mod_cast Iff.rfl

theorem le_tenTo_scaled_iff (hd : 0 < den) (c : ℕ) (p : ℤ) :
    c * tenTo p.toNat * den ≤ a * tenTo (-p).toNat ↔ (c : ℚ) * 10 ^ p ≤ a / den := by
  have hd' : (0 : ℚ) < den := by exact_mod_cast hd
  have ten : (0 : ℚ) < 10 ^ (-p).toNat := by positivity
  have scale := pow_toNat_div 10 (-p)
  rw [neg_neg] at scale
  rw [← scale, le_div_iff₀ hd', ← mul_div_assoc, div_mul_eq_mul_div, div_le_iff₀ ten]
  simp only [tenTo]
  exact_mod_cast Iff.rfl

end Quotients

/-! ## The basin of a number -/

section Basin

variable {m : ℕ} {q : ℤ}

theorem basin_den_pos (m : ℕ) (q : ℤ) : 0 < (basin m q).den := Nat.two_pow_pos _

theorem basin_quotient (a : ℕ) (q : ℤ) :
    ((a * twoTo (q - 2).toNat : ℕ) : ℚ) / (twoTo (2 - q).toNat : ℕ) = a / 4 * 2 ^ q := by
  have scale := pow_toNat_div 2 (2 - q)
  rw [neg_sub] at scale
  rw [Nat.cast_mul, cast_twoTo, cast_twoTo, mul_div_assoc, scale, zpow_sub₀ (by norm_num)]
  ring

theorem basin_value (m : ℕ) (q : ℤ) :
    ((basin m q).value : ℚ) / (basin m q).den = m * 2 ^ q := by
  have := basin_quotient (4 * m) q
  push_cast at this
  simp only [basin]
  push_cast
  rw [this]
  ring

theorem basin_high (m : ℕ) (q : ℤ) :
    ((basin m q).high : ℚ) / (basin m q).den = (m + 1 / 2) * 2 ^ q := by
  have := basin_quotient (4 * m + 2) q
  push_cast at this
  simp only [basin]
  push_cast
  rw [this]
  ring

theorem basin_low (hm : 0 < m) (q : ℤ) :
    ((basin m q).low : ℚ) / (basin m q).den = (m - slack m q) * 2 ^ q := by
  have shape : (basin m q).low = (4 * m - if m = twoTo 52 ∧ -1074 < q then 1 else 2) *
    twoTo (q - 2).toNat := rfl
  have den : (basin m q).den = twoTo (2 - q).toNat := rfl
  rw [shape, den, basin_quotient, slack]
  split_ifs <;> rw [Nat.cast_sub (by omega)] <;> push_cast <;> ring

theorem Near.of_lt {r : ℚ} (low : (m - slack m q) * 2 ^ q < r) (high : r < (m + 1 / 2) * 2 ^ q) :
    Near m q r := ⟨low.le, high.le, fun _ => ⟨low, high⟩⟩

/-- A decimal lies in the basin of a number exactly if it is near to it. -/
theorem holds_basin_iff (hm : 0 < m) (c : ℕ) (p : ℤ) :
    (basin m q).holds c p = true ↔ Near m q (c * 10 ^ p) := by
  have low := tenTo_scaled_le_iff (basin_den_pos m q) c p (a := (basin m q).low)
  have high := le_tenTo_scaled_iff (basin_den_pos m q) c p (a := (basin m q).high)
  have low' := le_tenTo_scaled_iff (basin_den_pos m q) c p (a := (basin m q).low)
  have high' := tenTo_scaled_le_iff (basin_den_pos m q) c p (a := (basin m q).high)
  rw [basin_low hm] at low low'
  rw [basin_high] at high high'
  have closed : (basin m q).closed = (m % 2 == 0) := rfl
  unfold Basin.holds
  dsimp only
  rw [closed]
  rcases Nat.mod_two_eq_zero_or_one m with even | odd
  · rw [even, if_pos (by rfl), Bool.and_eq_true, decide_eq_true_eq, decide_eq_true_eq, low, high]
    exact ⟨fun h => ⟨h.1, h.2, by omega⟩, fun h => ⟨h.low, h.high⟩⟩
  · rw [odd, if_neg (by decide), Bool.and_eq_true, decide_eq_true_eq, decide_eq_true_eq,
      ← not_le, ← not_le, low', high', not_le, not_le]
    exact ⟨fun h => ⟨h.1.le, h.2.le, fun _ => h⟩, fun h => h.odd odd⟩

/-- The gap between neighbours is wider than one part in `10 ^ 16`. -/
theorem unit_wide (canonical : Canonical (.finite false m q)) :
    (m : ℚ) * 2 ^ q < 10 ^ (16 : ℤ) * ((1 / 2 + slack m q) * 2 ^ q) := by
  have small : (m : ℚ) + 1 ≤ 2 ^ 53 := by exact_mod_cast canonical.1
  have unit : (0 : ℚ) < 2 ^ q := by positivity
  rw [← mul_assoc]
  refine mul_lt_mul_of_pos_right ?_ unit
  unfold slack
  split_ifs with h
  · rw [h.1, cast_twoTo]
    norm_num
  · have : (2 : ℚ) ^ 53 < 10 ^ (16 : ℤ) := by norm_num
    linarith

end Basin

/-! ## The search -/

section Search

variable {m : ℕ} {q : ℤ}

theorem roundHalfEven_cases (num den : ℕ) :
    roundHalfEven num den = num / den ∨ roundHalfEven num den = num / den + 1 := by
  unfold roundHalfEven
  have := Nat.mod_two_eq_zero_or_one (num / den)
  dsimp only
  split_ifs <;> omega

theorem holds_of_onGrid? {b : Basin} {p : ℤ} {c : ℕ} (h : b.onGrid? p = some c) :
    b.holds c p = true := by
  unfold Basin.onGrid? at h
  dsimp only at h
  split at h
  · cases h
  · next below _ => cases h; exact below
  · next above => cases h; exact above
  · next below above =>
    cases h
    rcases roundHalfEven_cases (b.value * tenTo (-p).toNat) (b.den * tenTo p.toNat) with e | e
    · rw [e]; exact below
    · rw [e]; exact above

/-- On a grid finer than the gap between neighbours there is a decimal in the basin. -/
theorem onGrid?_isSome (hm : 0 < m) {p : ℤ}
    (fine : (10 : ℚ) ^ p < (1 / 2 + slack m q) * 2 ^ q) : ((basin m q).onGrid? p).isSome := by
  have unit : (0 : ℚ) < 2 ^ q := by positivity
  have ten : (0 : ℚ) < 10 ^ p := by positivity
  have slackPos : 0 < slack m q := by
    unfold slack
    split_ifs <;> norm_num
  have den := basin_den_pos m q
  -- the multiples of the grid on either side of the value
  obtain ⟨below, floor⟩ : ∃ below, below =
    (basin m q).value * tenTo (-p).toNat / ((basin m q).den * tenTo p.toNat) := ⟨_, rfl⟩
  have atMost : (below : ℚ) * 10 ^ p ≤ m * 2 ^ q := by
    rw [← basin_value m q, ← le_tenTo_scaled_iff den, floor, mul_assoc, Nat.mul_comm (tenTo _)]
    exact Nat.div_mul_le_self _ _
  have above : (m : ℚ) * 2 ^ q < (below + 1 : ℕ) * 10 ^ p := by
    rw [← basin_value m q, ← not_le, ← le_tenTo_scaled_iff den, not_le, floor, mul_assoc,
      Nat.mul_comm (tenTo _), Nat.mul_comm (_ + 1)]
    exact Nat.lt_mul_div_succ _ (Nat.mul_pos den (tenTo_pos _))
  -- If neither is in the basin, the basin lies between them, but it is wider than the grid.
  by_contra none
  have unfound : ∀ c, c = below ∨ c = below + 1 → ¬ Near m q (c * 10 ^ p) := by
    intro c hc near
    rw [← holds_basin_iff hm] at near
    unfold Basin.onGrid? at none
    dsimp only at none
    rw [← floor] at none
    rcases hc with rfl | rfl <;> rw [near] at none <;> split at none <;> simp_all
  have left : (below : ℚ) * 10 ^ p ≤ (m - slack m q) * 2 ^ q := by
    refine not_lt.1 fun low => unfound below (.inl rfl) (.of_lt low ?_)
    nlinarith
  have right : ((m : ℚ) + 1 / 2) * 2 ^ q ≤ (below + 1 : ℕ) * 10 ^ p := by
    refine not_lt.1 fun high => unfound _ (.inr rfl) (.of_lt ?_ high)
    nlinarith
  push_cast at right
  nlinarith

theorem holds_search {b : Basin} {order : ℤ} {tries digits : ℕ}
    (found : ∃ k < tries, (b.onGrid? (order + 1 - (digits + k : ℕ))).isSome) :
    b.holds (b.search order tries digits).1 (b.search order tries digits).2 = true := by
  induction tries generalizing digits with
  | zero =>
    obtain ⟨k, hk, -⟩ := found
    omega
  | succ tries ih =>
    unfold Basin.search
    dsimp only
    cases h : b.onGrid? (order + 1 - digits) with
    | some c => exact holds_of_onGrid? h
    | none =>
      apply ih
      obtain ⟨k, hk, some⟩ := found
      cases k with
      | zero => simp [h] at some
      | succ k => exact ⟨k, by omega, by rwa [show digits + 1 + k = digits + (k + 1) by omega]⟩

/-! ## The decimal order -/

theorem ten_zpow_le_two_zpow {a b : ℤ} (up : 0 ≤ a → 196 * a ≤ 59 * b)
    (down : a < 0 → 93 * a ≤ 28 * b) : (10 : ℚ) ^ a ≤ 2 ^ b := by
  rcases le_or_gt 0 a with h | h
  · have root : ((10 : ℚ) ^ a) ^ 59 ≤ (2 ^ b) ^ 59 := by
      calc ((10 : ℚ) ^ a) ^ 59 = (10 ^ 59) ^ a := by
            rw [← zpow_natCast, ← zpow_natCast, zpow_comm]
        _ ≤ (2 ^ 196) ^ a := zpow_le_zpow_left₀ h (by norm_num) (by norm_num)
        _ = 2 ^ (196 * a) := by rw [zpow_mul]; rfl
        _ ≤ 2 ^ (59 * b) := two_zpow_le_iff.2 (up h)
        _ = (2 ^ b) ^ 59 := by rw [mul_comm, zpow_mul]; rfl
    exact le_of_pow_le_pow_left₀ (by norm_num) (by positivity) root
  · have root : ((10 : ℚ) ^ a) ^ 28 ≤ (2 ^ b) ^ 28 := by
      calc ((10 : ℚ) ^ a) ^ 28 = (10 ^ 28) ^ a := by
            rw [← zpow_natCast, ← zpow_natCast, zpow_comm]
        _ ≤ (2 ^ 93) ^ a := by
            rw [← neg_neg a, zpow_neg, zpow_neg (2 ^ 93)]
            exact inv_anti₀ (by positivity)
              (zpow_le_zpow_left₀ (by omega) (by norm_num) (by norm_num))
        _ = 2 ^ (93 * a) := by rw [zpow_mul]; rfl
        _ ≤ 2 ^ (28 * b) := two_zpow_le_iff.2 (down h)
        _ = (2 ^ b) ^ 28 := by rw [mul_comm, zpow_mul]; rfl
    exact le_of_pow_le_pow_left₀ (by norm_num) (by positivity) root

theorem ten_zpow_decimalOrder_le {num den : ℕ} (hn : 0 < num) (hd : 0 < den)
    (least : -1100 ≤ (num.log2 : ℤ) - den.log2) (most : (num.log2 : ℤ) - den.log2 ≤ 1100) :
    (10 : ℚ) ^ decimalOrder num den ≤ num / den := by
  have reaches (e : ℤ) : den * tenTo e.toNat ≤ num * tenTo (-e).toNat ↔
      (10 : ℚ) ^ e ≤ num / den := by
    have := le_tenTo_scaled_iff (a := num) hd 1 e
    rwa [one_mul, Nat.mul_comm, Nat.cast_one, one_mul] at this
  obtain ⟨low, -⟩ := log2_quotient_bounds hn hd
  unfold decimalOrder
  dsimp only
  generalize (num.log2 : ℤ) - den.log2 = order at least most low ⊢
  simp only [Bool.not_eq_true', decide_eq_false_iff_not, decide_eq_true_eq, reaches]
  split_ifs with h1 h2
  · exact h2
  · exact h1
  · refine le_trans (ten_zpow_le_two_zpow ?_ ?_) low <;> omega

/-- The shortest decimal of a number is near to it. -/
theorem shortest_near (hm : 0 < m) (canonical : Canonical (.finite false m q)) :
    Near m q ((shortest m q).1 * 10 ^ (shortest m q).2) := by
  have value := basin_value m q
  have den := basin_den_pos m q
  obtain ⟨small, least, most, -⟩ := id canonical
  have one : (1 : ℚ) ≤ m := by exact_mod_cast hm
  have valuePos : 0 < (basin m q).value := by
    have : (0 : ℚ) < (basin m q).value / (basin m q).den := by rw [value]; positivity
    by_contra h
    simp [Nat.eq_zero_of_not_pos h] at this
  have lengths : -1100 ≤ ((basin m q).value.log2 : ℤ) - (basin m q).den.log2 ∧
      ((basin m q).value.log2 : ℤ) - (basin m q).den.log2 ≤ 1100 := by
    obtain ⟨low, high⟩ := log2_quotient_bounds valuePos den
    rw [value] at low high
    have a : (2 : ℚ) ^ (-1074 : ℤ) ≤ m * 2 ^ q := by
      rw [← one_mul ((2 : ℚ) ^ (-1074 : ℤ))]
      exact mul_le_mul one (two_zpow_le_iff.2 least) (by positivity) (by linarith)
    have b : (m : ℚ) * 2 ^ q < 2 ^ (53 + q) := by
      rw [zpow_add₀ (by norm_num)]
      have : (m : ℚ) < 2 ^ (53 : ℤ) := by exact_mod_cast small
      exact mul_lt_mul_of_pos_right this (by positivity)
    have := two_zpow_lt_iff.1 (a.trans_lt high)
    have := two_zpow_lt_iff.1 (low.trans_lt b)
    omega
  have order := ten_zpow_decimalOrder_le valuePos den lengths.1 lengths.2
  rw [value] at order
  refine (holds_basin_iff hm _ _).1 (holds_search ⟨16, by omega, onGrid?_isSome hm ?_⟩)
  have wide := order.trans_lt (unit_wide canonical)
  have : decimalOrder (basin m q).value (basin m q).den =
      16 + (decimalOrder (basin m q).value (basin m q).den + 1 - (1 + 16 : ℕ)) := by
    push_cast
    ring
  rw [this, zpow_add₀ (by norm_num)] at wide
  exact lt_of_mul_lt_mul_left wide (by positivity)

theorem shortest_pos (hm : 0 < m) (canonical : Canonical (.finite false m q)) :
    0 < (shortest m q).1 := by
  have := (shortest_near hm canonical).pos hm
  by_contra h
  simp [Nat.eq_zero_of_not_pos h] at this

end Search

end ElasticPanels.Binary64
