import Mathlib
import ChallengeDns.Decimal.Nearest

/-!
# Values of ratios

What is computed with numerators and denominators is said about the rational numbers that they
stand for: comparison, the integer part, the nearest integer, and the place of the first digit.
-/
namespace ChallengeDns.Decimal.Ratio

/-- The number that a ratio stands for. -/
def val (r : Ratio) : ℚ := r.num / r.den

/-- The denominator is one. -/
def IsProper (r : Ratio) : Prop := 0 < r.den

variable {r s : Ratio}

theorem num_pos (positive : 0 < r.val) : 0 < r.num := by
  by_contra none
  have zero : r.val = 0 := by simp [val, Nat.eq_zero_of_not_pos none]
  exact positive.ne' zero

/-! ### Powers -/

/-- Multiplying by a power goes into the numerator, or into the denominator if it is a fraction. -/
theorem val_power (base : Nat) (positive : 0 < base) (num den : Nat) (k : Int) :
    (if k < 0 then (⟨num, den * Nat.pow base k.natAbs⟩ : Ratio)
      else ⟨num * Nat.pow base k.natAbs, den⟩).val = num / den * (base : ℚ) ^ k := by
  have unit : (base : ℚ) ≠ 0 := by exact_mod_cast positive.ne'
  split
  · next negative =>
    obtain ⟨n, rfl⟩ : ∃ n : Nat, k = -n := ⟨k.natAbs, by omega⟩
    simp only [val, Int.natAbs_neg, Int.natAbs_natCast, Nat.pow_eq, Nat.cast_mul, Nat.cast_pow,
      zpow_neg, zpow_natCast]
    rw [div_mul_eq_div_div, ← div_eq_mul_inv]
  · next whole =>
    obtain ⟨n, rfl⟩ : ∃ n : Nat, k = n := ⟨k.natAbs, by omega⟩
    simp only [val, Int.natAbs_natCast, Nat.pow_eq, Nat.cast_mul, Nat.cast_pow, zpow_natCast]
    ring

theorem val_shift (r : Ratio) (k : Int) : (r.shift k).val = r.val * (10 : ℚ) ^ k :=
  val_power 10 (by decide) r.num r.den k

theorem val_scale (r : Ratio) (k : Int) : (r.scale k).val = r.val * (2 : ℚ) ^ k :=
  val_power 2 (by decide) r.num r.den k

theorem val_decimal (n : Nat) (k : Int) : (decimal n k).val = n * (10 : ℚ) ^ k := by
  rw [decimal, val_shift, val, Nat.cast_one, div_one]

theorem val_binary (n : Nat) (q : Int) : (binary n q).val = n * (2 : ℚ) ^ q := by
  have power := val_power 2 (by decide) n 1 q
  rw [Nat.cast_one, div_one, Nat.one_mul] at power
  exact power

theorem IsProper.shift (proper : r.IsProper) (k : Int) : (r.shift k).IsProper := by
  unfold Ratio.shift
  split
  · exact Nat.mul_pos proper (Nat.pow_pos (by decide))
  · exact proper

theorem IsProper.scale (proper : r.IsProper) (k : Int) : (r.scale k).IsProper := by
  unfold Ratio.scale
  split
  · exact Nat.mul_pos proper (Nat.pow_pos (by decide))
  · exact proper

theorem proper_decimal (n : Nat) (k : Int) : (decimal n k).IsProper :=
  IsProper.shift (r := ⟨n, 1⟩) Nat.one_pos k

theorem proper_binary (n : Nat) (q : Int) : (binary n q).IsProper := by
  unfold binary
  split
  · exact Nat.pow_pos (by decide)
  · exact Nat.one_pos

/-! ### Comparison and rounding -/

theorem lt_iff (proper : r.IsProper) (proper' : s.IsProper) : r.lt s = true ↔ r.val < s.val := by
  have positive : (0 : ℚ) < r.den := by exact_mod_cast proper
  have positive' : (0 : ℚ) < s.den := by exact_mod_cast proper'
  rw [lt, decide_eq_true_eq, val, val, div_lt_div_iff₀ positive positive']
  exact_mod_cast Iff.rfl

theorem lt_eq_false_iff (proper : r.IsProper) (proper' : s.IsProper) :
    r.lt s = false ↔ s.val ≤ r.val := by
  rw [← Bool.not_eq_true, lt_iff proper proper', not_lt]

theorem floor_le (r : Ratio) : (r.floor : ℚ) ≤ r.val := Nat.cast_div_le

theorem lt_floor_add_one (proper : r.IsProper) : r.val < r.floor + 1 := by
  have positive : (0 : ℚ) < r.den := by exact_mod_cast proper
  rw [val, div_lt_iff₀ positive]
  have bound := Nat.lt_mul_div_succ r.num proper
  rw [Nat.mul_comm] at bound
  exact_mod_cast bound

/-- The integer part of a ratio that is not further from a whole number than a half. -/
theorem floor_cases (proper : r.IsProper) {m : Nat} (below : 2 * (m * r.den) ≤ 2 * r.num + r.den)
    (above : 2 * r.num ≤ 2 * (m * r.den) + r.den) : r.floor = m ∨ r.floor + 1 = m := by
  have parts := Nat.div_add_mod r.num r.den
  have rest := Nat.mod_lt r.num proper
  have one : 0 < r.den := proper
  have upper : r.num / r.den < m + 1 := by
    rw [Nat.div_lt_iff_lt_mul proper]
    nlinarith
  have lower : m < r.num / r.den + 2 := by
    by_contra less
    have product : (r.num / r.den + 2) * r.den ≤ m * r.den :=
      Nat.mul_le_mul_right _ (Nat.not_lt.mp less)
    nlinarith
  unfold floor
  omega

/-- What is nearer to a whole number than a half is rounded to it, and halves to even numbers. -/
theorem nearest_eq_of_twice (proper : r.IsProper) {m : Nat}
    (below : 2 * (m * r.den) ≤ 2 * r.num + r.den) (above : 2 * r.num ≤ 2 * (m * r.den) + r.den)
    (even : m % 2 = 0 ∨
      (2 * (m * r.den) < 2 * r.num + r.den ∧ 2 * r.num < 2 * (m * r.den) + r.den)) :
    r.nearest = m := by
  have whole := floor_cases proper below above
  have parts : r.den * r.floor + r.num % r.den = r.num := Nat.div_add_mod r.num r.den
  have rest := Nat.mod_lt r.num proper
  unfold nearest
  dsimp only
  -- The integer part is `m`, or the number before it and the rest is at least a half.
  rcases whole with same | next
  · have product : r.den * m = m * r.den := Nat.mul_comm _ _
    rw [same] at parts ⊢
    split
    · rfl
    · split
      · omega
      · rw [if_pos (by omega)]
  · have product : r.den * r.floor + r.den = m * r.den := by
      rw [← next]
      ring
    split
    · omega
    · split
      · exact next
      · rw [if_neg (by omega)]
        exact next

theorem nearest_eq (proper : r.IsProper) {m : Nat} (below : (m : ℚ) - 1 / 2 ≤ r.val)
    (above : r.val ≤ m + 1 / 2)
    (even : m % 2 = 0 ∨ ((m : ℚ) - 1 / 2 < r.val ∧ r.val < m + 1 / 2)) : r.nearest = m := by
  have positive : (0 : ℚ) < r.den := by exact_mod_cast proper
  -- The same bounds on twice the numerator.
  refine nearest_eq_of_twice proper ?_ ?_ (even.imp_right fun strict => ?_)
  · rw [val, le_div_iff₀ positive] at below
    have twice : (2 * (m * r.den) : ℚ) ≤ 2 * r.num + r.den := by linarith
    exact_mod_cast twice
  · rw [val, div_le_iff₀ positive] at above
    have twice : (2 * r.num : ℚ) ≤ 2 * (m * r.den) + r.den := by linarith
    exact_mod_cast twice
  · rw [val, lt_div_iff₀ positive, div_lt_iff₀ positive] at strict
    have low : (2 * (m * r.den) : ℚ) < 2 * r.num + r.den := by linarith [strict.1]
    have high : (2 * r.num : ℚ) < 2 * (m * r.den) + r.den := by linarith [strict.2]
    exact ⟨by exact_mod_cast low, by exact_mod_cast high⟩

/-! ### First digits -/

/-- The power of two at the first binary digit. -/
theorem exponent_bounds (proper : r.IsProper) (positive : 0 < r.num) :
    (2 : ℚ) ^ r.exponent ≤ r.val ∧ r.val < (2 : ℚ) ^ (r.exponent + 1) := by
  have num : (2 : ℚ) ^ r.num.log2 ≤ r.num := by exact_mod_cast Nat.log2_self_le positive.ne'
  have num' : (r.num : ℚ) < 2 ^ (r.num.log2 + 1) := by exact_mod_cast Nat.lt_log2_self
  have den : (2 : ℚ) ^ r.den.log2 ≤ r.den := by exact_mod_cast Nat.log2_self_le proper.ne'
  have den' : (r.den : ℚ) < 2 ^ (r.den.log2 + 1) := by exact_mod_cast Nat.lt_log2_self
  have unit : (0 : ℚ) < r.den := by exact_mod_cast proper
  -- The guess is the exponent or the next one.
  have quotient (a b : Nat) : (2 : ℚ) ^ ((a : Int) - b) = 2 ^ a / 2 ^ b := by
    rw [zpow_sub₀ two_ne_zero, zpow_natCast, zpow_natCast]
  have low : (2 : ℚ) ^ ((r.num.log2 : Int) - r.den.log2 - 1) ≤ r.val := by
    have shift : (r.num.log2 : Int) - r.den.log2 - 1 = r.num.log2 - (r.den.log2 + 1 : Nat) := by
      push_cast
      ring
    rw [shift, quotient, val]
    exact div_le_div₀ (by positivity) num unit den'.le
  have high : r.val < (2 : ℚ) ^ ((r.num.log2 : Int) - r.den.log2 + 1) := by
    have shift : (r.num.log2 : Int) - r.den.log2 + 1 = (r.num.log2 + 1 : Nat) - r.den.log2 := by
      push_cast
      ring
    rw [shift, quotient, val]
    exact div_lt_div₀ num' den (by positivity) (by positivity)
  have middle : (binary 1 ((r.num.log2 : Int) - r.den.log2)).val =
      (2 : ℚ) ^ ((r.num.log2 : Int) - r.den.log2) := by
    rw [val_binary, Nat.cast_one, one_mul]
  -- One comparison decides between the two.
  unfold exponent
  dsimp only
  split
  · next less =>
    rw [lt_iff proper (proper_binary _ _), middle] at less
    rw [sub_add_cancel]
    exact ⟨low, less⟩
  · next least =>
    rw [Bool.not_eq_true, lt_eq_false_iff proper (proper_binary _ _), middle] at least
    exact ⟨least, high⟩

theorem exponent_eq (proper : r.IsProper) {e : Int} (low : (2 : ℚ) ^ e ≤ r.val)
    (high : r.val < (2 : ℚ) ^ (e + 1)) : r.exponent = e := by
  have unit : (0 : ℚ) < 2 ^ e := by positivity
  obtain ⟨low', high'⟩ := exponent_bounds proper (num_pos (unit.trans_le low))
  have above := (zpow_lt_zpow_iff_right₀ (by norm_num : (1 : ℚ) < 2)).mp (low.trans_lt high')
  have below := (zpow_lt_zpow_iff_right₀ (by norm_num : (1 : ℚ) < 2)).mp (low'.trans_lt high)
  omega

/-- The value of a ratio is so many binary units. -/
theorem val_units (r : Ratio) (q : Int) : r.val = (r.scale (-q)).val * 2 ^ q := by
  rw [val_scale, mul_assoc, ← zpow_add₀ two_ne_zero, neg_add_cancel, zpow_zero, mul_one]

theorem val_lt_iff_units {q : Int} {n : Nat} :
    r.val < (2 : ℚ) ^ (q + n) ↔ (r.scale (-q)).val < 2 ^ n := by
  have unit : (0 : ℚ) < 2 ^ q := by positivity
  rw [val_units r q, zpow_add₀ two_ne_zero, zpow_natCast, mul_comm (2 ^ q),
    mul_lt_mul_iff_left₀ unit]

theorem le_val_iff_units {q : Int} {n : Nat} :
    (2 : ℚ) ^ (q + n) ≤ r.val ↔ 2 ^ n ≤ (r.scale (-q)).val := by
  rw [← not_lt, ← not_lt, val_lt_iff_units]

/-- The first digit of a ratio stands so many places before the units. -/
theorem exponent_eq_of_units (proper : r.IsProper) {q : Int} {n : Nat}
    (low : 2 ^ n ≤ (r.scale (-q)).val) (high : (r.scale (-q)).val < 2 ^ (n + 1)) :
    r.exponent = q + n := by
  refine exponent_eq proper (le_val_iff_units.mpr low) ?_
  rw [add_assoc, ← Nat.cast_succ]
  exact val_lt_iff_units.mpr high

/-- Between two powers of ten lie the numbers of so many digits. -/
theorem length_toDigits {n : Nat} (positive : 0 < n) :
    10 ^ ((Nat.toDigits 10 n).length - 1) ≤ n ∧ n < 10 ^ (Nat.toDigits 10 n).length := by
  have some : 0 < (Nat.toDigits 10 n).length := Nat.length_toDigits_pos
  refine ⟨?_, (Nat.length_toDigits_le_iff (by decide) some).mp le_rfl⟩
  by_cases one : (Nat.toDigits 10 n).length = 1
  · rw [one]
    exact positive
  · by_contra less
    have short := (Nat.length_toDigits_le_iff (b := 10) (n := n)
      (k := (Nat.toDigits 10 n).length - 1) (by decide) (by omega)).mpr (Nat.not_le.mp less)
    omega

/-- A decimal between two powers of ten has its first digit there. -/
theorem first_digit_bounds {n : Nat} {k low high : Int} (positive : 0 < n)
    (small : (10 : ℚ) ^ low ≤ n * 10 ^ k) (large : (n : ℚ) * 10 ^ k < 10 ^ high) :
    low < (Nat.toDigits 10 n).length + k ∧ (Nat.toDigits 10 n).length - 1 + k < high := by
  obtain ⟨least, less⟩ := length_toDigits positive
  have some : 0 < (Nat.toDigits 10 n).length := Nat.length_toDigits_pos
  generalize (Nat.toDigits 10 n).length = length at *
  have power : (0 : ℚ) < 10 ^ k := by positivity
  have above : (n : ℚ) < 10 ^ (length : Int) := by exact_mod_cast less
  have below : (10 : ℚ) ^ ((length - 1 : Nat) : Int) ≤ n := by exact_mod_cast least
  have above' := small.trans_lt (mul_lt_mul_of_pos_right above power)
  have below' := (mul_le_mul_of_nonneg_right below power.le).trans_lt large
  rw [← zpow_add₀ (by norm_num), zpow_lt_zpow_iff_right₀ (by norm_num)] at above' below'
  omega

/-- The power of ten at the first digit, of numbers that are not too small. -/
theorem magnitude_bounds (proper : r.IsProper) (large : (10 : ℚ) ^ (-350 : Int) ≤ r.val) :
    (10 : ℚ) ^ (r.magnitude - 1) ≤ r.val ∧ r.val < (10 : ℚ) ^ r.magnitude := by
  have scaled := val_shift r 350
  have low := floor_le (r.shift 350)
  have high := lt_floor_add_one (proper.shift 350)
  rw [scaled] at low high
  -- The digits of the whole part of `r * 10 ^ 350` are counted, and the 350 is taken off again.
  have power : (0 : ℚ) < (10 : ℚ) ^ (350 : Int) := by positivity
  have positive : 0 < (r.shift 350).floor := by
    by_contra none
    rw [Nat.eq_zero_of_not_pos none, Nat.cast_zero, zero_add] at high
    have least := mul_le_mul_of_nonneg_right large power.le
    rw [← zpow_add₀ (by norm_num)] at least
    exact absurd high (not_lt.mpr least)
  obtain ⟨least, less⟩ := length_toDigits positive
  have some : 0 < (Nat.toDigits 10 (r.shift 350).floor).length := Nat.length_toDigits_pos
  unfold magnitude
  generalize (Nat.toDigits 10 (r.shift 350).floor).length = digits at *
  have least' : (10 : ℚ) ^ (digits - 1) ≤ (r.shift 350).floor := by exact_mod_cast least
  have less' : ((r.shift 350).floor : ℚ) + 1 ≤ 10 ^ digits := by exact_mod_cast less
  constructor
  · rw [← mul_le_mul_iff_left₀ power, ← zpow_add₀ (by norm_num)]
    have place : (digits : Int) - 350 - 1 + 350 = (digits - 1 : Nat) := by omega
    rw [place, zpow_natCast]
    exact least'.trans low
  · rw [← mul_lt_mul_iff_left₀ power, ← zpow_add₀ (by norm_num), sub_add_cancel, zpow_natCast]
    exact high.trans_le less'

end ChallengeDns.Decimal.Ratio
