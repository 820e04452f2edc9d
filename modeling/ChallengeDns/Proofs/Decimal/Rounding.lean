import Mathlib
import ChallengeDns.Decimal.Shortest
import ChallengeDns.Proofs.Decimal.Ratios

/-!
# Shortest decimals are read back

The decimals that round to a floating-point number are those between the midpoints to its
neighbours, and the number is the nearest one to each of them.  Among the decimals of seventeen
digits there is always one of them, so a shortest one is found, and it is read as the number that it
was found for.
-/
namespace ChallengeDns.Decimal

namespace Binary

/-- The size of a number that is not zero, and the bits of the number without its sign. -/
structure IsSize (b : Binary) (bits : Nat) : Prop where
  positive : 0 < b.m
  digits : b.m < 2 ^ 53
  least : -1074 ≤ b.q
  full : -1074 < b.q → 2 ^ 52 ≤ b.m
  /-- Below a power of two the numbers stand closer to each other. -/
  narrow : b.narrow = true ↔ b.m = 2 ^ 52 ∧ -1074 < b.q
  encoded : bits = b.m + (b.q + 1074).toNat * 2 ^ 52
  finite : bits < 2047 * 2 ^ 52

theorem isSize_ofFields {exponent fraction : Nat} (finite : exponent < 2047)
    (small : fraction < 2 ^ 52) (positive : 0 < (ofFields exponent fraction).m) :
    (ofFields exponent fraction).IsSize (exponent * 2 ^ 52 + fraction) := by
  -- The exponent field 0 is that of the small numbers, which have no leading bit.
  by_cases zero : exponent = 0
  · have fields : ofFields exponent fraction = ⟨fraction, -1074, false⟩ := if_pos zero
    rw [fields] at positive ⊢
    refine ⟨positive, ?_, le_rfl, nofun, by simp, by simp [zero], by omega⟩
    exact small.trans (by decide)
  · have fields : ofFields exponent fraction =
        ⟨2 ^ 52 + fraction, exponent - 1075, fraction = 0 && 1 < exponent⟩ := if_neg zero
    have leading : (exponent : Int) - 1075 + 1074 = (exponent - 1 : Nat) := by omega
    rw [fields] at positive ⊢
    refine ⟨positive, ?_, ?_, fun _ => Nat.le_add_right _ _, ?_, ?_, by omega⟩
    · show 2 ^ 52 + fraction < 2 ^ 53
      omega
    · show (-1074 : Int) ≤ exponent - 1075
      omega
    · show (decide (fraction = 0) && decide (1 < exponent)) = true ↔
        2 ^ 52 + fraction = 2 ^ 52 ∧ (-1074 : Int) < exponent - 1075
      rw [Bool.and_eq_true, decide_eq_true_eq, decide_eq_true_eq]
      omega
    · show exponent * 2 ^ 52 + fraction =
        2 ^ 52 + fraction + ((exponent : Int) - 1075 + 1074).toNat * 2 ^ 52
      rw [leading, Int.toNat_natCast]
      omega

/-- The distance of the lower midpoint in units of the last digit. -/
def gap (b : Binary) : ℚ := if b.narrow then 1 / 4 else 1 / 2

variable {b : Binary} {bits : Nat} {d : Ratio}

/-- A decimal rounds to a number if it is within these bounds, or strictly within if the last digit
is odd. -/
structure Within (b : Binary) (w : ℚ) : Prop where
  low : b.m - b.gap ≤ w
  high : w ≤ b.m + 1 / 2
  even : b.m % 2 = 0 ∨ (b.m - b.gap < w ∧ w < b.m + 1 / 2)

theorem val_low (positive : 0 < b.m) :
    (Ratio.binary (4 * b.m - if b.narrow then 1 else 2) (b.q - 2)).val =
      (b.m - b.gap) * (2 : ℚ) ^ b.q := by
  have quarter : (2 : ℚ) ^ (b.q - 2) = 2 ^ b.q / 4 := by
    rw [zpow_sub₀ two_ne_zero]
    norm_num
  rw [Ratio.val_binary, quarter, gap]
  split
  · rw [Nat.cast_sub (by omega)]
    push_cast
    ring
  · rw [Nat.cast_sub (by omega)]
    push_cast
    ring

theorem val_high (b : Binary) :
    (Ratio.binary (4 * b.m + 2) (b.q - 2)).val = (b.m + 1 / 2) * (2 : ℚ) ^ b.q := by
  have quarter : (2 : ℚ) ^ (b.q - 2) = 2 ^ b.q / 4 := by
    rw [zpow_sub₀ two_ne_zero]
    norm_num
  rw [Ratio.val_binary, quarter]
  push_cast
  ring

theorem rounds_iff (positive : 0 < b.m) (proper : d.IsProper) :
    b.rounds d = true ↔ b.Within (d.scale (-b.q)).val := by
  have unit : (0 : ℚ) < 2 ^ b.q := by positivity
  have scaled := d.val_units b.q
  generalize (d.scale (-b.q)).val = w at scaled ⊢
  have low := val_low positive
  have high := val_high b
  have proper' := Ratio.proper_binary (4 * b.m - if b.narrow then 1 else 2) (b.q - 2)
  have proper'' := Ratio.proper_binary (4 * b.m + 2) (b.q - 2)
  unfold rounds
  dsimp only
  -- An even fraction also takes the two middles, an odd one does not.
  split
  · next even =>
    rw [Bool.and_eq_true, Bool.not_eq_true', Bool.not_eq_true',
      Ratio.lt_eq_false_iff proper proper', Ratio.lt_eq_false_iff proper'' proper, low, high,
      scaled, mul_le_mul_iff_left₀ unit, mul_le_mul_iff_left₀ unit]
    exact ⟨fun bounds => ⟨bounds.1, bounds.2, Or.inl even⟩, fun within => ⟨within.1, within.2⟩⟩
  · next odd =>
    rw [Bool.and_eq_true, Ratio.lt_iff proper' proper, Ratio.lt_iff proper proper'', low, high,
      scaled, mul_lt_mul_iff_left₀ unit, mul_lt_mul_iff_left₀ unit]
    exact ⟨fun bounds => ⟨bounds.1.le, bounds.2.le, Or.inr bounds⟩,
      fun within => within.even.resolve_left odd⟩

theorem gap_le (b : Binary) : b.gap ≤ 1 / 2 := by
  unfold gap
  split <;> norm_num

/-- With the unit of its last digit a number is the nearest one to a decimal that rounds to it. -/
theorem Within.nearest (within : b.Within (d.scale (-b.q)).val) (proper : d.IsProper) :
    (d.scale (-b.q)).nearest = b.m := by
  have short := gap_le b
  have low := within.low
  refine Ratio.nearest_eq (proper.scale _) (by linarith) within.high ?_
  exact within.even.imp_right fun strict => ⟨by linarith [strict.1], strict.2⟩

/-- Below a power of two a decimal has half the unit, and the power is the nearest number. -/
theorem Within.nearest_half (within : b.Within (d.scale (-b.q)).val) (proper : d.IsProper)
    (power : b.m = 2 ^ 52) (narrow : b.narrow = true) (below : (d.scale (-b.q)).val < 2 ^ 52) :
    (d.scale (-(b.q - 1))).nearest = 2 ^ 53 := by
  have twice : (d.scale (-(b.q - 1))).val = 2 * (d.scale (-b.q)).val := by
    have next : -(b.q - 1) = -b.q + 1 := by ring
    rw [Ratio.val_scale, Ratio.val_scale, next, zpow_add₀ two_ne_zero, zpow_one]
    ring
  have low := within.low
  rw [power, gap, if_pos narrow] at low
  push_cast at low
  refine Ratio.nearest_eq (proper.scale _) ?_ ?_ (Or.inl (by decide))
  · rw [twice]
    push_cast
    linarith
  · rw [twice]
    push_cast
    linarith

section Bounds

variable {w : ℚ}

theorem Within.half_le (within : b.Within w) (positive : 0 < b.m) : 1 / 2 ≤ w := by
  have one : (1 : ℚ) ≤ b.m := by exact_mod_cast positive
  linarith [within.low, gap_le b]

theorem Within.lt_top (within : b.Within w) (size : b.IsSize bits) : w < 2 ^ 53 := by
  have digits : (b.m : ℚ) + 1 ≤ 2 ^ 53 := by exact_mod_cast size.digits
  linarith [within.high]

/-- With less than all its digits a decimal rounds to the least number that has all of them. -/
theorem Within.power_of_below (within : b.Within w) (full : 2 ^ 52 ≤ b.m) (below : w < 2 ^ 52) :
    b.m = 2 ^ 52 := by
  have less : (b.m : ℚ) < 2 ^ 52 + 1 := by linarith [within.low, gap_le b]
  have less' : b.m < 2 ^ 52 + 1 := by exact_mod_cast less
  omega

end Bounds

/-- The last digit of a number is that of the decimals that round to it. -/
theorem Within.last_eq (within : b.Within (d.scale (-b.q)).val) (size : b.IsSize bits)
    (proper : d.IsProper) (full : -1074 < b.q → 2 ^ 52 ≤ (d.scale (-b.q)).val) :
    max (d.exponent - 52) (-1074) = b.q := by
  have top := within.lt_top size
  rcases size.least.eq_or_lt with lowest | above
  · have some : 0 < d.val := by
      rw [d.val_units b.q]
      exact mul_pos (by linarith [within.half_le size.positive]) (by positivity)
    have first := (Ratio.exponent_bounds proper (Ratio.num_pos some)).1
    have less := (zpow_lt_zpow_iff_right₀ (by norm_num : (1 : ℚ) < 2)).mp
      (first.trans_lt (Ratio.val_lt_iff_units.mpr top))
    omega
  · have exponent := Ratio.exponent_eq_of_units proper (full above) top
    omega

/-- Below a power of two the last digit is one place further on. -/
theorem Within.last_half (within : b.Within (d.scale (-b.q)).val) (proper : d.IsProper)
    (above : -1074 < b.q) (power : b.m = 2 ^ 52) (below : (d.scale (-b.q)).val < 2 ^ 52) :
    max (d.exponent - 52) (-1074) = b.q - 1 := by
  have low := within.low
  rw [power] at low
  push_cast at low
  have exponent : d.exponent = b.q + (51 : Nat) :=
    Ratio.exponent_eq_of_units proper (by linarith [gap_le b]) below
  omega

/-- A number is the nearest one to a decimal that rounds to it. -/
theorem nearestBits_of_rounds (size : b.IsSize bits) (proper : d.IsProper)
    (rounds : b.rounds d = true) : d.nearestBits = bits := by
  have within := (rounds_iff size.positive proper).mp rounds
  have least := size.least
  have encoded := size.encoded
  have finite := size.finite
  have leading : Nat.pow 2 52 = 2 ^ 52 := rfl
  unfold Ratio.nearestBits
  dsimp only
  rw [leading]
  -- Below a power of two the neighbours stand twice as close.
  by_cases below : -1074 < b.q ∧ (d.scale (-b.q)).val < 2 ^ 52
  · obtain ⟨above, below⟩ := below
    have power := within.power_of_below (size.full above) below
    have narrow := size.narrow.mpr ⟨power, above⟩
    have next : (b.q + 1074).toNat = (b.q - 1 + 1074).toNat + 1 := by omega
    rw [within.last_half proper above power below, within.nearest_half proper power narrow below]
    rw [next, power] at encoded
    omega
  · have full : -1074 < b.q → 2 ^ 52 ≤ (d.scale (-b.q)).val :=
      fun above => not_lt.mp fun less => below ⟨above, less⟩
    rw [within.last_eq size proper full, within.nearest proper]
    omega

/-! ### The search for digits -/

theorem rounds_of_withDigits? {n : Nat} {found : Nat × Int}
    (search : b.withDigits? n = some found) :
    b.rounds (Ratio.decimal found.1 found.2) = true := by
  unfold withDigits? at search
  extract_lets k d down up below above at search
  -- What is found is one of the two candidates, and it was tested.
  split at search
  · cases search
  · next rounds _ =>
    cases search
    exact rounds
  · next _ rounds =>
    cases search
    exact rounds
  · next rounds rounds' =>
    split at search
    · cases search
      exact rounds
    split at search
    · cases search
      exact rounds'
    split at search <;> cases search
    · exact rounds
    · exact rounds'

theorem exists_withDigits? {n : Nat} (rounds :
    b.rounds (Ratio.decimal (b.value.shift (-(b.value.magnitude - n))).floor
      (b.value.magnitude - n)) = true ∨
    b.rounds (Ratio.decimal ((b.value.shift (-(b.value.magnitude - n))).floor + 1)
      (b.value.magnitude - n)) = true) : ∃ found, b.withDigits? n = some found := by
  unfold withDigits?
  extract_lets k d down up below above
  split
  · next none none' =>
    rcases rounds with rounds | rounds
    · cases none.symm.trans rounds
    · cases none'.symm.trans rounds
  · exact ⟨_, rfl⟩
  · exact ⟨_, rfl⟩
  · split
    · exact ⟨_, rfl⟩
    split
    · exact ⟨_, rfl⟩
    split <;> exact ⟨_, rfl⟩

/-- What does not round to the number from below is below the lower midpoint or at it. -/
theorem le_of_not_within {w : ℚ} (below : w ≤ b.m) (outside : ¬b.Within w) : w ≤ b.m - b.gap := by
  by_contra inside
  rw [not_le] at inside
  have above : w < b.m + 1 / 2 := by linarith
  exact outside ⟨inside.le, above.le, Or.inr ⟨inside, above⟩⟩

theorem ge_of_not_within {w : ℚ} (above : b.m ≤ w) (outside : ¬b.Within w) : b.m + 1 / 2 ≤ w := by
  have positive : 0 < b.gap := by
    unfold gap
    split <;> norm_num
  by_contra inside
  rw [not_le] at inside
  have below : b.m - b.gap < w := by linarith
  exact outside ⟨below.le, inside.le, Or.inr ⟨below, inside⟩⟩

/-- Decimals of seventeen digits are closer to each other than the midpoints are. -/
theorem units_lt_midpoints (size : b.IsSize bits) :
    (b.m : ℚ) * 10 ^ (-16 : Int) < b.gap + 1 / 2 := by
  unfold gap
  split
  · next narrow =>
    have power : (b.m : ℚ) = 2 ^ 52 := by exact_mod_cast (size.narrow.mp narrow).1
    rw [power]
    norm_num
  · have less : (b.m : ℚ) < 2 ^ 53 := by exact_mod_cast size.digits
    have scaled := mul_lt_mul_of_pos_right less (by positivity : (0 : ℚ) < 10 ^ (-16 : Int))
    refine scaled.trans ?_
    norm_num

theorem least_size : (10 : ℚ) ^ (-350 : Int) ≤ 2 ^ (-1074 : Int) := by
  have powers : 2 ^ 1074 ≤ 10 ^ 350 := by decide +kernel
  rw [zpow_neg, zpow_neg]
  exact inv_anti₀ (by positivity) (by exact_mod_cast powers)

theorem value_ge (size : b.IsSize bits) : (10 : ℚ) ^ (-350 : Int) ≤ b.value.val := by
  have unit : (0 : ℚ) < 2 ^ b.q := by positivity
  have one : (1 : ℚ) ≤ b.m := by exact_mod_cast size.positive
  have least : (2 : ℚ) ^ (-1074 : Int) ≤ 2 ^ b.q := zpow_le_zpow_right₀ (by norm_num) size.least
  calc (10 : ℚ) ^ (-350 : Int) ≤ 2 ^ (-1074 : Int) := least_size
    _ ≤ 2 ^ b.q := least
    _ ≤ b.m * 2 ^ b.q := le_mul_of_one_le_left unit.le one
    _ = b.value.val := (Ratio.val_binary _ _).symm

/-- One of the two decimals of seventeen digits around a number rounds to it. -/
theorem exists_seventeen (size : b.IsSize bits) : ∃ found, b.withDigits? 17 = some found := by
  have unit : (0 : ℚ) < 2 ^ b.q := by positivity
  have proper : b.value.IsProper := Ratio.proper_binary _ _
  have value : b.value.val = b.m * 2 ^ b.q := Ratio.val_binary _ _
  obtain ⟨first, -⟩ := Ratio.magnitude_bounds proper (value_ge size)
  apply exists_withDigits?
  by_contra neither
  rw [not_or] at neither
  push_cast at neither
  generalize place : b.value.magnitude - 17 = k at neither
  have power : (0 : ℚ) < 10 ^ k := by positivity
  -- Both decimals in units of the last binary digit.
  have scaled (n : Nat) : ((Ratio.decimal n k).scale (-b.q)).val = n * (10 ^ k / 2 ^ b.q) := by
    rw [Ratio.val_scale, Ratio.val_decimal, zpow_neg, mul_assoc, div_eq_mul_inv]
  have exact : (b.value.shift (-k)).val * (10 ^ k / 2 ^ b.q) = b.m := by
    rw [Ratio.val_shift, value, zpow_neg]
    field_simp
  have ratio : (0 : ℚ) < 10 ^ k / 2 ^ b.q := by positivity
  have below := mul_le_mul_of_nonneg_right (Ratio.floor_le (b.value.shift (-k))) ratio.le
  have above := mul_lt_mul_of_pos_right (Ratio.lt_floor_add_one (proper.shift (-k))) ratio
  rw [exact] at below above
  have down := mt (rounds_iff size.positive (Ratio.proper_decimal _ k)).mpr neither.1
  have up := mt (rounds_iff size.positive (Ratio.proper_decimal _ k)).mpr neither.2
  rw [scaled] at down up
  push_cast at up
  have low := le_of_not_within below down
  have high := ge_of_not_within above.le up
  -- The distance of the decimals is more than that of the midpoints, which is too much.
  have distance : b.gap + 1 / 2 ≤ 10 ^ k / 2 ^ b.q := by linarith
  have small : (10 : ℚ) ^ k / 2 ^ b.q ≤ b.m * 10 ^ (-16 : Int) := by
    have digits : k = b.value.magnitude - 1 + -16 := by omega
    rw [div_le_iff₀ unit, digits, zpow_add₀ (by norm_num)]
    have units := mul_le_mul_of_nonneg_right first (by positivity : (0 : ℚ) ≤ 10 ^ (-16 : Int))
    rw [value] at units
    linarith
  linarith [units_lt_midpoints size]

/-- A shortest decimal rounds to the number. -/
theorem rounds_shortest (size : b.IsSize bits) :
    b.rounds (Ratio.decimal b.shortest.1 b.shortest.2) = true := by
  obtain ⟨found, search⟩ := exists_seventeen size
  unfold shortest
  cases tried : (List.range 17).findSome? fun i => b.withDigits? (i + 1) with
  | none =>
    rw [List.findSome?_eq_none_iff] at tried
    cases search.symm.trans (tried 16 (by simp))
  | some shorter =>
    obtain ⟨i, -, search⟩ := List.exists_of_findSome?_eq_some tried
    exact rounds_of_withDigits? search

/-- No decimal rounds to zero and to another number. -/
theorem positive_of_rounds {digits : Nat} {k : Int} (positive : 0 < b.m)
    (rounds : b.rounds (.decimal digits k) = true) : 0 < digits := by
  have within := (rounds_iff positive (Ratio.proper_decimal digits k)).mp rounds
  have half := within.half_le positive
  by_contra none
  rw [Ratio.val_scale, Ratio.val_decimal, Nat.eq_zero_of_not_pos none, Nat.cast_zero, zero_mul,
    zero_mul] at half
  linarith

end Binary

/-! ### Floating-point numbers -/

section Reading

variable {b : Binary} {n digits : Nat} {k : Int} {x : Float} {negative : Bool}

theorem least_looked_at : (10 : ℚ) ^ (-330 : Int) ≤ 1 / 2 * 2 ^ (-1074 : Int) := by
  have powers : 2 * 2 ^ 1074 ≤ 10 ^ 330 := by decide +kernel
  have powers' : (2 * 2 ^ 1074 : ℚ) ≤ 10 ^ 330 := by exact_mod_cast powers
  rw [zpow_neg, zpow_neg, one_div, ← mul_inv]
  exact inv_anti₀ (by positivity) powers'

theorem greatest_looked_at : (2 : ℚ) ^ 53 * 2 ^ (971 : Int) ≤ 10 ^ (310 : Int) := by
  have powers : 2 ^ 53 * 2 ^ 971 ≤ 10 ^ 310 := by decide +kernel
  exact_mod_cast powers

/-- A decimal that rounds to a number is neither too small nor too large to be looked at. -/
theorem val_bounds_of_rounds {d : Ratio} (size : b.IsSize n) (proper : d.IsProper)
    (rounds : b.rounds d = true) :
    (10 : ℚ) ^ (-330 : Int) ≤ d.val ∧ d.val < 10 ^ (310 : Int) := by
  have within := (Binary.rounds_iff size.positive proper).mp rounds
  have half := within.half_le size.positive
  have top := within.lt_top size
  have unit : (0 : ℚ) < 2 ^ b.q := by positivity
  -- The greatest unit is that of the numbers below `2 ^ 1024`.
  have greatest : b.q ≤ 971 := by
    have encoded := size.encoded
    have finite := size.finite
    have full := size.full
    omega
  have least : (2 : ℚ) ^ (-1074 : Int) ≤ 2 ^ b.q := zpow_le_zpow_right₀ (by norm_num) size.least
  have most : (2 : ℚ) ^ b.q ≤ 2 ^ (971 : Int) := zpow_le_zpow_right₀ (by norm_num) greatest
  rw [d.val_units b.q]
  generalize (d.scale (-b.q)).val = w at half top
  constructor
  · calc (10 : ℚ) ^ (-330 : Int) ≤ 1 / 2 * 2 ^ (-1074 : Int) := least_looked_at
      _ ≤ 1 / 2 * 2 ^ b.q := mul_le_mul_of_nonneg_left least (by norm_num)
      _ ≤ w * 2 ^ b.q := mul_le_mul_of_nonneg_right half unit.le
  · calc w * 2 ^ b.q < 2 ^ 53 * 2 ^ b.q := mul_lt_mul_of_pos_right top unit
      _ ≤ 2 ^ 53 * 2 ^ (971 : Int) := mul_le_mul_of_nonneg_left most (by norm_num)
      _ ≤ 10 ^ (310 : Int) := greatest_looked_at

theorem bits_of_rounds (size : b.IsSize n) (rounds : b.rounds (.decimal digits k) = true) :
    bits digits k = n := by
  have proper := Ratio.proper_decimal digits k
  have positive := Binary.positive_of_rounds size.positive rounds
  obtain ⟨small, large⟩ := val_bounds_of_rounds size proper rounds
  rw [Ratio.val_decimal] at small large
  obtain ⟨low, high⟩ := Ratio.first_digit_bounds positive small large
  unfold bits
  dsimp only
  rw [if_neg, if_neg (by omega), Binary.nearestBits_of_rounds size proper rounds]
  simp only [Bool.or_eq_true, decide_eq_true_eq, not_or]
  exact ⟨positive.ne', by omega⟩

/-- The bits of a floating-point number from its sign and its size. -/
theorem measure_finite (measured : measure x = (negative, .finite b)) :
    ∃ exponent fraction, exponent < 2047 ∧ fraction < 2 ^ 52 ∧ b = .ofFields exponent fraction ∧
      x.toBits.toNat = (if negative then 2 ^ 63 else 0) + (exponent * 2 ^ 52 + fraction) := by
  have bound := x.toBits.toNat_lt
  have powers : Nat.pow 2 52 = 2 ^ 52 ∧ Nat.pow 2 63 = 2 ^ 63 := ⟨rfl, rfl⟩
  simp only [measure, powers] at measured
  rw [Prod.mk.injEq] at measured
  obtain ⟨sign, size⟩ := measured
  generalize x.toBits.toNat = whole at *
  split at size
  · split at size <;> cases size
  · next finite =>
    cases size
    refine ⟨_, _, by omega, Nat.mod_lt _ (by decide), rfl, ?_⟩
    subst sign
    simp only [decide_eq_true_eq]
    split <;> omega

theorem toFloat_of_bits {exponent fraction : Nat}
    (whole : x.toBits.toNat = (if negative then 2 ^ 63 else 0) + (exponent * 2 ^ 52 + fraction))
    (found : bits digits k = exponent * 2 ^ 52 + fraction) : toFloat negative digits k = x := by
  have power : Nat.pow 2 63 = 2 ^ 63 := rfl
  rw [toFloat, found, power, ← whole, UInt64.ofNat_toNat, Float.ofBits_toBits]

/-- The floating-point number nearest to a decimal that rounds to it. -/
theorem toFloat_of_rounds (measured : measure x = (negative, .finite b)) (positive : 0 < b.m)
    (rounds : b.rounds (.decimal digits k) = true) : toFloat negative digits k = x := by
  obtain ⟨exponent, fraction, finite, small, rfl, whole⟩ := measure_finite measured
  exact toFloat_of_bits whole (bits_of_rounds (Binary.isSize_ofFields finite small positive) rounds)

theorem toFloat_zero (measured : measure x = (negative, .finite b)) (zero : b.m = 0) (k : Int) :
    toFloat negative 0 k = x := by
  obtain ⟨exponent, fraction, finite, small, rfl, whole⟩ := measure_finite measured
  refine toFloat_of_bits whole ?_
  have none : exponent = 0 ∧ fraction = 0 := by
    unfold Binary.ofFields at zero
    split at zero
    · next first => exact ⟨first, zero⟩
    · exact absurd zero (Nat.add_pos_left (Nat.pow_pos (by decide)) fraction).ne'
  rw [none.1, none.2]
  rfl

end Reading

end ChallengeDns.Decimal
