import Mathlib
import ChallengeDns.Proofs.Decimal.Rounding
import ChallengeDns.Proofs.Text.Digits

/-!
# Numerals

The parts of a decimal as it is written: digits before the point, digits behind it, and an exponent.
However a decimal is laid out, its numeral has the value of the decimal.
-/
namespace ChallengeDns.Decimal

/-- A number without its sign; there is no point if no digits follow it. -/
structure Numeral where
  whole : List Char
  fraction : List Char
  /-- Whether the exponent is negative, and its digits. -/
  exponent : Option (Bool × List Char)

namespace Numeral

/-- How the fraction is written. -/
def fractionText (n : Numeral) : Text :=
  if n.fraction.isEmpty then [] else .scalar '.' :: Text.ofChars n.fraction

/-- How the exponent is written. -/
def exponentText (n : Numeral) : Text :=
  match n.exponent with
  | none => []
  | some (negative, digits) =>
    .scalar 'e' :: .scalar (if negative then '-' else '+') :: Text.ofChars digits

def text (n : Numeral) : Text := Text.ofChars n.whole ++ n.fractionText ++ n.exponentText

/-- All digits as one number. -/
def digits (n : Numeral) : Nat := Nat.ofDigitChars 10 (n.whole ++ n.fraction) 0

/-- The number that the exponent writes. -/
def power (n : Numeral) : Int :=
  match n.exponent with
  | none => 0
  | some (negative, digits) =>
    if negative then -(Nat.ofDigitChars 10 digits 0 : Int) else Nat.ofDigitChars 10 digits 0

/-- The power of ten that belongs to the last digit. -/
def place (n : Numeral) : Int := n.power - n.fraction.length

/-- Digits stand where they must, and the first one is no zero unless it is the only one before the
point. -/
structure IsValid (n : Numeral) : Prop where
  whole : ∀ c ∈ n.whole, c.isDigit = true
  fraction : ∀ c ∈ n.fraction, c.isDigit = true
  exponent : ∀ e ∈ n.exponent, e.2 ≠ [] ∧ ∀ c ∈ e.2, c.isDigit = true
  leading : n.whole = ['0'] ∨ ∃ c cs, n.whole = c :: cs ∧ c ≠ '0'

end Numeral

/-! ### The digits that are kept -/

/-- The digits of a number without the zeros at its end. -/
def keptDigits (n : Nat) : List Char := (Nat.toDigits 10 n).rdropWhile (· == '0')

theorem toDigits_eq_kept (n : Nat) : ∃ zeros,
    Nat.toDigits 10 n = keptDigits n ++ List.replicate zeros '0' := by
  refine ⟨((Nat.toDigits 10 n).rtakeWhile (· == '0')).length, ?_⟩
  have zero : ∀ c ∈ (Nat.toDigits 10 n).rtakeWhile (· == '0'), c = '0' :=
    fun c member => eq_of_beq (@List.mem_rtakeWhile_imp _ (· == '0') _ c member)
  rw [← List.eq_replicate_length.mpr zero]
  exact List.rdropWhile_append_rtakeWhile.symm

/-- The first digit of a number that is not zero. -/
theorem toDigits_leading {n : Nat} (positive : 0 < n) :
    ∃ c cs, Nat.toDigits 10 n = c :: cs ∧ c ≠ '0' := by
  induction n using Nat.strong_induction_on with
  | _ n ih =>
    rw [Nat.toDigits_eq_if (by decide)]
    split
    · next small =>
      have others : ∀ d : Fin 10, 0 < d.val → Nat.digitChar d.val ≠ '0' := by decide
      exact ⟨_, [], rfl, others ⟨n, small⟩ positive⟩
    · next large =>
      obtain ⟨c, cs, first, other⟩ := ih (n / 10) (by omega) (by omega)
      rw [first]
      exact ⟨c, _, List.cons_append, other⟩

theorem kept_leading {n : Nat} (positive : 0 < n) :
    ∃ c cs, keptDigits n = c :: cs ∧ c ≠ '0' := by
  obtain ⟨zeros, all⟩ := toDigits_eq_kept n
  obtain ⟨c, cs, first, other⟩ := toDigits_leading positive
  rw [first] at all
  cases kept : keptDigits n with
  | cons d ds =>
    rw [kept, List.cons_append, List.cons.injEq] at all
    exact ⟨d, ds, rfl, all.1 ▸ other⟩
  | nil =>
    -- Otherwise the first digit would be one of the zeros.
    have zero : c ∈ List.replicate zeros '0' := by
      rw [kept, List.nil_append] at all
      exact all ▸ List.mem_cons_self
    exact absurd (List.eq_of_mem_replicate zero) other

theorem isDigit_kept {n : Nat} {c : Char} (member : c ∈ keptDigits n) : c.isDigit = true :=
  Text.isDigit_toDigits ((List.rdropWhile_prefix _ _).subset member)

theorem isDigit_zeros {count : Nat} {c : Char} (member : c ∈ List.replicate count '0') :
    c.isDigit = true := by
  rw [List.eq_of_mem_replicate member]
  rfl

/-- The digits that are kept and the place of the last one make up the number. -/
theorem val_kept (n : Nat) (k : Int) :
    (Nat.ofDigitChars 10 (keptDigits n) 0 : ℚ) *
      10 ^ ((Nat.toDigits 10 n).length + k - (keptDigits n).length) = n * 10 ^ k := by
  obtain ⟨zeros, all⟩ := toDigits_eq_kept n
  have number : n = 10 ^ zeros * Nat.ofDigitChars 10 (keptDigits n) 0 := by
    rw [← Nat.ofDigitChars_replicate_zero, ← Nat.ofDigitChars_append, ← all,
      Nat.ofDigitChars_ten_toDigits]
  have length : ((Nat.toDigits 10 n).length : Int) + k - (keptDigits n).length = zeros + k := by
    rw [all, List.length_append, List.length_replicate]
    push_cast
    ring
  rw [length, zpow_add₀ (by norm_num), zpow_natCast]
  conv_rhs => rw [number]
  push_cast
  ring

/-! ### Layouts -/

section Layouts

variable {digits : Nat} {k : Int}

/-- The numeral of a decimal that is less than one and written without an exponent. -/
def smallNumeral (kept : List Char) (zeros : Nat) : Numeral :=
  ⟨['0'], List.replicate zeros '0' ++ kept, none⟩

/-- The numeral of a decimal with so many digits before the point. -/
def pointedNumeral (kept : List Char) (point : Nat) : Numeral :=
  ⟨kept.take point ++ List.replicate (point - (kept.take point).length) '0',
    if (kept.drop point).isEmpty then ['0'] else kept.drop point, none⟩

/-- The numeral of a decimal with an exponent of so many digits at least. -/
def scientificNumeral (least : Nat) (kept : List Char) (exponent : Int) : Numeral :=
  ⟨kept.take 1, kept.drop 1, some (exponent < 0,
    List.replicate (least - (Nat.toDigits 10 exponent.natAbs).length) '0' ++
      Nat.toDigits 10 exponent.natAbs)⟩

theorem val_small (kept : List Char) (zeros : Nat) :
    ((smallNumeral kept zeros).digits : ℚ) * 10 ^ (smallNumeral kept zeros).place =
      Nat.ofDigitChars 10 kept 0 * 10 ^ (-zeros - kept.length : Int) := by
  have digits : (smallNumeral kept zeros).digits = Nat.ofDigitChars 10 kept 0 := by
    simp [Numeral.digits, smallNumeral, Nat.ofDigitChars_append, Nat.ofDigitChars_cons]
  have place : (smallNumeral kept zeros).place = -zeros - kept.length := by
    simp only [Numeral.place, Numeral.power, smallNumeral, List.length_append,
      List.length_replicate]
    push_cast
    ring
  rw [digits, place]

theorem val_pointed (kept : List Char) (point : Nat) :
    ((pointedNumeral kept point).digits : ℚ) * 10 ^ (pointedNumeral kept point).place =
      Nat.ofDigitChars 10 kept 0 * 10 ^ (point - kept.length : Int) := by
  by_cases short : kept.length ≤ point
  · -- All digits stand before the point, and a zero behind it.
    have digits : (pointedNumeral kept point).digits =
        10 * (10 ^ (point - kept.length) * Nat.ofDigitChars 10 kept 0) := by
      simp [Numeral.digits, pointedNumeral, List.take_of_length_le short,
        List.drop_eq_nil_of_le short, Nat.ofDigitChars_append, Nat.ofDigitChars_cons]
    have place : (pointedNumeral kept point).place = -1 := by
      simp [Numeral.place, Numeral.power, pointedNumeral, List.drop_eq_nil_of_le short]
    have power : (10 : ℚ) ^ (point - kept.length : Int) = 10 ^ (point - kept.length) := by
      rw [← Nat.cast_sub short, zpow_natCast]
    rw [digits, place, power, zpow_neg_one]
    push_cast
    ring
  · have long : kept.drop point ≠ [] := by
      rw [Ne, List.drop_eq_nil_iff]
      exact short
    have digits : (pointedNumeral kept point).digits = Nat.ofDigitChars 10 kept 0 := by
      simp [Numeral.digits, pointedNumeral, long, Nat.min_eq_left (Nat.le_of_not_le short)]
    have place : (pointedNumeral kept point).place = point - kept.length := by
      simp only [Numeral.place, Numeral.power, pointedNumeral, List.isEmpty_iff, long, if_false,
        List.length_drop]
      omega
    rw [digits, place]

theorem val_scientific (least : Nat) {kept : List Char} (some : kept ≠ []) (exponent : Int) :
    ((scientificNumeral least kept exponent).digits : ℚ) *
        10 ^ (scientificNumeral least kept exponent).place =
      Nat.ofDigitChars 10 kept 0 * 10 ^ (exponent + 1 - kept.length) := by
  have digits : (scientificNumeral least kept exponent).digits = Nat.ofDigitChars 10 kept 0 := by
    rw [Numeral.digits, scientificNumeral, List.take_append_drop]
  have power : (scientificNumeral least kept exponent).power = exponent := by
    simp only [Numeral.power, scientificNumeral, decide_eq_true_eq, Nat.ofDigitChars_append,
      Nat.ofDigitChars_replicate_zero, Nat.mul_zero, Nat.ofDigitChars_ten_toDigits]
    split <;> omega
  have place : (scientificNumeral least kept exponent).place = exponent + 1 - kept.length := by
    have length := List.length_pos_of_ne_nil some
    rw [Numeral.place, power, scientificNumeral, List.length_drop]
    omega
  rw [digits, place]

/-- The numeral as which a decimal is written. -/
def Layout.numeral (l : Layout) (digits : Nat) (k : Int) : Numeral :=
  let kept := keptDigits digits
  let point : Int := (Nat.toDigits 10 digits).length + k
  if l.zeros < point && point ≤ l.leading then
    if point ≤ 0 then smallNumeral kept point.natAbs else pointedNumeral kept point.natAbs
  else scientificNumeral l.exponentDigits kept (point - 1)

theorem Layout.text_eq (l : Layout) (positive : 0 < digits) (k : Int) :
    l.text digits k = (l.numeral digits k).text := by
  obtain ⟨c, cs, filled, -⟩ := kept_leading positive
  have same : (if (((Nat.toDigits 10 digits).reverse.dropWhile (· == '0')).reverse).isEmpty then
      ['0'] else ((Nat.toDigits 10 digits).reverse.dropWhile (· == '0')).reverse) =
        keptDigits digits :=
    if_neg (show ¬(keptDigits digits).isEmpty = true by rw [filled]; exact Bool.false_ne_true)
  unfold text numeral
  dsimp only
  rw [same]
  generalize keptDigits digits = kept at filled
  generalize ((Nat.toDigits 10 digits).length : Int) + k = point
  -- Either the point stands among the digits or close to them, or an exponent is written.
  by_cases written : (decide (l.zeros < point) && decide (point ≤ l.leading)) = true
  · rw [if_pos written, if_pos written]
    by_cases small : point ≤ 0
    · rw [if_pos small, if_pos small]
      have some : ¬(List.replicate point.natAbs '0' ++ kept).isEmpty = true := by
        rw [filled]
        simp
      simp [Numeral.text, Numeral.fractionText, Numeral.exponentText, smallNumeral, some,
        Text.ofChars]
    · rw [if_neg small, if_neg small]
      have some : ¬(if kept.length ≤ point.natAbs then ['0'] else kept.drop point.natAbs) = [] := by
        split
        · exact List.cons_ne_nil _ _
        · next long => rwa [List.drop_eq_nil_iff]
      simp [Numeral.text, Numeral.fractionText, Numeral.exponentText, pointedNumeral, some,
        Text.ofChars]
  · rw [if_neg written, if_neg written, filled]
    cases cs <;> simp [Numeral.text, Numeral.fractionText, Numeral.exponentText, scientificNumeral,
      Text.ofChars, Text.padded]

/-- A numeral has the value of the decimal that it writes. -/
theorem Layout.val_numeral (l : Layout) (positive : 0 < digits) (k : Int) :
    ((l.numeral digits k).digits : ℚ) * 10 ^ (l.numeral digits k).place = digits * 10 ^ k := by
  obtain ⟨c, cs, filled, -⟩ := kept_leading positive
  have some : keptDigits digits ≠ [] := by
    rw [filled]
    nofun
  rw [← val_kept digits k]
  unfold numeral
  dsimp only
  generalize ((Nat.toDigits 10 digits).length : Int) + k = point
  split
  · split
    · next small =>
      rw [val_small, show -(point.natAbs : Int) = point by omega]
    · next large =>
      rw [val_pointed, show (point.natAbs : Int) = point by omega]
  · rw [val_scientific _ some, sub_add_cancel]

theorem Layout.valid_numeral (l : Layout) (positive : 0 < digits) (k : Int) :
    (l.numeral digits k).IsValid := by
  obtain ⟨c, cs, filled, other⟩ := kept_leading positive
  have kept : ∀ d ∈ keptDigits digits, d.isDigit = true := fun _ => isDigit_kept
  have zeros (count : Nat) : ∀ d ∈ List.replicate count '0', d.isDigit = true :=
    fun _ => isDigit_zeros
  have zero := zeros 1
  unfold numeral
  dsimp only
  generalize ((Nat.toDigits 10 digits).length : Int) + k = point
  -- The three forms: a point in front of the digits, a point among or behind them, an exponent.
  split
  · split
    · exact ⟨zero, List.forall_mem_append.mpr ⟨zeros _, kept⟩, nofun, Or.inl rfl⟩
    · next large =>
      obtain ⟨m, some⟩ : ∃ m, point.natAbs = m + 1 := ⟨point.natAbs - 1, by omega⟩
      refine ⟨List.forall_mem_append.mpr ⟨fun d member => kept d (List.mem_of_mem_take member),
        zeros _⟩, ?_, nofun, Or.inr ?_⟩
      · unfold pointedNumeral
        dsimp only
        split
        · exact zero
        · exact fun d member => kept d (List.mem_of_mem_drop member)
      · rw [filled, some]
        exact ⟨c, _, rfl, other⟩
  · refine ⟨fun d member => kept d (List.mem_of_mem_take member),
      fun d member => kept d (List.mem_of_mem_drop member), ?_, Or.inr ?_⟩
    · rintro e ⟨⟩
      exact ⟨List.append_ne_nil_of_right_ne_nil _ Nat.toDigits_ne_nil,
        List.forall_mem_append.mpr ⟨zeros _, fun _ => Text.isDigit_toDigits⟩⟩
    · rw [filled]
      exact ⟨c, [], rfl, other⟩

/-- There is a point or an exponent, which whole numbers do not have. -/
def Numeral.IsBroken (n : Numeral) : Prop := n.fraction ≠ [] ∨ n.exponent ≠ none

theorem Layout.broken_numeral (l : Layout) (positive : 0 < digits) (k : Int) :
    (l.numeral digits k).IsBroken := by
  obtain ⟨c, cs, filled, -⟩ := kept_leading positive
  unfold numeral
  dsimp only
  split
  · split
    · refine Or.inl (List.append_ne_nil_of_right_ne_nil _ ?_)
      rw [filled]
      nofun
    · refine Or.inl ?_
      unfold pointedNumeral
      dsimp only
      split
      · nofun
      · next some => rwa [List.isEmpty_iff] at some
  · exact Or.inr nofun

end Layouts

/-- Decimals of one value round to the same numbers. -/
theorem Binary.rounds_congr {b : Binary} {d e : Ratio} (positive : 0 < b.m) (proper : d.IsProper)
    (proper' : e.IsProper) (same : d.val = e.val) (rounds : b.rounds d = true) :
    b.rounds e = true := by
  rw [rounds_iff positive proper] at rounds
  rw [rounds_iff positive proper', Ratio.val_scale, ← same, ← Ratio.val_scale]
  exact rounds

/-- The shortest text of a finite number is a numeral to which this number is the nearest one. -/
theorem text_finite {x : Float} {negative : Bool} {b : Binary}
    (measured : measure x = (negative, .finite b)) (infinity noNumber : Text) :
    ∃ n : Numeral, text infinity noNumber x = Text.when negative "-" ++ n.text ∧ n.IsValid ∧
      n.IsBroken ∧ toFloat negative n.digits n.place = x := by
  unfold text
  rw [measured]
  dsimp only
  split
  · next zero =>
    have digit : ∀ c ∈ ['0'], c.isDigit = true := List.forall_mem_singleton.mpr rfl
    refine ⟨⟨['0'], ['0'], none⟩, rfl, ⟨digit, digit, nofun, Or.inl rfl⟩, Or.inl nofun, ?_⟩
    exact toFloat_zero measured zero _
  -- The shortest digits that round back to the number are the ones that are written.
  · next nonzero =>
    have positive : 0 < b.m := Nat.pos_of_ne_zero nonzero
    obtain ⟨exponent, fraction, finite, small, rfl, -⟩ := measure_finite measured
    have rounds := Binary.rounds_shortest (Binary.isSize_ofFields finite small positive)
    generalize (Binary.ofFields exponent fraction).shortest = found at rounds ⊢
    have some := Binary.positive_of_rounds positive rounds
    refine ⟨plain.numeral found.1 found.2, by rw [plain.text_eq some], plain.valid_numeral some _,
      plain.broken_numeral some _, ?_⟩
    refine toFloat_of_rounds measured positive
      (Binary.rounds_congr positive (Ratio.proper_decimal _ _) (Ratio.proper_decimal _ _) ?_ rounds)
    rw [Ratio.val_decimal, Ratio.val_decimal, plain.val_numeral some]

end ChallengeDns.Decimal
