import Mathlib
import ChallengeDns.Text.Table

/-!
# Numbers in a fixed number of digits

A number that is padded with zeros has one digit for each power of the base below its width.
-/
namespace ChallengeDns.Text

/-- The last digits of a number, so many of them. -/
def lastDigits (base : Nat) : Nat → Nat → List Char
  | 0, _ => []
  | width + 1, n => lastDigits base width (n / base) ++ [Nat.digitChar (n % base)]

theorem lastDigits_zero (base width : Nat) :
    lastDigits base width 0 = List.replicate width '0' := by
  induction width with
  | zero => rfl
  | succ width ih =>
    rw [lastDigits, Nat.zero_div, Nat.zero_mod, ih]
    exact List.replicate_succ'.symm

/-- Padding fills up what the number's own digits leave of its width. -/
theorem padded_digits {base : Nat} (large : 1 < base) (width : Nat) {n : Nat}
    (small : n < base ^ (width + 1)) :
    List.replicate (width + 1 - (Nat.toDigits base n).length) '0' ++ Nat.toDigits base n =
      lastDigits base (width + 1) n := by
  induction width generalizing n with
  | zero =>
    rw [Nat.zero_add, Nat.pow_one] at small
    rw [Nat.toDigits_of_lt_base small, lastDigits, lastDigits, Nat.mod_eq_of_lt small]
    rfl
  | succ width ih =>
    rw [Nat.toDigits_eq_if large]
    by_cases single : n < base
    · rw [if_pos single, lastDigits, Nat.div_eq_of_lt single, lastDigits_zero,
        Nat.mod_eq_of_lt single]
      rfl
    · have shorter : n / base < base ^ (width + 1) :=
        (Nat.div_lt_iff_lt_mul (by omega)).mpr (by rwa [← Nat.pow_succ])
      rw [if_neg single, lastDigits, ← ih shorter, List.length_append, List.length_singleton,
        Nat.add_sub_add_right, List.append_assoc]

theorem hex_four {n : Nat} (small : n < 65536) :
    hex 4 n = ofChars [Nat.digitChar (n / 4096 % 16), Nat.digitChar (n / 256 % 16),
      Nat.digitChar (n / 16 % 16), Nat.digitChar (n % 16)] := by
  have digits := padded_digits (show 1 < 16 by decide) 3 small
  simp only [hex, digits, lastDigits, Nat.div_div_eq_div_mul, List.nil_append, List.cons_append]

end ChallengeDns.Text
