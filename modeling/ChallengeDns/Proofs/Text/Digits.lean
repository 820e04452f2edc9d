import Mathlib
import ChallengeDns.Proofs.Text.Padded

/-!
# Decimal digits

Numbers are read from the digits that they are written with, padded or not, and digits that stand
one after the other write one number.
-/
namespace ChallengeDns.Text

@[simp] theorem length_ofChars (cs : List Char) : (ofChars cs).length = cs.length :=
  List.length_map _

@[simp] theorem isEmpty_ofChars (cs : List Char) : (ofChars cs).isEmpty = cs.isEmpty :=
  List.isEmpty_map

theorem natural_append (s t : Text) : natural (s ++ t) = natural s * 10 ^ t.length + natural t := by
  -- From the right, since each digit multiplies all that stands before it.
  induction t using List.reverseRecOn with
  | nil => simp [natural]
  | append_singleton t c ih =>
    have last (u : Text) : natural (u ++ [c]) = natural u * 10 + c.digit?.getD 0 := by
      simp [natural]
    rw [← List.append_assoc, last, last, ih, List.length_append, List.length_singleton]
    ring

theorem digit?_of_isDigit {c : Char} (digit : c.isDigit = true) :
    (CodePoint.scalar c).digit? = some (c.toNat - 48) := if_pos digit

theorem natural_ofChars {cs : List Char} (digits : ∀ c ∈ cs, c.isDigit = true) :
    natural (ofChars cs) = Nat.ofDigitChars 10 cs 0 := by
  induction cs using List.reverseRecOn with
  | nil => rfl
  | append_singleton cs c ih =>
    obtain ⟨before, last⟩ := List.forall_mem_append.mp digits
    have one : natural (ofChars [c]) = c.toNat - 48 := by
      simp [natural, ofChars, digit?_of_isDigit (last c List.mem_cons_self)]
    have split : ofChars (cs ++ [c]) = ofChars cs ++ ofChars [c] := List.map_append
    rw [split, natural_append, ih before, one, Nat.ofDigitChars_append, Nat.ofDigitChars_cons,
      Nat.ofDigitChars_nil]
    simp [ofChars, Nat.mul_comm]

theorem isDigit_toDigits {n : Nat} {c : Char} (member : c ∈ Nat.toDigits 10 n) :
    c.isDigit = true := Nat.isDigit_of_mem_toDigits (by decide) (by decide) member

theorem natural_ofNat (n : Nat) : natural (ofNat n) = n := by
  rw [ofNat, natural_ofChars fun _ => isDigit_toDigits, Nat.ofDigitChars_ten_toDigits]

theorem natural_padded (width n : Nat) : natural (padded width n) = n := by
  have digits : ∀ c ∈ List.replicate (width - (Nat.toDigits 10 n).length) '0' ++
      Nat.toDigits 10 n, c.isDigit = true := by
    refine List.forall_mem_append.mpr ⟨fun c zero => ?_, fun _ => isDigit_toDigits⟩
    rw [List.eq_of_mem_replicate zero]
    rfl
  rw [padded, natural_ofChars digits, Nat.ofDigitChars_append, Nat.ofDigitChars_replicate_zero,
    Nat.mul_zero, Nat.ofDigitChars_ten_toDigits]

theorem length_padded {width n : Nat} (positive : 0 < width) (small : n < 10 ^ width) :
    (padded width n).length = width := by
  have short := (Nat.length_toDigits_le_iff (by decide) positive).mpr small
  simp only [padded, ofChars, List.length_map, List.length_append, List.length_replicate]
  omega

end ChallengeDns.Text
