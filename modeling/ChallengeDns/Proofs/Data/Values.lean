import Mathlib
import ChallengeDns.Data.Value

/-!
# Kinds of values

A value that is no text still has a text, and that text gives away that it is none: but for an
infinite number, its first character is a digit, a bracket, or one of a few letters and signs.
-/
namespace ChallengeDns

/-- The characters with which the text of a value begins that is no text. -/
def starts : List Char :=
  ['0', '1', '2', '3', '4', '5', '6', '7', '8', '9', '-', 'N', 'T', 'F', 'n', 'b', 's', '[', '(',
    '\x7b']

def Begins (t : Text) : Prop := ∃ c ∈ starts, ∃ rest, t = .scalar c :: rest

theorem Begins.append {t : Text} (begins : Begins t) (u : Text) : Begins (t ++ u) := by
  obtain ⟨c, start, rest, rfl⟩ := begins
  exact ⟨c, start, rest ++ u, rfl⟩

theorem mem_starts_of_isDigit {c : Char} (digit : c.isDigit = true) : c ∈ starts := by
  have digits : ∀ d : Fin 10, Char.ofNat (48 + d.val) ∈ starts := by decide
  have bounds : 48 ≤ c.toNat ∧ c.toNat ≤ 57 := by
    simpa [Char.isDigit, UInt32.le_iff_toNat_le] using digit
  have found := digits ⟨c.toNat - 48, by omega⟩
  rwa [show 48 + (c.toNat - 48) = c.toNat by omega, Char.ofNat_toNat] at found

/-! ### Numbers -/

theorem exists_toDigits (n : Nat) :
    ∃ c cs, Nat.toDigits 10 n = c :: cs ∧ ∀ d ∈ c :: cs, d.isDigit = true := by
  cases digits : Nat.toDigits 10 n with
  | nil => exact absurd digits (by simp)
  | cons c cs =>
    refine ⟨c, cs, rfl, fun d member => ?_⟩
    rw [← digits] at member
    exact Nat.isDigit_of_mem_toDigits (by decide) (by decide) member

theorem begins_ofNat (n : Nat) : Begins (Text.ofNat n) := by
  obtain ⟨c, cs, digits, all⟩ := exists_toDigits n
  refine ⟨c, mem_starts_of_isDigit (all c List.mem_cons_self), Text.ofChars cs, ?_⟩
  rw [Text.ofNat, digits]
  rfl

theorem begins_ofInt (n : Int) : Begins (Text.ofInt n) := by
  cases n with
  | ofNat n => exact begins_ofNat n
  | negSucc n => exact ⟨'-', by decide, Text.ofNat (n + 1), rfl⟩

theorem begins_padded (width n : Nat) : Begins (Text.padded width n) := by
  obtain ⟨c, cs, digits, all⟩ := exists_toDigits n
  rw [Text.padded, digits]
  cases width - (c :: cs).length with
  | zero => exact ⟨c, mem_starts_of_isDigit (all c List.mem_cons_self), Text.ofChars cs, rfl⟩
  | succ zeros =>
    exact ⟨'0', by decide, Text.ofChars (List.replicate zeros '0' ++ c :: cs), rfl⟩

namespace Decimal

/-- However a decimal is laid out, it starts with a digit. -/
theorem Layout.begins_text (l : Layout) (digits : Nat) (k : Int) : Begins (l.text digits k) := by
  -- The digits without the zeros at the end, or one zero.
  have kept : ∃ c cs, c.isDigit = true ∧
      (if (((Nat.toDigits 10 digits).reverse.dropWhile (· == '0')).reverse).isEmpty then ['0']
        else ((Nat.toDigits 10 digits).reverse.dropWhile (· == '0')).reverse) = c :: cs := by
    split
    · exact ⟨'0', [], rfl, rfl⟩
    · next filled =>
      cases shown : ((Nat.toDigits 10 digits).reverse.dropWhile (· == '0')).reverse with
      | nil => simp [shown] at filled
      | cons c cs =>
        refine ⟨c, cs, ?_, rfl⟩
        have member : c ∈ Nat.toDigits 10 digits := by
          have inside : c ∈ (Nat.toDigits 10 digits).reverse.dropWhile (· == '0') := by
            rw [← List.mem_reverse, shown]
            exact List.mem_cons_self
          exact List.mem_reverse.mp ((List.dropWhile_suffix _).subset inside)
        exact Nat.isDigit_of_mem_toDigits (by decide) (by decide) member
  -- In each form the text begins with one of these digits or with a zero.
  obtain ⟨c, cs, digit, kept⟩ := kept
  have start := mem_starts_of_isDigit digit
  unfold text
  simp only [kept]
  split
  · split
    · exact ⟨'0', by decide, _, rfl⟩
    · next before =>
      obtain ⟨m, point⟩ := Nat.exists_eq_succ_of_ne_zero
        (n := ((Nat.toDigits 10 digits).length + k : Int).natAbs) (by omega)
      rw [point]
      exact ⟨c, start, _, rfl⟩
  · exact ⟨c, start, _, rfl⟩

theorem begins_text (x : Float) : text "inf" "nan" x = "inf" ∨ Begins (text "inf" "nan" x) := by
  unfold text
  obtain ⟨negative, size⟩ := measure x
  -- A sign is a start of its own.
  have signed {t : Text} (begins : Begins t) : Begins (Text.when negative "-" ++ t) := by
    cases negative with
    | true => exact ⟨'-', by decide, t, rfl⟩
    | false => exact begins
  cases size with
  | noNumber => exact Or.inr ⟨'n', by decide, _, rfl⟩
  | infinite =>
    cases negative with
    | true => exact Or.inr ⟨'-', by decide, _, rfl⟩
    | false => exact Or.inl rfl
  | finite b =>
    right
    dsimp only
    split
    · exact signed ⟨'0', by decide, _, rfl⟩
    · exact signed (plain.begins_text _ _)

end Decimal

/-! ### Values -/

theorem Date.begins_text (d : Date) : Begins d.text := by
  unfold Date.text
  simp only [List.append_assoc]
  exact (begins_padded 4 d.year).append _

theorem DateTime.begins_text (separator : Text) (t : DateTime) : Begins (t.text separator) := by
  unfold DateTime.text
  simp only [List.append_assoc]
  exact t.date.begins_text.append _

namespace Value

theorem text?_eq_some {v : Value} {t : Text} : v.text? = some t ↔ v = .ofText t := by
  unfold text?
  split
  · simp
  · next other => exact ⟨nofun, fun equal => absurd equal (other t)⟩

theorem items?_eq_some {v : Value} {vs : List Value} : v.items? = some vs ↔ v = .list vs := by
  cases v <;> simp [items?]

theorem begins_text (v : Value) : (∃ t, v = .ofText t) ∨ v.text = "inf" ∨ Begins v.text := by
  -- Each kind of value shows itself by its first character, unless it is a text.
  cases v with
  | scalar s =>
    cases s with
    | text t => exact Or.inl ⟨t, rfl⟩
    | float x => exact Or.inr (Decimal.begins_text x)
    | null => exact Or.inr (Or.inr ⟨'N', by decide, _, rfl⟩)
    | bool b =>
      cases b with
      | true => exact Or.inr (Or.inr ⟨'T', by decide, _, rfl⟩)
      | false => exact Or.inr (Or.inr ⟨'F', by decide, _, rfl⟩)
    | int n => exact Or.inr (Or.inr (begins_ofInt n))
    | bytes b => exact Or.inr (Or.inr ⟨'b', by decide, _, rfl⟩)
    | date d => exact Or.inr (Or.inr d.begins_text)
    | dateTime t => exact Or.inr (Or.inr (t.begins_text " "))
  | list vs => exact Or.inr (Or.inr ⟨'[', by decide, _, rfl⟩)
  | pair a b => exact Or.inr (Or.inr ⟨'(', by decide, _, rfl⟩)
  | set ss =>
    cases ss with
    | nil => exact Or.inr (Or.inr ⟨'s', by decide, _, rfl⟩)
    | cons s ss => exact Or.inr (Or.inr ⟨'\x7b', by decide, _, rfl⟩)
  | mapping es => exact Or.inr (Or.inr ⟨'\x7b', by decide, _, rfl⟩)

end Value

end ChallengeDns
