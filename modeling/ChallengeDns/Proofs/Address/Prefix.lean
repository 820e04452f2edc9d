import Mathlib
import ChallengeDns.Address.Basic

/-!
# First bits

A network holds the addresses that have the first bits of the address it was written with.  The bits
behind its length are cleared with a mask, and which ones they were makes no difference.

No client has an IPv4-mapped address, since such an address counts as the one inside it.  So first
bits that say that an address is mapped are those of no client.
-/
namespace ChallengeDns

namespace Address

theorem getMsbD_mask (w length i : Nat) :
    (mask w length).getMsbD i = (decide (i < w) && decide (i < length)) := by
  rw [mask, BitVec.getMsbD_not, BitVec.getMsbD_ushiftRight, BitVec.getMsbD_allOnes]
  by_cases inside : i < w
  · by_cases first : i < length
    · simp [inside, first]
    · have later : i - length < w := by omega
      simp [inside, first, later]
  · simp [inside]

/-- Two words are the same behind a mask when their first bits are. -/
theorem and_mask_eq_iff {w : Nat} (a b : BitVec w) (length : Nat) :
    a &&& mask w length = b &&& mask w length ↔ ∀ i < length, a.getMsbD i = b.getMsbD i := by
  constructor
  · intro equal i first
    by_cases inside : i < w
    · have bit := congrArg (BitVec.getMsbD · i) equal
      simpa [getMsbD_mask, inside, first] using bit
    · rw [BitVec.getMsbD_of_ge a i (Nat.le_of_not_lt inside),
        BitVec.getMsbD_of_ge b i (Nat.le_of_not_lt inside)]
  · intro alike
    apply BitVec.eq_of_getMsbD_eq
    intro i inside
    rw [BitVec.getMsbD_and, BitVec.getMsbD_and, getMsbD_mask]
    by_cases first : i < length
    · rw [alike i first]
    · simp [first]

/-- Two addresses of one family have the same first bits. -/
def Agree (length : Nat) : Address → Address → Prop
  | .v4 a, .v4 b => ∀ i < length, a.getMsbD i = b.getMsbD i
  | .v6 a _, .v6 b _ => ∀ i < length, a.getMsbD i = b.getMsbD i
  | _, _ => False

instance (length : Nat) (a b : Address) : Decidable (Agree length a b) := by
  unfold Agree
  split <;> infer_instance

/-- The number of bits of an address. -/
def width : Address → Nat
  | .v4 _ => 32
  | .v6 _ _ => 128

/-! ### IPv4-mapped addresses -/

/-- An IPv4-mapped address counts as the address inside it. -/
theorem unmapped_mapped (bits : BitVec 32) (zone : Option Text) :
    (Address.v6 (0xFFFF#96 ++ bits) zone).unmapped = .v4 bits := by
  have number : (0xFFFF#96 ++ bits).toNat = 0xFFFF * 2 ^ 32 + bits.toNat := by
    rw [BitVec.toNat_append, ← Nat.shiftLeft_add_eq_or_of_lt bits.isLt, Nat.shiftLeft_eq]
    rfl
  have size := bits.isLt
  have front : (0xFFFF#96 ++ bits) >>> 32 = 0xFFFF#128 := by
    apply BitVec.eq_of_toNat_eq
    rw [BitVec.toNat_ushiftRight, Nat.shiftRight_eq_div_pow, number, BitVec.toNat_ofNat]
    omega
  have back : (0xFFFF#96 ++ bits).setWidth 32 = bits := by
    apply BitVec.eq_of_toNat_eq
    rw [BitVec.toNat_setWidth, number]
    omega
  rw [unmapped, if_pos front, back]

/-- An address has the first 96 bits of an IPv4-mapped one. -/
def IsMapped (a : Address) : Prop := Agree 96 (.v6 (0xFFFF#96 ++ 0#32) none) a

instance (a : Address) : Decidable a.IsMapped := by
  unfold IsMapped
  infer_instance

theorem shiftRight_eq_iff (bits : BitVec 128) (zone : Option Text) :
    bits >>> 32 = 0xFFFF#128 ↔ (Address.v6 bits zone).IsMapped := by
  have front : 0xFFFF#128 = (0xFFFF#96 ++ 0#32) >>> 32 := by decide
  rw [front]
  constructor
  · intro equal i first
    have bit := congrArg (BitVec.getMsbD · (i + 32)) equal
    have inside : i + 32 < 128 := by omega
    have behind : ¬i + 32 < 32 := by omega
    simp only [BitVec.getMsbD_ushiftRight, inside, behind, decide_true, decide_false,
      Bool.not_false, Bool.true_and, Nat.add_sub_cancel] at bit
    exact bit.symm
  · intro alike
    apply BitVec.eq_of_getMsbD_eq
    intro i inside
    rw [BitVec.getMsbD_ushiftRight, BitVec.getMsbD_ushiftRight]
    by_cases cleared : i < 32
    · simp [cleared]
    · rw [alike (i - 32) (by omega)]

/-- Clients have no mapped addresses. -/
theorem not_isMapped_unmapped (a : Address) : ¬a.unmapped.IsMapped := by
  cases a with
  | v4 bits => exact id
  | v6 bits zone =>
    rw [unmapped]
    split
    next => exact id
    next other => rwa [← shiftRight_eq_iff bits zone]

theorem unmapped_of_not_isMapped {a : Address} (other : ¬a.IsMapped) : a.unmapped = a := by
  cases a with
  | v4 bits => rfl
  | v6 bits zone => rw [unmapped, if_neg (by rwa [shiftRight_eq_iff bits zone])]

theorem Agree.refl (length : Nat) (a : Address) : Agree length a a := by
  cases a <;> exact fun _ _ => rfl

/-- Some client has the first bits of an address, unless these say that the address is mapped. -/
theorem exists_unmapped_agree (base : Address) (length : Nat) :
    (∃ client : Address, base.Agree length client.unmapped) ↔ ¬(base.IsMapped ∧ 96 ≤ length) := by
  constructor
  · rintro ⟨client, alike⟩ ⟨mapped, long⟩
    apply not_isMapped_unmapped client
    cases base with
    | v4 bits => cases mapped
    | v6 bits zone =>
      revert alike
      cases client.unmapped with
      | v4 bits' => exact False.elim
      | v6 bits' zone' =>
        intro alike i first
        exact (mapped i first).trans (alike i (by omega))
  · intro short
    by_cases mapped : base.IsMapped
    · have inner : length < 96 := by
        by_contra long
        exact short ⟨mapped, by omega⟩
      cases base with
      | v4 bits => cases mapped
      | v6 bits zone =>
        -- The bits behind the length are turned over, one of the first 96 among them.
        let other := bits ^^^ ~~~mask 128 length
        have bit : ∀ i, other.getMsbD i =
            (bits.getMsbD i ^^ (decide (i < 128) && !decide (i < length))) := by
          intro i
          rw [BitVec.getMsbD_xor, BitVec.getMsbD_not, getMsbD_mask]
          by_cases inside : i < 128 <;> simp [inside]
        have apart : ¬(Address.v6 other zone).IsMapped := by
          intro mapped'
          have equal := (mapped length inner).symm.trans (mapped' length inner)
          have inside : length < 128 := by omega
          simp [bit, inside] at equal
        refine ⟨.v6 other zone, ?_⟩
        rw [unmapped_of_not_isMapped apart]
        intro i first
        rw [bit]
        simp [first]
    · exact ⟨base, by rw [unmapped_of_not_isMapped mapped]; exact Agree.refl length base⟩

end Address

theorem Network.contains_around (a b : Address) (length : Nat) :
    (around a length).contains b = true ↔ Address.Agree length a b := by
  cases a with
  | v4 a =>
    cases b with
    | v4 b =>
      rw [around, contains, beq_iff_eq, eq_comm]
      exact Address.and_mask_eq_iff a b length
    | v6 b zone => simp [around, contains, Address.Agree]
  | v6 a zone =>
    cases b with
    | v4 b => simp [around, contains, Address.Agree]
    | v6 b zone' =>
      rw [around, contains, beq_iff_eq, eq_comm]
      exact Address.and_mask_eq_iff a b length

end ChallengeDns
