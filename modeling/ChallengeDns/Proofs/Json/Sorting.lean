import Mathlib
import ChallengeDns.Proofs.Json.Writing

/-!
# Members in order

A layout that sorts names writes an object in one way, in whatever order its members were given.
This needs names that differ, since equal names would stay in the order in which they came.
-/
namespace ChallengeDns

theorem CodePoint.value_injective : Function.Injective CodePoint.value := by
  intro c d equal
  cases c with
  | scalar c =>
    cases d with
    | scalar d => exact congrArg CodePoint.scalar (Char.ext (UInt32.toNat_inj.mp equal))
    | surrogate low =>
      -- No character has the number of a surrogate.
      have valid : c.toNat < 0xD800 ∨ 0xDFFF < c.toNat ∧ c.toNat < 0x110000 := c.valid
      simp only [CodePoint.value] at equal
      omega
  | surrogate low =>
    cases d with
    | scalar d =>
      have valid : d.toNat < 0xD800 ∨ 0xDFFF < d.toNat ∧ d.toNat < 0x110000 := d.valid
      simp only [CodePoint.value] at equal
      omega
    | surrogate other =>
      simp only [CodePoint.value] at equal
      exact congrArg CodePoint.surrogate (Fin.ext (by omega))

namespace Text

/-- Texts are sorted as the lists of the numbers of their code points. -/
theorem before_iff (s t : Text) :
    before s t = true ↔ s.map CodePoint.value < t.map CodePoint.value := by
  induction s generalizing t with
  | nil => cases t <;> simp [before]
  | cons a s ih =>
    cases t with
    | nil => simp [before]
    | cons b t => simp [before, ih, List.cons_lt_cons_iff]

theorem notAfter_iff (s t : Text) :
    notAfter s t = true ↔ s.map CodePoint.value ≤ t.map CodePoint.value := by
  rw [notAfter, Bool.not_eq_true', ← Bool.not_eq_true, before_iff, not_lt]

theorem notAfter_trans {s t u : Text} (first : notAfter s t = true) (second : notAfter t u = true) :
    notAfter s u = true := by
  rw [notAfter_iff] at *
  exact first.trans second

theorem notAfter_total (s t : Text) : (notAfter s t || notAfter t s) = true := by
  rw [Bool.or_eq_true, notAfter_iff, notAfter_iff]
  exact le_total _ _

theorem notAfter_antisymm {s t : Text} (first : notAfter s t = true)
    (second : notAfter t s = true) : s = t := by
  rw [notAfter_iff] at *
  exact CodePoint.value_injective.list_map (first.antisymm second)

end Text

namespace Json

variable {l : Layout} {level : Nat}

/-- Members with different names have one order. -/
theorem mergeSort_eq_of_perm {α : Type} {parts others : List (Text × α)} (perm : parts.Perm others)
    (distinct : (parts.map (·.1)).Nodup) :
    parts.mergeSort (fun a b => a.1.notAfter b.1) =
      others.mergeSort (fun a b => a.1.notAfter b.1) := by
  have left := List.mergeSort_perm parts fun a b => a.1.notAfter b.1
  have right := List.mergeSort_perm others fun a b => a.1.notAfter b.1
  have ordered (parts : List (Text × α)) :
      (parts.mergeSort fun a b => a.1.notAfter b.1).Pairwise fun a b => a.1.notAfter b.1 := by
    apply List.pairwise_mergeSort
    · intro a b c
      exact Text.notAfter_trans
    · intro a b
      exact Text.notAfter_total a.1 b.1
  apply (left.trans (perm.trans right.symm)).eq_of_pairwise _ (ordered parts) (ordered others)
  intro a b here there forth back
  -- Two members with one name are one member.
  have first : a ∈ parts := left.mem_iff.mp here
  have second : b ∈ parts := perm.mem_iff.mpr (right.mem_iff.mp there)
  exact List.inj_on_of_nodup_map distinct first second (Text.notAfter_antisymm forth back)

theorem members_eq_of_perm (sorts : l.sorted = true) {parts others : List (Text × Text)}
    (perm : parts.Perm others) (distinct : (parts.map (·.1)).Nodup) :
    members l parts = members l others := by
  simp only [members, sorts, if_true]
  rw [mergeSort_eq_of_perm perm distinct]

/-- A member of an object whose name is a text. -/
def named (e : Text × Value) : Scalar × Value := (.text e.1, e.2)

theorem memberTexts_named {es : List (Text × Value)} {parts : List (Text × Text)} :
    memberTexts l level (es.map named) = .ok parts ↔
      List.Forall₂ (fun e part => part.1 = e.1 ∧ valueText l level e.2 = .ok part.2) es parts := by
  induction es generalizing parts with
  | nil => simp [memberTexts, eq_comm]
  | cons e es ih =>
    rw [List.forall₂_cons_left_iff, List.map_cons, named, memberTexts, keyText]
    constructor
    · intro done
      cases value : valueText l level e.2 with
      | error f => simp [value] at done
      | ok text =>
        cases rest : memberTexts l level (es.map named) with
        | error f => simp [value, rest] at done
        | ok others =>
          simp only [value, rest, Except.ok.injEq] at done
          exact ⟨(e.1, text), others, ⟨rfl, rfl⟩, ih.mp rest, done.symm⟩
    · rintro ⟨⟨name, text⟩, others, ⟨rfl, value⟩, rest, rfl⟩
      simp only [value, ih.mpr rest]

theorem names_of_memberTexts {es : List (Text × Value)} {parts : List (Text × Text)}
    (done : memberTexts l level (es.map named) = .ok parts) :
    parts.map (·.1) = es.map (·.1) := by
  have related := memberTexts_named.mp done
  clear done
  induction related with
  | nil => rfl
  | cons first _ ih => simp [first.1, ih]

/-- The text of an object with sorted names does not depend on the order of its members. -/
theorem write_eq_of_perm (sorts : l.sorted = true) {es fs : List (Text × Value)}
    (perm : es.Perm fs) (distinct : (es.map (·.1)).Nodup) {text : Text}
    (written : write l (.mapping (es.map named)) = .ok text) :
    write l (.mapping (fs.map named)) = .ok text := by
  rw [write, valueText] at *
  cases done : memberTexts l (0 + 1) (es.map named) with
  | error e => simp [done] at written
  | ok parts =>
    -- The same values are written for the members in the other order.
    obtain ⟨others, related, parts_perm⟩ : Relation.Comp (List.Forall₂ _) List.Perm fs parts := by
      rw [List.forall₂_comp_perm_eq_perm_comp_forall₂]
      exact ⟨es, perm.symm, memberTexts_named.mp done⟩
    have names : (parts.map (·.1)).Nodup := by rwa [names_of_memberTexts done]
    have same := members_eq_of_perm sorts parts_perm.symm names
    rw [memberTexts_named.mpr related]
    simpa only [done, same] using written

end Json

end ChallengeDns
