import Mathlib
import ChallengeDns.Proofs.Config.Tables
import ChallengeDns.Proofs.Data.Fallible

/-!
# Entries that govern a name

The tables of answers are written under texts and served under names.  Several texts can denote one
name, in other case, with or without a final dot, or with escapes.  Their entries are not put
together: the last of them governs the name, and what the others list is not served.
-/
namespace ChallengeDns

namespace NameMap

variable {α : Type}

theorem get?_cons (e : Name × α) (m : NameMap α) (k : Name) :
    get? (e :: m) k = if e.1.same k then some e.2 else get? m k := by
  unfold get?
  rw [List.find?_cons]
  cases e.1.same k <;> rfl

/-- A new value is found under all spellings of its name, and nothing else changes. -/
theorem get?_insert (m : NameMap α) (n k : Name) (a : α) :
    (insert m n a).get? k = if n.same k then some a else m.get? k := by
  induction m with
  | nil => rw [insert, get?_cons]
  | cons e m ih =>
    rw [insert]
    split
    next equal =>
      rw [get?_cons, get?_cons, Name.same_congr equal k]
      split <;> rfl
    next other =>
      rw [get?_cons, get?_cons, ih]
      by_cases first : e.1.same k = true
      · -- The new name is another one than that of the first entry.
        have apart : n.same k ≠ true := by
          intro second
          apply other
          rw [Name.same_congr first, Name.same_comm, second]
        rw [if_pos first, if_neg apart, if_pos first]
      · rw [if_neg first, if_neg first]

/-- The value of a name is that of the last entry with the name. -/
theorem get?_ofEntries (entries : List (Name × α)) (k : Name) :
    (ofEntries entries).get? k = (entries.reverse.find? fun e => e.1.same k).map (·.2) := by
  induction entries using List.reverseRecOn with
  | nil => rfl
  | append_singleton entries e ih =>
    have last : ofEntries (entries ++ [e]) = insert (ofEntries entries) e.1 e.2 := by
      simp [ofEntries]
    rw [last, get?_insert, ih, List.reverse_append, List.reverse_singleton, List.singleton_append,
      List.find?_cons]
    cases e.1.same k <;> rfl

end NameMap

namespace Config

open Settings

/-- A key of a table stands for a name. -/
def Denotes (key : Scalar) (n : Name) : Prop := ∃ m, Name.readAbsolute key.plain = .ok m ∧ m.same n

/-- Whether a key of a table stands for a name. -/
def denotes (key : Scalar) (n : Name) : Bool :=
  match Name.readAbsolute key.plain with
  | .ok m => m.same n
  | .error _ => false

theorem denotes_iff (key : Scalar) (n : Name) : denotes key n = true ↔ Denotes key n := by
  unfold denotes Denotes
  cases Name.readAbsolute key.plain <;> simp

/-- The entry that governs a name: the last one whose key stands for it. -/
def governing? (root : Value) (table : Text) (n : Name) : Option (Scalar × Value) :=
  (tableOf root table "").1.reverse.find? fun e => denotes e.1 n

section Governing

variable {root : Value} {table : Text} {n : Name} {e : Scalar × Value}

theorem mem_of_governing (governs : governing? root table n = some e) :
    e ∈ (tableOf root table "").1 ∧ Denotes e.1 n := by
  have denoted : denotes e.1 n = true :=
    List.find?_some (p := fun e : Scalar × Value => denotes e.1 n) governs
  exact ⟨List.mem_reverse.mp (List.mem_of_find?_eq_some governs), (denotes_iff e.1 n).mp denoted⟩

/-- A name that some entry stands for is governed by an entry. -/
theorem exists_governing (entry : e ∈ (tableOf root table "").1) (named : Denotes e.1 n) :
    ∃ g, governing? root table n = some g := by
  apply Option.isSome_iff_exists.mp
  rw [governing?, List.find?_isSome]
  exact ⟨e, List.mem_reverse.mpr entry, (denotes_iff e.1 n).mpr named⟩

theorem mem_items_iff {α : Type} {item : Value → Except SettingsFault α} {as : List α} {a : α}
    (entry : e ∈ (tableOf root table "").1) (read : (e.2.items?.getD []).mapM item = .ok as) :
    a ∈ as ↔ ∃ v, Listed root table e v ∧ item v = .ok a := by
  constructor
  · intro member
    obtain ⟨v, inside, made⟩ := mem_mapM_except read member
    cases items : e.2.items? with
    | none => simp [items] at inside
    | some vs =>
      rw [items] at inside
      exact ⟨v, ⟨entry, vs, Value.items?_eq_some.mp items, inside⟩, made⟩
  · rintro ⟨v, ⟨_, vs, list, inside⟩, made⟩
    rw [list] at read
    obtain ⟨b, member, step⟩ := exists_mem_mapM_except read inside
    cases made.symm.trans step
    exact member

/-- A name has the values of the items that its governing entry lists. -/
theorem get?_readTable {α : Type} {item : Value → Except SettingsFault α} {m : NameMap (List α)}
    (read : readTable root table item = .ok m) (n : Name) :
    (governing? root table n = none ∧ m.get? n = none) ∨
      ∃ g as, governing? root table n = some g ∧ m.get? n = some as ∧
        ∀ a, a ∈ as ↔ ∃ v, Listed root table g v ∧ item v = .ok a := by
  obtain ⟨entries, done, made⟩ := bind_except_ok.mp read
  cases made
  have related := List.rel_reverse (mapM_except_ok.mp done)
  -- Keys and the names that are read from them are found together.
  have found : Option.Rel _ (governing? root table n) (entries.reverse.find? fun e => e.1.same n) :=
    rel_find? (fun e w step => by
      obtain ⟨m, name, step⟩ := bind_except_ok.mp step
      obtain ⟨as, _, step⟩ := bind_except_ok.mp step
      cases step
      rw [denotes, mapError_except_ok.mp name]) related
  rw [NameMap.get?_ofEntries]
  generalize governs : governing? root table n = g, entries.reverse.find? _ = w at found
  cases found with
  | none => exact Or.inl ⟨rfl, rfl⟩
  | @some g w step =>
    obtain ⟨m, name, step⟩ := bind_except_ok.mp step
    obtain ⟨as, items, step⟩ := bind_except_ok.mp step
    cases step
    exact Or.inr ⟨g, as, rfl, rfl, fun a => mem_items_iff (mem_of_governing governs).1 items⟩

theorem get?_of_governing {α : Type} {item : Value → Except SettingsFault α}
    {m : NameMap (List α)} (read : readTable root table item = .ok m)
    (governs : governing? root table n = some e) :
    ∃ as, m.get? n = some as ∧ ∀ a, a ∈ as ↔ ∃ v, Listed root table e v ∧ item v = .ok a := by
  rcases get?_readTable read n with ⟨none, _⟩ | ⟨g, as, governs', held, members⟩
  · cases governs.symm.trans none
  · cases governs.symm.trans governs'
    exact ⟨as, held, members⟩

end Governing

end Config

end ChallengeDns
