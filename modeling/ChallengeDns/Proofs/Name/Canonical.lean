import Mathlib
import ChallengeDns.Access.Control
import ChallengeDns.Store.Key

/-!
# Names without case

Four forms of one name meet in the server: the relative subdomain of an update, the same name
qualified with the zone, the key of the store and the spelling in a question.  All of them are
compared through the canonical spelling, and qualifying with an absolute zone always gives a name
that has a key.
-/
namespace ChallengeDns

namespace Name

theorem same_iff (m n : Name) : m.same n = true ↔ m.canonical = n.canonical := by
  simp [same]

theorem same_refl (n : Name) : n.same n = true := (same_iff n n).mpr rfl

theorem same_comm (m n : Name) : m.same n = n.same m := by
  rw [Bool.eq_iff_iff, same_iff, same_iff, eq_comm]

theorem same_congr {m n : Name} (equal : m.same n = true) (k : Name) : m.same k = n.same k := by
  rw [Bool.eq_iff_iff, same_iff, same_iff, (same_iff m n).mp equal]

theorem same_absolute {m n : Name} (equal : m.same n = true) : m.absolute = n.absolute := by
  have spelling := (same_iff m n).mp equal
  have absolute : m.canonical.absolute = n.canonical.absolute := by rw [spelling]
  exact absolute

theorem ofLabels_ok {labels : List Label} {absolute : Bool} {n : Name}
    (made : ofLabels labels absolute = .ok n) : n.labels = labels ∧ n.absolute = absolute := by
  unfold ofLabels at made
  split at made
  · split at made
    · split at made
      · cases made
        exact ⟨rfl, rfl⟩
      · cases made
    · cases made
  · cases made

/-- A name that obeys the bounds is made again from its labels. -/
theorem ofLabels_labels (n : Name) : ofLabels n.labels n.absolute = .ok n := by
  have short : ∀ l ∈ n.labels, l.length ≤ 63 := fun l member => (n.label_size l member).2
  have filled : ∀ l ∈ n.labels, 0 < l.length := fun l member => (n.label_size l member).1
  simp only [ofLabels, dif_pos short, dif_pos n.wire_size, dif_pos filled]

/-- Nothing but the empty relative name can follow an absolute one. -/
theorem append_absolute {m n k : Name} (appended : m.append n = .ok k)
    (absolute : n.absolute = true) : k.absolute = true := by
  unfold append at appended
  split at appended
  · simp [absolute] at appended
  · rw [(ofLabels_ok appended).2, absolute]

theorem qualify_ok_iff (m n k : Name) : m.qualify n = .ok k ↔ m.append n = .ok k := by
  unfold qualify
  cases m.append n <;> simp

theorem qualify_absolute {m n k : Name} (qualified : m.qualify n = .ok k)
    (absolute : n.absolute = true) : k.absolute = true :=
  append_absolute ((qualify_ok_iff m n k).mp qualified) absolute

/-- What can be qualified with an absolute name is relative, and its labels come first. -/
theorem qualify_parts {m d k : Name} (absolute : d.absolute = true)
    (qualified : m.qualify d = .ok k) :
    m.absolute = false ∧ k.labels = m.labels ++ d.labels ∧ k.absolute = true := by
  have appended := (qualify_ok_iff m d k).mp qualified
  unfold append at appended
  split at appended
  next => simp [absolute] at appended
  next relative =>
    obtain ⟨labels, root⟩ := ofLabels_ok appended
    exact ⟨Bool.not_eq_true _ ▸ relative, labels, root.trans absolute⟩

/-- Qualifying with one domain keeps names apart, but for their case. -/
theorem qualify_same_iff {m n d k l : Name} (absolute : d.absolute = true)
    (left : m.qualify d = .ok k) (right : n.qualify d = .ok l) :
    k.same l = true ↔ m.same n = true := by
  obtain ⟨relative, labels, root⟩ := qualify_parts absolute left
  obtain ⟨relative', labels', root'⟩ := qualify_parts absolute right
  simp only [same_iff, canonical, mk.injEq, labels, labels', root, root', relative, relative',
    lowerLabels, List.map_append, List.append_left_inj, and_true]

theorem readAbsolute_absolute {t : Text} {n : Name} (read : readAbsolute t = .ok n) :
    n.absolute = true := by
  unfold readAbsolute Name.read at read
  cases split : splitText t with
  | error e => simp [split] at read
  | ok parts =>
    obtain ⟨labels, dotted⟩ := parts
    simp only [split, Bool.or_true] at read
    cases made : ofLabels labels true with
    | error f => simp [made] at read
    | ok m =>
      simp only [made, Except.ok.injEq] at read
      subst read
      exact (ofLabels_ok made).2

end Name

namespace Key

theorem ext_name {k l : Key} (equal : k.name = l.name) : k = l := by
  cases k
  cases l
  cases equal
  rfl

theorem ofName_ok {n : Name} {k : Key} (made : ofName n = .ok k) : k.name = n.canonical := by
  unfold ofName at made
  split at made
  · cases made
    rfl
  · cases made

theorem ofName_of_absolute {n : Name} (absolute : n.absolute = true) :
    ∃ k, ofName n = .ok k := by
  exact ⟨_, dif_pos absolute⟩

/-- Two names share their values exactly when they differ in case alone. -/
theorem eq_iff_same {m n : Name} {k l : Key} (left : ofName m = .ok k) (right : ofName n = .ok l) :
    k = l ↔ m.same n = true := by
  rw [Name.same_iff, ← ofName_ok left, ← ofName_ok right]
  exact ⟨fun equal => congrArg Key.name equal, ext_name⟩

theorem ofName_name (k : Key) : ofName k.name = .ok k := by
  obtain ⟨l, made⟩ := ofName_of_absolute k.absolute
  have equal : l = k := ext_name ((ofName_ok made).trans k.lower)
  rw [made, equal]

end Key

/-- Gathering names in a set adds no others. -/
theorem mem_of_mem_insertNames {n : Name} {names set : List Name}
    (member : n ∈ names.foldl (fun set n => insertName n set) set) : n ∈ set ∨ n ∈ names := by
  induction names generalizing set with
  | nil => exact Or.inl member
  | cons first rest ih =>
    simp only [List.foldl_cons] at member
    rcases ih member with old | new
    · unfold insertName at old
      split at old
      · exact Or.inl old
      · rcases List.mem_append.mp old with old | added
        · exact Or.inl old
        · exact Or.inr (by simp_all)
    · exact Or.inr (List.mem_cons_of_mem _ new)

end ChallengeDns
