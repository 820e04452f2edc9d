import Mathlib
import ChallengeDns.Proofs.Message.Reading
import ChallengeDns.Proofs.Name.Canonical

/-!
# Names with pointers

A written name is a chain: labels, then the root or a pointer to an earlier place where the chain
goes on.  Pointers only go back, first before the name and then before each place that they lead
to, which is what the reader insists on.

The writer remembers where each end of a name came to stand.  Its promise is that a name of the same
spelling, but for case, can be read from there.  The promise is about octets that are already
written, so it outlives all that is written later.
-/
namespace ChallengeDns

namespace Wire

/-- The chain from `place` on spells the labels; its furthest octet stands before `finish`.  All
places that it leads to stand before `bound`. -/
inductive Spells (wire : Bytes) : Nat → Nat → List Label → Nat → Prop
  | root {bound place : Nat} (zero : [0] <+: wire.drop place) :
      Spells wire bound place [] (place + 1)
  | label {bound place finish : Nat} {l : Label} {ls : List Label}
      (size : 0 < l.length ∧ l.length ≤ 63) (written : counted l <+: wire.drop place)
      (rest : Spells wire bound (place + 1 + l.length) ls finish) :
      Spells wire bound place (l :: ls) finish
  | pointer {bound place target finish : Nat} {ls : List Label} (back : target < bound)
      (reach : target ≤ lastTarget) (written : two (0xC000 + target) <+: wire.drop place)
      (there : Spells wire target target ls finish) :
      Spells wire bound place ls (max (place + 2) finish)

namespace Spells

variable {wire : Bytes} {bound place finish : Nat} {ls : List Label}

theorem extend (spells : Spells wire bound place ls finish) (more : Bytes) :
    Spells (wire ++ more) bound place ls finish := by
  have grown : ∀ n, wire.drop n <+: (wire ++ more).drop n := fun n =>
    (List.prefix_append wire more).drop n
  induction spells with
  | root zero => exact .root (zero.trans (grown _))
  | label size written _ ih => exact .label size (written.trans (grown _)) ih
  | pointer back reach written _ ih => exact .pointer back reach (written.trans (grown _)) ih

/-- A later start of the name allows more pointers. -/
theorem later (spells : Spells wire bound place ls finish) {bound' : Nat} (le : bound ≤ bound') :
    Spells wire bound' place ls finish := by
  induction spells with
  | root zero => exact .root zero
  | label size written _ ih => exact .label size written (ih le)
  | pointer back reach written there _ => exact .pointer (by omega) reach written there

theorem place_lt (spells : Spells wire bound place ls finish) : place < wire.length := by
  have inside : ∀ {b : Bytes} {n : Nat}, b <+: wire.drop n → b ≠ [] → n < wire.length := by
    intro b n written filled
    have some := List.length_pos_of_ne_nil filled
    have short := written.length_le
    rw [List.length_drop] at short
    omega
  cases spells with
  | root zero => exact inside zero (by simp)
  | label _ written _ => exact inside written (by simp [counted])
  | pointer _ _ written _ => exact inside written (by simp [two])

theorem lt_finish (spells : Spells wire bound place ls finish) : place < finish := by
  induction spells with
  | root => exact Nat.lt_succ_self _
  | label _ _ _ ih => omega
  | pointer => omega

theorem finish_le (spells : Spells wire bound place ls finish) : finish ≤ wire.length := by
  induction spells with
  | root zero =>
    have spells : Spells wire 0 _ _ _ := .root zero
    have start := spells.place_lt
    omega
  | label _ _ _ ih => exact ih
  | pointer _ _ written _ ih =>
    have short := written.length_le
    simp only [two, List.length_cons, List.length_nil, List.length_drop] at short
    omega

end Spells

end Wire

namespace WireReader

open Wire

variable {c : Cursor} {place : Nat}

/-- Octets that are written before the stop are found in the array. -/
theorem octets_of_prefix {o : UInt8} {b : Bytes}
    (written : o :: b <+: (c.wire.toList.take c.stop).drop place) :
    place + 1 + b.length ≤ c.stop ∧ c.wire[place]? = some o ∧
      (c.wire.extract (place + 1) (place + 1 + b.length)).toList = b := by
  have short := written.length_le
  rw [List.length_drop, List.length_take, List.length_cons] at short
  have all := List.prefix_iff_eq_take.mp written
  rw [List.length_cons] at all
  refine ⟨by omega, ?_, ?_⟩
  · have first := congrArg (·[0]?) all
    simp only [List.getElem?_cons_zero, List.getElem?_take, List.getElem?_drop] at first
    rw [if_pos (by omega), if_pos (by omega), Nat.add_zero, Array.getElem?_toList] at first
    exact first.symm
  · have rest := congrArg (List.drop 1) all
    rw [List.drop_succ_cons, List.drop_zero, List.drop_take, List.drop_drop, List.drop_take,
      List.take_take, Nat.add_sub_cancel, Nat.min_eq_left (by omega)] at rest
    rw [Array.toList_extract, List.extract_eq_take_drop, Nat.add_sub_cancel_left]
    exact rest.symm

theorem octet_at {b : UInt8} {rest : Bytes}
    (written : b :: rest <+: (c.wire.toList.take c.stop).drop place) :
    place < c.stop ∧ c.wire[place]? = some b := by
  obtain ⟨stop, found, _⟩ := octets_of_prefix written
  exact ⟨by omega, found⟩

/-- The reader follows the chain. -/
theorem labelsFrom_of_spells {bound finish : Nat} {ls : List Label}
    (spells : Spells (c.wire.toList.take c.stop) bound place ls finish) (furthest : Nat) :
    labelsFrom c bound place furthest = some (ls, max furthest finish) := by
  induction spells generalizing furthest with
  | root zero =>
    obtain ⟨before, found⟩ := octet_at zero
    rw [labelsFrom, dif_pos before, found]
    rfl
  | @label bound place finish l ls size written rest ih =>
    obtain ⟨stop, found, content⟩ := octets_of_prefix written
    have count : l.length.toUInt8.toNat = l.length := toNat_one (by omega)
    have further : max (max furthest (place + 1 + l.length)) finish = max furthest finish := by
      have start := rest.lt_finish
      omega
    -- An octet from 1 to 63 counts the octets of a label.
    rw [labelsFrom, dif_pos (by omega), found]
    simp only [count]
    rw [if_neg (by omega), if_pos (by omega), if_neg (by omega), ih, content, further]
    rfl
  | @pointer bound place target finish ls back reach written there ih =>
    obtain ⟨stop, high, _⟩ := octets_of_prefix written
    have second := written.drop 1
    rw [List.drop_drop] at second
    obtain ⟨before, low⟩ := octet_at second
    have value := toNat_two (n := 0xC000 + target) (by simp only [lastTarget] at reach; omega)
    have small := (0xC000 + target).toUInt8.toNat_lt
    generalize ((0xC000 + target) / 256).toUInt8 = h at high value
    generalize (0xC000 + target).toUInt8 = l at low value small
    simp only [lastTarget] at reach
    -- The two highest bits tell a pointer from a label.
    obtain ⟨k, marked⟩ := Nat.exists_eq_add_of_le (m := 192) (n := h.toNat) (by omega)
    rw [marked, Nat.add_mul, Nat.add_assoc] at value
    have target_eq : k * 256 + l.toNat = target := Nat.add_left_cancel value
    have unmarked : h.toNat % 64 = k := by omega
    have further : max (max furthest (place + 2)) finish = max furthest (max (place + 2) finish) :=
      Nat.max_assoc _ _ _
    rw [labelsFrom, dif_pos (by omega), high]
    simp only
    rw [if_neg (by omega), if_neg (by omega), if_neg (by omega), if_pos before, low]
    simp only [unmarked, target_eq]
    rw [if_pos back, ih, further]

/-- A name whose chain starts behind `front` and ends with `b`. -/
theorem reads_name {front b : Bytes} {n : Name} (absolute : n.absolute = true)
    (spells : Spells (front ++ b) front.length front.length n.labels (front.length + b.length)) :
    Reads name front b n := by
  intro c rest shows
  have there : Spells (c.wire.toList.take c.stop) c.position c.position n.labels
      (front.length + b.length) := by
    rw [shows.octets, shows.place, ← List.append_assoc]
    exact spells.extend rest
  have furthest : max c.furthest (front.length + b.length) = front.length + b.length :=
    Nat.max_eq_right (Nat.le_trans shows.reach (Nat.le_add_right _ _))
  have made : Name.ofLabels n.labels true = .ok n := by
    rw [← absolute]
    exact Name.ofLabels_labels n
  refine ⟨_, ?_, shows.advance (Nat.le_refl _), rfl⟩
  rw [name, labelsFrom_of_spells there, furthest]
  simp only [made]

end WireReader

/-! ### The table -/

namespace Wire

/-- An entry of the table keeps its promise: some spelling of its labels can be read from its place,
which is within reach of pointers. -/
structure Noted (wire : Bytes) (e : List Label × Nat) : Prop where
  reach : e.2 ≤ lastTarget
  spelled : ∃ ls finish, Name.lowerLabels ls = e.1 ∧ Spells wire e.2 e.2 ls finish

def Sound (wire : Bytes) (table : Suffixes) : Prop := ∀ e ∈ table, Noted wire e

theorem Noted.extend {wire : Bytes} {e : List Label × Nat} (noted : Noted wire e) (more : Bytes) :
    Noted (wire ++ more) e := by
  obtain ⟨reach, ls, finish, spelling, spells⟩ := noted
  exact ⟨reach, ls, finish, spelling, spells.extend more⟩

theorem Sound.extend {wire : Bytes} {table : Suffixes} (sound : Sound wire table) (more : Bytes) :
    Sound (wire ++ more) table :=
  fun e member => (sound e member).extend more

theorem mem_of_target {table : Suffixes} {ls : List Label} {place : Nat}
    (found : target? table ls = some place) : (Name.lowerLabels ls, place) ∈ table := by
  obtain ⟨e, first, rfl⟩ := Option.map_eq_some_iff.mp found
  have equal : e.1 = Name.lowerLabels ls := by simpa using List.find?_some first
  rw [← equal]
  exact List.mem_of_find?_eq_some first

theorem length_lowerLabels (ls : List Label) : (Name.lowerLabels ls).length = ls.length :=
  List.length_map _

theorem length_append_counted (front : Bytes) (l : Label) :
    (front ++ counted l).length = front.length + 1 + l.length := by
  rw [List.length_append, counted, List.length_cons]
  omega

/-- What it means to write labels of a name that starts at `start`: some spelling of them can be
read back, the very same one if no entry of the table could serve, and new entries keep their
promise. -/
structure Chained (front : Bytes) (table : Suffixes) (start : Nat) (ls : List Label)
    (w : Bytes × Suffixes) : Prop where
  chain : ∃ ls', Name.lowerLabels ls' = Name.lowerLabels ls ∧
    ((∀ e ∈ table, ls.length < e.1.length) → ls' = ls) ∧
    Spells (front ++ w.1) start front.length ls' (front.length + w.1.length)
  kept : ∀ e ∈ w.2, e ∈ table ∨ Noted (front ++ w.1) e

theorem chained_root (front : Bytes) (table : Suffixes) (start : Nat) :
    Chained front table start [] ([0], table) := by
  have zero : [0] <+: (front ++ [0]).drop front.length := by rw [List.drop_left]
  exact ⟨⟨[], rfl, fun _ => rfl, .root zero⟩, fun e member => .inl member⟩

theorem chained_pointer {front : Bytes} {table : Suffixes} {start place : Nat} {ls : List Label}
    (entry : (Name.lowerLabels ls, place) ∈ table)
    (noted : Noted front (Name.lowerLabels ls, place)) (back : place < start) :
    Chained front table start ls (two (0xC000 + place), table) := by
  obtain ⟨reach, ls', finish, spelling, spells⟩ := noted
  have pointer : two (0xC000 + place) <+: (front ++ two (0xC000 + place)).drop front.length := by
    rw [List.drop_left]
  have old := spells.finish_le
  have chain := Spells.pointer back reach pointer (spells.extend _)
  rw [Nat.max_eq_left (by omega)] at chain
  refine ⟨⟨ls', spelling, ?_, chain⟩, fun e member => .inl member⟩
  -- The entry that the pointer leads to has no more labels than the name.
  intro longer
  have impossible : ls.length < (Name.lowerLabels ls).length := longer _ entry
  rw [length_lowerLabels] at impossible
  omega

theorem chained_label {front : Bytes} {table noted : Suffixes} {start : Nat} {l : Label}
    {ls : List Label} {rest : Bytes × Suffixes} (size : 0 < l.length ∧ l.length ≤ 63)
    (started : start ≤ front.length)
    (new : ∀ e ∈ noted, e ∈ table ∨
      (e = (Name.lowerLabels (l :: ls), front.length) ∧ front.length ≤ lastTarget))
    (chained : Chained (front ++ counted l) noted start ls rest) :
    Chained front table start (l :: ls) (counted l ++ rest.1, rest.2) := by
  obtain ⟨⟨ls', spelling, same, spells⟩, kept⟩ := chained
  have label : counted l <+: (front ++ (counted l ++ rest.1)).drop front.length := by
    rw [List.drop_left]
    exact List.prefix_append _ _
  have finish : (front ++ counted l).length + rest.1.length =
      front.length + (counted l ++ rest.1).length := by
    rw [List.length_append, List.length_append, Nat.add_assoc]
  rw [finish, length_append_counted, List.append_assoc] at spells
  have chain := Spells.label size label spells
  have spelling' : Name.lowerLabels (l :: ls') = Name.lowerLabels (l :: ls) := by
    simp only [Name.lowerLabels, List.map_cons] at spelling ⊢
    rw [spelling]
  -- What was read behind this label may be spelled otherwise; the label itself is spelled as it is.
  refine ⟨⟨l :: ls', spelling', ?_, chain⟩, ?_⟩
  · intro longer
    rw [same]
    intro e member
    rcases new e member with old | ⟨rfl, _⟩
    · exact Nat.lt_of_succ_lt (longer e old)
    · rw [length_lowerLabels]
      exact Nat.lt_succ_self _
  · intro e member
    rcases kept e member with entry | promise
    · rcases new e entry with old | ⟨rfl, reach⟩
      · exact .inl old
      -- The new entry is the name from this label on, which can be read from here.
      · exact .inr ⟨reach, l :: ls', _, spelling', chain.later started⟩
    · rw [List.append_assoc] at promise
      exact .inr promise

theorem chained_labels {ls : List Label} (sizes : ∀ l ∈ ls, 0 < l.length ∧ l.length ≤ 63)
    {front : Bytes} {table : Suffixes} {start : Nat} (started : start ≤ front.length)
    (known : ∀ e ∈ table, e.1.length ≤ ls.length → Noted front e ∧ e.2 < start) :
    Chained front table start ls (labels front.length table ls) := by
  -- The ends of this very name have more labels than what is left of it, so only entries from
  -- before its start can serve, and these point back.
  induction ls generalizing front table with
  | nil => exact chained_root front table start
  | cons l ls ih =>
    obtain ⟨size, sizes⟩ := List.forall_mem_cons.mp sizes
    cases found : target? table (l :: ls) with
    | some place =>
      have entry := mem_of_target found
      obtain ⟨noted, back⟩ := known _ entry (Nat.le_of_eq (length_lowerLabels _))
      simp only [labels, found]
      exact chained_pointer entry noted back
    | none =>
      have next : (front ++ counted l).length = front.length + 1 + l.length :=
        length_append_counted front l
      simp only [labels, found, ← next]
      apply chained_label size started ?_ (ih sizes (by omega) ?_)
      · intro e member
        split at member
        next reach =>
          rcases List.mem_cons.mp member with rfl | member
          · exact .inr ⟨rfl, reach⟩
          · exact .inl member
        next => exact .inl member
      · intro e member short
        have old : e ∈ table := by
          split at member
          · rcases List.mem_cons.mp member with rfl | member
            · have longer : (l :: ls).length ≤ ls.length := length_lowerLabels (l :: ls) ▸ short
              exact absurd longer (Nat.not_succ_le_self _)
            · exact member
          · exact member
        obtain ⟨noted, back⟩ := known e old (Nat.le_succ_of_le short)
        exact ⟨noted.extend _, back⟩

/-- A written name can be read; it is the same but for case, and the very same if nothing was
written before. -/
theorem reads_written {front : Bytes} {table : Suffixes} (sound : Sound front table) {n : Name}
    (absolute : n.absolute = true) :
    let w := name front.length table n
    Sound (front ++ w.1) w.2 ∧
      ∃ m, m.same n = true ∧ (table = [] → m = n) ∧
        WireReader.Reads WireReader.name front w.1 m := by
  intro w
  -- Every place that is noted for an end of the name lies in front of this one.
  have known : ∀ e ∈ table, e.1.length ≤ n.labels.length → Noted front e ∧ e.2 < front.length := by
    intro e member _
    obtain ⟨_, _, _, _, spells⟩ := sound e member
    exact ⟨sound e member, spells.place_lt⟩
  obtain ⟨⟨ls, spelling, same, spells⟩, kept⟩ :=
    chained_labels n.label_size (Nat.le_refl front.length) known
  constructor
  · intro e member
    rcases kept e member with old | new
    · exact (sound e old).extend _
    · exact new
  -- The labels that are read may differ from the name in case, which changes no length.
  have size : Name.wireLength ls true ≤ 255 := by
    have written := n.wire_size
    rwa [absolute, ← Name.wireLength_lowerLabels, ← spelling,
      Name.wireLength_lowerLabels] at written
  have sizes : ∀ l ∈ ls, 0 < l.length ∧ l.length ≤ 63 := by
    intro l member
    have lower : l.map lowerOctet ∈ Name.lowerLabels n.labels := by
      rw [← spelling]
      exact List.mem_map_of_mem member
    obtain ⟨k, inside, equal⟩ := List.mem_map.mp lower
    have length : k.length = l.length := by
      simpa using congrArg List.length equal
    exact length ▸ n.label_size k inside
  let m : Name := ⟨ls, true, sizes, size⟩
  refine ⟨m, ?_, ?_, WireReader.reads_name rfl spells⟩
  · rw [Name.same_iff]
    simp only [Name.canonical, m, spelling, absolute]
  · intro empty
    have equal : ls = n.labels := same (by simp [empty])
    cases n
    cases absolute
    cases equal
    rfl

end Wire

end ChallengeDns
