import Mathlib
import ChallengeDns.Message.RecordFormat
import ChallengeDns.Proofs.Message.Length

/-!
# Reading what was written

A reader is described by the octets that it takes: behind some octets, and whatever follows, it
takes exactly these and gives one result.  Readings then compose as the octets do.  A reader that
takes all there is up to the stop is described in the same way, with nothing left to follow.
-/
namespace ChallengeDns

/-- The place in a message behind `front` and before `ahead`, where reading has to stop. -/
structure Cursor.Shows (c : Cursor) (front ahead : Bytes) : Prop where
  octets : c.wire.toList.take c.stop = front ++ ahead
  place : c.position = front.length
  reach : c.furthest ≤ front.length
  stop : c.stop = front.length + ahead.length

namespace Cursor.Shows

variable {c : Cursor} {front b rest : Bytes}

theorem left (shows : c.Shows front rest) : c.stop - c.position = rest.length := by
  rw [shows.stop, shows.place, Nat.add_sub_cancel_left]

/-- The next octets are found where the cursor stands. -/
theorem extract (shows : c.Shows front (b ++ rest)) :
    (c.wire.extract c.position (c.position + b.length)).toList = b := by
  have within : front.length + b.length ≤ c.stop := by
    rw [shows.stop, List.length_append]
    omega
  calc (c.wire.extract c.position (c.position + b.length)).toList
      = (c.wire.toList.drop front.length).take b.length := by
        rw [Array.toList_extract, List.extract_eq_take_drop, shows.place,
          Nat.add_sub_cancel_left]
    _ = ((c.wire.toList.take c.stop).drop front.length).take b.length := by
        rw [List.drop_take, List.take_take, Nat.min_eq_left (by omega)]
    _ = b := by rw [shows.octets, List.drop_left, List.take_left]

/-- The cursor behind the next octets. -/
theorem advance (shows : c.Shows front (b ++ rest)) {furthest : Nat}
    (reach : furthest ≤ front.length + b.length) :
    Cursor.Shows { c with position := front.length + b.length, furthest := furthest }
      (front ++ b) rest where
  octets := by rw [shows.octets, List.append_assoc]
  place := by rw [List.length_append]
  reach := by rw [List.length_append]; exact reach
  stop := by rw [shows.stop, List.length_append, List.length_append, Nat.add_assoc]

end Cursor.Shows

namespace WireReader

variable {α β : Type}

/-- Behind `front` the reader takes `b`, whatever follows, and gives `a`. -/
def Reads (body : WireReader α) (front b : Bytes) (a : α) : Prop :=
  ∀ (c : Cursor) (rest : Bytes), c.Shows front (b ++ rest) →
    ∃ d, body c = some (a, d) ∧ d.Shows (front ++ b) rest ∧ d.wire = c.wire

/-- Behind `front` the reader takes `b` if nothing follows, and gives `a`. -/
def ReadsAll (body : WireReader α) (front b : Bytes) (a : α) : Prop :=
  ∀ c : Cursor, c.Shows front b →
    ∃ d, body c = some (a, d) ∧ d.Shows (front ++ b) [] ∧ d.wire = c.wire

theorem Reads.all {body : WireReader α} {front b : Bytes} {a : α} (reads : Reads body front b a) :
    ReadsAll body front b a := by
  intro c shows
  exact reads c [] (by rw [List.append_nil]; exact shows)

/-! ### Composition -/

theorem reads_pure (front : Bytes) (a : α) : Reads (pure a) front [] a := by
  intro c rest shows
  exact ⟨c, rfl, by rw [List.append_nil]; exact shows, rfl⟩

theorem Reads.bind {body : WireReader α} {g : α → WireReader β} {front b b' : Bytes} {a : α}
    {a' : β} (first : Reads body front b a) (second : Reads (g a) (front ++ b) b' a') :
    Reads (body >>= g) front (b ++ b') a' := by
  intro c rest shows
  rw [List.append_assoc] at shows
  obtain ⟨d, ran, shown, wire⟩ := first c _ shows
  obtain ⟨e, ran', shown', wire'⟩ := second d _ shown
  refine ⟨e, ?_, by rw [← List.append_assoc]; exact shown', wire'.trans wire⟩
  change (body c).bind (fun p => g p.1 p.2) = _
  rw [ran]
  exact ran'

theorem Reads.bindAll {body : WireReader α} {g : α → WireReader β} {front b b' : Bytes} {a : α}
    {a' : β} (first : Reads body front b a) (second : ReadsAll (g a) (front ++ b) b' a') :
    ReadsAll (body >>= g) front (b ++ b') a' := by
  intro c shows
  obtain ⟨d, ran, shown, wire⟩ := first c _ shows
  obtain ⟨e, ran', shown', wire'⟩ := second d shown
  refine ⟨e, ?_, by rw [← List.append_assoc]; exact shown', wire'.trans wire⟩
  change (body c).bind (fun p => g p.1 p.2) = _
  rw [ran]
  exact ran'

/-- A last step that only works on the result. -/
theorem Reads.finish {body : WireReader α} {f : α → β} {front b : Bytes} {a : α}
    (reads : Reads body front b a) : Reads (body >>= fun x => pure (f x)) front b (f a) := by
  have whole := reads.bind (g := fun x => pure (f x)) (reads_pure (front ++ b) (f a))
  rwa [List.append_nil] at whole

theorem ReadsAll.finish {body : WireReader α} {f : α → β} {front b : Bytes} {a : α}
    (reads : ReadsAll body front b a) : ReadsAll (body >>= fun x => pure (f x)) front b (f a) := by
  intro c shows
  obtain ⟨d, ran, shown, wire⟩ := reads c shows
  refine ⟨d, ?_, shown, wire⟩
  change (body c).bind (fun p => some (f p.1, p.2)) = _
  rw [ran]
  rfl

theorem reads_require {condition : Bool} (holds : condition = true) (front : Bytes) :
    Reads (require condition) front [] () := by
  rw [require, if_pos holds]
  exact reads_pure front ()

/-- A region is read by whatever takes all of it. -/
theorem ReadsAll.within {body : WireReader α} {front b : Bytes} {a : α}
    (reads : ReadsAll body front b a) : Reads (within b.length body) front b a := by
  intro c rest shows
  have enough : ¬c.stop - c.position < b.length := by
    rw [shows.left, List.length_append]
    omega
  -- Within the bound the octets to be read are all that is left.
  have inner : Cursor.Shows { c with stop := c.position + b.length } front b := by
    refine ⟨?_, shows.place, shows.reach, by rw [shows.place]⟩
    have short : front.length + b.length ≤ c.stop := by
      rw [shows.stop, List.length_append]
      omega
    calc c.wire.toList.take (c.position + b.length)
        = (c.wire.toList.take c.stop).take (front ++ b).length := by
          rw [List.take_take, shows.place, List.length_append, Nat.min_eq_left short]
      _ = front ++ b := by rw [shows.octets, ← List.append_assoc, List.take_left]
  obtain ⟨d, ran, shown, wire⟩ := reads _ inner
  have done : d.position = d.stop := by
    rw [shown.place, shown.stop, List.length_nil, Nat.add_zero]
  refine ⟨{ d with stop := c.stop }, ?_, ⟨?_, shown.place, shown.reach, ?_⟩, wire⟩
  · rw [WireReader.within, if_neg enough, ran]
    exact if_pos done
  · rw [wire, shows.octets, List.append_assoc]
  · rw [shows.stop, List.length_append, List.length_append, Nat.add_assoc]

/-! ### Octets and numbers -/

theorem reads_octets (front b : Bytes) : Reads (octets b.length) front b b := by
  intro c rest shows
  have enough : ¬c.stop - c.position < b.length := by
    rw [shows.left, List.length_append]
    omega
  have reach : max c.furthest (c.position + b.length) ≤ front.length + b.length := by
    have old := shows.reach
    rw [shows.place]
    omega
  refine ⟨_, ?_, shows.advance reach, rfl⟩
  have taken := shows.extract
  rw [octets, if_neg enough]
  rw [shows.place] at taken ⊢
  simp only [taken]

/-- Passing octets gives none of them back. -/
theorem reads_skip (front b : Bytes) : Reads (RecordFormat.skip b.length) front b () :=
  (reads_octets front b).finish

theorem readsAll_rest (front b : Bytes) : ReadsAll rest front b b := by
  intro c shows
  obtain ⟨d, ran, shown, wire⟩ := (reads_octets front b).all c shows
  refine ⟨d, ?_, shown, wire⟩
  change octets (c.stop - c.position) c = _
  rw [shows.left, ran]

theorem reads_two {n : Nat} (small : n < 65536) (front : Bytes) :
    Reads (number 2) front (Wire.two n) n := by
  have reads : Reads (number 2) front (Wire.two n) _ := (reads_octets front (Wire.two n)).finish
  rwa [Wire.foldl_two small, Nat.zero_mul, Nat.zero_add] at reads

theorem reads_four {n : Nat} (small : n < 4294967296) (front : Bytes) :
    Reads (number 4) front (Wire.four n) n := by
  have reads : Reads (number 4) front (Wire.four n) _ := (reads_octets front (Wire.four n)).finish
  have value : (0 * 65536 + n / 65536) * 65536 + n % 65536 = n := by omega
  rwa [Wire.four, List.foldl_append, Wire.foldl_two (by omega), Wire.foldl_two (by omega),
    value] at reads

theorem reads_octet (front : Bytes) (b : UInt8) : Reads octet front [b] b.toNat := by
  have reads : Reads octet front [b] _ := (reads_octets front [b]).finish
  simpa using reads

theorem reads_counted {b : Bytes} (short : b.length < 256) (front : Bytes) :
    Reads counted front (Wire.counted b) b := by
  refine Reads.bind (b := [b.length.toUInt8]) (reads_octet front _) ?_
  rw [Wire.toNat_one short]
  exact reads_octets _ b

/-! ### Repetition -/

/-- Readings that take some octets each, one after the other up to the stop. -/
theorem readsAll_many {body : WireReader α} {items : List (Bytes × α)}
    (each : ∀ i ∈ items, i.1 ≠ [] ∧ ∀ front, Reads body front i.1 i.2) (front : Bytes) :
    ReadsAll (many body) front (items.flatMap (·.1)) (items.map (·.2)) := by
  -- Every item takes an octet, so the fuel, which is one for each octet, outlasts the items.
  have go : ∀ (fuel : Nat) (front : Bytes) (c : Cursor), items.length ≤ fuel →
      c.Shows front (items.flatMap (·.1)) →
      ∃ d, many.go body fuel c = some (items.map (·.2), d) ∧
        d.Shows (front ++ items.flatMap (·.1)) [] ∧ d.wire = c.wire := by
    induction items with
    | nil =>
      intro fuel front c _ shows
      have done : ¬c.position < c.stop := by
        rw [shows.place, shows.stop]
        simp
      refine ⟨c, ?_, by simpa using shows, rfl⟩
      cases fuel with
      | zero => rfl
      | succ fuel => rw [many.go, if_neg done]; rfl
    | cons item items ih =>
      intro fuel front c enough shows
      obtain ⟨fuel, rfl⟩ := Nat.exists_eq_add_one_of_ne_zero (n := fuel) (by
        rw [List.length_cons] at enough
        omega)
      obtain ⟨⟨filled, reads⟩, others⟩ := List.forall_mem_cons.mp each
      rw [List.flatMap_cons] at shows
      obtain ⟨d, ran, shown, wire⟩ := reads front c _ shows
      obtain ⟨e, ran', shown', wire'⟩ := ih others fuel _ d (by simpa using enough) shown
      have more : c.position < c.stop := by
        have some := List.length_pos_of_ne_nil filled
        rw [shows.place, shows.stop, List.length_append]
        omega
      refine ⟨e, ?_, by rw [List.flatMap_cons, ← List.append_assoc]; exact shown',
        wire'.trans wire⟩
      rw [many.go, if_pos more, ran]
      simp only [ran', Option.map_some, List.map_cons]
  intro c shows
  refine go (c.stop - c.position) front c ?_ shows
  have count : ∀ is : List (Bytes × α), (∀ i ∈ is, i.1 ≠ []) →
      is.length ≤ (is.flatMap (·.1)).length := by
    intro is filled
    induction is with
    | nil => exact Nat.le_refl 0
    | cons i is ih =>
      obtain ⟨some, others⟩ := List.forall_mem_cons.mp filled
      have first := List.length_pos_of_ne_nil some
      have rest := ih others
      rw [List.flatMap_cons, List.length_append, List.length_cons]
      omega
  rw [shows.left]
  exact count items fun i member => (each i member).1

end WireReader

end ChallengeDns
