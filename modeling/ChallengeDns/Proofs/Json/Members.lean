import Mathlib
import ChallengeDns.Data.Value

/-!
# Names that come again

An object may write a name several times.  Its mapping holds the name once, where it came first,
with the value that came last.
-/
namespace ChallengeDns.Json

/-- A member as an entry of a mapping. -/
def memberEntry (m : Text × Value) : Scalar × Value := (.text m.1, m.2)

/-- The last member of a name. -/
def last? (members : List (Text × Value)) (name : Text) : Option (Text × Value) :=
  members.reverse.find? (·.1 = name)

/-- Each name once, where it came first, with the value that came last. -/
def resolved (members : List (Text × Value)) : List (Text × Value) :=
  (members.map (·.1)).eraseDups.filterMap fun name => last? members name

theorem nodup_eraseDups (names : List Text) : names.eraseDups.Nodup := by
  induction size : names.length using Nat.strong_induction_on generalizing names with
  | _ n ih =>
    cases names with
    | nil => exact List.nodup_nil
    | cons name names =>
      subst size
      rw [List.eraseDups_cons, List.nodup_cons]
      constructor
      · simp [List.mem_eraseDups]
      · exact ih _ (Nat.lt_succ_of_le (List.length_filter_le _ _)) _ rfl

section Insert

variable (name : Text) (v : Value)

theorem insertEntry_new {members : List (Text × Value)} (new : name ∉ members.map (·.1)) :
    Value.insertEntry (.text name) v (members.map memberEntry) =
      (members ++ [(name, v)]).map memberEntry := by
  induction members with
  | nil => rfl
  | cons m members ih =>
    rw [List.map_cons, List.mem_cons, not_or] at new
    have apart : ¬(memberEntry m).1.sameKey (.text name) = true := by
      simpa [memberEntry, Scalar.sameKey] using Ne.symm new.1
    rw [List.map_cons, Value.insertEntry, if_neg apart, ih new.2]
    rfl

theorem insertEntry_old {members : List (Text × Value)} (distinct : (members.map (·.1)).Nodup)
    (old : name ∈ members.map (·.1)) :
    Value.insertEntry (.text name) v (members.map memberEntry) =
      (members.map fun m => if m.1 = name then (name, v) else m).map memberEntry := by
  -- By induction on the members: the name is here or further on, and not in both places.
  induction members with
  | nil => cases old
  | cons m members ih =>
    rw [List.map_cons, List.nodup_cons] at distinct
    rw [List.map_cons, Value.insertEntry]
    by_cases here : m.1 = name
    · have same : (memberEntry m).1.sameKey (.text name) = true := by
        simpa [memberEntry, Scalar.sameKey] using here
      -- The name is not among the others, so these stay as they are.
      have others : (members.map fun m => if m.1 = name then (name, v) else m) = members := by
        refine (List.map_congr_left fun other member => ?_).trans (List.map_id members)
        refine if_neg fun equal => distinct.1 ?_
        rw [here, ← equal]
        exact List.mem_map_of_mem member
      rw [if_pos same, List.map_cons, if_pos here, others, List.map_cons, memberEntry, here]
      rfl
    · have apart : ¬(memberEntry m).1.sameKey (.text name) = true := by
        simpa [memberEntry, Scalar.sameKey] using here
      have later : name ∈ members.map (·.1) := by
        rcases List.mem_cons.mp old with equal | later
        · exact absurd equal.symm here
        · exact later
      rw [if_neg apart, ih distinct.2 later, List.map_cons, if_neg here, List.map_cons]

end Insert

theorem last?_append (members : List (Text × Value)) (m : Text × Value) (name : Text) :
    last? (members ++ [m]) name = if m.1 = name then some m else last? members name := by
  rw [last?, List.reverse_append, List.reverse_singleton, List.singleton_append, List.find?_cons]
  by_cases here : m.1 = name <;> simp [here, last?]

theorem last?_both (members others : List (Text × Value)) (name : Text) :
    last? (members ++ others) name = (last? others name).or (last? members name) := by
  rw [last?, List.reverse_append, List.find?_append]
  rfl

theorem last?_eq_none {members : List (Text × Value)} {name : Text} :
    last? members name = none ↔ ∀ m ∈ members, m.1 ≠ name := by
  simp [last?]

theorem last?_name {members : List (Text × Value)} {name : Text} {m : Text × Value}
    (last : last? members name = some m) : m.1 = name := by
  simpa using List.find?_some last

theorem mem_of_last? {members : List (Text × Value)} {name : Text} {m : Text × Value}
    (last : last? members name = some m) : m ∈ members :=
  List.mem_reverse.mp (List.mem_of_find?_eq_some last)

theorem exists_last? {members : List (Text × Value)} {name : Text}
    (member : name ∈ members.map (·.1)) : ∃ v, last? members name = some (name, v) := by
  obtain ⟨m, inside, rfl⟩ := List.mem_map.mp member
  cases found : last? members m.1 with
  | none => exact absurd (List.find?_eq_none.mp found m (List.mem_reverse.mpr inside)) (by simp)
  | some last => exact ⟨last.2, by rw [← last?_name found]⟩

/-- A member whose name no other one has is the last one of this name. -/
theorem last?_of_mem {members : List (Text × Value)} {m : Text × Value} (member : m ∈ members)
    (only : ∀ other ∈ members, other.1 = m.1 → other = m) : last? members m.1 = some m := by
  cases found : last? members m.1 with
  | none => exact absurd rfl (last?_eq_none.mp found m member)
  | some last =>
    rw [only last (mem_of_last? found) (last?_name found)]

theorem map_fst_resolved (members : List (Text × Value)) :
    (resolved members).map (·.1) = (members.map (·.1)).eraseDups := by
  rw [resolved, List.map_filterMap]
  refine (List.filterMap_congr fun name member => ?_).trans List.filterMap_some
  obtain ⟨v, last⟩ := exists_last? (List.mem_eraseDups.mp member)
  rw [last]
  rfl

theorem eraseDups_concat (names : List Text) (name : Text) :
    (names ++ [name]).eraseDups =
      if name ∈ names then names.eraseDups else names.eraseDups ++ [name] := by
  rw [List.eraseDups_append]
  by_cases old : name ∈ names <;> simp [old, List.removeAll, List.eraseDups_cons]

/-- A new member stands behind the others, or in the place that its name has already. -/
theorem resolved_concat (members : List (Text × Value)) (m : Text × Value) :
    resolved (members ++ [m]) =
      if m.1 ∈ members.map (·.1) then
        (resolved members).map fun other => if other.1 = m.1 then m else other
      else resolved members ++ [m] := by
  rw [resolved, List.map_append, List.map_singleton, eraseDups_concat]
  split
  · next old =>
    -- No name comes or goes, and only the entry of this one changes.
    rw [resolved, List.map_filterMap]
    refine List.filterMap_congr fun name member => ?_
    obtain ⟨v, last⟩ := exists_last? (List.mem_eraseDups.mp member)
    rw [last?_append, last, Option.map_some]
    by_cases here : m.1 = name
    · rw [if_pos here, if_pos here.symm]
    · rw [if_neg here, if_neg (Ne.symm here)]
  · next new =>
    -- The others are not called like the new member, which stands last.
    rw [List.filterMap_append]
    congr 1
    · refine List.filterMap_congr fun name member => ?_
      rw [last?_append, if_neg]
      rintro rfl
      exact new (List.mem_eraseDups.mp member)
    · simp [last?_append]

/-- The machine resolves the names of the members that it is given one after the other. -/
theorem entriesOf_memberEntry (members : List (Text × Value)) :
    Value.entriesOf (members.map memberEntry) = (resolved members).map memberEntry := by
  induction members using List.reverseRecOn with
  | nil => rfl
  | append_singleton members m ih =>
    have step : Value.entriesOf ((members ++ [m]).map memberEntry) =
        Value.insertEntry (.text m.1) m.2 ((resolved members).map memberEntry) := by
      rw [← ih, List.map_append, Value.entriesOf, List.foldl_append]
      rfl
    have names := map_fst_resolved members
    rw [step, resolved_concat]
    split
    · next old =>
      exact insertEntry_old m.1 m.2 (names ▸ nodup_eraseDups _)
        (names ▸ List.mem_eraseDups.mpr old)
    · next new =>
      exact insertEntry_new m.1 m.2 (names ▸ fun inside => new (List.mem_eraseDups.mp inside))

theorem resolved_of_nodup {members : List (Text × Value)} (distinct : (members.map (·.1)).Nodup) :
    resolved members = members := by
  induction members using List.reverseRecOn with
  | nil => rfl
  | append_singleton members m ih =>
    rw [List.map_append, List.map_singleton, List.nodup_append] at distinct
    obtain ⟨before, _, apart⟩ := distinct
    have new : m.1 ∉ members.map (·.1) :=
      fun old => apart m.1 old m.1 (List.mem_singleton.mpr rfl) rfl
    rw [resolved_concat, if_neg new, ih before]

theorem mem_resolved {members : List (Text × Value)} {m : Text × Value} :
    m ∈ resolved members ↔ last? members m.1 = some m := by
  rw [resolved, List.mem_filterMap]
  constructor
  · rintro ⟨name, -, last⟩
    rwa [last?_name last]
  · intro last
    exact ⟨m.1, List.mem_eraseDups.mpr (List.mem_map_of_mem (mem_of_last? last)), last⟩

/-! ### Values of names -/

theorem sameKey_text {s : Scalar} {t : Text} : s.sameKey (.text t) = true ↔ s = .text t := by
  cases s <;> simp [Scalar.sameKey, Scalar.integer?]

theorem sameKey_texts (s t : Text) : Scalar.sameKey (.text s) (.text t) = decide (s = t) := by
  rw [Bool.eq_iff_iff, sameKey_text, decide_eq_true_eq, Scalar.text.injEq]

theorem lookup_insertEntry (es : List (Scalar × Value)) (name other : Text) (v : Value) :
    Value.lookup (Value.insertEntry (.text name) v es) (.text other) =
      if name = other then some v else Value.lookup es (.text other) := by
  induction es with
  | nil =>
    by_cases equal : name = other <;>
      simp [Value.insertEntry, Value.lookup, sameKey_texts, equal]
  | cons e es ih =>
    rw [Value.insertEntry]
    by_cases here : e.1.sameKey (.text name) = true
    · rw [if_pos here]
      have same : e.1.sameKey (.text other) = decide (name = other) := by
        rw [sameKey_text.mp here, sameKey_texts]
      by_cases equal : name = other <;> simp [Value.lookup, same, equal]
    · rw [if_neg here]
      unfold Value.lookup at ih ⊢
      rw [List.find?_cons, List.find?_cons]
      cases there : e.1.sameKey (.text other) with
      | false => exact ih
      | true =>
        -- The entry of the other name keeps its value.
        have apart : name ≠ other := fun equal => here (equal ▸ there)
        rw [if_neg apart]

/-- A name has the value that came last. -/
theorem lookup_entriesOf (members : List (Text × Value)) (name : Text) :
    Value.lookup (Value.entriesOf (members.map memberEntry)) (.text name) =
      (last? members name).map (·.2) := by
  induction members using List.reverseRecOn with
  | nil => rfl
  | append_singleton members m ih =>
    have step : Value.entriesOf ((members ++ [m]).map memberEntry) =
        Value.insertEntry (.text m.1) m.2 (Value.entriesOf (members.map memberEntry)) := by
      rw [List.map_append, Value.entriesOf, List.foldl_append]
      rfl
    rw [step, lookup_insertEntry, last?_append, ih]
    split <;> rfl

end ChallengeDns.Json
