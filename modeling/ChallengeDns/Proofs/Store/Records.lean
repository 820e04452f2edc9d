import Mathlib
import ChallengeDns.Store.Records

/-!
# What records hold

Records are read through `lookup`, which forgets the order in which the keys came.  Every operation
is described by what it does to `lookup`, and records that look up alike hold the same entries in
some order.
-/
namespace ChallengeDns.Records

/-- The history of a key, if the key is there. -/
def lookup (r : Records) (k : Key) : Option History :=
  (r.entries.find? fun e => e.1 = k).map (·.2)

theorem get_eq (r : Records) (k : Key) :
    r.get k = ((r.lookup k).map History.values).getD [] := by
  unfold get lookup
  cases r.entries.find? fun e => e.1 = k <;> rfl

theorem history_eq (r : Records) (k : Key) : r.history k = (r.lookup k).getD .empty := by
  unfold history lookup
  cases r.entries.find? fun e => e.1 = k <;> rfl

theorem history_values (r : Records) (k : Key) : (r.history k).values = r.get k := by
  rw [get_eq, history_eq]
  cases r.lookup k <;> rfl

theorem take_get (r : Records) (k : Key) : (r.get k).take 2 = r.get k := by
  rw [← history_values]
  exact List.take_of_length_le (r.history k).bounded

/-- Cutting the older values first cuts nothing that the last cut would keep. -/
theorem take_append_take (newer older : List TxtValue) :
    (newer ++ older.take 2).take 2 = (newer ++ older).take 2 := by
  rw [List.take_append, List.take_append, List.take_take, Nat.min_eq_left (Nat.sub_le 2 _)]

theorem find_assign (k l : Key) (h : History) (es : List (Key × History)) :
    ((assign k h es).find? fun e => e.1 = l).map (·.2) =
      if k = l then some h else (es.find? fun e => e.1 = l).map (·.2) := by
  induction es with
  | nil => by_cases equal : k = l <;> simp [assign, equal]
  | cons e es ih =>
    unfold assign
    by_cases here : e.1 = k
    · rw [if_pos here]
      by_cases equal : k = l
      · simp [equal]
      · simp [here, equal]
    · rw [if_neg here]
      by_cases found : e.1 = l
      · have apart : k ≠ l := fun equal => here (found.trans equal.symm)
        simp [found, apart]
      · simpa [found] using ih

@[simp] theorem lookup_set (r : Records) (k l : Key) (h : History) :
    (r.set k h).lookup l = if k = l then some h else r.lookup l :=
  find_assign k l h r.entries

theorem lookup_put (r : Records) (k l : Key) (v : TxtValue) :
    (r.put k v).lookup l = if k = l then some ((r.history k).push v) else r.lookup l :=
  lookup_set r k l _

/-- The values of a key behind a new one, cut to two. -/
theorem get_put (r : Records) (k : Key) (v : TxtValue) :
    (r.put k v).get k = (v :: r.get k).take 2 := by
  rw [get_eq, lookup_put, if_pos rfl, ← history_values]
  rfl

/-- A value has come in front of the history of one key, and no other key has changed. -/
structure Pushed (r r' : Records) (k : Key) (v : TxtValue) : Prop where
  history : r'.get k = (v :: r.get k).take 2
  others : ∀ l, l ≠ k → r'.lookup l = r.lookup l

theorem pushed_put (r : Records) (k : Key) (v : TxtValue) : Pushed r (r.put k v) k v := by
  refine ⟨get_put r k v, ?_⟩
  intro l apart
  rw [lookup_put, if_neg (Ne.symm apart)]

/-- Where keys come once, what is found under a key is what stands there. -/
theorem find_iff_mem {es : List (Key × History)} (distinct : (es.map (·.1)).Nodup) (k : Key)
    (h : History) : (es.find? fun e => e.1 = k).map (·.2) = some h ↔ (k, h) ∈ es := by
  constructor
  · intro found
    obtain ⟨e, inside, value⟩ := Option.map_eq_some_iff.mp found
    have key : e.1 = k := by simpa using List.find?_some inside
    have entry : e = (k, h) := Prod.ext key value
    exact entry ▸ List.mem_of_find?_eq_some inside
  · intro member
    cases result : es.find? fun e => e.1 = k with
    | none =>
      have absent := List.find?_eq_none.mp result (k, h) member
      simp at absent
    | some e =>
      have key : e.1 = k := by simpa using List.find?_some result
      have present := List.mem_of_find?_eq_some result
      -- Both entries have the key `k`, and a key comes once.
      have equal : e = (k, h) := List.inj_on_of_nodup_map distinct present member key
      simp [equal]

theorem lookup_eq_some_iff (r : Records) (k : Key) (h : History) :
    r.lookup k = some h ↔ (k, h) ∈ r.entries :=
  find_iff_mem r.distinct k h

/-- Records that look up alike are the same but for the order of their entries. -/
theorem perm_of_lookup_eq {r s : Records} (alike : r.lookup = s.lookup) :
    r.entries.Perm s.entries := by
  apply (List.perm_ext_iff_of_nodup (List.Nodup.of_map _ r.distinct)
    (List.Nodup.of_map _ s.distinct)).mpr
  rintro ⟨k, h⟩
  rw [← lookup_eq_some_iff, ← lookup_eq_some_iff, alike]

theorem put_congr {r s : Records} (alike : r.lookup = s.lookup) (k : Key) (v : TxtValue) :
    (r.put k v).lookup = (s.put k v).lookup := by
  funext l
  rw [lookup_put, lookup_put, history_eq, history_eq, alike]

/-! ### Lists under keys -/

theorem ofLists_concat (lists : List (Key × List TxtValue)) (e : Key × List TxtValue) :
    ofLists (lists ++ [e]) = (ofLists lists).set e.1 (.ofList e.2) := by
  rw [ofLists, List.foldl_append]
  rfl

/-- Of several lists under one key the last counts. -/
theorem lookup_ofLists (lists : List (Key × List TxtValue)) (k : Key) :
    (ofLists lists).lookup k =
      (lists.reverse.find? fun e => e.1 = k).map fun e => .ofList e.2 := by
  induction lists using List.reverseRecOn with
  | nil => rfl
  | append_singleton lists e ih =>
    rw [ofLists_concat, lookup_set, ih, List.reverse_append, List.reverse_singleton,
      List.singleton_append, List.find?_cons]
    by_cases here : e.1 = k <;> simp [here]

theorem mem_keys_ofLists (lists : List (Key × List TxtValue)) (k : Key) :
    k ∈ (ofLists lists).entries.map (·.1) ↔ k ∈ lists.map (·.1) := by
  induction lists using List.reverseRecOn with
  | nil => rfl
  | append_singleton lists e ih =>
    rw [ofLists_concat, set, map_fst_assign, List.map_append, List.mem_append, ← ih]
    split
    · next old => simpa using fun (equal : k = e.1) => by simpa [equal] using old
    · simp

end ChallengeDns.Records
