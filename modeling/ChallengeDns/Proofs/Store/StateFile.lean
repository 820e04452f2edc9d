import Mathlib
import ChallengeDns.Proofs.Data.Fallible
import ChallengeDns.Proofs.Data.Values
import ChallengeDns.Proofs.Json.Occurrence
import ChallengeDns.Proofs.Json.Writing
import ChallengeDns.Proofs.Name.Text
import ChallengeDns.Proofs.Store.Saving

/-!
# State files are read back

Records whose values are joined texts come back from their text, but for the order of their keys.
The records that come out of any state file are of this kind.
-/
namespace ChallengeDns

/-! ### The text of a file -/

namespace Store

/-- Plain text comes back from the file that it was written to. -/
theorem contentText_plain {t : Text} (plain : t.IsPlain) : contentText (Text.utf8 t) = .ok t := by
  unfold contentText
  rw [Text.decode_ok_iff.mpr (Text.encode_plain plain)]
  simp only [Text.unifyNewlines_plain plain]

/-- The text of a file holds no surrogates. -/
theorem contentText_whole {content : Bytes} {t : Text} (read : contentText content = .ok t) :
    t.IsWhole := by
  unfold contentText at read
  cases decoded : Text.decode content with
  | error e => simp [decoded] at read
  | ok u =>
    simp only [decoded, Except.ok.injEq] at read
    subst read
    intro c member
    rcases Text.mem_unifyNewlines member with inside | rfl
    · exact Text.whole_of_encode (Text.decode_ok_iff.mp decoded) c inside
    · rfl

end Store

/-! ### Records as texts -/

def TxtValue.written : TxtValue → Text
  | .text t => t
  | .octets _ => []

/-- A value that a state file can hold and give back. -/
def TxtValue.IsKept (v : TxtValue) : Prop := ∃ t, v = .text t ∧ t.IsJoined

/-- The text of a key's name and the texts of its values. -/
def Key.written (e : Key × History) : Text × List Text :=
  (e.1.name.text, e.2.values.map TxtValue.written)

namespace Records

/-- Records that a state file can hold and give back. -/
def AreKept (r : Records) : Prop := ∀ k, ∀ v ∈ r.get k, v.IsKept

theorem AreKept.values {r : Records} (kept : r.AreKept) {e : Key × History}
    (member : e ∈ r.entries) : ∀ v ∈ e.2.values, v.IsKept := by
  have found := (lookup_eq_some_iff r e.1 e.2).mpr member
  have values : r.get e.1 = e.2.values := by rw [get_eq, found]; rfl
  exact values ▸ kept e.1

theorem map_written {values : List TxtValue} (kept : ∀ v ∈ values, v.IsKept) :
    (values.map TxtValue.written).map TxtValue.text = values := by
  induction values with
  | nil => rfl
  | cons v values ih =>
    obtain ⟨⟨t, text, _⟩, rest⟩ := List.forall_mem_cons.mp kept
    rw [List.map_cons, List.map_cons, ih rest, text]
    rfl

theorem distinct_names (r : Records) : ((r.entries.map Key.written).map (·.1)).Nodup := by
  have names : (r.entries.map Key.written).map (·.1) =
      (r.entries.map (·.1)).map fun k => k.name.text := by
    rw [List.map_map, List.map_map]
    rfl
  rw [names]
  refine List.Nodup.map ?_ r.distinct
  intro k l equal
  exact Key.ext_name (Name.text_injective k.absolute l.absolute equal)

end Records

namespace StateFile

theorem encode_eq {r : Records} (kept : r.AreKept) :
    encode r = .ok (Json.objectText .indented (r.entries.map Key.written)) := by
  have snapshot :
      (r.snapshot.map fun e => (Scalar.text e.1, Value.list (e.2.map TxtValue.toValue))) =
        (r.entries.map Key.written).map Json.textsEntry := by
    rw [Records.snapshot, List.map_map, List.map_map]
    refine List.map_congr_left fun e member => ?_
    have values : e.2.values.map TxtValue.toValue =
        (e.2.values.map TxtValue.written).map Value.ofText := by
      have texts := Records.map_written (kept.values member)
      calc
        e.2.values.map TxtValue.toValue =
            ((e.2.values.map TxtValue.written).map TxtValue.text).map TxtValue.toValue := by
          rw [texts]
        _ = (e.2.values.map TxtValue.written).map Value.ofText := by rw [List.map_map]; rfl
    simp only [Function.comp_apply, Json.textsEntry, Key.written, values]
  rw [encode, snapshot, Json.write_object]

theorem mapM_text?_eq_some {items : List Value} {ts : List Text} :
    items.mapM Value.text? = some ts ↔ items = ts.map Value.ofText := by
  induction items generalizing ts with
  | nil => cases ts <;> simp
  | cons v items ih =>
    rw [List.mapM_cons]
    constructor
    · intro texts
      obtain ⟨t, first, texts⟩ := Option.bind_eq_some_iff.mp texts
      obtain ⟨us, rest, whole⟩ := Option.bind_eq_some_iff.mp texts
      cases whole
      rw [Value.text?_eq_some.mp first, ih.mp rest, List.map_cons]
    · intro texts
      cases ts with
      | nil => cases texts
      | cons t ts =>
        obtain ⟨first, rest⟩ := List.cons.inj texts
        rw [first, ih.mpr rest]
        rfl

theorem texts?_eq_some {v : Value} {ts : List Text} :
    texts? v = some ts ↔ v = .list (ts.map Value.ofText) := by
  constructor
  · intro texts
    obtain ⟨items, list, texts⟩ := Option.bind_eq_some_iff.mp texts
    rw [Value.items?_eq_some.mp list, mapM_text?_eq_some.mp texts]
  · rintro rfl
    exact mapM_text?_eq_some.mpr rfl

theorem decodeEntries_cons (path : Text) (e : Scalar × Value) (es : List (Scalar × Value)) :
    (decodeEntries path (e :: es)).1 =
      (decodeEntry path e.1.plain e.2).bind fun l => (decodeEntries path es).1.map (l :: ·) := by
  rw [decodeEntries]
  cases decodeEntry path e.1.plain e.2 <;> rfl

/-- Decoding goes through the entries one after the other. -/
theorem decodeEntries_ok_iff {path : Text} {es : List (Scalar × Value)}
    {lists : List (Key × List TxtValue)} :
    (decodeEntries path es).1 = .ok lists ↔
      List.Forall₂ (fun e l => decodeEntry path e.1.plain e.2 = .ok l) es lists := by
  have traversal : (decodeEntries path es).1 =
      es.mapM fun e => decodeEntry path e.1.plain e.2 := by
    induction es with
    | nil => rfl
    | cons e es ih => rw [decodeEntries_cons, mapM_except_cons, ih]
  rw [traversal, mapM_except_ok]

theorem decodeEntry_written (path : Text) {e : Key × History}
    (kept : ∀ v ∈ e.2.values, v.IsKept) :
    decodeEntry path e.1.name.text (.list ((Key.written e).2.map Value.ofText)) =
      .ok (e.1, e.2.values) := by
  have values := Records.map_written kept
  simp only [decodeEntry, texts?_eq_some.mpr rfl, Key.read_text]
  rw [Key.written, values]

theorem decodeEntries_written (path : Text) {es : List (Key × History)}
    (kept : ∀ e ∈ es, ∀ v ∈ e.2.values, v.IsKept) :
    (decodeEntries path ((es.map Key.written).map Json.textsEntry)).1 =
      .ok (es.map fun e => (e.1, e.2.values)) := by
  rw [decodeEntries_ok_iff, List.forall₂_map_left_iff, List.forall₂_map_left_iff,
    List.forall₂_map_right_iff, List.forall₂_same]
  exact fun e member => decodeEntry_written path (kept e member)

/-- A history has at most two values, so cutting it again does nothing. -/
theorem ofList_values (h : History) : History.ofList h.values = h := by
  cases h with
  | mk values bounded =>
    have taken : values.take 2 = values := List.take_of_length_le bounded
    simp only [History.ofList, History.capacity, taken]

theorem lookup_histories {es : List (Key × History)} (distinct : (es.map (·.1)).Nodup) (k : Key)
    (h : History) :
    (Records.ofLists (es.map fun e => (e.1, e.2.values))).lookup k = some h ↔ (k, h) ∈ es := by
  have backwards : (es.reverse.map (·.1)).Nodup := by
    rwa [List.map_reverse, List.nodup_reverse]
  rw [← List.mem_reverse, ← Records.find_iff_mem backwards, Records.lookup_ofLists,
    ← List.map_reverse, List.find?_map, Option.map_map]
  simp only [Function.comp_def, ofList_values]

/-- Records that a state file can hold come back from their text. -/
theorem decode_encode {r : Records} (kept : r.AreKept) :
    ∃ text, encode r = .ok text ∧ text.IsPlain ∧
      ∀ path, ∃ r', (decode path text).1 = .ok r' ∧ r'.lookup = r.lookup := by
  let es := r.entries.map Key.written
  have regular := Json.Layout.regular_indented
  refine ⟨_, encode_eq kept, Json.plain_objectText regular es, ?_⟩
  intro path
  have joined : ∀ e ∈ es, e.1.IsJoined ∧ ∀ t ∈ e.2, t.IsJoined := by
    intro e member
    obtain ⟨entry, inside, rfl⟩ := List.mem_map.mp member
    refine ⟨joined_of_ascii (Name.text_ascii entry.1.absolute), ?_⟩
    refine List.forall_mem_map.mpr fun v value => ?_
    obtain ⟨t, rfl, whole⟩ := kept.values inside v value
    exact whole
  -- The members are the entries of the records in another order.
  obtain ⟨entries, members, perm⟩ : Relation.Comp
      (fun ys (zs : List (Key × History)) => ys = zs.map Key.written) List.Perm
      (Json.arranged .indented es) r.entries := by
    rw [List.eq_map_comp_perm]
    exact Json.arranged_perm .indented es
  have read := Json.read_object regular joined r.distinct_names
  rw [members] at read
  have values : ∀ e ∈ entries, ∀ v ∈ e.2.values, v.IsKept :=
    fun e member => kept.values (perm.mem_iff.mp member)
  have decoded := decodeEntries_written path values
  refine ⟨Records.ofLists (entries.map fun e => (e.1, e.2.values)), ?_, ?_⟩
  · have members : object path (Json.objectText .indented es) =
        .ok ((entries.map Key.written).map Json.textsEntry) := by
      unfold object
      rw [read]
    unfold decode
    rw [members]
    change Except.map Records.ofLists (decodeEntries path _).1 = _
    rw [decoded]
    rfl
  · funext k
    refine Option.ext fun h => ?_
    rw [lookup_histories ((perm.map (·.1)).nodup_iff.mpr r.distinct), perm.mem_iff,
      Records.lookup_eq_some_iff]

/-! ### Whatever is read is kept -/

theorem mem_texts? {v : Value} {ts : List Text} (texts : texts? v = some ts) {t : Text}
    (member : t ∈ ts) : v.Occurs t := by
  rw [texts?_eq_some.mp texts]
  exact .item (List.mem_map_of_mem member) .here

theorem decodeEntry_kept {path key : Text} {v : Value} {entry : Key × List TxtValue}
    (joined : v.AllTexts Text.IsJoined) (decoded : decodeEntry path key v = .ok entry) :
    ∀ w ∈ entry.2, w.IsKept := by
  unfold decodeEntry at decoded
  split at decoded
  · cases decoded
  · next ts texts =>
    split at decoded
    · cases decoded
      -- A value of the file is a text of its JSON, and these are joined.
      refine List.forall_mem_map.mpr fun t member => ?_
      exact ⟨t, rfl, joined t (mem_texts? texts member)⟩
    · cases decoded

theorem decodeEntries_kept {path : Text} {es : List (Scalar × Value)}
    {lists : List (Key × List TxtValue)} (joined : ∀ e ∈ es, e.2.AllTexts Text.IsJoined)
    (decoded : (decodeEntries path es).1 = .ok lists) :
    ∀ e ∈ lists, ∀ v ∈ e.2, v.IsKept := by
  have related := decodeEntries_ok_iff.mp decoded
  clear decoded
  induction related with
  | nil => nofun
  | cons first _ ih =>
    obtain ⟨here, later⟩ := List.forall_mem_cons.mp joined
    exact List.forall_mem_cons.mpr ⟨decodeEntry_kept here first, ih later⟩

theorem foldl_set_kept {lists : List (Key × List TxtValue)}
    (values : ∀ e ∈ lists, ∀ v ∈ e.2, v.IsKept) {r : Records} (kept : r.AreKept) :
    (lists.foldl (fun r e => r.set e.1 (.ofList e.2)) r).AreKept := by
  induction lists generalizing r with
  | nil => exact kept
  | cons e lists ih =>
    obtain ⟨first, rest⟩ := List.forall_mem_cons.mp values
    refine ih rest fun k v member => ?_
    rw [Records.get_eq, Records.lookup_set] at member
    -- Setting a key cuts its list, and every value that is left was in it.
    by_cases here : e.1 = k
    · rw [if_pos here] at member
      exact first v (List.mem_of_mem_take member)
    · rw [if_neg here, ← Records.get_eq] at member
      exact kept k v member

/-- The records of any state file without surrogates can be held by a state file. -/
theorem decode_kept {path text : Text} {r : Records} (whole : text.IsWhole)
    (decoded : (decode path text).1 = .ok r) : r.AreKept := by
  unfold decode at decoded
  cases read : object path text with
  | error e => simp [read] at decoded
  | ok es =>
    have joined : ∀ e ∈ es, e.2.AllTexts Text.IsJoined := by
      unfold object at read
      split at read
      case h_4 members json =>
        cases read
        intro e member t occurs
        exact Json.read_joined whole json t (.entry member occurs)
      all_goals cases read
    cases entries : (decodeEntries path es).1 with
    | error e => simp [read, entries, Except.map] at decoded
    | ok lists =>
      simp only [read, entries, Except.map, Except.ok.injEq] at decoded
      subst decoded
      exact foldl_set_kept (decodeEntries_kept joined entries) nofun

end StateFile

end ChallengeDns
