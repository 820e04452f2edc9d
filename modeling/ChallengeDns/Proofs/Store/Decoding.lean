import Mathlib
import ChallengeDns.Proofs.Data.Fallible
import ChallengeDns.Proofs.Json.Grammar
import ChallengeDns.Proofs.Store.StateFile

/-!
# Which state files are read

A state file is read exactly if it is a JSON object of lists of texts under names.  Several keys of
the object can denote one name, in other case, with or without the final dot, or with escapes.  The
last of them counts, and its list is cut.

## Proof strategy

Reading is a traversal that relates each entry of the object to a key and a list.  Finding a key in
the lists is finding a name in the entries, from the back in both.
-/
namespace ChallengeDns.StateFile

/-! ### The shape of a state file -/

/-- A text is a JSON object whose names stand for domain names and whose values are lists of
texts. -/
structure Shaped (text : Text) (entries : List (Text × List Text)) : Prop where
  json : Json.read text = .ok (.mapping (entries.map Json.textsEntry))
  names : ∀ e ∈ entries, ∃ n, Name.readAbsolute e.1 = .ok n

/-- Whether a key is written for a name. -/
def denotes (key : Text) (n : Name) : Bool :=
  match Name.readAbsolute key with
  | .ok m => m.same n
  | .error _ => false

/-- What entries publish under a name: the first two texts of the last list that is written for
it. -/
def published (entries : List (Text × List Text)) (n : Name) : List TxtValue :=
  match entries.reverse.find? fun e => denotes e.1 n with
  | some e => (e.2.take 2).map TxtValue.text
  | none => []

/-- The names that entries are written for, in lower case. -/
def denoted (entries : List (Text × List Text)) : List Name :=
  entries.filterMap fun e => (Name.readAbsolute e.1).toOption.map Name.canonical

/-- An entry of the object gives a key and a list of values. -/
def Gives (e : Text × List Text) (l : Key × List TxtValue) : Prop :=
  ∃ n, Name.readAbsolute e.1 = .ok n ∧ Key.ofName n = .ok l.1 ∧ e.2.map TxtValue.text = l.2

theorem decodeEntry_ok_iff {path key : Text} {v : Value} {l : Key × List TxtValue} :
    decodeEntry path key v = .ok l ↔
      ∃ ts, v = .list (ts.map Value.ofText) ∧ Gives (key, ts) l := by
  constructor
  · intro decoded
    unfold decodeEntry at decoded
    split at decoded
    · cases decoded
    · next ts texts =>
      split at decoded
      · next k name =>
        cases decoded
        obtain ⟨n, read, made⟩ := bind_except_ok.mp name
        exact ⟨ts, texts?_eq_some.mp texts, n, read, made, rfl⟩
      · cases decoded
  · rintro ⟨ts, rfl, n, read, made, values⟩
    have name : (Name.readAbsolute key >>= Key.ofName) = .ok l.1 :=
      bind_except_ok.mpr ⟨n, read, made⟩
    simp only [decodeEntry, texts?_eq_some.mpr rfl, name, values]

/-- Members are decoded exactly if they are lists of texts under names. -/
theorem decodeEntries_members {path : Text} {members : List (Text × Value)}
    {lists : List (Key × List TxtValue)} :
    (decodeEntries path (members.map Json.memberEntry)).1 = .ok lists ↔
      ∃ entries : List (Text × List Text),
        members.map Json.memberEntry = entries.map Json.textsEntry ∧
          List.Forall₂ Gives entries lists := by
  rw [decodeEntries_ok_iff, List.forall₂_map_left_iff]
  constructor
  · intro related
    induction related with
    | nil => exact ⟨[], rfl, .nil⟩
    | @cons m l members lists first _ ih =>
      obtain ⟨ts, texts, given⟩ := decodeEntry_ok_iff.mp first
      obtain ⟨entries, same, rest⟩ := ih
      have entry : Json.memberEntry m = Json.textsEntry (m.1, ts) := Prod.ext rfl texts
      exact ⟨(m.1, ts) :: entries, by rw [List.map_cons, List.map_cons, entry, same],
        .cons given rest⟩
  · rintro ⟨entries, same, related⟩
    rw [← List.forall₂_map_left_iff (f := Json.memberEntry) (R := fun e l =>
      decodeEntry path e.1.plain e.2 = .ok l), same, List.forall₂_map_left_iff]
    exact related.imp fun e l given => decodeEntry_ok_iff.mpr ⟨e.2, rfl, given⟩

theorem decode_ok_iff {path text : Text} {r : Records} :
    (decode path text).1 = .ok r ↔
      ∃ entries lists, Json.read text = .ok (.mapping (entries.map Json.textsEntry)) ∧
        List.Forall₂ Gives entries lists ∧ Records.ofLists lists = r := by
  constructor
  · intro decoded
    unfold decode object at decoded
    split at decoded
    · cases decoded
    · next es found =>
      split at found <;> cases found
      next read =>
      cases done : (decodeEntries path es).1 with
      | error e => simp [done, Except.map] at decoded
      | ok lists =>
        simp only [done, Except.map, Except.ok.injEq] at decoded
        -- The keys of an object are texts, so its entries are members.
        obtain ⟨members, _, rfl⟩ := Json.exists_members read
        obtain ⟨entries, same, related⟩ := decodeEntries_members.mp done
        exact ⟨entries, lists, same ▸ read, related, decoded⟩
  · rintro ⟨entries, lists, read, related, rfl⟩
    have done : (decodeEntries path (entries.map Json.textsEntry)).1 = .ok lists := by
      rw [decodeEntries_ok_iff, List.forall₂_map_left_iff]
      exact related.imp fun e l given => decodeEntry_ok_iff.mpr ⟨e.2, rfl, given⟩
    simp only [decode, object, read, done, Except.map]

section Lists

variable {entries : List (Text × List Text)} {lists : List (Key × List TxtValue)}

theorem exists_lists (names : ∀ e ∈ entries, ∃ n, Name.readAbsolute e.1 = .ok n) :
    ∃ lists, List.Forall₂ Gives entries lists := by
  induction entries with
  | nil => exact ⟨[], .nil⟩
  | cons e entries ih =>
    obtain ⟨⟨n, read⟩, others⟩ := List.forall_mem_cons.mp names
    obtain ⟨k, made⟩ := Key.ofName_of_absolute (Name.readAbsolute_absolute read)
    obtain ⟨lists, related⟩ := ih others
    exact ⟨(k, e.2.map TxtValue.text) :: lists, .cons ⟨n, read, made, rfl⟩ related⟩

variable (related : List.Forall₂ Gives entries lists)
include related

theorem names_of_gives : ∀ e ∈ entries, ∃ n, Name.readAbsolute e.1 = .ok n := by
  induction related with
  | nil => nofun
  | cons given _ ih =>
    obtain ⟨n, read, _⟩ := given
    exact List.forall_mem_cons.mpr ⟨⟨n, read⟩, ih⟩

theorem denoted_of_gives : denoted entries = lists.map fun l => l.1.name := by
  induction related with
  | nil => rfl
  | cons given _ ih =>
    obtain ⟨n, read, made, _⟩ := given
    rw [denoted] at ih ⊢
    rw [List.filterMap_cons, read, List.map_cons, ← ih, Key.ofName_ok made]
    rfl

/-- The last list of a key is that of the last entry that is written for the key's name. -/
theorem get_of_gives {n : Name} {k : Key} (made : Key.ofName n = .ok k) :
    (Records.ofLists lists).get k = published entries n := by
  have agree (e : Text × List Text) (l : Key × List TxtValue) (given : Gives e l) :
      denotes e.1 n = decide (l.1 = k) := by
    obtain ⟨m, read, key, _⟩ := given
    rw [denotes, read, Bool.eq_iff_iff, decide_eq_true_iff]
    exact (Key.eq_iff_same key made).symm
  -- The search goes through both lists from the back and ends at corresponding places.
  have last := rel_find? agree (List.forall₂_reverse_iff.mpr related)
  rw [Records.get_eq, Records.lookup_ofLists, published]
  revert last
  cases entries.reverse.find? fun e => denotes e.1 n <;>
    cases lists.reverse.find? fun l => decide (l.1 = k)
  case none.none => exact fun _ => rfl
  case none.some => nofun
  case some.none => nofun
  case some.some e l =>
    intro last
    cases last with
    | some given =>
    obtain ⟨_, _, _, values⟩ := given
    change l.2.take 2 = (e.2.take 2).map TxtValue.text
    rw [← values, List.map_take]

theorem size_of_gives : (Records.ofLists lists).size = (denoted entries).toFinset.card := by
  -- The keys come once, so their number is that of the names they stand for.
  let keys := (Records.ofLists lists).entries.map (·.1)
  have distinct : (keys.map Key.name).Nodup :=
    (Records.ofLists lists).distinct.map fun _ _ => Key.ext_name
  have same : (keys.map Key.name).toFinset = (denoted entries).toFinset := by
    have split : denoted entries = (lists.map (·.1)).map Key.name := by
      rw [denoted_of_gives related, List.map_map]
      rfl
    ext n
    simp only [split, List.mem_toFinset, List.mem_map (f := Key.name), keys,
      Records.mem_keys_ofLists]
  rw [← same, List.toFinset_card_of_nodup distinct, List.length_map, List.length_map, Records.size]

end Lists

theorem exists_decode_iff (path text : Text) :
    (∃ r, (decode path text).1 = .ok r) ↔ ∃ entries, Shaped text entries := by
  constructor
  · rintro ⟨r, decoded⟩
    obtain ⟨entries, lists, read, related, _⟩ := decode_ok_iff.mp decoded
    exact ⟨entries, read, names_of_gives related⟩
  · rintro ⟨entries, read, names⟩
    obtain ⟨lists, related⟩ := exists_lists names
    exact ⟨_, decode_ok_iff.mpr ⟨entries, lists, read, related, rfl⟩⟩

/-- A state file is read exactly if it has the shape.  The store then gives for every name the first
two texts of the last entry that is written for it, and has as many names as are written.  The
entries are the members of the text: a name that comes again stays where it came first and has the
list that came last. -/
theorem decodes_shaped (path text : Text) :
    ((∃ r, (decode path text).1 = .ok r) ↔ ∃ entries, Shaped text entries) ∧
      ∀ r entries, (decode path text).1 = .ok r → Shaped text entries →
        (∀ n : Name, n.absolute = true →
          (Store.memory r).get (.name n) = published entries n) ∧
        r.size = (denoted entries).toFinset.card ∧
        ∃ members : List (Text × Json.Tree),
          (Json.tokens text).map (·.2) = (Json.Tree.object members).tokens ∧
          entries.map Json.textsEntry =
            (Json.resolved (members.map fun m => (m.1, m.2.value))).map Json.memberEntry := by
  refine ⟨exists_decode_iff path text, ?_⟩
  intro r entries decoded shaped
  obtain ⟨others, lists, read, related, rfl⟩ := decode_ok_iff.mp decoded
  -- The text determines its entries, since these determine the object that is read.
  have same : others = entries := by
    have object := read.symm.trans shaped.json
    rw [Except.ok.injEq, Value.mapping.injEq] at object
    exact Json.textsEntry_injective.list_map object
  subst same
  refine ⟨fun n absolute => ?_, size_of_gives related, Json.exists_members read⟩
  obtain ⟨k, made⟩ := Key.ofName_of_absolute absolute
  have key : Key.ofGiven (.name n) = .ok k := made
  rw [Store.get, key, ← get_of_gives related made]
  rfl

/-- An object in which one key comes again and two keys are written for one name. -/
def sampleText : Text :=
  "\x7b\"b.\": 1, \"A.example\": [\"x\"], \"a.example.\": [\"y\", \"z\", \"w\"], \"b.\": []\x7d"

def sampleEntries : List (Text × List Text) :=
  [("b.", []), ("A.example", ["x"]), ("a.example.", ["y", "z", "w"])]

theorem decodes_shaped_sample :
    ∃ r n, (decode "state" sampleText).1 = .ok r ∧ Name.readAbsolute "A.EXAMPLE" = .ok n ∧
      (Store.memory r).get (.name n) = [.text "y", .text "z"] ∧ r.size = 2 := by
  have shaped : Shaped sampleText sampleEntries := by
    refine ⟨rfl, ?_⟩
    simp only [sampleEntries, List.forall_mem_cons]
    exact ⟨⟨_, rfl⟩, ⟨_, rfl⟩, ⟨_, rfl⟩, nofun⟩
  obtain ⟨accepts, holds⟩ := decodes_shaped "state" sampleText
  obtain ⟨r, decoded⟩ := accepts.mpr ⟨_, shaped⟩
  obtain ⟨get, size, _⟩ := holds r sampleEntries decoded shaped
  exact ⟨r, _, decoded, rfl, (get _ rfl).trans rfl, size.trans (by decide +kernel)⟩

end ChallengeDns.StateFile
