import Mathlib
import ChallengeDns.Proofs.Answer.Static

/-!
# Questions for addresses

The addresses of a name are listed together and asked for apart.  A question for IPv4 addresses and
one for IPv6 addresses agree on whether the name is known, and what the one leaves out of the list
the other one tells, each address once and in the order in which it is listed first.
-/
namespace ChallengeDns

namespace RecordData

/-- The record that holds an address; a zone has no place in it. -/
def ofAddress : Address → RecordData
  | .v4 bits => .a bits
  | .v6 bits _ => .aaaa bits

theorem ofAddress_isPlain (x : Address) : (ofAddress x).IsPlain := by
  cases x <;> intro e <;> cases e <;> simp [ofAddress, same, Bool.beq_comm]

/-- Plain records are different when they hold different data. -/
theorem nodup_dedupe (ds : List RecordData) : (dedupe ds).Nodup :=
  (dedupe_pairwise ds).imp fun apart equal => by simp [equal, same_refl] at apart

/-- The records of the addresses of a version. -/
def ofVersion (version : Nat) (as : List Address) : List RecordData :=
  (as.filter (·.version = version)).map ofAddress

variable {version : Nat} {as : List Address}

theorem ofVersion_eq_filterMap (version : Nat) (as : List Address) :
    ofVersion version as =
      as.filterMap fun x => if x.version = version then some (ofAddress x) else none := by
  induction as with
  | nil => rfl
  | cons x as ih =>
    rw [List.filterMap_cons, ← ih]
    by_cases kind : x.version = version <;> simp [ofVersion, kind]

theorem dedupe_ofVersion (version : Nat) (as : List Address) :
    dedupe (ofVersion version as) = (ofVersion version as).eraseDups := by
  refine dedupe_of_plain fun d member => ?_
  obtain ⟨x, -, rfl⟩ := List.mem_map.mp member
  exact ofAddress_isPlain x

theorem mem_ofVersion {d : RecordData} (member : d ∈ ofVersion version as) :
    ∃ x ∈ as, x.version = version ∧ d = ofAddress x := by
  obtain ⟨x, inside, rfl⟩ := List.mem_map.mp member
  exact ⟨x, (List.mem_filter.mp inside).1, by simpa using (List.mem_filter.mp inside).2, rfl⟩

theorem ofVersion_eq_nil {other : Nat} (apart : other ≠ version)
    (only : ∀ x ∈ as, x.version = other) : ofVersion version as = [] := by
  rw [ofVersion, List.map_eq_nil_iff, List.filter_eq_nil_iff]
  intro x member
  simpa [only x member] using apart

theorem version_ofAddress {x y : Address} (equal : ofAddress x = ofAddress y) :
    x.version = y.version := by
  cases x <;> cases y <;> simp_all [ofAddress, Address.version]

theorem ofAddress_mem_iff {x : Address} (member : x ∈ as) :
    ofAddress x ∈ (ofVersion version as).eraseDups ↔ x.version = version := by
  rw [List.mem_eraseDups]
  constructor
  · intro inside
    obtain ⟨y, -, kind, equal⟩ := mem_ofVersion inside
    exact (version_ofAddress equal).trans kind
  · intro kind
    exact List.mem_map_of_mem (List.mem_filter.mpr ⟨member, by simpa using kind⟩)

end RecordData

namespace Address

/-- An address has a zone. -/
def IsZoned (x : Address) : Prop := ∃ bits zone, x = .v6 bits (some zone)

theorem version_cases (x : Address) : x.version = 4 ∨ x.version = 6 := by
  cases x <;> simp [version]

/-- Addresses without zones are told apart by their records. -/
theorem eq_of_ofAddress {x y : Address} (plain : ¬x.IsZoned) (plain' : ¬y.IsZoned)
    (equal : RecordData.ofAddress x = RecordData.ofAddress y) : x = y := by
  cases x with
  | v4 bits => cases y <;> simp_all [RecordData.ofAddress]
  | v6 bits zone =>
    cases y with
    | v4 bits' => cases equal
    | v6 bits' zone' =>
      cases equal
      cases zone <;> cases zone' <;> simp_all [IsZoned]

end Address

/-- The records of a reply. -/
def Reply.records (r : Reply) : List RecordData := (r.answer.map (·.records)).getD []

/-- Two lists of records split a list of addresses. -/
structure Splits (as : List Address) (v4 v6 : List RecordData) : Prop where
  /-- The IPv4 addresses once each, in the order of first occurrence. -/
  first : v4 = (RecordData.ofVersion 4 as).eraseDups
  second : v6 = (RecordData.ofVersion 6 as).eraseDups
  once : (v4 ++ v6).Nodup
  one : ∀ x ∈ as, Xor (RecordData.ofAddress x ∈ v4) (RecordData.ofAddress x ∈ v6)
  only : ∀ d ∈ v4 ++ v6, ∃ x ∈ as, d = RecordData.ofAddress x
  told : ∀ x ∈ as, ∀ y ∈ as, RecordData.ofAddress x = RecordData.ofAddress y → x = y

theorem splits_of_plain {as : List Address} (plain : ∀ x ∈ as, ¬x.IsZoned) :
    Splits as (RecordData.ofVersion 4 as).eraseDups (RecordData.ofVersion 6 as).eraseDups where
  first := rfl
  second := rfl
  once := by
    rw [← RecordData.dedupe_ofVersion, ← RecordData.dedupe_ofVersion, List.nodup_append]
    refine ⟨RecordData.nodup_dedupe _, RecordData.nodup_dedupe _, fun c left d right equal => ?_⟩
    obtain ⟨x, -, four, rfl⟩ := RecordData.mem_ofVersion (RecordData.mem_of_mem_dedupe left)
    obtain ⟨y, -, six, rfl⟩ := RecordData.mem_ofVersion (RecordData.mem_of_mem_dedupe right)
    -- Equal records would be of one version.
    have version := RecordData.version_ofAddress equal
    omega
  one x member := by
    rw [RecordData.ofAddress_mem_iff member, RecordData.ofAddress_mem_iff member]
    rcases x.version_cases with four | six
    · exact Or.inl ⟨four, by omega⟩
    · exact Or.inr ⟨six, by omega⟩
  only d member := by
    rw [List.mem_append, List.mem_eraseDups, List.mem_eraseDups] at member
    rcases member with four | six
    · obtain ⟨x, inside, -, equal⟩ := RecordData.mem_ofVersion four
      exact ⟨x, inside, equal⟩
    · obtain ⟨x, inside, -, equal⟩ := RecordData.mem_ofVersion six
      exact ⟨x, inside, equal⟩
  told x member y member' := Address.eq_of_ofAddress (plain x member) (plain y member')

namespace Authority

section Versions

variable {a : Authority} {b : Backing} {q : Query} {question : Question} {as : List Address}

/-- The addresses of the version that is asked for are told, and the others are left out. -/
theorem answerAddresses_version {n : Name} {version : Nat}
    {record : Address → Except AnswerError (Option RecordData)}
    (held : a.records.addresses.get? n = some as)
    (made : ∀ x ∈ as, record x =
      .ok (if x.version = version then some (RecordData.ofAddress x) else none)) :
    a.answerAddresses n record = .ok (.authoritative, RecordData.ofVersion version as) := by
  have all : as.mapM record =
      .ok (as.map fun x => if x.version = version then some (RecordData.ofAddress x) else none) :=
    mapM_except_ok.mpr (List.forall₂_map_right_iff.mpr (List.forall₂_same.mpr made))
  rw [answerAddresses, held]
  dsimp only
  rw [all, RecordData.ofVersion_eq_filterMap]
  exact congrArg (fun ds => Except.ok (Outcome.authoritative, ds)) List.filterMap_map

theorem v4Record_version (x : Address) :
    v4Record x = .ok (if x.version = 4 then some (RecordData.ofAddress x) else none) := by
  cases x <;> simp [Address.version, RecordData.ofAddress]

theorem v6Record_version {x : Address} (plain : ¬x.IsZoned) :
    v6Record x = .ok (if x.version = 6 then some (RecordData.ofAddress x) else none) := by
  cases x with
  | v4 bits => simp [Address.version]
  | v6 bits zone =>
    cases zone with
    | none => simp [Address.version, RecordData.ofAddress]
    | some zone => exact absurd ⟨bits, zone, rfl⟩ plain

/-- A name that is not listed is not found. -/
theorem ending_of_unknown {record : Address → Except AnswerError (Option RecordData)}
    (poses : Poses q question)
    (asked : a.answerQuestion b question = a.answerAddresses question.name record)
    (unknown : a.records.addresses.get? question.name = none) :
    a.ending b q = (.notFound, []) := by
  rw [ending_of_poses poses, asked, answerAddresses, unknown]
  rfl

theorem ending_a (poses : Poses q question) (asked : question.kind = .a)
    (held : a.records.addresses.get? question.name = some as) :
    a.ending b q = (.authoritative, RecordData.ofVersion 4 as) := by
  rw [ending_of_poses poses, answerQuestion_a asked,
    answerAddresses_version held fun x _ => v4Record_version x]
  rfl

theorem ending_aaaa (poses : Poses q question) (asked : question.kind = .aaaa)
    (held : a.records.addresses.get? question.name = some as) (plain : ∀ x ∈ as, ¬x.IsZoned) :
    a.ending b q = (.authoritative, RecordData.ofVersion 6 as) := by
  rw [ending_of_poses poses, answerQuestion_aaaa asked,
    answerAddresses_version held fun x member => v6Record_version (plain x member)]
  rfl

theorem ending_aaaa_zoned (poses : Poses q question) (asked : question.kind = .aaaa)
    (held : a.records.addresses.get? question.name = some as) (zoned : ∃ x ∈ as, x.IsZoned) :
    a.ending b q = (.serverError, []) := by
  obtain ⟨_, member, bits, zone, rfl⟩ := zoned
  rw [ending_of_poses poses, answerQuestion_aaaa asked, answerAddresses, held]
  dsimp only
  cases all : as.mapM v6Record with
  | error e => rfl
  | ok rs =>
    obtain ⟨r, -, step⟩ := exists_mem_mapM_except all member
    rw [v6Record_zoned] at step
    cases step

/-- An answer that says that a name is known and has nothing of the kind. -/
structure IsEmptyAnswer (r : Reply) : Prop where
  authoritative : r.authoritative = true
  code : r.code = .noError
  answer : r.answer = none

theorem isEmptyAnswer_of_ending (found : a.ending b q = (.authoritative, [])) :
    IsEmptyAnswer (a.respond b q).1 := by
  rw [respond_reply, found]
  exact ⟨rfl, rfl, rfl⟩

theorem records_of_ending {ds : List RecordData} (poses : Poses q question)
    (found : a.ending b q = (.authoritative, ds)) :
    (a.respond b q).1.records = RecordData.dedupe ds := by
  obtain ⟨more, questions⟩ := poses.first
  rw [respond_reply, found]
  cases ds with
  | nil => rfl
  | cons d ds =>
    unfold replyWith
    rw [questions]
    rfl

end Versions

/-- No key of a table is the name. -/
theorem get?_eq_none_iff {α : Type} {m : NameMap α} {n : Name} :
    m.get? n = none ↔ ∀ e ∈ m, e.1.same n = false := by
  simp [NameMap.get?, List.find?_eq_none]

/-- Questions for the IPv4 and for the IPv6 addresses of a name, in any spelling, agree on whether
the name is listed.  If it is, the first one is answered, and so is the second one unless an address
has a zone; the answers to both split the listed addresses, and a name with addresses of one version
has an empty answer for the other. -/
theorem addresses_split {a : Authority} {b b' : Backing} {q q' : Query} {v4 v6 : Question}
    (poses : Poses q v4) (asked : v4.kind = .a) (poses' : Poses q' v6) (asked' : v6.kind = .aaaa)
    (same : v4.name.same v6.name = true) :
    ((a.ending b q).1 = .notFound ↔ ∀ e ∈ a.records.addresses, e.1.same v4.name = false) ∧
    ((a.ending b' q').1 = .notFound ↔ ∀ e ∈ a.records.addresses, e.1.same v4.name = false) ∧
    ∀ as, a.records.addresses.get? v4.name = some as →
      (a.ending b q).1 = .authoritative ∧
      ((a.ending b' q').1 = .authoritative ↔ ∀ x ∈ as, ¬x.IsZoned) ∧
      ((a.ending b' q').1 = .authoritative →
        Splits as (a.respond b q).1.records (a.respond b' q').1.records) ∧
      ((∀ x ∈ as, x.version = 6) → IsEmptyAnswer (a.respond b q).1) ∧
      ((∀ x ∈ as, x.version = 4) → IsEmptyAnswer (a.respond b' q').1) := by
  -- The table is looked up without regard to case.
  have spelled : a.records.addresses.get? v6.name = a.records.addresses.get? v4.name := by
    simp only [NameMap.get?, Name.same_comm _ v6.name, Name.same_comm _ v4.name,
      Name.same_congr same]
  rw [← get?_eq_none_iff]
  cases held : a.records.addresses.get? v4.name with
  | none =>
    have first := ending_of_unknown (b := b) poses (answerQuestion_a asked) held
    have second := ending_of_unknown (b := b') poses' (answerQuestion_aaaa asked')
      (spelled.trans held)
    simp [first, second]
  | some as =>
    have held' := spelled.trans held
    have first := ending_a (b := b) poses asked held
    rw [first]
    -- An address with a zone has no record, and then the question for IPv6 fails as a whole.
    by_cases plain : ∀ x ∈ as, ¬x.IsZoned
    · have second := ending_aaaa (b := b') poses' asked' held' plain
      rw [second]
      refine ⟨by simp, by simp, ?_⟩
      rintro _ ⟨⟩
      refine ⟨rfl, iff_of_true rfl plain, fun _ => ?_, fun only => ?_, fun only => ?_⟩
      · rw [records_of_ending poses first, records_of_ending poses' second,
          RecordData.dedupe_ofVersion, RecordData.dedupe_ofVersion]
        exact splits_of_plain plain
      · exact isEmptyAnswer_of_ending (by rw [first, RecordData.ofVersion_eq_nil (by decide) only])
      · exact isEmptyAnswer_of_ending (by rw [second, RecordData.ofVersion_eq_nil (by decide) only])
    · have zoned : ∃ x ∈ as, x.IsZoned := by simpa using plain
      have second := ending_aaaa_zoned (b := b') poses' asked' held' zoned
      rw [second]
      refine ⟨by simp, by simp, ?_⟩
      rintro _ ⟨⟩
      refine ⟨rfl, iff_of_false nofun plain, nofun, fun only => ?_, fun only => ?_⟩
      · exact isEmptyAnswer_of_ending (by rw [first, RecordData.ofVersion_eq_nil (by decide) only])
      · -- An IPv4 address has no zone.
        obtain ⟨_, member, bits, zone, rfl⟩ := zoned
        cases only _ member

/-- Two spellings of an IPv6 address that holds an IPv4 address, between IPv4 addresses. -/
def mixedAddresses : List Address :=
  [.v4 0xC0000201#32, .v6 0xFFFFC0000201#128 none, .v4 0xC0000202#32, .v4 0xC0000201#32,
    .v6 0xFFFFC0000201#128 none]

/-- The name of the entry in capital letters. -/
def shoutedName : Name := (Name.readAbsolute "EXAMPLE.COM.").toOption.getD .root

theorem addresses_split_sample :
    let a : Authority :=
      ⟨⟨.root, .root, []⟩, ⟨[(Config.twiceName, mixedAddresses)], []⟩, ⟨.root, [], []⟩,
        ⟨⟨2024, 1, 1⟩, 0, 0, 0, 0, none⟩⟩
    ∀ b, (a.respond b ⟨1, 0, [⟨Config.twiceName, .a, 1⟩], none⟩).1.records =
        [.a 0xC0000201#32, .a 0xC0000202#32] ∧
      (a.respond b ⟨1, 0, [⟨shoutedName, .aaaa, 1⟩], none⟩).1.records =
        [.aaaa 0xFFFFC0000201#128] := by
  intro a b
  have held : a.records.addresses.get? Config.twiceName = some mixedAddresses := by
    rw [NameMap.get?_cons, if_pos (Name.same_refl _)]
  have spelled : Config.twiceName.same shoutedName = true := by decide +kernel
  obtain ⟨-, -, answered⟩ := @addresses_split a b b _ _ _ _
    (poses_only ⟨Config.twiceName, .a, 1⟩) rfl (poses_only ⟨shoutedName, .aaaa, 1⟩) rfl spelled
  obtain ⟨-, second, split, -⟩ := answered mixedAddresses held
  have parts := split (second.mpr (by simp [mixedAddresses, Address.IsZoned]))
  exact ⟨parts.first, parts.second⟩

end Authority

end ChallengeDns
