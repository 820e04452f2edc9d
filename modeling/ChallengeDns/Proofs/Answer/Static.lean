import Mathlib
import ChallengeDns.Proofs.Answer.Envelope
import ChallengeDns.Proofs.Config.Governing

/-!
# Records from the configuration

Addresses and name servers are listed in tables of the configuration.  A question for them is
answered with what one entry lists, the one that governs the name; and if one of its addresses has
a zone, no question for IPv6 addresses is answered at all.  A record that is listed elsewhere is
lost.
-/
namespace ChallengeDns

namespace RecordData

/-- Only one record holds the data of an IPv4 address. -/
theorem same_a {d : RecordData} {bits : BitVec 32} : d.same (.a bits) = true ↔ d = .a bits := by
  cases d <;> simp [same]

/-- Only one record holds the data of an IPv6 address. -/
theorem same_aaaa {d : RecordData} {bits : BitVec 128} :
    d.same (.aaaa bits) = true ↔ d = .aaaa bits := by
  cases d <;> simp [same]

theorem same_ns {d : RecordData} {target : Name} :
    d.same (.ns target) = true ↔ ∃ m, d = .ns m ∧ m.same target = true := by
  cases d <;> simp [same]

theorem same_trans {c d e : RecordData} (left : c.same d = true) (right : d.same e = true) :
    c.same e = true := by
  cases e with
  | a bits =>
    cases same_a.mp right
    exact left
  | aaaa bits =>
    cases same_aaaa.mp right
    exact left
  | ns target =>
    obtain ⟨m, rfl, second⟩ := same_ns.mp right
    obtain ⟨n, rfl, first⟩ := same_ns.mp left
    exact same_ns.mpr ⟨n, rfl, by rw [Name.same_congr first, second]⟩
  | soa primary contact serial timers =>
    cases d <;> simp only [same, Bool.and_eq_true, beq_iff_eq, reduceCtorEq] at right
    cases c <;> simp only [same, Bool.and_eq_true, beq_iff_eq, reduceCtorEq] at left
    obtain ⟨⟨⟨p, m⟩, rfl⟩, rfl⟩ := left
    simpa [same, Name.same_congr p, Name.same_congr m] using right
  | txt strings =>
    have equal : d = .txt strings := by cases d <;> simp_all [same]
    exact equal ▸ left

end RecordData

namespace Authority

/-! ### What a question is answered with -/

/-- A query that the server works on asks a question first. -/
structure Poses (q : Query) (question : Question) : Prop where
  standard : ¬Refused q
  first : ∃ more, q.questions = question :: more

/-- A query without flags is one that the server works on. -/
theorem poses_only (question : Question) : Poses ⟨1, 0, [question], none⟩ question where
  standard := by
    have opcode : Opcode.ofFlags 0 = .query := by decide
    simp [Refused, Query.opcode, Query.isReply, opcode]
  first := ⟨[], rfl⟩

/-- A reply has a record, or one that holds the same data. -/
def Shows (r : Reply) (d : RecordData) : Prop :=
  ∃ answer, r.answer = some answer ∧ ∃ e ∈ answer.records, e.same d = true

section Questions

variable {a : Authority} {b : Backing} {q : Query} {question : Question} {d : RecordData}

theorem ending_of_poses (poses : Poses q question) :
    a.ending b q = (a.answerQuestion b question).toOption.getD (.serverError, []) := by
  obtain ⟨more, questions⟩ := poses.first
  rw [ending, lookUp_standard a b poses.standard, questions]

/-- What a question ends in is shown, each record once. -/
theorem shows_iff (poses : Poses q question) : Shows (a.respond b q).1 d ↔
    ∃ ds, a.answerQuestion b question = .ok (.authoritative, ds) ∧ ∃ e ∈ ds, e.same d = true := by
  obtain ⟨more, questions⟩ := poses.first
  rw [respond_reply, ending_of_poses poses]
  constructor
  · rintro ⟨answer, told, e, kept, same⟩
    obtain ⟨c, ds, _, _, known, _, rfl⟩ := replyWith_answer told
    refine ⟨c :: ds, ?_, e, RecordData.mem_of_mem_dedupe kept, same⟩
    -- A failure is not authoritative, so the question has ended well.
    cases found : a.answerQuestion b question with
    | ok known' =>
      rw [found] at known
      exact congrArg _ known
    | error f =>
      rw [found] at known
      cases known
  · rintro ⟨ds, found, e, member, same⟩
    rw [found]
    obtain ⟨c, kept, equal⟩ := RecordData.exists_same_of_mem member
    -- Only an answer with records has a set of them.
    cases ds with
    | nil => cases member
    | cons first others =>
      refine ⟨⟨question.name, question.kind, _⟩, ?_, c, kept, RecordData.same_trans equal same⟩
      unfold replyWith
      rw [questions]
      rfl

/-- The addresses of a name are shown if all of them can be. -/
theorem answerAddresses_has_iff {n : Name}
    {record : Address → Except AnswerError (Option RecordData)} :
    (∃ ds, a.answerAddresses n record = .ok (.authoritative, ds) ∧ ∃ e ∈ ds, e.same d = true) ↔
      ∃ as, a.records.addresses.get? n = some as ∧ (∀ x ∈ as, ∃ r, record x = .ok r) ∧
        ∃ x ∈ as, ∃ e, record x = .ok (some e) ∧ e.same d = true := by
  unfold answerAddresses
  cases held : a.records.addresses.get? n with
  | none => simp
  | some as =>
    dsimp only
    constructor
    · rintro ⟨ds, found, e, member, same⟩
      obtain ⟨rs, made, found⟩ := bind_except_ok.mp found
      cases found
      obtain ⟨r, inside, rfl⟩ := List.mem_filterMap.mp member
      refine ⟨as, rfl, ?_, ?_⟩
      · intro x present
        obtain ⟨r, _, step⟩ := exists_mem_mapM_except made present
        exact ⟨r, step⟩
      · obtain ⟨x, present, step⟩ := mem_mapM_except made inside
        exact ⟨x, present, e, step, same⟩
    · -- One address without a record would have made the whole question fail.
      rintro ⟨_, equal, succeed, x, present, e, step, same⟩
      cases equal
      obtain ⟨rs, made⟩ := exists_mapM_except succeed
      refine ⟨rs.filterMap id, ?_, e, ?_, same⟩
      · exact bind_except_ok.mpr ⟨rs, made, rfl⟩
      · obtain ⟨r, inside, again⟩ := exists_mem_mapM_except made present
        cases step.symm.trans again
        exact List.mem_filterMap.mpr ⟨some e, inside, rfl⟩

theorem v4Record_has_iff {x : Address} {bits : BitVec 32} :
    (∃ e, v4Record x = .ok (some e) ∧ e.same (.a bits) = true) ↔ x = .v4 bits := by
  cases x <;> simp [RecordData.same_a]

theorem v6Record_has_iff {x : Address} {bits : BitVec 128} :
    (∃ e, v6Record x = .ok (some e) ∧ e.same (.aaaa bits) = true) ↔ x = .v6 bits none := by
  cases x with
  | v4 bits => simp
  | v6 bits zone => cases zone <;> simp [RecordData.same_aaaa]

/-- IPv6 addresses are left out of an answer with IPv4 addresses. -/
theorem v4Record_succeeds (x : Address) : ∃ r, v4Record x = .ok r := by
  cases x with
  | v4 bits => exact ⟨_, v4Record_v4 bits⟩
  | v6 bits zone => exact ⟨_, v4Record_v6 bits zone⟩

/-- Only an address with a zone has no record. -/
theorem v6Record_ok_iff {x : Address} :
    (∃ r, v6Record x = .ok r) ↔ ∀ bits zone, x ≠ .v6 bits (some zone) := by
  cases x with
  | v4 bits => simp
  | v6 bits zone => cases zone <;> simp

theorem shows_a_iff {bits : BitVec 32} (poses : Poses q question) (asked : question.kind = .a) :
    Shows (a.respond b q).1 (.a bits) ↔
      ∃ as, a.records.addresses.get? question.name = some as ∧ .v4 bits ∈ as := by
  rw [shows_iff poses, answerQuestion_a asked, answerAddresses_has_iff]
  simp [v4Record_has_iff, v4Record_succeeds]

theorem shows_aaaa_iff {bits : BitVec 128} (poses : Poses q question)
    (asked : question.kind = .aaaa) : Shows (a.respond b q).1 (.aaaa bits) ↔
      ∃ as, a.records.addresses.get? question.name = some as ∧
        (∀ x ∈ as, ∃ r, v6Record x = .ok r) ∧ .v6 bits none ∈ as := by
  rw [shows_iff poses, answerQuestion_aaaa asked, answerAddresses_has_iff]
  simp only [v6Record_has_iff, exists_eq_right]

theorem shows_ns_iff {target : Name} (poses : Poses q question) (asked : question.kind = .ns) :
    Shows (a.respond b q).1 (.ns target) ↔
      ∃ ts, a.records.nameServers.get? question.name = some ts ∧
        ∃ t ∈ ts, t.same target = true := by
  rw [shows_iff poses, answerQuestion_ns asked]
  unfold answerNameServers
  cases a.records.nameServers.get? question.name with
  | none => simp
  | some ts => simp [RecordData.same]

end Questions

end Authority

namespace Config

open Authority

/-! ### What is listed -/

/-- What an item of a table says that is answered. -/
inductive Represents : Text → Value → RecordData → Prop
  | v4 {v : Value} {bits : BitVec 32} (address : Address.ofValue? v = some (.v4 bits)) :
      Represents "addrs" v (.a bits)
  | v6 {v : Value} {bits : BitVec 128} (address : Address.ofValue? v = some (.v6 bits none)) :
      Represents "addrs" v (.aaaa bits)
  | nameServer {t : Text} {target : Name} (read : Name.readAbsolute t = .ok target) :
      Represents "ns_records" (.ofText t) (.ns target)

/-- An item is an IPv6 address with a zone. -/
def HasZone (v : Value) : Prop := ∃ bits zone, Address.ofValue? v = some (.v6 bits (some zone))

/-- An entry lists a record, or one that holds the same data. -/
def ListsRecord (root : Value) (table : Text) (e : Scalar × Value) (d : RecordData) : Prop :=
  ∃ v c, Listed root table e v ∧ Represents table v c ∧ c.same d = true

section Items

variable {root v : Value} {table : Text} {e g : Scalar × Value} {d : RecordData}

theorem listsRecord_iff {x : Address} (alone : ∀ c : RecordData, c.same d = true ↔ c = d)
    (represents : ∀ v, Represents "addrs" v d ↔ Address.ofValue? v = some x) :
    ListsRecord root "addrs" g d ↔
      ∃ v, Listed root "addrs" g v ∧ Address.ofValue? v = some x := by
  constructor
  · rintro ⟨v, c, listed, record, same⟩
    cases (alone c).mp same
    exact ⟨v, listed, (represents v).mp record⟩
  · rintro ⟨v, listed, address⟩
    exact ⟨v, d, listed, (represents v).mpr address, RecordData.same_refl d⟩

theorem listsRecord_a_iff {bits : BitVec 32} : ListsRecord root "addrs" g (.a bits) ↔
    ∃ v, Listed root "addrs" g v ∧ Address.ofValue? v = some (.v4 bits) :=
  listsRecord_iff (fun _ => RecordData.same_a) fun _ => ⟨fun | .v4 address => address, .v4⟩

theorem listsRecord_aaaa_iff {bits : BitVec 128} : ListsRecord root "addrs" g (.aaaa bits) ↔
    ∃ v, Listed root "addrs" g v ∧ Address.ofValue? v = some (.v6 bits none) :=
  listsRecord_iff (fun _ => RecordData.same_aaaa) fun _ => ⟨fun | .v6 address => address, .v6⟩

theorem Accepted.address (accepted : Accepted root) (listed : Listed root "addrs" e v) :
    ∃ x, Address.ofValue? v = some x := by
  obtain ⟨_, vs, list, items⟩ :=
    entry_clean (forall_entries_clean accepted.isClean.addresses e listed.entry)
  obtain ⟨ws, list', inside⟩ := listed.item
  cases list.symm.trans list'
  exact Option.isSome_iff_exists.mp ((Check.requireOf_nil_iff _ _ _).mp (items v inside))

theorem Accepted.target (accepted : Accepted root) (listed : Listed root "ns_records" e v) :
    ∃ t n, v = .ofText t ∧ Name.readAbsolute t = .ok n := by
  obtain ⟨_, vs, list, items⟩ :=
    entry_clean (forall_entries_clean accepted.isClean.nameServers e listed.entry)
  obtain ⟨ws, list', inside⟩ := listed.item
  cases list.symm.trans list'
  obtain ⟨t, n, text, read⟩ := checkName_clean (items v inside)
  exact ⟨t, n, text, mapError_except_ok.mp read⟩

end Items

/-! ### What is served -/

section Served

variable {root v : Value} {g : Scalar × Value} {a : Authority} {b : Backing} {q : Query}
  {question : Question} {n : Name}

theorem readAddress_iff {x : Address} :
    Settings.readAddress v = .ok x ↔ Address.ofValue? v = some x := by
  unfold Settings.readAddress
  cases Address.ofValue? v <;> simp

/-- A name has the addresses that its governing entry lists. -/
theorem Configures.addresses (configures : Configures root a)
    (governs : governing? root "addrs" n = some g) :
    ∃ as, a.records.addresses.get? n = some as ∧
      ∀ x, x ∈ as ↔ ∃ v, Listed root "addrs" g v ∧ Address.ofValue? v = some x := by
  simpa only [readAddress_iff] using get?_of_governing configures.tables.1 governs

/-- IPv6 addresses are told if no address of the name has a zone. -/
theorem Configures.succeeds_iff (configures : Configures root a)
    (governs : governing? root "addrs" n = some g) :
    (∀ as, a.records.addresses.get? n = some as → ∀ x ∈ as, ∃ r, v6Record x = .ok r) ↔
      ∀ w, Listed root "addrs" g w → ¬HasZone w := by
  obtain ⟨as, held, members⟩ := configures.addresses governs
  simp only [v6Record_ok_iff]
  constructor
  · rintro free w listed ⟨bits, zone, address⟩
    exact free as held _ ((members _).mpr ⟨w, listed, address⟩) bits zone rfl
  · rintro free as' held' x member bits zone rfl
    cases held.symm.trans held'
    obtain ⟨w, listed, address⟩ := (members _).mp member
    exact free w listed ⟨bits, zone, address⟩

theorem shows_a_governed {bits : BitVec 32} (configures : Configures root a)
    (poses : Poses q question) (asked : question.kind = .a)
    (governs : governing? root "addrs" question.name = some g) :
    Shows (a.respond b q).1 (.a bits) ↔ ListsRecord root "addrs" g (.a bits) := by
  obtain ⟨as, held, members⟩ := configures.addresses governs
  rw [shows_a_iff poses asked, listsRecord_a_iff, held, ← members]
  simp

theorem shows_aaaa_governed {bits : BitVec 128} (configures : Configures root a)
    (poses : Poses q question) (asked : question.kind = .aaaa)
    (governs : governing? root "addrs" question.name = some g) :
    Shows (a.respond b q).1 (.aaaa bits) ↔
      ListsRecord root "addrs" g (.aaaa bits) ∧ ∀ w, Listed root "addrs" g w → ¬HasZone w := by
  obtain ⟨as, held, members⟩ := configures.addresses governs
  rw [shows_aaaa_iff poses asked, listsRecord_aaaa_iff, ← members,
    ← configures.succeeds_iff governs, held]
  simp [and_comm]

theorem shows_ns_governed {target : Name} (accepted : Accepted root)
    (configures : Configures root a) (poses : Poses q question) (asked : question.kind = .ns)
    (governs : governing? root "ns_records" question.name = some g) :
    Shows (a.respond b q).1 (.ns target) ↔ ListsRecord root "ns_records" g (.ns target) := by
  obtain ⟨ts, held, members⟩ := get?_of_governing configures.tables.2 governs
  rw [shows_ns_iff poses asked, held]
  constructor
  · rintro ⟨_, equal, m, member, same⟩
    cases equal
    obtain ⟨w, listed, read⟩ := (members m).mp member
    -- Any value could be read as a name by its text, but the checks let only texts pass.
    obtain ⟨t, n, rfl, _⟩ := accepted.target listed
    exact ⟨_, _, listed, .nameServer (mapError_except_ok.mp read), same⟩
  · rintro ⟨w, c, listed, represents, same⟩
    cases represents with
    | nameServer read =>
      exact ⟨ts, rfl, _, (members _).mpr ⟨_, listed, mapError_except_ok.mpr read⟩, same⟩

end Served

/-- Each item that an accepted configuration lists is a record, or an address with a zone.  In the
answer to a question for the name of its entry, a listed record stands if and only if the entry that
governs the name lists it too and, for an IPv6 address, lists no address with a zone. -/
theorem listed_answered {root : Value} (accepted : Accepted root) :
    (∀ e v, Listed root "addrs" e v → (∃ d, Represents "addrs" v d) ∨ HasZone v) ∧
    (∀ e v, Listed root "ns_records" e v → ∃ d, Represents "ns_records" v d) ∧
    ∀ a, Configures root a → ∀ b q question, Poses q question →
    ∀ table e v d, Listed root table e v → Denotes e.1 question.name → Represents table v d →
      d.kind = question.kind →
    ∃ g, governing? root table question.name = some g ∧
      (Shows (a.respond b q).1 d ↔ ListsRecord root table g d ∧
        (d.kind = .aaaa → ∀ w, Listed root table g w → ¬HasZone w)) := by
  refine ⟨?_, ?_, ?_⟩
  · intro e v listed
    obtain ⟨x, address⟩ := accepted.address listed
    cases x with
    | v4 bits => exact Or.inl ⟨_, .v4 address⟩
    | v6 bits zone =>
      cases zone with
      | none => exact Or.inl ⟨_, .v6 address⟩
      | some zone => exact Or.inr ⟨bits, zone, address⟩
  · intro e v listed
    obtain ⟨t, n, rfl, read⟩ := accepted.target listed
    exact ⟨_, .nameServer read⟩
  · intro a configures b q question poses table e v d listed denotes represents asked
    obtain ⟨g, governs⟩ := exists_governing listed.entry denotes
    refine ⟨g, governs, ?_⟩
    -- The entry that governs the name decides, whichever entry lists the record.
    cases represents with
    | v4 =>
      have other : RecordType.a ≠ .aaaa := by decide
      simpa [RecordData.kind, other] using shows_a_governed configures poses asked.symm governs
    | v6 =>
      simpa [RecordData.kind] using shows_aaaa_governed configures poses asked.symm governs
    | nameServer =>
      have other : RecordType.ns ≠ .aaaa := by decide
      simpa [RecordData.kind, other] using
        shows_ns_governed accepted configures poses asked.symm governs

/-! ### One name in two spellings -/

def firstEntry : Scalar × Value := (.text "example.com", .list [.ofText "192.0.2.1"])

/-- Another entry for the same name. -/
def secondEntry : Scalar × Value :=
  (.text "EXAMPLE.com.", .list [.ofText "192.0.2.2", .ofText "2001:db8::1"])

def twiceRoot : Value :=
  .mapping [
    (.text "zone", .mapping [(.text "domain", .ofText "example.com"),
      (.text "ns_domain", .ofText "ns.example.com"),
      (.text "ns_admin", .ofText "hostmaster@example.com")]),
    (.text "addrs", .mapping [firstEntry, secondEntry])]

def twiceName : Name := (Name.readAbsolute "example.com").toOption.getD .root

/-- The address of the second entry is in the answer, and that of the first one is lost. -/
theorem listed_answered_sample :
    ∃ a, Configures twiceRoot a ∧ ∀ b,
      let r := (a.respond b ⟨1, 0, [⟨twiceName, .a, 1⟩], none⟩).1
      Shows r (.a 0xC0000202#32) ∧ ¬Shows r (.a 0xC0000201#32) := by
  have accepted : Accepted twiceRoot := ⟨_, rfl⟩
  obtain ⟨a, configures, _⟩ := accepted.configures ⟨⟨2024, 1, 1⟩, 0, 0, 0, 0, none⟩
  refine ⟨a, configures, fun b => ?_⟩
  have poses := poses_only ⟨twiceName, .a, 1⟩
  have table : (tableOf twiceRoot "addrs" "").1 = [firstEntry, secondEntry] := rfl
  have denoted : denotes firstEntry.1 twiceName = true ∧
      denotes secondEntry.1 twiceName = true := by decide +kernel
  have governs : governing? twiceRoot "addrs" twiceName = some secondEntry := rfl
  have first : Listed twiceRoot "addrs" firstEntry (.ofText "192.0.2.1") :=
    ⟨by simp [table], _, rfl, by simp⟩
  have second : Listed twiceRoot "addrs" secondEntry (.ofText "192.0.2.2") :=
    ⟨by simp [table], _, rfl, by simp⟩
  have address : Address.ofValue? (.ofText "192.0.2.1") = some (.v4 0xC0000201#32) := by
    decide +kernel
  have address' : Address.ofValue? (.ofText "192.0.2.2") = some (.v4 0xC0000202#32) := by
    decide +kernel
  obtain ⟨_, _, answered⟩ := listed_answered accepted
  obtain ⟨g, same, lost⟩ := answered a configures b _ _ poses "addrs" _ _ _ first
    ((denotes_iff _ _).mp denoted.1) (.v4 address) rfl
  obtain ⟨g', same', kept⟩ := answered a configures b _ _ poses "addrs" _ _ _ second
    ((denotes_iff _ _).mp denoted.2) (.v4 address') rfl
  cases governs.symm.trans same
  cases governs.symm.trans same'
  constructor
  · apply kept.mpr
    refine ⟨listsRecord_a_iff.mpr ⟨_, second, address'⟩, fun other => ?_⟩
    exact absurd other (by decide)
  · intro shows
    obtain ⟨v, ⟨_, vs, list, inside⟩, other⟩ := listsRecord_a_iff.mp (lost.mp shows).1
    cases list
    -- The entry that governs the name lists two other addresses.
    have others : ∀ v ∈ [Value.ofText "192.0.2.2", .ofText "2001:db8::1"],
        Address.ofValue? v ≠ some (.v4 0xC0000201#32) := by
      simp only [List.forall_mem_cons]
      decide +kernel
    exact others v inside other

end Config

end ChallengeDns
