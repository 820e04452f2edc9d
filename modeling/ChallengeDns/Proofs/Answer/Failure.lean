import Mathlib
import ChallengeDns.Proofs.Answer.Static
import ChallengeDns.Proofs.Config.Warnings

/-!
# Questions that cannot be answered

A client is told of a failure of the server in two cases.  The administrator's address is no name,
so that there is no start of the zone; whoever loads such a configuration is warned.  Or an address
of the name has a zone, and there is no IPv6 answer; nobody is warned of that.
-/
namespace ChallengeDns

namespace Authority

/-! ### What can go wrong -/

section Handlers

variable {a : Authority} {b : Backing} {s : Store} {q : Query} {question : Question} {n : Name}

theorem Ends.ne_serverError {known : Known} (ends : Ends question known) :
    known.1 ≠ .serverError := by
  cases ends <;> exact nofun

/-- Only a question without an answer makes a reply report a failure. -/
theorem code_serverFailure_iff (poses : Poses q question) : (a.respond b q).1.code = .serverFailure ↔
    ¬∃ known, a.answerQuestion b question = .ok known := by
  have code : (a.respond b q).1.code = (a.ending b q).1.code := by
    rw [respond_reply]
    rfl
  rw [code, ending_of_poses poses]
  cases found : a.answerQuestion b question with
  | error e => simp [Except.toOption, Outcome.code]
  | ok known =>
    have fine := (answerQuestion_ends found).ne_serverError
    cases outcome : known.1 <;> simp_all [Except.toOption, Outcome.code]

/-- A store gives each name values that it holds, or none. -/
theorem get_held (s : Store) (n : Name) : ∀ v ∈ s.get (.name n), ∃ k, v ∈ s.records.get k := by
  unfold Store.get
  cases Key.ofGiven (.name n) with
  | ok k => exact fun v member => ⟨k, member⟩
  | error e => exact List.forall_mem_nil _

theorem encodes_of_isChallenge {v : TxtValue} (challenge : v.IsChallenge) : Encodes v := by
  obtain ⟨t, rfl, valid⟩ := challenge
  obtain ⟨cs, chars, _⟩ := Challenge.length_chars valid
  obtain ⟨octets, encoded⟩ := Text.exists_encode (t := t) (by rw [chars]; rfl)
  exact ⟨t, octets, rfl, encoded⟩

/-- Challenges can always be published. -/
theorem answerText_succeeds (challenges : ∀ k, ∀ v ∈ s.records.get k, v.IsChallenge) (n : Name) :
    ∃ known, a.answerText (a.backing s) n = .ok known := by
  unfold answerText
  split
  · have encode : ∀ v ∈ s.get (.name n), Encodes v := by
      intro v member
      obtain ⟨k, inside⟩ := get_held s n v member
      exact encodes_of_isChallenge (challenges k v inside)
    obtain ⟨records, made, _⟩ := mapM_textRecord encode
    refine ⟨(.authoritative, records), bind_except_ok.mpr ⟨_, rfl, ?_⟩⟩
    exact bind_except_ok.mpr ⟨records, made, rfl⟩
  · exact ⟨_, rfl⟩

/-- At a time that has a date, the start of the zone is known unless the contact is no name. -/
theorem answerStart_succeeds_iff {serial : Nat} (dated : zoneSerial a.now = .ok serial) :
    (∃ known, a.answerStart (a.backing s) n = .ok known) ↔
      (a.zone.domain.same n = true → ∃ contact, Contact.name a.zone.contact = .ok contact) := by
  unfold answerStart
  by_cases here : a.zone.domain.same n = true
  · rw [if_pos here]
    constructor
    · rintro ⟨known, found⟩ _
      obtain ⟨contact, read, _⟩ := bind_except_ok.mp found
      exact ⟨contact, mapError_except_ok.mp read⟩
    · -- Behind the contact only the date of the serial number could be missing.
      intro contact
      obtain ⟨contact, read⟩ := contact here
      refine ⟨(.authoritative, [.soa a.zone.nameServer contact serial timers]), ?_⟩
      refine bind_except_ok.mpr ⟨contact, mapError_except_ok.mpr read, ?_⟩
      refine bind_except_ok.mpr ⟨a.now, rfl, ?_⟩
      exact bind_except_ok.mpr ⟨serial, mapError_except_ok.mpr dated, rfl⟩
  · rw [if_neg here]
    exact iff_of_true ⟨_, rfl⟩ fun same => absurd same here

theorem answerAddresses_succeeds_iff {record : Address → Except AnswerError (Option RecordData)} :
    (∃ known, a.answerAddresses n record = .ok known) ↔
      ∀ as, a.records.addresses.get? n = some as → ∀ x ∈ as, ∃ r, record x = .ok r := by
  unfold answerAddresses
  cases a.records.addresses.get? n with
  | none => simp
  | some as =>
    constructor
    · rintro ⟨known, found⟩ _ same x member
      cases same
      obtain ⟨rs, made, _⟩ := bind_except_ok.mp found
      obtain ⟨r, _, step⟩ := exists_mem_mapM_except made member
      exact ⟨r, step⟩
    · intro succeed
      obtain ⟨rs, made⟩ := exists_mapM_except (succeed as rfl)
      exact ⟨_, bind_except_ok.mpr ⟨rs, made, rfl⟩⟩

/-- All questions but those for the start of the zone and for IPv6 addresses have answers. -/
theorem answerQuestion_succeeds (challenges : ∀ k, ∀ v ∈ s.records.get k, v.IsChallenge)
    (start : question.kind ≠ .soa) (wide : question.kind ≠ .aaaa) :
    ∃ known, a.answerQuestion (a.backing s) question = .ok known := by
  rcases kind_cases question.kind with asked | asked | asked | asked | asked | unknown
  · rw [answerQuestion_txt asked]
    exact answerText_succeeds challenges question.name
  · exact absurd asked start
  · rw [answerQuestion_a asked, answerAddresses_succeeds_iff]
    exact fun _ _ x _ => v4Record_succeeds x
  · exact absurd asked wide
  · exact ⟨_, answerQuestion_ns asked⟩
  · exact ⟨_, answerQuestion_other unknown⟩

end Handlers

end Authority

namespace Config

open Authority

/-! ### What clients are told of -/

/-- A name has an IPv6 address with a zone. -/
def Zoned (root : Value) (n : Name) : Prop :=
  ∃ g v, governing? root "addrs" n = some g ∧ Listed root "addrs" g v ∧ HasZone v

theorem Configures.zoned_iff {root : Value} {a : Authority} (configures : Configures root a)
    (n : Name) : Zoned root n ↔ ¬∀ as, a.records.addresses.get? n = some as →
      ∀ x ∈ as, ∃ r, v6Record x = .ok r := by
  unfold Zoned
  cases governs : governing? root "addrs" n with
  | some g =>
    rw [configures.succeeds_iff governs]
    simp
  | none =>
    rcases get?_readTable configures.tables.1 n with ⟨_, held⟩ | ⟨g, _, governs', _⟩
    · simp [held]
    · cases governs.symm.trans governs'

/-- A reply reports a failure of the server in two cases: the start of the zone is asked for, and
whoever loaded the configuration was warned of its contact; or the IPv6 addresses of a name are
asked for, and its governing entry lists one with a zone. -/
theorem serverFailure_iff {env : Environment} {path : Text} {content : Bytes} {config : Config}
    {logs : List LogEntry} (loaded : loadOctets env path content = (.ok config, logs)) :
    ∀ a, Configures config.data a → ∀ s : Store,
    (∀ k, ∀ v ∈ s.records.get k, v.IsChallenge) → ∀ serial, zoneSerial a.now = .ok serial →
    ∀ q question, Poses q question →
    ((a.answer s q).1.code = .serverFailure ↔
      (question.kind = .soa ∧ a.zone.domain.same question.name = true ∧
        ∃ e, contactWarning e ∈ logs) ∨
      (question.kind = .aaaa ∧ Zoned config.data question.name)) := by
  intro a configures s challenges serial dated q question poses
  obtain ⟨warnings, checked, rfl⟩ := loadOctets_ok loaded
  have accepted : Accepted config.data := ⟨warnings, checked⟩
  have contact := accepted.contact configures.gives
  rw [answer, code_serverFailure_iff poses, contactWarning_iff checked contact]
  have apart : RecordType.soa ≠ .aaaa := by decide
  by_cases start : question.kind = .soa
  · rw [answerQuestion_soa start, answerStart_succeeds_iff dated]
    simp [start, apart]
  by_cases wide : question.kind = .aaaa
  · rw [answerQuestion_aaaa wide, answerAddresses_succeeds_iff, ← configures.zoned_iff]
    simp [wide, apart.symm]
  · -- Nothing can go wrong with other types.
    have succeeds := answerQuestion_succeeds (a := a) challenges start wide
    simp [start, wide, succeeds]

/-! ### An address with a zone -/

/-- A file with a contact that is a name, and with an address that has a zone. -/
def zonedText : Text :=
  "\x7b\"zone\": \x7b\"domain\": \"example.com\", \"ns_domain\": \"ns.example.com\", " ++
    "\"ns_admin\": \"hostmaster@example.com\"\x7d, " ++
    "\"addrs\": \x7b\"example.com\": [\"2001:db8::1\", \"fe80::1%eth0\"]\x7d\x7d"

/-- Whether a name has one of the addresses with a zone. -/
def hasZoned (config : Config) (n : Name) : Bool :=
  (governing? config.data "addrs" n).any fun g => (g.2.items?.getD []).any fun v =>
    Address.ofValue? v = some (.v6 0xFE800000000000000000000000000001#128 (some "eth0"))

theorem zoned_of_hasZoned {config : Config} {n : Name} (has : hasZoned config n = true) :
    Zoned config.data n := by
  obtain ⟨g, governs, has⟩ := (Option.any_eq_true _ _).mp has
  obtain ⟨v, inside, address⟩ := List.any_eq_true.mp has
  cases items : g.2.items? with
  | none => simp [items] at inside
  | some vs =>
    rw [items] at inside
    have entry := (mem_of_governing governs).1
    exact ⟨g, v, governs, ⟨entry, vs, Value.items?_eq_some.mp items, inside⟩, _, _,
      of_decide_eq_true address⟩

/-- The warnings about an empty access table and a store without a file. -/
def plainWarnings : List Text :=
  ["acl is empty — no client will be able to update TXT records", warnStatePath.warning]

/-- Nobody is warned of the contact.  The start of the zone is known, and the IPv6 addresses of the
name cannot be told. -/
theorem serverFailure_iff_sample :
    ∃ config logs, loadOctets [] "config.json" (Text.utf8 zonedText) = (.ok config, logs) ∧
      (∀ e, contactWarning e ∉ logs) ∧
      ∃ a, Configures config.data a ∧
        let code (k : RecordType) :=
          (a.answer (.memory .empty) ⟨1, 0, [⟨twiceName, k, 1⟩], none⟩).1.code
        code .aaaa = .serverFailure ∧ code .soa ≠ .serverFailure := by
  have found : (loadOctets [] "config.json" (Text.utf8 zonedText)).1.toOption.any
      (hasZoned · twiceName) = true := by decide +kernel
  have told : (loadOctets [] "config.json" (Text.utf8 zonedText)).2 =
      plainWarnings.map warning := by decide +kernel
  cases loaded : loadOctets [] "config.json" (Text.utf8 zonedText) with
  | mk result logs =>
    rw [loaded] at found told
    cases result with
    | error e => cases found
    | ok config =>
      change logs = plainWarnings.map warning at told
      -- All other warnings begin with another letter than the one about the contact.
      have unwarned : ∀ e, contactWarning e ∉ logs := by
        intro e member
        rw [told] at member
        obtain ⟨t, plain, equal⟩ := List.mem_map.mp member
        have other : ∀ t ∈ plainWarnings, t.head? ≠ some (.scalar 'z') := by decide
        exact other t plain (contactWarning_begins equal)
      obtain ⟨warnings, checked, _⟩ := loadOctets_ok loaded
      have accepted : Accepted config.data := ⟨warnings, checked⟩
      obtain ⟨a, configures, now⟩ := accepted.configures ⟨⟨2024, 1, 1⟩, 0, 0, 0, 0, none⟩
      have dated : zoneSerial a.now = .ok 20240101 := by
        rw [now]
        decide +kernel
      have answers := serverFailure_iff loaded a configures (.memory .empty) nofun _ dated
      refine ⟨config, logs, rfl, unwarned, a, configures, ?_, ?_⟩
      · apply (answers _ _ (poses_only _)).mpr
        exact Or.inr ⟨rfl, zoned_of_hasZoned found⟩
      · intro failed
        rcases (answers _ _ (poses_only _)).mp failed with ⟨_, _, e, warned⟩ | ⟨wide, _⟩
        · exact unwarned e warned
        · exact absurd wide (by decide)

end Config

end ChallengeDns
