import Mathlib
import ChallengeDns.Proofs.Answer.Origin
import ChallengeDns.Proofs.Message.Parsing
import ChallengeDns.Proofs.Transport.Stream

/-!
# Replies in datagrams

A reply that is too long for the client loses its answer and is written again.  The second writing
has a limit of its own, which is not the client's: one question always leaves enough room, but many
questions, which all come back in the reply, do not.
-/
namespace ChallengeDns.Transport

open Reply

theorem reply_echo (a : Authority) (s : Store) (q : Query) :
    (reply a s q).1.id = q.id ∧ (reply a s q).1.opcode = q.opcode ∧
      (reply a s q).1.questions = q.questions := by
  unfold reply
  split
  · exact ⟨rfl, rfl, rfl⟩
  · unfold Authority.answer
    exact ⟨rfl, rfl, rfl⟩

theorem reply_answer {a : Authority} {s : Store} {q : Query} {answer : Answer}
    (answered : (reply a s q).1.answer = some answer) :
    (a.answer s q).1.answer = some answer := by
  unfold reply at answered
  split at answered
  · cases answered
  · exact answered

theorem limitOf_bounds (q : Query) : 512 ≤ limitOf q ∧ limitOf q ≤ 65535 := by
  unfold limitOf
  split
  · decide
  · next e _ =>
    have small : e.payload.toNat < 65536 := e.payload.toNat_lt
    simp only [datagramLimit]
    omega

theorem clampLimit_limitOf (q : Query) : clampLimit (limitOf q) = limitOf q := by
  have bounds := limitOf_bounds q
  rw [clampLimit]
  omega

/-! ### The reply without its answer -/

theorem length_truncate (a : Authority) (s : Store) (q : Query) :
    (truncate (reply a s q).1).complete.length = echoLength q :=
  length_complete_of_bare (reply_echo a s q).2.2 (reply_extension a s q) rfl

theorem toWire_truncate (a : Authority) (s : Store) (q : Query) :
    (truncate (reply a s q).1).toWire =
      if echoLength q ≤ streamLimit q then .ok (truncate (reply a s q).1).complete
      else .error .tooBig := by
  rw [toWire, toWireWithin_of_fits rfl, length_truncate]
  -- The reply records what the client takes with its extension, which stays.
  change (if _ ≤ clampLimit (reply a s q).1.ownLimit then _ else _) = _
  rw [clampLimit_ownLimit]

/-- Everything that is sent for a query that was read. -/
theorem handleDatagram_cases (a : Authority) (s : Store) (client : Text) {data : Bytes} {q : Query}
    (parsed : Query.ofWire? data = some q) :
    let full := (reply a s q).1
    let sent := (handleDatagram a s client data).1
    (full.complete.length ≤ limitOf q ∧ sent = .ok [full.complete]) ∨
      (full.toWireWithin (limitOf q) = .error .oversizedRecord ∧ sent = .error .oversizedRecord) ∨
      (full.toWireWithin (limitOf q) = .error .tooBig ∧
        (echoLength q ≤ streamLimit q ∧ sent = .ok [(truncate full).complete] ∨
          streamLimit q < echoLength q ∧ sent = .error .tooBig)) := by
  intro full sent
  have handled : sent = (datagram q full).map fun d => [d.1] := by
    simp only [sent, handleDatagram, parsed, full]
    cases datagram q (reply a s q).1 <;> rfl
  cases first : full.toWireWithin (limitOf q) with
  | ok wire =>
    obtain ⟨rfl, short⟩ := toWireWithin_ok first
    rw [clampLimit_limitOf] at short
    exact Or.inl ⟨short, by simp [handled, datagram, first, Except.map]⟩
  | error fault =>
    right
    cases fault with
    | oversizedRecord => exact Or.inl ⟨rfl, by simp [handled, datagram, first, Except.map]⟩
    | tooBig =>
      refine Or.inr ⟨rfl, ?_⟩
      -- What is too long goes back without its answer, and now without the client's limit.
      have second : datagram q full =
          (truncate full).toWire.map fun wire => (wire, truncate full) := by
        simp only [datagram, first]
      rw [handled, second, toWire_truncate]
      by_cases enough : echoLength q ≤ streamLimit q
      · rw [if_pos enough]
        exact Or.inl ⟨enough, rfl⟩
      · rw [if_neg enough]
        exact Or.inr ⟨Nat.lt_of_not_le enough, rfl⟩

/-! ### One datagram, complete or without its answer -/

/-- The reply of a configured server to a query that was read can be read itself. -/
theorem reply_readable {root : Value} {a : Authority} (configures : Config.Configures root a)
    (s : Store) {data : Bytes} {q : Query} (parsed : Query.ofWire? data = some q) :
    (reply a s q).1.Readable := by
  obtain ⟨_, opcode, questions⟩ := reply_echo a s q
  obtain ⟨absolute, allowed⟩ := Query.ofWire_questions parsed
  refine ⟨?_, ?_, ?_, ?_⟩
  · rw [opcode]
    exact Query.opcode_lt q
  · rw [questions]
    exact absolute
  · rw [opcode, questions]
    exact allowed
  · intro answer answered
    obtain ⟨standard, question, more, asked, owner, kind, sources⟩ :=
      Authority.answer_source (reply_answer answered)
    rw [opcode, standard, owner, kind]
    refine ⟨by decide, absolute question (by simp [asked]), ?_⟩
    intro d member
    exact (sources d member).suits configures

theorem reply_fits (a : Authority) {s : Store}
    (challenges : ∀ k, ∀ v ∈ s.records.get k, v.IsChallenge) (q : Query) :
    (((reply a s q).1.answer.map (·.records)).getD []).any (!Wire.fits ·) = false := by
  cases answered : (reply a s q).1.answer with
  | none => rfl
  | some answer =>
    obtain ⟨_, question, _, _, _, _, sources⟩ := Authority.answer_source (reply_answer answered)
    rw [Option.map_some, Option.getD_some, List.any_eq_false]
    intro d member
    simp [(sources d member).fits challenges]

theorem truncate_readable {r : Reply} (readable : r.Readable) : (truncate r).Readable :=
  ⟨readable.opcode, readable.questions, readable.allowed, nofun⟩

/-- One question leaves room for the second writing. -/
theorem handleDatagram_of_single (a : Authority) {s : Store}
    (challenges : ∀ k, ∀ v ∈ s.records.get k, v.IsChallenge) (client : Text) {data : Bytes}
    {q : Query} (parsed : Query.ofWire? data = some q) (single : q.questions.length ≤ 1) :
    (handleDatagram a s client data).1 =
      .ok [if (reply a s q).1.complete.length ≤ limitOf q then (reply a s q).1.complete
        else (truncate (reply a s q).1).complete] := by
  have written := toWireWithin_of_fits (reply_fits a challenges q) (limitOf q)
  rw [clampLimit_limitOf] at written
  have short := echoLength_of_single (Query.ofWire_questions parsed).1 single
  -- The second writer may take 512 octets at least, and the echo of one question fits into these.
  have room : 512 ≤ streamLimit q := by
    rw [← clampLimit_ownLimit a s q, clampLimit]
    omega
  simp only [Wire.block] at short
  rcases handleDatagram_cases a s client parsed with
    ⟨fits, sent⟩ | ⟨failed, _⟩ | ⟨failed, ⟨_, sent⟩ | ⟨beyond, _⟩⟩
  · rw [if_pos fits]
    exact sent
  · rw [written] at failed
    split at failed <;> cases failed
  · have exceeds : ¬(reply a s q).1.complete.length ≤ limitOf q := by
      intro fits
      rw [written, if_pos fits] at failed
      cases failed
    rw [if_neg exceeds]
    exact sent
  · omega

/-- One datagram is sent for a query with at most one question: the complete reply if the client
takes it, else the same reply without its answer and marked as truncated.  An accepted configuration
gives a server, and the store holds values that the gateway lets through.  What is sent is read back
with the identity and the question of the query.  Nothing is sent for what cannot be read. -/
theorem datagram_replied {root : Value} (accepted : Config.Accepted root) :
    (∀ now, ∃ a, Config.Configures root a ∧ a.now = now) ∧
    ∀ a : Authority, Config.Configures root a →
    ∀ s : Store, (∀ k, ∀ v ∈ s.records.get k, v.IsChallenge) →
    ∀ (client : Text) (data : Bytes),
      (Query.ofWire? data = none → (handleDatagram a s client data).1 = .ok []) ∧
      ∀ q, Query.ofWire? data = some q → q.questions.length ≤ 1 →
        let full := (reply a s q).1
        let sent := if full.complete.length ≤ min (limitOf q) 65535 then full
          else { full with answer := none, truncated := true }
        (∀ limit, full.toWireWithin limit =
          if full.complete.length ≤ clampLimit limit then .ok full.complete else .error .tooBig) ∧
        full.truncated = false ∧
        (handleDatagram a s client data).1 = .ok [sent.complete] ∧
        ∃ m, Query.ofWire? sent.complete = some m ∧ m.id = q.id ∧ m.isReply = true ∧
          m.questions = q.questions ∧ m.opcode = q.opcode ∧
          (m.flags &&& 0x0400 != 0) = full.authoritative ∧
          (m.flags &&& 0x0200 != 0) = sent.truncated ∧
          m.recursionDesired = full.recursionDesired ∧ m.flags &&& 15 = full.code.code ∧
          m.extension = full.extension.map fun e => ⟨0, payload, e.padded⟩ := by
  refine ⟨accepted.configures, ?_⟩
  intro a configures s challenges client data
  constructor
  · intro unread
    simp [handleDatagram, unread]
  intro q parsed single full sent
  obtain ⟨id, opcode, questions⟩ := reply_echo a s q
  have bounds := limitOf_bounds q
  have limit : min (limitOf q) 65535 = limitOf q := Nat.min_eq_left bounds.2
  have done : (handleDatagram a s client data).1 = .ok [sent.complete] := by
    rw [handleDatagram_of_single a challenges client parsed single]
    simp only [sent, full, limit]
    split <;> rfl
  -- Whichever of the two replies is sent, it can be read and is short enough for a message.
  have readable : full.Readable := reply_readable configures s parsed
  have sentReadable : sent.Readable := by
    simp only [sent]
    split
    · exact readable
    · exact truncate_readable readable
  have sentShort : sent.complete.length ≤ 65535 := by
    have bare : (truncate full).complete.length = echoLength q := length_truncate a s q
    have short := echoLength_of_single (Query.ofWire_questions parsed).1 single
    simp only [sent, limit]
    split
    · next fits => exact Nat.le_trans fits bounds.2
    · exact Nat.le_trans (Nat.le_of_eq bare) (Nat.le_trans short (by decide))
  -- Both replies have the same fields apart from the answer and the mark.
  have fields : sent.id = full.id ∧ sent.questions = full.questions ∧ sent.opcode = full.opcode ∧
      sent.authoritative = full.authoritative ∧ sent.recursionDesired = full.recursionDesired ∧
      sent.code = full.code ∧ sent.extension = full.extension := by
    simp only [sent]
    split <;> exact ⟨rfl, rfl, rfl, rfl, rfl, rfl, rfl⟩
  obtain ⟨id', questions', opcode', authoritative', desired', code', extension'⟩ := fields
  have one : sent.questions.length ≤ 1 := by
    rw [questions', questions]
    exact single
  obtain ⟨kind, isReply, authoritative, truncated, desired, code⟩ :=
    sent.flags_fields sentReadable.opcode
  have read := ofWire_complete_of_single sentReadable one sentShort
  refine ⟨toWireWithin_of_fits (reply_fits a challenges q), reply_truncated a s q, done, _, read,
    id'.trans id, isReply, questions'.trans questions, kind.trans (opcode'.trans opcode),
    authoritative.trans authoritative', truncated, desired.trans desired', ?_, ?_⟩
  · rw [code, code']
  · rw [extension']

/-! ### A name with many addresses and one value -/

/-- A configuration with 32 addresses for one name. -/
def addressRoot : Value :=
  let addresses := (List.range 32).map fun i => Value.ofText ("192.0.2." ++ Text.ofNat i)
  .mapping [
    (.text "zone", .mapping [(.text "domain", .ofText "example.com"),
      (.text "ns_domain", .ofText "ns.example.com"),
      (.text "ns_admin", .ofText "hostmaster@example.com")]),
    (.text "acl", .mapping [(.text "192.0.2.0/24", .list [.ofText "www"])]),
    (.text "addrs", .mapping [(.text "www.example.com", .list addresses)])]

def addressAuthority : Authority :=
  let zone := (Settings.readZone (Config.sectionOf addressRoot "zone")).toOption.getD
    ⟨.root, .root, []⟩
  let access := ((Settings.readGrants addressRoot).toOption.bind fun grants =>
    (AccessControl.ofGrants zone.domain grants).toOption).getD ⟨.root, [], []⟩
  let records := (Settings.readRecords addressRoot).toOption.getD ⟨[], []⟩
  ⟨zone, records, access, ⟨⟨2024, 1, 1⟩, 0, 0, 0, 0, none⟩⟩

def addressName : Name := (Name.readAbsolute "www.example.com").toOption.getD .root

/-- The store behind one update for the name. -/
def addressStore : Store :=
  Gateway.run addressAuthority.access (.memory .empty)
    [⟨.ofText "192.0.2.7", .text "www", .ofText Authority.sampleValue, ⟨.present, false⟩⟩]

/-- The question for the records of the name that have a type. -/
def addressQuery (kind : RecordType) : Query := ⟨1, 0, [⟨addressName, kind, 1⟩], none⟩

def addressMessage (kind : RecordType) : Bytes :=
  [1, 0, 1, 0, 0, 0].flatMap Wire.two ++
    [3, 119, 119, 119, 7, 101, 120, 97, 109, 112, 108, 101, 3, 99, 111, 109, 0] ++
    Wire.two kind.code.toNat ++ [0, 1]

/-- The value is sent; the addresses take 545 octets and are not. -/
theorem datagram_replied_sample :
    let sent (kind : RecordType) :=
      (handleDatagram addressAuthority addressStore "192.0.2.7" (addressMessage kind)).1
    let full (kind : RecordType) := (reply addressAuthority addressStore (addressQuery kind)).1
    (full .txt).complete.length = 89 ∧ sent .txt = .ok [(full .txt).complete] ∧
      (full .a).complete.length = 545 ∧
      sent .a = .ok [{ full .a with answer := none, truncated := true }.complete] := by
  intro sent full
  have accepted : Config.Accepted addressRoot := ⟨_, rfl⟩
  have configures : Config.Configures addressRoot addressAuthority :=
    ⟨⟨rfl, _, rfl, rfl⟩, rfl⟩
  have challenges : ∀ k, ∀ v ∈ addressStore.records.get k, v.IsChallenge :=
    Gateway.run_isChallenge _ _ (fun _ => List.forall_mem_nil _) _
  have replied := (datagram_replied accepted).2 addressAuthority configures addressStore challenges
    "192.0.2.7"
  have short : (full .txt).complete.length = 89 := by decide +kernel
  have long : (full .a).complete.length = 545 := by decide +kernel
  obtain ⟨_, _, text, _⟩ :=
    (replied (addressMessage .txt)).2 (addressQuery .txt) (by cbv) (by decide)
  obtain ⟨_, _, addresses, _⟩ :=
    (replied (addressMessage .a)).2 (addressQuery .a) (by cbv) (by decide)
  have fits : (full .txt).complete.length ≤ min (limitOf (addressQuery .txt)) 65535 := by
    rw [short]
    decide
  have exceeds : ¬(full .a).complete.length ≤ min (limitOf (addressQuery .a)) 65535 := by
    rw [long]
    decide
  rw [if_pos fits] at text
  rw [if_neg exceeds] at addresses
  exact ⟨short, text, long, addresses⟩

/-! ### The size of datagrams -/

/-- No datagram that is sent is longer than what the client takes. -/
def WithinLimit (q : Query) (sent : Except WriteFault (List Bytes)) : Prop :=
  ∀ wires, sent = .ok wires → ∀ wire ∈ wires, wire.length ≤ limitOf q

theorem withinLimit_iff_of_single {q : Query} {sent : Except WriteFault (List Bytes)} {wire : Bytes}
    (outcome : sent = .ok [wire]) : WithinLimit q sent ↔ wire.length ≤ limitOf q := by
  rw [outcome]
  simp [WithinLimit]

theorem withinLimit_of_error (q : Query) {sent : Except WriteFault (List Bytes)}
    {fault : WriteFault} (outcome : sent = .error fault) : WithinLimit q sent := by
  intro wires done
  rw [outcome] at done
  cases done

/-- Datagrams are within the limit of the client exactly when the questions alone are, unless
nothing is sent at all: the second writing fails, or a record is too long for its length.  One
question is always within the limit, and so is everything for a client that has told its limit in a
query. -/
theorem datagram_withinLimit_iff (a : Authority) (s : Store) (client : Text) {data : Bytes}
    {q : Query} (parsed : Query.ofWire? data = some q) :
    let sent := (handleDatagram a s client data).1
    (WithinLimit q sent ↔ echoLength q ≤ limitOf q ∨ streamLimit q < echoLength q ∨
        (reply a s q).1.toWireWithin (limitOf q) = .error .oversizedRecord) ∧
      (q.questions.length ≤ 1 → WithinLimit q sent) ∧
      (∀ e, q.extension = some e → e.payload ≠ 0 → q.isReply = false → WithinLimit q sent) := by
  intro sent
  have criterion : WithinLimit q sent ↔ echoLength q ≤ limitOf q ∨ streamLimit q < echoLength q ∨
      (reply a s q).1.toWireWithin (limitOf q) = .error .oversizedRecord := by
    rcases handleDatagram_cases a s client parsed with
      ⟨short, outcome⟩ | ⟨oversized, outcome⟩ | ⟨big, ⟨enough, outcome⟩ | ⟨beyond, outcome⟩⟩
    -- The complete reply is within the limit, and without its answer it is not longer.
    · have echo := echoLength_le (reply_echo a s q).2.2 (reply_extension a s q)
      have within : WithinLimit q sent := (withinLimit_iff_of_single outcome).mpr short
      exact iff_of_true within (Or.inl (Nat.le_trans echo short))
    · have within : WithinLimit q sent := withinLimit_of_error q outcome
      exact iff_of_true within (Or.inr (Or.inr oversized))
    -- What is sent are the questions and the extension.
    · have bare : WithinLimit q sent ↔ echoLength q ≤ limitOf q := by
        rw [← length_truncate a s q]
        exact withinLimit_iff_of_single outcome
      rw [bare, big]
      constructor
      · exact Or.inl
      · rintro (within | beyond | oversized)
        · exact within
        · exact absurd enough (Nat.not_le_of_lt beyond)
        · cases oversized
    · have within : WithinLimit q sent := withinLimit_of_error q outcome
      exact iff_of_true within (Or.inr (Or.inl beyond))
  refine ⟨criterion, ?_, ?_⟩
  · intro single
    have short := echoLength_of_single (Query.ofWire_questions parsed).1 single
    have bounds := limitOf_bounds q
    exact criterion.mpr (Or.inl (by simp only [Wire.block] at short; omega))
  · -- Both writings have the client's limit here.
    intro e said positive question
    have same : streamLimit q = limitOf q := by
      simp [streamLimit, limitOf, said, positive, question, datagramLimit]
    refine criterion.mpr ?_
    rw [same]
    rcases Nat.lt_or_ge (limitOf q) (echoLength q) with beyond | within
    · exact Or.inr (Or.inl beyond)
    · exact Or.inl within

/-! ### A hundred questions and one more -/

/-- A message with so many questions for the root. -/
def rootQuestions (count : Nat) : Reply where
  id := 1
  opcode := .query
  authoritative := false
  truncated := false
  recursionDesired := false
  code := .noError
  questions := List.replicate count ⟨.root, .a, 1⟩
  answer := none
  extension := none

/-- The root has one spelling. -/
theorem eq_of_alike_root {count : Nat} {qs : List Question}
    (alike : List.Forall₂ Wire.Alike (rootQuestions count).questions qs) :
    qs = (rootQuestions count).questions := by
  change List.Forall₂ _ (List.replicate count _) qs at alike
  change qs = List.replicate count _
  induction count generalizing qs with
  | zero =>
    cases alike
    rfl
  | succ count ih =>
    cases alike with
    | @cons _ q _ qs first rest =>
      obtain ⟨⟨labels, absolute, _, _⟩, kind, space⟩ := q
      obtain ⟨name, kind_eq, space_eq⟩ := first
      cases kind_eq
      cases space_eq
      have spelling := congrArg Name.labels ((Name.same_iff _ _).mp name)
      have qualified := Name.same_absolute name
      -- A name that is alike to the root has no labels.
      cases labels with
      | cons l ls => simp [Name.canonical, Name.lowerLabels, Name.root] at spelling
      | nil =>
        cases qualified
        rw [ih rest]
        rfl

theorem ofWire_rootQuestions {count : Nat} (short : (rootQuestions count).complete.length ≤ 65535) :
    Query.ofWire? (rootQuestions count).complete =
      some ⟨1, 0x8000, List.replicate count ⟨.root, .a, 1⟩, none⟩ := by
  have readable : (rootQuestions count).Readable := by
    refine ⟨show Opcode.query.code.toNat < 16 by decide, ?_, rfl, nofun⟩
    intro q member
    rw [List.eq_of_mem_replicate member]
    rfl
  have flags : (rootQuestions count).flags = 0x8000 :=
    show (rootQuestions 0).flags = 0x8000 by decide
  obtain ⟨qs, alike, _, read⟩ := ofWire_complete readable short
  rw [read, eq_of_alike_root alike, flags]
  rfl

/-- A hundred questions come back in a datagram.  One more is too many for a client that takes 512
octets, and comes back all the same. -/
theorem datagram_withinLimit_sample :
    let a : Authority :=
      ⟨⟨.root, .root, []⟩, ⟨[], []⟩, ⟨.root, [], []⟩, ⟨⟨2024, 1, 1⟩, 0, 0, 0, 0, none⟩⟩
    let sent (count : Nat) :=
      (handleDatagram a (.memory .empty) "192.0.2.7" (rootQuestions count).complete).1
    let q (count : Nat) : Query := ⟨1, 0x8000, List.replicate count ⟨.root, .a, 1⟩, none⟩
    limitOf (q 101) = 512 ∧ WithinLimit (q 100) (sent 100) ∧ ¬WithinLimit (q 101) (sent 101) := by
  intro a sent q
  have parsed : ∀ count ∈ [100, 101],
      Query.ofWire? (rootQuestions count).complete = some (q count) := by
    intro count member
    have short : ∀ count ∈ [100, 101], (rootQuestions count).complete.length ≤ 65535 := by
      decide +kernel
    exact ofWire_rootQuestions (short count member)
  have hundred := datagram_withinLimit_iff a (.memory .empty) "192.0.2.7" (parsed 100 (by simp))
  have more := datagram_withinLimit_iff a (.memory .empty) "192.0.2.7" (parsed 101 (by simp))
  refine ⟨rfl, hundred.1.mpr (Or.inl (by decide +kernel)), ?_⟩
  intro within
  rcases more.1.mp within with short | unwritten | oversized
  · exact absurd short (by decide +kernel)
  · exact absurd unwritten (by decide +kernel)
  · exact absurd oversized (by decide +kernel)

end ChallengeDns.Transport
