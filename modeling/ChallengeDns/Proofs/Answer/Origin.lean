import Mathlib
import ChallengeDns.Proofs.Address.Printing
import ChallengeDns.Proofs.Answer.Publication
import ChallengeDns.Proofs.Challenge.Digest
import ChallengeDns.Proofs.Config.Tables
import ChallengeDns.Proofs.Message.RoundTrip

/-!
# Where records come from

Each record of an answer comes from a value of the store or from the configuration, and the question
says from which part.  From there it has what the formats of messages ask for: names are absolute,
character strings are short, and a value that may be published is never too long for a record.
-/
namespace ChallengeDns

namespace RecordData

/-- One record more is kept unless a kept one holds the same data. -/
theorem dedupe_concat (ds : List RecordData) (d : RecordData) :
    dedupe (ds ++ [d]) =
      if (dedupe ds).any (·.same d) then dedupe ds else dedupe ds ++ [d] := by
  simp [dedupe]

/-- Records that are kept once each were there before. -/
theorem mem_of_mem_dedupe {ds : List RecordData} {d : RecordData} (member : d ∈ dedupe ds) :
    d ∈ ds := by
  induction ds using List.reverseRecOn with
  | nil => exact member
  | append_singleton ds e ih =>
    rw [dedupe_concat] at member
    rw [List.mem_append]
    split at member
    · exact Or.inl (ih member)
    · rcases List.mem_append.mp member with before | new
      · exact Or.inl (ih before)
      · exact Or.inr new

end RecordData

namespace Authority

/-! ### Types of questions -/

/-- The types that the server answers. -/
def answered : List RecordType := [.txt, .soa, .a, .aaaa, .ns]

theorem kind_cases (k : RecordType) :
    k = .txt ∨ k = .soa ∨ k = .a ∨ k = .aaaa ∨ k = .ns ∨ k ∉ answered := by
  by_cases known : k ∈ answered
  · simp only [answered, List.mem_cons, List.not_mem_nil, or_false] at known
    tauto
  · tauto

section Kinds

variable {a : Authority} {b : Backing} {q : Question}

theorem answerQuestion_txt (asked : q.kind = .txt) :
    a.answerQuestion b q = a.answerText b q.name := by
  rw [answerQuestion, asked]
  rfl

theorem answerQuestion_soa (asked : q.kind = .soa) :
    a.answerQuestion b q = a.answerStart b q.name := by
  rw [answerQuestion, asked]
  rfl

theorem answerQuestion_a (asked : q.kind = .a) :
    a.answerQuestion b q = a.answerAddresses q.name v4Record := by
  rw [answerQuestion, asked]
  rfl

theorem answerQuestion_aaaa (asked : q.kind = .aaaa) :
    a.answerQuestion b q = a.answerAddresses q.name v6Record := by
  rw [answerQuestion, asked]
  rfl

theorem answerQuestion_ns (asked : q.kind = .ns) :
    a.answerQuestion b q = .ok (a.answerNameServers q.name) := by
  rw [answerQuestion, asked]
  rfl

theorem answerQuestion_other (unknown : q.kind ∉ answered) :
    a.answerQuestion b q = .ok (.notImplemented, []) := by
  simp only [answered, List.mem_cons, List.not_mem_nil, or_false, not_or] at unknown
  obtain ⟨txt, soa, v4, v6, ns⟩ := unknown
  rw [answerQuestion, if_neg txt, if_neg soa, if_neg v4, if_neg v6, if_neg ns]

end Kinds

/-! ### Records of addresses -/

/-- The text of an address is read as the address, and a record holds it. -/
@[simp] theorem v4Record_v4 (bits : BitVec 32) : v4Record (.v4 bits) = .ok (some (.a bits)) := by
  simp [v4Record, addressRecord, Address.version, Address.readV4?_text]

@[simp] theorem v4Record_v6 (bits : BitVec 128) (zone : Option Text) :
    v4Record (.v6 bits zone) = .ok none := rfl

@[simp] theorem v6Record_v4 (bits : BitVec 32) : v6Record (.v4 bits) = .ok none := rfl

@[simp] theorem v6Record_v6 (bits : BitVec 128) :
    v6Record (.v6 bits none) = .ok (some (.aaaa bits)) := by
  simp [v6Record, addressRecord, Address.version, Address.text, Address.readV6?_v6Text]

/-- A zone cannot be read. -/
@[simp] theorem v6Record_zoned (bits : BitVec 128) (zone : Text) :
    v6Record (.v6 bits (some zone)) =
      .error (.zonedAddress (Address.v6 bits (some zone)).text) := by
  have percent : (.scalar '%') ∈ (Address.v6 bits (some zone)).text :=
    List.mem_append_left _ (List.mem_append_right _ (List.mem_singleton.mpr rfl))
  simp [v6Record, addressRecord, Address.version, Address.readV6?_percent percent]

/-! ### Sources -/

/-- Where a record that answers a question comes from. -/
inductive Source (a : Authority) (s : Store) (q : Question) : RecordData → Prop
  | published {k : Key} {v : TxtValue} {d : RecordData} (asked : q.kind = .txt)
      (eligible : a.access.isEligible q.name = true) (key : Key.ofName q.name = .ok k)
      (held : v ∈ s.records.get k) (made : textRecord v = .ok d) : Source a s q d
  | start {contact : Name} {serial : Nat} (asked : q.kind = .soa)
      (here : a.zone.domain.same q.name = true) (read : Contact.name a.zone.contact = .ok contact)
      (dated : zoneSerial a.now = .ok serial) :
      Source a s q (.soa a.zone.nameServer contact serial timers)
  | v4 {addresses : List Address} {bits : BitVec 32} (asked : q.kind = .a)
      (found : a.records.addresses.get? q.name = some addresses)
      (member : Address.v4 bits ∈ addresses) : Source a s q (.a bits)
  | v6 {addresses : List Address} {bits : BitVec 128} (asked : q.kind = .aaaa)
      (found : a.records.addresses.get? q.name = some addresses)
      (member : Address.v6 bits none ∈ addresses) : Source a s q (.aaaa bits)
  | nameServer {targets : List Name} {target : Name} (asked : q.kind = .ns)
      (found : a.records.nameServers.get? q.name = some targets)
      (member : target ∈ targets) : Source a s q (.ns target)

variable {a : Authority} {s : Store} {q : Question} {known : Known}

theorem answerText_source (asked : q.kind = .txt)
    (found : a.answerText (a.backing s) q.name = .ok known) : ∀ d ∈ known.2, Source a s q d := by
  unfold answerText at found
  split at found
  next eligible =>
    obtain ⟨values, given, found⟩ := bind_except_ok.mp found
    have got : s.get (.name q.name) = values := Except.ok.inj given
    obtain ⟨records, made, rest⟩ := bind_except_ok.mp found
    cases rest
    intro d member
    obtain ⟨v, inside, record⟩ := mem_mapM_except made member
    -- A name without a key has no values.
    cases key : Key.ofName q.name with
    | ok k =>
      simp only [Store.get, Key.ofGiven, Name.Given.read, key] at got
      subst got
      exact .published asked eligible key inside record
    | error e =>
      simp only [Store.get, Key.ofGiven, Name.Given.read, key] at got
      subst got
      cases inside
  next =>
    cases found
    exact List.forall_mem_nil _

theorem answerStart_source (asked : q.kind = .soa)
    (found : a.answerStart (a.backing s) q.name = .ok known) : ∀ d ∈ known.2, Source a s q d := by
  unfold answerStart at found
  split at found
  next here =>
    obtain ⟨contact, read, found⟩ := bind_except_ok.mp found
    obtain ⟨_, clock, found⟩ := bind_except_ok.mp found
    cases clock
    obtain ⟨serial, dated, found⟩ := bind_except_ok.mp found
    cases found
    intro d member
    cases List.mem_singleton.mp member
    exact .start asked here (mapError_except_ok.mp read) (mapError_except_ok.mp dated)
  next =>
    cases found
    exact List.forall_mem_nil _

/-- The records of addresses are made from the addresses of the name. -/
theorem answerAddresses_ok {n : Name} {record : Address → Except AnswerError (Option RecordData)}
    (found : a.answerAddresses n record = .ok known) :
    ∀ d ∈ known.2, ∃ addresses address, a.records.addresses.get? n = some addresses ∧
      address ∈ addresses ∧ record address = .ok (some d) := by
  unfold answerAddresses at found
  split at found
  next =>
    cases found
    exact List.forall_mem_nil _
  next addresses held =>
    obtain ⟨records, made, rest⟩ := bind_except_ok.mp found
    cases rest
    intro d member
    obtain ⟨r, inside, rfl⟩ := List.mem_filterMap.mp member
    obtain ⟨address, present, step⟩ := mem_mapM_except made inside
    exact ⟨addresses, address, held, present, step⟩

theorem answerNameServers_source (asked : q.kind = .ns) :
    ∀ d ∈ (a.answerNameServers q.name).2, Source a s q d := by
  intro d member
  unfold answerNameServers at member
  split at member
  next => cases member
  next targets held =>
    obtain ⟨target, inside, rfl⟩ := List.mem_map.mp member
    exact .nameServer asked held inside

/-- The type of a question decides where its records come from. -/
theorem answerQuestion_source (found : a.answerQuestion (a.backing s) q = .ok known) :
    ∀ d ∈ known.2, Source a s q d := by
  -- One case for each type that is answered, and one for all others.
  rcases kind_cases q.kind with asked | asked | asked | asked | asked | unknown
  · rw [answerQuestion_txt asked] at found
    exact answerText_source asked found
  · rw [answerQuestion_soa asked] at found
    exact answerStart_source asked found
  · rw [answerQuestion_a asked] at found
    intro d member
    obtain ⟨addresses, address, held, present, made⟩ := answerAddresses_ok found d member
    cases address with
    | v4 bits =>
      cases (v4Record_v4 bits).symm.trans made
      exact .v4 asked held present
    | v6 bits scope => cases made
  · rw [answerQuestion_aaaa asked] at found
    intro d member
    obtain ⟨addresses, address, held, present, made⟩ := answerAddresses_ok found d member
    cases address with
    | v4 bits => cases made
    | v6 bits scope =>
      -- An address with a scope has no record.
      cases scope with
      | none =>
        cases (v6Record_v6 bits).symm.trans made
        exact .v6 asked held present
      | some scope => cases (v6Record_zoned bits scope).symm.trans made
  · rw [answerQuestion_ns asked] at found
    cases found
    exact answerNameServers_source asked
  · rw [answerQuestion_other unknown] at found
    cases found
    exact List.forall_mem_nil _

/-- An answer has the owner and the type of the first question, and its records have sources. -/
theorem answer_source {q : Query} {answer : Answer}
    (answered : (a.answer s q).1.answer = some answer) :
    q.opcode = .query ∧ ∃ question more, q.questions = question :: more ∧
      answer.owner = question.name ∧ answer.kind = question.kind ∧
      ∀ d ∈ answer.records, Source a s question d := by
  unfold Authority.answer respond at answered
  cases found : a.lookUp (a.backing s) q with
  | error e => simp [found, replyWith] at answered
  | ok known =>
    simp only [found, replyWith] at answered
    -- An answer is put in only for a question and for records.
    split at answered
    next d ds question more questions =>
      cases answered
      unfold lookUp at found
      split at found
      next => cases found
      next standard =>
        rw [questions] at found
        have standard : q.opcode = .query := by
          by_contra other
          simp [other] at standard
        refine ⟨standard, question, more, questions, rfl, rfl, ?_⟩
        intro e member
        exact answerQuestion_source found e (RecordData.mem_of_mem_dedupe member)
    next => cases answered

/-! ### What messages ask for -/

theorem chunks_ne_nil (size : Nat) (h : 0 < size) (b : Bytes) : chunks size h b ≠ [] := by
  unfold chunks
  split <;> exact List.cons_ne_nil _ _

theorem length_le_of_mem_chunks (size : Nat) (h : 0 < size) (b : Bytes) :
    ∀ piece ∈ chunks size h b, piece.length ≤ size := by
  induction b using chunks.induct size h with
  | case1 b short =>
    rw [chunks, if_pos short]
    simpa using short
  | case2 b long ih =>
    rw [chunks, if_neg long, List.forall_mem_cons]
    exact ⟨List.length_take_le size b, ih⟩

theorem textRecord_ok {v : TxtValue} {d : RecordData} (made : textRecord v = .ok d) :
    ∃ t b, v = .text t ∧ t.encode? = some b ∧ d = .txt (strings b) := by
  unfold textRecord at made
  split at made
  next => cases made
  next t =>
    split at made
    next b encoded =>
      cases made
      exact ⟨t, b, rfl, encoded, rfl⟩
    next => cases made

/-- The records of a configured server suit the question. -/
theorem Source.suits {root : Value} (configures : Config.Configures root a) {d : RecordData}
    (source : Source a s q d) : d.Suits q.kind := by
  cases source with
  | published asked _ _ _ made =>
    obtain ⟨_, b, _, _, rfl⟩ := textRecord_ok made
    refine ⟨asked, chunks_ne_nil _ _ _, ?_⟩
    intro piece member
    exact Nat.lt_succ_of_le (length_le_of_mem_chunks _ _ _ piece member)
  | start asked _ read _ =>
    exact ⟨asked, configures.gives.names_absolute.2, Name.readAbsolute_absolute read, rfl⟩
  | v4 asked => exact asked
  | v6 asked => exact asked
  | nameServer asked found member => exact ⟨asked, configures.targets_absolute found _ member⟩

end Authority

/-! ### Values that may be published -/

theorem Text.length_utf8Char (c : Char) : (utf8Char c).length ≤ 4 := by
  unfold utf8Char utf8Octets
  split
  · simp
  split
  · simp
  split <;> simp

/-- A character takes at most four octets. -/
theorem Text.length_encode {t : Text} {cs : List Char} {b : Bytes} (chars : t.chars? = some cs)
    (encoded : t.encode? = some b) : b.length ≤ 4 * cs.length := by
  induction t generalizing cs b with
  | nil =>
    cases encoded
    exact Nat.zero_le _
  | cons c t ih =>
    cases c with
    | surrogate half => cases encoded
    | scalar c =>
      obtain ⟨rest, tail, rfl⟩ := Option.map_eq_some_iff.mp encoded
      unfold chars? at chars ih
      rw [List.mapM_cons] at chars
      obtain ⟨_, first, chars⟩ := Option.bind_eq_some_iff.mp chars
      obtain ⟨others, later, chars⟩ := Option.bind_eq_some_iff.mp chars
      cases chars
      have short := ih later tail
      have size := length_utf8Char c
      rw [List.length_append, List.length_cons]
      omega

namespace Authority

/-- A published challenge is one character string. -/
theorem fits_of_isChallenge {v : TxtValue} (challenge : v.IsChallenge) {d : RecordData}
    (made : textRecord v = .ok d) : Wire.fits d = true := by
  obtain ⟨t, rfl, valid⟩ := challenge
  obtain ⟨u, b, same, encoded, rfl⟩ := textRecord_ok made
  cases same
  obtain ⟨cs, chars, size⟩ := Challenge.length_chars valid
  have short := Text.length_encode chars encoded
  have single : strings b = [b] := by
    rw [strings, chunks, if_pos (by omega)]
  simp only [Wire.fits, single, List.flatMap_cons, List.flatMap_nil, List.append_nil,
    Wire.counted, List.length_cons, decide_eq_true_eq]
  omega

theorem Source.fits (challenges : ∀ k, ∀ v ∈ s.records.get k, v.IsChallenge) {d : RecordData}
    (source : Source a s q d) : Wire.fits d = true := by
  cases source with
  | published _ _ _ held made => exact fits_of_isChallenge (challenges _ _ held) made
  | _ => rfl

end Authority

end ChallengeDns
