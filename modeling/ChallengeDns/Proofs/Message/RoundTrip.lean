import Mathlib
import ChallengeDns.Message.Reader
import ChallengeDns.Proofs.Message.Compression

/-!
# Replies can be read

The octets of a reply are a message: the reader that the server uses for queries gives back the
identity, the bits of the header, the questions and the extension, and finds nothing wrong with the
records of the answer.  Names may come back in the case of an earlier name that they point to,
except for the name of the first question, before which there is none.
-/
namespace ChallengeDns

open WireReader Wire

/-! ### Data of records -/

namespace RecordData

/-- Data that the records of a type can have. -/
def Suits (kind : RecordType) : RecordData → Prop
  | .a _ => kind = .a
  | .aaaa _ => kind = .aaaa
  | .ns target => kind = .ns ∧ target.absolute = true
  | .soa primary contact _ timers =>
    kind = .soa ∧ primary.absolute = true ∧ contact.absolute = true ∧ timers.length = 4
  | .txt strings => kind = .txt ∧ strings ≠ [] ∧ ∀ s ∈ strings, s.length < 256

/-- Neither an extension nor a signature. -/
theorem Suits.ordinary {kind : RecordType} {d : RecordData} (suits : d.Suits kind) :
    kind.code.toNat ≠ RecordType.opt.code.toNat ∧ kind.code.toNat ≠ RecordType.tsig.code.toNat := by
  have answers : kind ∈ [RecordType.a, .aaaa, .ns, .soa, .txt] := by
    cases d with
    | a | aaaa => simp [show kind = _ from suits]
    | ns | soa | txt => simp [suits.1]
  have apart : ∀ k ∈ [RecordType.a, .aaaa, .ns, .soa, .txt],
      k.code.toNat ≠ RecordType.opt.code.toNat ∧ k.code.toNat ≠ RecordType.tsig.code.toNat := by
    decide
  exact apart kind answers

end RecordData

theorem Address.length_octets (count n : Nat) : (Address.octets count n).length = count := by
  induction count generalizing n with
  | zero => rfl
  | succ count ih => rw [octets, List.length_append, ih, List.length_singleton]

namespace Wire

theorem reads_domain {front : Bytes} {table : Suffixes} (sound : Sound front table) {n : Name}
    (absolute : n.absolute = true) :
    let w := name front.length table n
    Sound (front ++ w.1) w.2 ∧ Reads RecordFormat.domain front w.1 () := by
  obtain ⟨sound', m, _, _, reads⟩ := reads_written sound absolute
  exact ⟨sound', reads.finish⟩

theorem readsAll_texts {strings : List Bytes} (filled : strings ≠ [])
    (short : ∀ s ∈ strings, s.length < 256) (front : Bytes) :
    ReadsAll RecordFormat.texts front (strings.flatMap counted) () := by
  have each : ∀ i ∈ strings.map fun s => (counted s, s),
      i.1 ≠ [] ∧ ∀ front, Reads WireReader.counted front i.1 i.2 := by
    intro i member
    obtain ⟨s, inside, rfl⟩ := List.mem_map.mp member
    exact ⟨List.cons_ne_nil _ _, fun front => reads_counted (short s inside) front⟩
  intro c shows
  have strings_eq : (strings.map fun s => (counted s, s)).flatMap (·.1) =
      strings.flatMap counted := by
    rw [List.flatMap_map]
  obtain ⟨d, ran, shown, wire⟩ := readsAll_many each front c (strings_eq ▸ shows)
  -- One text has to be there; the format asks for it before it reads.
  have more : decide (0 < c.stop - c.position) = true := by
    obtain ⟨s, rest, rfl⟩ := List.exists_cons_of_ne_nil filled
    rw [decide_eq_true_eq, shows.left, List.flatMap_cons, counted]
    exact Nat.zero_lt_succ _
  refine ⟨d, ?_, strings_eq ▸ shown, wire⟩
  change (require (decide (0 < c.stop - c.position)) c).bind
    (fun p => (many WireReader.counted p.2).bind fun p => some ((), p.2)) = _
  rw [require, if_pos more]
  change (many WireReader.counted c).bind _ = _
  rw [ran]
  rfl

/-- The data of a record is read back by the format of its type. -/
theorem data_written {front : Bytes} {table : Suffixes} (sound : Sound front table)
    {kind : RecordType} {d : RecordData} (suits : d.Suits kind) :
    let w := data front.length table d
    Sound (front ++ w.1) w.2 ∧
      ReadsAll (RecordFormat.data Reply.space.toNat kind.code.toNat) front w.1 () := by
  cases d with
  | a bits =>
    cases suits
    have reads := reads_skip front (Address.octets 4 bits.toNat)
    rw [Address.length_octets] at reads
    exact ⟨sound.extend _, reads.all⟩
  | aaaa bits =>
    cases suits
    have reads := reads_skip front (Address.octets 16 bits.toNat)
    rw [Address.length_octets] at reads
    exact ⟨sound.extend _, reads.all⟩
  | ns target =>
    obtain ⟨rfl, absolute⟩ := suits
    obtain ⟨sound', reads⟩ := reads_domain sound absolute
    exact ⟨sound', reads.all⟩
  | soa primary contact serial timers =>
    obtain ⟨rfl, primaryAbsolute, contactAbsolute, four_timers⟩ := suits
    intro w
    -- The second name may point into the first one, so each part is read behind the one before it.
    let p := name front.length table primary
    obtain ⟨sound₁, reads₁⟩ := reads_domain sound primaryAbsolute
    have place : (front ++ p.1).length = front.length + p.1.length := List.length_append
    let c := name (front ++ p.1).length p.2 contact
    obtain ⟨sound₂, reads₂⟩ := reads_domain sound₁ contactAbsolute
    have written : w = (p.1 ++ (c.1 ++ (four serial ++ timers.flatMap four)), c.2) := by
      simp only [w, data, p, c, place, List.append_assoc]
    have size : (four serial ++ timers.flatMap four).length = 20 := by
      have each : ∀ n, (four n).length = 4 := fun n => rfl
      simp [List.length_flatMap, each, four_timers]
    have reads₃ := reads_skip (front ++ p.1 ++ c.1) (four serial ++ timers.flatMap four)
    rw [size] at reads₃
    rw [written]
    constructor
    · have all := sound₂.extend (four serial ++ timers.flatMap four)
      simpa only [List.append_assoc] using all
    · exact (reads₁.bind (reads₂.bind reads₃)).all
  | txt strings =>
    obtain ⟨rfl, filled, short⟩ := suits
    exact ⟨sound.extend _, readsAll_texts filled short front⟩

/-! ### Records -/

theorem toUInt16_toNat (n : UInt16) : n.toNat.toUInt16 = n := UInt16.ofNat_toNat

open Query

theorem record_written {front : Bytes} {table : Suffixes} (sound : Sound front table) {owner : Name}
    (absolute : owner.absolute = true) {kind : RecordType} {d : RecordData} (suits : d.Suits kind)
    {p : Partial} (unchanging : p.opcode ≠ .update) :
    let w := record owner kind front.length table d
    w.1.length < 65536 →
      Sound (front ++ w.1) w.2 ∧ Reads (Query.record p .answer) front w.1 p := by
  intro w short
  let n := name front.length table owner
  let fixed := two kind.code.toNat ++ (two Reply.space.toNat ++ four Reply.timeToLive)
  obtain ⟨sound₁, _, _, _, reads₁⟩ := reads_written sound absolute
  have place : ∀ count,
      (front ++ n.1 ++ fixed ++ two count).length = front.length + n.1.length + 10 := by
    intro count
    simp only [fixed, List.length_append]
    rfl
  -- Names in the data point to places, so the data is written for its own place: behind the owner,
  -- the fixed fields and the length.
  let content := data (front.length + n.1.length + 10) n.2 d
  obtain ⟨sound₂, reads₂⟩ := data_written
    ((sound₁.extend fixed).extend (two content.1.length)) suits
  rw [place] at sound₂ reads₂
  have written : w = (n.1 ++ (two kind.code.toNat ++ (two Reply.space.toNat ++
      (four Reply.timeToLive ++ (two content.1.length ++ content.1)))), content.2) := by
    simp only [w, record, n, content, List.append_assoc]
  have count : content.1.length < 65536 := by
    rw [written] at short
    simp only [List.length_append] at short
    omega
  rw [written]
  constructor
  · simpa only [fixed, List.append_assoc] using sound₂
  · have ordinary := suits.ordinary
    refine reads₁.bind ?_
    refine (reads_two kind.code.toNat_lt _).bind ?_
    refine (reads_two Reply.space.toNat_lt _).bind ?_
    refine (reads_four (n := Reply.timeToLive) (by decide) _).bind ?_
    refine (reads_two count _).bind ?_
    rw [if_neg ordinary.1, if_neg ordinary.2, if_neg unchanging]
    have region := reads₂.within.finish (f := fun _ => p)
    simpa only [fixed, List.append_assoc] using region

theorem records_written {owner : Name} (absolute : owner.absolute = true) {kind : RecordType}
    {p : Partial} (unchanging : p.opcode ≠ .update) {ds : List RecordData}
    (suit : ∀ d ∈ ds, d.Suits kind) {front : Bytes} {table : Suffixes} (sound : Sound front table) :
    let w := sequence (record owner kind) front.length table ds
    w.1.length < 65536 → Reads (Query.records .answer ds.length p) front w.1 p := by
  induction ds generalizing front table with
  | nil => exact fun _ => reads_pure front p
  | cons d ds ih =>
    intro w short
    obtain ⟨suits, others⟩ := List.forall_mem_cons.mp suit
    let first := record owner kind front.length table d
    have place : (front ++ first.1).length = front.length + first.1.length := List.length_append
    have written : w.1 = first.1 ++
        (sequence (record owner kind) (front ++ first.1).length first.2 ds).1 := by
      simp only [w, sequence, first, place]
    rw [written] at short ⊢
    rw [List.length_append] at short
    obtain ⟨sound', reads⟩ := record_written sound absolute suits unchanging
      (Nat.lt_of_le_of_lt (Nat.le_add_right _ _) short)
    exact reads.bind (ih others sound' (Nat.lt_of_le_of_lt (Nat.le_add_left _ _) short))

/-! ### Extensions -/

/-- The options of an extension behind `offset` octets, each with its number. -/
def options (offset : Nat) (e : ReplyExtension) : List (Bytes × Nat) :=
  let n := (block - (offset + extensionLength + optionLength) % block) % block
  if e.padded then [(two 12 ++ (two n ++ List.replicate n 0), 12)] else []

def optionOctets (offset : Nat) (e : ReplyExtension) : Bytes :=
  (options offset e).flatMap (·.1)

theorem extension_eq (offset : Nat) (e : ReplyExtension) :
    Wire.extension offset e = [0] ++ (two RecordType.opt.code.toNat ++ (two Reply.payload.toNat ++
      (four 0 ++ (two (optionOctets offset e).length ++ optionOctets offset e)))) := by
  cases padded : e.padded <;> simp [Wire.extension, optionOctets, options, padded]

theorem length_optionOctets (offset : Nat) (e : ReplyExtension) :
    (optionOctets offset e).length < optionLength + block := by
  have small : (block - (offset + extensionLength + optionLength) % block) % block < block :=
    Nat.mod_lt _ (by decide)
  cases padded : e.padded with
  | false => simp [optionOctets, options, padded, optionLength]
  | true =>
    simp only [optionOctets, options, padded, if_true, List.flatMap_cons, List.flatMap_nil,
      List.length_append, List.length_replicate, List.length_nil]
    change 2 + (2 + _) + 0 < 4 + block
    omega

theorem contains_options (offset : Nat) (e : ReplyExtension) :
    ((options offset e).map (·.2)).contains 12 = e.padded := by
  cases padded : e.padded <;> simp [options, padded]

/-- The option that fills a reply up. -/
theorem reads_padding {n : Nat} (small : n < 65536) (front : Bytes) :
    Reads RecordFormat.option front (two 12 ++ (two n ++ List.replicate n 0)) 12 := by
  refine (reads_two (n := 12) (by decide) _).bind ?_
  refine (reads_two small _).bind ?_
  have octets : Reads (within (List.replicate n (0 : UInt8)).length RecordFormat.anything)
      (front ++ two 12 ++ two n) (List.replicate n 0) () :=
    (readsAll_rest _ _).finish.within
  rw [List.length_replicate] at octets
  exact octets.finish

theorem reads_options (offset : Nat) (e : ReplyExtension) :
    ∀ i ∈ options offset e, i.1 ≠ [] ∧ ∀ front, Reads RecordFormat.option front i.1 i.2 := by
  intro i member
  unfold options at member
  split at member
  next =>
    rw [List.mem_singleton] at member
    subst member
    have small : (block - (offset + extensionLength + optionLength) % block) % block < 65536 :=
      Nat.lt_trans (Nat.mod_lt _ (by decide)) (show block < 65536 by decide)
    exact ⟨List.cons_ne_nil _ _, reads_padding small⟩
  next => cases member

theorem extensionData_written (offset : Nat) (e : ReplyExtension) (front : Bytes) :
    Reads (extensionData (optionOctets offset e).length 0 Reply.payload.toNat) front
      (optionOctets offset e) ⟨0, Reply.payload, e.padded⟩ := by
  have content := (readsAll_many (reads_options offset e) front).within.finish
    (f := fun codes => Extension.mk (0 / 65536 % 256) Reply.payload.toNat.toUInt16
      (codes.contains 12))
  rwa [contains_options] at content

/-- The extension of a reply is the record that extends the message. -/
theorem extension_written (front : Bytes) (e : ReplyExtension) {p : Partial}
    (single : p.extension = none) :
    Reads (Query.record p .additional) front (Wire.extension front.length e)
      { p with extension := some ⟨0, Reply.payload, e.padded⟩ } := by
  have root : Reads WireReader.name front [0] .root := by
    refine reads_name rfl (.root ?_)
    rw [List.drop_left]
  have short : (optionOctets front.length e).length < 65536 :=
    Nat.lt_trans (length_optionOctets front.length e) (by decide)
  have allowed : (Section.additional = Section.additional && p.extension.isNone &&
      (Name.root = Name.root : Bool)) = true := by simp [single]
  rw [extension_eq]
  refine root.bind ?_
  refine (reads_two (n := RecordType.opt.code.toNat) (by decide) _).bind ?_
  refine (reads_two (n := Reply.payload.toNat) (by decide) _).bind ?_
  refine (reads_four (n := 0) (by decide) _).bind ?_
  refine (reads_two short _).bind ?_
  rw [if_pos rfl]
  refine Reads.bind (b := []) (reads_require allowed _) ?_
  exact (extensionData_written front.length e _).finish
    (f := fun e => { p with extension := some e })

/-! ### Questions -/

/-- Questions that differ in the case of the name only. -/
structure Alike (q q' : Question) : Prop where
  name : q'.name.same q.name = true
  kind : q'.kind = q.kind
  space : q'.space = q.space

theorem question_written {front : Bytes} {table : Suffixes} (sound : Sound front table)
    {q : Question} (absolute : q.name.absolute = true) :
    let w := Wire.question front.length table q
    Sound (front ++ w.1) w.2 ∧
      ∃ q', Alike q q' ∧ (table = [] → q' = q) ∧ Reads Query.question front w.1 q' := by
  intro w
  let n := name front.length table q.name
  obtain ⟨sound', m, same, exact_, reads⟩ := reads_written sound absolute
  have written : w = (n.1 ++ (two q.kind.code.toNat ++ two q.space.toNat), n.2) := by
    simp only [w, Wire.question, n, List.append_assoc]
  rw [written]
  refine ⟨?_, ⟨m, q.kind, q.space⟩, ⟨same, rfl, rfl⟩, ?_, ?_⟩
  · have all := sound'.extend (two q.kind.code.toNat ++ two q.space.toNat)
    simpa only [List.append_assoc] using all
  · intro empty
    rw [exact_ empty]
  · refine reads.bind ((reads_two q.kind.code.toNat_lt _).bind ?_)
    have last := (reads_two q.space.toNat_lt (front ++ n.1 ++ two q.kind.code.toNat)).finish
      (f := fun space => Question.mk m ⟨q.kind.code.toNat.toUInt16⟩ space.toUInt16)
    simp only [toUInt16_toNat] at last ⊢
    exact last

theorem questions_written {qs : List Question} (absolute : ∀ q ∈ qs, q.name.absolute = true)
    {front : Bytes} {table : Suffixes} (sound : Sound front table) :
    let w := sequence Wire.question front.length table qs
    Sound (front ++ w.1) w.2 ∧
      ∃ qs', List.Forall₂ Alike qs qs' ∧ (table = [] → qs'.head? = qs.head?) ∧
        Reads (times Query.question qs.length) front w.1 qs' := by
  -- By induction on the questions; each is written with the places of all names before it.
  induction qs generalizing front table with
  | nil =>
    have all := sound.extend []
    exact ⟨all, [], .nil, fun _ => rfl, reads_pure front []⟩
  | cons q qs ih =>
    intro w
    obtain ⟨first, others⟩ := List.forall_mem_cons.mp absolute
    let start := Wire.question front.length table q
    have place : (front ++ start.1).length = front.length + start.1.length := List.length_append
    let rest := sequence Wire.question (front ++ start.1).length start.2 qs
    have written : w = (start.1 ++ rest.1, rest.2) := by
      simp only [w, sequence, start, rest, place]
    obtain ⟨sound₁, q', alike, exact_, reads⟩ := question_written sound first
    obtain ⟨sound₂, qs', others_alike, _, reads'⟩ := ih others sound₁
    rw [written]
    refine ⟨by rw [← List.append_assoc]; exact sound₂, q' :: qs', .cons alike others_alike, ?_, ?_⟩
    · intro empty
      rw [exact_ empty]
      rfl
    · exact reads.bind (reads'.finish (f := fun qs => q' :: qs))

theorem Alike.allowed {opcode : Opcode} {qs qs' : List Question} (alike : List.Forall₂ Alike qs qs')
    (allowed : questionsAllowed opcode qs = true) : questionsAllowed opcode qs' = true := by
  have kinds : (qs'.all fun q => q.kind == .soa && !isMetaClass q.space.toNat) =
      qs.all fun q => q.kind == .soa && !isMetaClass q.space.toNat := by
    clear allowed
    induction alike with
    | nil => rfl
    | cons first _ ih => rw [List.all_cons, List.all_cons, ih, first.kind, first.space]
  unfold questionsAllowed at allowed ⊢
  rw [kinds, ← alike.length_eq]
  exact allowed

/-- Where each item takes an octet, there are no more items than octets. -/
theorem length_le_sequence {α : Type} {one : Nat → Suffixes → α → Bytes × Suffixes}
    (filled : ∀ offset table a, 0 < (one offset table a).1.length) (as : List α) (offset : Nat)
    (table : Suffixes) : as.length ≤ (sequence one offset table as).1.length := by
  induction as generalizing offset table with
  | nil => exact Nat.zero_le _
  | cons a as ih =>
    have first := filled offset table a
    have rest := ih (offset + (one offset table a).1.length) (one offset table a).2
    rw [sequence, List.length_append, List.length_cons]
    omega

end Wire

namespace Reply

open Query

/-- What keeps the parts of a reply within the formats of messages. -/
structure Readable (r : Reply) : Prop where
  opcode : r.opcode.code.toNat < 16
  questions : ∀ q ∈ r.questions, q.name.absolute = true
  allowed : questionsAllowed r.opcode r.questions = true
  answer : ∀ a ∈ r.answer, r.opcode ≠ .update ∧ a.owner.absolute = true ∧
    ∀ d ∈ a.records, d.Suits a.kind

/-- The bits of the header say what the reply says. -/
theorem flags_fields (r : Reply) (small : r.opcode.code.toNat < 16) :
    Opcode.ofFlags r.flags = r.opcode ∧ (r.flags &&& 0x8000 != 0) = true ∧
      (r.flags &&& 0x0400 != 0) = r.authoritative ∧ (r.flags &&& 0x0200 != 0) = r.truncated ∧
      (r.flags &&& 0x0100 != 0) = r.recursionDesired ∧ r.flags &&& 15 = r.code.code := by
  have bits : ∀ (o : Fin 16) (code : Fin 5) (a t d : Bool),
      let bit (b : Bool) (mask : UInt16) : UInt16 := if b then mask else 0
      let flags := (0x8000 : UInt16) ||| (UInt16.ofNat o &&& 15) <<< 11 ||| bit a 0x0400
        ||| bit t 0x0200 ||| bit d 0x0100 ||| UInt16.ofNat code
      flags >>> 11 &&& 15 = UInt16.ofNat o ∧ (flags &&& 0x8000 != 0) = true ∧
        (flags &&& 0x0400 != 0) = a ∧ (flags &&& 0x0200 != 0) = t ∧ (flags &&& 0x0100 != 0) = d ∧
        flags &&& 15 = UInt16.ofNat code := by
    decide +kernel
  have kind : UInt16.ofNat r.opcode.code.toNat = r.opcode.code := UInt16.ofNat_toNat
  have number : ∃ code : Fin 5, UInt16.ofNat code = r.code.code := by
    cases r.code <;> decide
  obtain ⟨code, number⟩ := number
  have fields := bits ⟨r.opcode.code.toNat, small⟩ code r.authoritative r.truncated
    r.recursionDesired
  simp only [kind, number] at fields
  obtain ⟨opcode, others⟩ := fields
  exact ⟨congrArg Opcode.mk opcode, others⟩

theorem length_questions (r : Reply) : r.questions.length ≤ r.questionOctets.1.length :=
  length_le_sequence (fun _ _ _ => by simp [Wire.question, two]) _ _ _

theorem length_records (r : Reply) (offset : Nat) (table : Suffixes) :
    (r.answer.map (·.records.length)).getD 0 ≤ (r.answerOctets offset table).length := by
  cases answer : r.answer with
  | none => exact Nat.zero_le _
  | some a =>
    simp only [answerOctets, answer, Option.map_some, Option.getD_some]
    exact length_le_sequence (fun _ _ _ => by simp [Wire.record, two, four]) _ _ _

theorem header_eq (r : Reply) :
    header r = two r.id.toNat ++ (two r.flags.toNat ++ (two r.questions.length ++
      (two ((r.answer.map (·.records.length)).getD 0) ++ (two 0 ++
        two (if r.extension.isSome then 1 else 0))))) := by
  simp [header]

theorem reads_end {α : Type} (front : Bytes) (a : α) :
    ReadsAll (do require ((← remaining) = 0); return a) front [] a := by
  intro c shows
  refine ⟨c, ?_, by rw [List.append_nil]; exact shows, rfl⟩
  have done : decide (c.stop - c.position = 0) = true := by
    rw [decide_eq_true_eq, shows.left]
    rfl
  change (require (decide (c.stop - c.position = 0)) c).bind _ = _
  rw [require, if_pos done]
  rfl

theorem answer_written {r : Reply} (readable : r.Readable) {p : Partial}
    (opcode : p.opcode = r.opcode) {front : Bytes} {table : Suffixes} (sound : Sound front table)
    (short : (r.answerOctets front.length table).length < 65536) :
    Reads (records .answer ((r.answer.map (·.records.length)).getD 0) p) front
      (r.answerOctets front.length table) p := by
  cases answer : r.answer with
  | none =>
    simp only [answerOctets, answer]
    exact reads_pure front p
  | some a =>
    obtain ⟨unchanging, absolute, suit⟩ := readable.answer a answer
    rw [← opcode] at unchanging
    simp only [answerOctets, answer] at short ⊢
    exact records_written absolute unchanging suit sound short

theorem ending_written (r : Reply) {p : Partial} (single : p.extension = none) (front : Bytes)
    (place : front.length = headerLength + r.body.length) :
    Reads (records .additional (if r.extension.isSome then 1 else 0) p) front r.ending
      { p with extension := r.extension.map fun e => ⟨0, payload, e.padded⟩ } := by
  unfold ending
  rw [← place]
  cases said : r.extension with
  | none =>
    have same : { p with extension := (none : Option ReplyExtension).map fun e =>
        (⟨0, payload, e.padded⟩ : Extension) } = p := by
      cases p
      cases single
      rfl
    rw [same]
    exact reads_pure front p
  | some e =>
    change Reads (Query.record p .additional >>= fun p => pure p) front
      (Wire.extension front.length e) _
    exact (extension_written front e single).finish (f := fun p => p)

/-- A reply that is short enough for a message is read with the bits of its header, its questions
but for case, and its extension. -/
theorem ofWire_complete {r : Reply} (readable : r.Readable) (short : r.complete.length ≤ 65535) :
    ∃ qs, List.Forall₂ Alike r.questions qs ∧ qs.head? = r.questions.head? ∧
      ofWire? r.complete =
        some ⟨r.id, r.flags, qs, r.extension.map fun e => ⟨0, payload, e.padded⟩⟩ := by
  rw [length_complete] at short
  let start := headerLength + r.questionOctets.1.length
  let answers := r.answerOctets start r.questionOctets.2
  have size : r.body.length = r.questionOctets.1.length + answers.length := List.length_append
  have asked := r.length_questions
  have count : (r.answer.map (·.records.length)).getD 0 ≤ answers.length := r.length_records _ _
  have opcode : Opcode.ofFlags r.flags = r.opcode := (r.flags_fields readable.opcode).1
  -- What is read of each part, behind the parts before it.
  have unmarked : Sound (header r) [] := nofun
  obtain ⟨sound, qs, alike, same, questions⟩ := questions_written readable.questions unmarked
  let p : Partial := ⟨r.opcode, qs, none⟩
  have records : Reads (records .answer ((r.answer.map (·.records.length)).getD 0) p)
      (header r ++ r.questionOctets.1) answers p := by
    have place : (header r ++ r.questionOctets.1).length = start := List.length_append
    have read := answer_written readable (p := p) rfl sound
    rw [show (sequence Wire.question (header r).length [] r.questions) = r.questionOctets from rfl,
      place] at read
    exact read (show answers.length < 65536 by omega)
  have extension := r.ending_written (p := p) rfl (header r ++ r.questionOctets.1 ++ answers) (by
    rw [List.length_append, List.length_append, length_header, size, Nat.add_assoc])
  -- The empty parts are those of steps that read nothing: the check of the questions, the section
  -- of authorities and the end.
  have parts : r.complete = two r.id.toNat ++ (two r.flags.toNat ++ (two r.questions.length ++
      (two ((r.answer.map (·.records.length)).getD 0) ++ (two 0 ++
        (two (if r.extension.isSome then 1 else 0) ++
          (r.questionOctets.1 ++ ([] ++ (answers ++ ([] ++ (r.ending ++ [])))))))))) := by
    rw [complete, header_eq, body]
    simp only [answers, start, List.append_assoc, List.nil_append, List.append_nil]
  have message : ReadsAll Query.message [] r.complete
      ⟨r.id, r.flags, qs, r.extension.map fun e => ⟨0, payload, e.padded⟩⟩ := by
    rw [parts]
    refine (reads_two r.id.toNat_lt _).bindAll ?_
    refine (reads_two r.flags.toNat_lt _).bindAll ?_
    refine (reads_two (by omega) _).bindAll ?_
    refine (reads_two (by omega) _).bindAll ?_
    refine (reads_two (n := 0) (by decide) _).bindAll ?_
    refine (reads_two (by split <;> decide) _).bindAll ?_
    have front : [] ++ two r.id.toNat ++ two r.flags.toNat ++ two r.questions.length ++
        two ((r.answer.map (·.records.length)).getD 0) ++ two 0 ++
        two (if r.extension.isSome then 1 else 0) = header r := by
      simp only [header_eq, List.append_assoc, List.nil_append]
    rw [front, toUInt16_toNat, toUInt16_toNat, opcode]
    refine questions.bindAll ?_
    refine (reads_require (Alike.allowed alike readable.allowed) _).bindAll ?_
    rw [List.append_nil]
    refine records.bindAll ?_
    refine (reads_pure _ p).bindAll ?_
    rw [List.append_nil]
    refine extension.bindAll ?_
    exact reads_end _ _
  refine ⟨qs, alike, same rfl, ?_⟩
  have whole : Cursor.Shows ⟨r.complete.toArray, 0, 0, r.complete.length⟩ [] r.complete := by
    refine ⟨?_, rfl, Nat.le_refl 0, (Nat.zero_add _).symm⟩
    rw [List.take_length]
    rfl
  obtain ⟨d, ran, _⟩ := message _ whole
  rw [ofWire?]
  change (Query.message _).map _ = _
  rw [ran]
  rfl

/-- The only question of a reply comes back as it is. -/
theorem ofWire_complete_of_single {r : Reply} (readable : r.Readable)
    (single : r.questions.length ≤ 1) (short : r.complete.length ≤ 65535) :
    ofWire? r.complete =
      some ⟨r.id, r.flags, r.questions, r.extension.map fun e => ⟨0, payload, e.padded⟩⟩ := by
  obtain ⟨qs, alike, same, read⟩ := ofWire_complete readable short
  have equal : qs = r.questions := by
    clear read
    generalize r.questions = asked at alike same single
    cases alike with
    | nil => rfl
    | cons _ rest =>
      cases rest with
      | nil => simpa using same
      | cons => simp at single
  rw [read, equal]

end Reply

end ChallengeDns
