import Mathlib
import ChallengeDns.Proofs.Message.Length
import ChallengeDns.Transport.Tcp

/-!
# Replies on a connection

The two octets in front of a message on a connection can announce 65535 octets.  A reply is all the
same written within what the client has said that it takes, which is about datagrams; the connection
ends without the reply where that is not enough.
-/
namespace ChallengeDns.Transport

theorem reply_extension (a : Authority) (s : Store) (q : Query) :
    (reply a s q).1.extension = (Reply.toQuery q).extension := by
  unfold reply
  split
  · rfl
  · unfold Authority.answer
    rfl

/-- No reply is marked as truncated before it is written. -/
theorem reply_truncated (a : Authority) (s : Store) (q : Query) :
    (reply a s q).1.truncated = false := by
  unfold reply
  split
  · rfl
  · unfold Authority.answer
    rfl

/-- How long a reply to a query may be on a connection. -/
def streamLimit (q : Query) : Nat :=
  match q.extension with
  | none => 65535
  | some e => if q.isReply = true ∨ e.payload = 0 then 65535 else max e.payload.toNat 512

theorem clampLimit_ownLimit (a : Authority) (s : Store) (q : Query) :
    Reply.clampLimit (reply a s q).1.ownLimit = streamLimit q := by
  unfold Reply.ownLimit streamLimit
  rw [reply_extension]
  cases said : q.extension with
  | none => simp [Reply.toQuery, said, Reply.clampLimit]
  | some e =>
    cases reply : q.isReply with
    | true => simp [Reply.toQuery, reply, Reply.clampLimit]
    | false =>
      by_cases zero : e.payload = 0
      · simp [Reply.toQuery, reply, said, zero, Reply.clampLimit]
      -- A payload of two octets is never above what a message can take.
      · have bound : e.payload.toNat < 65536 := e.payload.toNat_lt
        simp only [Reply.toQuery, reply, said, zero, Reply.clampLimit, Bool.false_eq_true,
          if_false, Option.map_some, or_self]
        omega

/-- A query on a connection whose complete reply is short enough for a message. -/
structure Exchange (a : Authority) (s : Store) where
  message : Bytes
  query : Query
  framed : message.length < 65536
  parsed : Query.ofWire? message = some query
  short : (reply a s query).1.complete.length ≤ 65535

namespace Exchange

variable {a : Authority} {s : Store}

def full (e : Exchange a s) : Bytes := (reply a s e.query).1.complete

def Fits (e : Exchange a s) : Prop := e.full.length ≤ streamLimit e.query

instance (e : Exchange a s) : Decidable e.Fits := inferInstanceAs (Decidable (_ ≤ _))

theorem toWire_reply (e : Exchange a s) :
    (reply a s e.query).1.toWire = if e.Fits then .ok e.full else .error .tooBig := by
  rw [Reply.toWire, Reply.toWireWithin_of_length_complete e.short, clampLimit_ownLimit]
  rfl

end Exchange

/-- One query at the front of a stream. -/
theorem converse_exchange {a : Authority} {s : Store} (client : Text) {ending : Ending}
    (heard : ending ≠ .deaf) (e : Exchange a s) (rest : Bytes) :
    let c := converse a s client ending (frame e.message ++ rest)
    let more := converse a s client ending rest
    (e.Fits → c.sent = frame e.full :: more.sent ∧ c.fault = more.fault) ∧
      (¬e.Fits → c.sent = [] ∧ c.fault = some .tooBig) := by
  intro c more
  have length := Wire.toNat_two e.framed
  have front : c = converse a s client ending ((e.message.length / 256).toUInt8 ::
      e.message.length.toUInt8 :: (e.message ++ rest)) := rfl
  -- The message is there in full, so that it is read and answered.
  have enough : ¬(e.message ++ rest).length < e.message.length := by
    rw [List.length_append]
    omega
  constructor
  · intro fits
    have wire : (reply a s e.query).1.toWire = .ok e.full := e.toWire_reply.trans (if_pos fits)
    rw [front, converse]
    simp only [length, if_neg enough, List.take_left, List.drop_left, e.parsed, wire, if_neg heard]
    exact ⟨rfl, rfl⟩
  · intro exceeds
    have wire : (reply a s e.query).1.toWire = .error .tooBig :=
      e.toWire_reply.trans (if_neg exceeds)
    rw [front, converse]
    simp only [length, if_neg enough, List.take_left, e.parsed, wire, and_self]

/-- Queries at the front of a connection, whatever follows them.  The replies that are written are
complete.  All of them are written exactly when each is within the limit of its query; otherwise the
first one that is not ends the connection with an error. -/
theorem converse_complete (a : Authority) (s : Store) (client : Text) {ending : Ending}
    (heard : ending ≠ .deaf) (exchanges : List (Exchange a s)) (rest : Bytes) :
    let c := converse a s client ending ((exchanges.flatMap fun e => frame e.message) ++ rest)
    let more := converse a s client ending rest
    (∀ e ∈ exchanges, (reply a s e.query).1.truncated = false) ∧
    ((∀ e ∈ exchanges, e.Fits) →
      c.sent = (exchanges.map fun e => frame e.full) ++ more.sent ∧ c.fault = more.fault) ∧
    (¬(∀ e ∈ exchanges, e.Fits) →
      c.sent = ((exchanges.takeWhile fun e => e.Fits).map fun e => frame e.full) ∧
        c.fault = some .tooBig) := by
  intro c more
  refine ⟨fun e _ => reply_truncated a s e.query, ?_⟩
  -- By induction on the exchanges; one of them is `converse_exchange`.
  induction exchanges with
  | nil => exact ⟨fun _ => ⟨rfl, rfl⟩, fun beyond => absurd (List.forall_mem_nil _) beyond⟩
  | cons e exchanges ih =>
    have front : c = converse a s client ending (frame e.message ++
        ((exchanges.flatMap fun e => frame e.message) ++ rest)) := by
      change converse a s client ending _ = _
      rw [List.flatMap_cons, List.append_assoc]
    obtain ⟨written, refused⟩ := converse_exchange client heard e
      ((exchanges.flatMap fun e => frame e.message) ++ rest)
    obtain ⟨complete, stopped⟩ := ih
    rw [← front] at written refused
    constructor
    · intro all
      obtain ⟨first, others⟩ := List.forall_mem_cons.mp all
      obtain ⟨sent, fault⟩ := written first
      obtain ⟨later, last⟩ := complete others
      exact ⟨by rw [sent, later]; rfl, fault.trans last⟩
    · intro beyond
      -- The first reply that does not fit hides all that is behind it.
      by_cases fits : e.Fits
      · have others : ¬∀ e ∈ exchanges, e.Fits := fun others =>
          beyond (List.forall_mem_cons.mpr ⟨fits, others⟩)
        obtain ⟨sent, fault⟩ := written fits
        obtain ⟨later, last⟩ := stopped others
        simp only [List.takeWhile_cons, decide_eq_true fits, if_true, List.map_cons]
        exact ⟨by rw [sent, later], fault.trans last⟩
      · simp only [List.takeWhile_cons, decide_eq_false fits, Bool.false_eq_true, if_false]
        exact refused fits

/-! ### Forty addresses -/

/-- A server with forty addresses for the root. -/
def sampleAuthority : Authority :=
  let addresses := (List.range 40).map fun i => Address.v4 (BitVec.ofNat 32 i)
  ⟨⟨.root, .root, []⟩, ⟨[(.root, addresses)], []⟩, ⟨.root, [], []⟩, ⟨⟨2024, 1, 1⟩, 0, 0, 0, 0, none⟩⟩

/-- The question for them, from a client that takes so many octets. -/
def sampleQuery (payload : UInt16) : Query := ⟨1, 0, [⟨.root, .a, 1⟩], some ⟨0, payload, false⟩⟩

def sampleMessage (payload : UInt16) : Bytes :=
  [1, 0, 1, 0, 0, 1].flatMap Wire.two ++ [0, 0, 1, 0, 1] ++
    ([0, 0, 41] ++ Wire.two payload.toNat ++ [0, 0, 0, 0, 0, 0])

/-- The same 628 octets are a reply to a client that takes 1232 octets and none to a client that
takes 512, although both have sent their question on a connection. -/
theorem converse_complete_sample :
    let stored := Store.memory .empty
    let full (payload : UInt16) : Bytes :=
      (reply sampleAuthority stored (sampleQuery payload)).1.complete
    let c := converse sampleAuthority stored "192.0.2.7" .closed
      (frame (sampleMessage 1232) ++ frame (sampleMessage 512))
    (full 1232).length = 628 ∧ full 512 = full 1232 ∧
      c.sent = [frame (full 1232)] ∧ c.fault = some .tooBig := by
  intro stored full c
  let large : Exchange sampleAuthority stored :=
    ⟨sampleMessage 1232, sampleQuery 1232, by decide, by cbv, by decide +kernel⟩
  let small : Exchange sampleAuthority stored :=
    ⟨sampleMessage 512, sampleQuery 512, by decide, by cbv, by decide +kernel⟩
  have heard : Ending.closed ≠ .deaf := by decide
  have fits : large.Fits := by decide +kernel
  have exceeds : ¬small.Fits := by decide +kernel
  obtain ⟨_, _, stopped⟩ := converse_complete sampleAuthority stored "192.0.2.7" heard
    [large, small] []
  obtain ⟨sent, fault⟩ := stopped fun all => exceeds (all small (by simp))
  simp only [List.takeWhile_cons, decide_eq_true fits, decide_eq_false exceeds, if_true,
    Bool.false_eq_true, if_false, List.map_cons, List.map_nil] at sent
  exact ⟨by decide +kernel, by decide +kernel, sent, fault⟩

end ChallengeDns.Transport
