import Mathlib
import ChallengeDns.Proofs.Transport.Stream

/-!
# Messages on a connection

A connection carries messages one behind the other, each behind its length.  Replies are written in
the order of the queries, until the stream ends with something that gets no answer.
-/
namespace ChallengeDns.Transport

/-- A message that can be read, and whose reply can be written. -/
structure Served (a : Authority) (s : Store) where
  message : Bytes
  query : Query
  wire : Bytes
  -- The length in front of a message has two octets.
  framed : message.length < 65536
  parsed : Query.ofWire? message = some query
  written : (reply a s query).1.toWire = .ok wire

/-- An end of a stream that gets no answer. -/
inductive Unanswered : Bytes → Prop
  | nothing : Unanswered []
  | header (high : UInt8) : Unanswered [high]
  | body {high low : UInt8} {part : Bytes}
      (short : part.length < high.toNat * 256 + low.toNat) : Unanswered (high :: low :: part)
  -- Whatever stands behind a message that cannot be read is not looked at.
  | unread {message : Bytes} (framed : message.length < 65536)
      (unread : Query.ofWire? message = none) (rest : Bytes) : Unanswered (frame message ++ rest)

/-- An end of a stream that begins with a message whose reply cannot be written. -/
inductive Unwritten (a : Authority) (s : Store) : Bytes → Prop
  | refused {message : Bytes} {q : Query} {f : WriteFault} (framed : message.length < 65536)
      (parsed : Query.ofWire? message = some q)
      (refused : (reply a s q).1.toWire = .error f) (rest : Bytes) :
      Unwritten a s (frame message ++ rest)

/-- What the log says about a query and its reply. -/
def Served.logs {a : Authority} {s : Store} (q : Served a s) : List LogEntry :=
  (reply a s q.query).2 ++ [answered (reply a s q.query).1]

/-- The stream that some messages make. -/
def framesOf {a : Authority} {s : Store} (queries : List (Served a s)) : Bytes :=
  queries.flatMap fun q => frame q.message

section Connection

variable {a : Authority} {s : Store} (client : Text) {ending : Ending}

theorem Served.length_wire (q : Served a s) : q.wire.length < 65536 := by
  obtain ⟨_, short⟩ := Reply.toWireWithin_ok q.written
  simp only [Reply.clampLimit] at short
  omega

/-- The length of a message is read as it was written. -/
theorem exists_frame {message : Bytes} (framed : message.length < 65536) :
    ∃ high low : UInt8, frame message = high :: low :: message ∧
      high.toNat * 256 + low.toNat = message.length :=
  ⟨_, _, rfl, Wire.toNat_two framed⟩

/-- One message at the front of a stream, whether it can be read or not. -/
theorem converse_frame {message : Bytes} (framed : message.length < 65536) (rest : Bytes) :
    converse a s client ending (frame message ++ rest) =
      match Query.ofWire? message with
      | none => ⟨[], none, [dropped client]⟩
      | some q =>
        match (reply a s q).1.toWire with
        | .error f => ⟨[], some f, (reply a s q).2⟩
        | .ok wire =>
          if ending = .deaf then ⟨[], none, (reply a s q).2⟩
          else
            let more := converse a s client ending rest
            ⟨frame wire :: more.sent, more.fault,
              (reply a s q).2 ++ answered (reply a s q).1 :: more.logs⟩ := by
  obtain ⟨high, low, front, length⟩ := exists_frame framed
  rw [front, List.cons_append, List.cons_append, converse]
  -- Both sides go on as the message is read and its reply is written.
  cases parsed : Query.ofWire? message with
  | none => simp [length, parsed]
  | some q =>
    cases written : (reply a s q).1.toWire with
    | error f => simp [length, parsed, written]
    | ok wire => simp [length, parsed, written]

theorem converse_served (heard : ending ≠ .deaf) (q : Served a s) (rest : Bytes) :
    let more := converse a s client ending rest
    converse a s client ending (frame q.message ++ rest) =
      ⟨frame q.wire :: more.sent, more.fault, q.logs ++ more.logs⟩ := by
  intro more
  rw [converse_frame client q.framed]
  simp [q.parsed, q.written, heard, Served.logs, more]

/-- Queries at the front of a stream are answered in order, whatever follows them. -/
theorem converse_framesOf (heard : ending ≠ .deaf) (queries : List (Served a s)) (rest : Bytes) :
    let more := converse a s client ending rest
    converse a s client ending (framesOf queries ++ rest) =
      ⟨(queries.map fun q => frame q.wire) ++ more.sent, more.fault,
        queries.flatMap Served.logs ++ more.logs⟩ := by
  intro more
  induction queries with
  | nil => rfl
  | cons q queries ih =>
    -- The first query leaves the stream of the others, with the same rest behind it.
    have front : framesOf (q :: queries) ++ rest =
        frame q.message ++ (framesOf queries ++ rest) := by
      simp [framesOf]
    rw [front, converse_served client heard, ih]
    simp

/-- Nothing is written for the end of a stream, and at most one line of the log tells about it. -/
theorem converse_unanswered {tail : Bytes} (ends : Unanswered tail) :
    let c := converse a s client ending tail
    c.sent = [] ∧ c.fault = none ∧ c.logs.length ≤ 1 := by
  -- Whatever is incomplete ends in the same way.
  have stops : ∀ c, c = incomplete client ending →
      c.sent = [] ∧ c.fault = none ∧ c.logs.length ≤ 1 := by
    rintro _ rfl
    refine ⟨rfl, rfl, ?_⟩
    simp only [incomplete]
    split <;> simp
  cases ends with
  | nothing =>
    apply stops
    simp [converse]
  | header high =>
    apply stops
    simp [converse]
  | body short =>
    apply stops
    rw [converse]
    exact if_pos short
  | unread framed unread rest =>
    rw [converse_frame client framed, unread]
    simp

end Connection

/-! ### Every stream -/

theorem two_of_octets (high low : UInt8) :
    Wire.two (high.toNat * 256 + low.toNat) = [high, low] := by
  have small : low.toNat < 256 := low.toNat_lt
  have first : (high.toNat * 256 + low.toNat) / 256 = high.toNat := by omega
  have second : (high.toNat * 256 + low.toNat).toUInt8 = low := by
    apply UInt8.toNat_inj.mp
    change (UInt8.ofNat _).toNat = _
    rw [UInt8.toNat_ofNat']
    omega
  rw [Wire.two, first, second]
  simp

/-- A length and enough octets behind it are a message and a rest. -/
theorem frame_take {high low : UInt8} {rest : Bytes}
    (enough : ¬rest.length < high.toNat * 256 + low.toNat) :
    let length := high.toNat * 256 + low.toNat
    high :: low :: rest = frame (rest.take length) ++ rest.drop length ∧
      (rest.take length).length < 65536 := by
  intro length
  have whole : (rest.take length).length = length := by
    rw [List.length_take]
    omega
  have high_lt : high.toNat < 256 := high.toNat_lt
  have low_lt : low.toNat < 256 := low.toNat_lt
  constructor
  · simp [frame, whole, length, two_of_octets]
  · omega

/-- Every stream is some messages that are answered and an end that gets no answer, unless the reply
to one of its messages cannot be written. -/
theorem stream_cases (a : Authority) (s : Store) (stream : Bytes) :
    ∃ (queries : List (Served a s)) (tail : Bytes), stream = framesOf queries ++ tail ∧
      (Unanswered tail ∨ Unwritten a s tail) := by
  -- By induction on the length of the stream, since what follows a message is a part of it.
  induction size : stream.length using Nat.strong_induction_on generalizing stream with
  | _ n ih =>
    match stream with
    | [] => exact ⟨[], [], rfl, Or.inl .nothing⟩
    | [high] => exact ⟨[], [high], rfl, Or.inl (.header high)⟩
    | high :: low :: rest =>
      by_cases short : rest.length < high.toNat * 256 + low.toNat
      · exact ⟨[], _, rfl, Or.inl (.body short)⟩
      obtain ⟨front, framed⟩ := frame_take short
      cases parsed : Query.ofWire? (rest.take (high.toNat * 256 + low.toNat)) with
      | none => exact ⟨[], _, front, Or.inl (.unread framed parsed _)⟩
      | some q =>
        cases written : (reply a s q).1.toWire with
        | error f => exact ⟨[], _, front, Or.inr (.refused framed parsed written _)⟩
        | ok wire =>
          have smaller : (rest.drop (high.toNat * 256 + low.toNat)).length < n := by
            rw [← size, List.length_drop, List.length_cons, List.length_cons]
            omega
          obtain ⟨queries, tail, behind, last⟩ := ih _ smaller _ rfl
          refine ⟨⟨_, q, wire, framed, parsed, written⟩ :: queries, tail, ?_, last⟩
          rw [front, behind]
          simp [framesOf]

/-- A stream of queries whose replies can be written, with an end that gets no answer: as many
replies are written as there are queries, in their order and each behind its length in two octets,
and the handler returns, however the client ends the connection.  The log has the lines of the
queries and at most one more.  What is written for queries and then for anything else is what is
written for both, one behind the other.  There are no other streams but those in which the reply to
a query cannot be written. -/
theorem stream_answered (a : Authority) (s : Store) (client : Text) {ending : Ending}
    (heard : ending ≠ .deaf) (queries : List (Served a s)) {tail : Bytes} (ends : Unanswered tail) :
    let handled := handleStream a s client ending
    let replies := queries.map fun q => frame q.wire
    (∃ last, handled (framesOf queries ++ tail) =
      (.ok replies, queries.flatMap Served.logs ++ last) ∧ last.length ≤ 1) ∧
    (∀ q ∈ queries, ∃ high low : UInt8, frame q.wire = high :: low :: q.wire ∧
      high.toNat * 256 + low.toNat = q.wire.length) ∧
    (handled (framesOf queries)).1 = .ok replies ∧
    (∀ stream, (handled (framesOf queries ++ stream)).1 =
      (handled stream).1.map (replies ++ ·)) ∧
    ∀ stream, ∃ (served : List (Served a s)) (rest : Bytes), stream = framesOf served ++ rest ∧
      (Unanswered rest ∨ Unwritten a s rest) := by
  intro handled replies
  -- Used with the tail of the stream, and with none.
  have silent {tail : Bytes} (ends : Unanswered tail) : ∃ last,
      handled (framesOf queries ++ tail) = (.ok replies, queries.flatMap Served.logs ++ last) ∧
        last.length ≤ 1 := by
    have ended : let c := converse a s client ending tail
        c.sent = [] ∧ c.fault = none ∧ c.logs.length ≤ 1 := converse_unanswered client ends
    obtain ⟨none, fine, short⟩ := ended
    refine ⟨_, ?_, short⟩
    simp only [handled, handleStream, converse_framesOf client heard, none, fine, List.append_nil]
    rfl
  refine ⟨silent ends, ?_, ?_, ?_, stream_cases a s⟩
  · intro q _
    exact exists_frame q.length_wire
  · -- Queries alone are a stream that ends with nothing.
    obtain ⟨last, whole, _⟩ := silent .nothing
    rw [List.append_nil] at whole
    rw [whole]
  · intro stream
    simp only [handled, handleStream, converse_framesOf client heard]
    cases (converse a s client ending stream).fault <;> rfl

/-- A query behind a message that cannot be read is not answered. -/
theorem stream_answered_sample :
    let stored := Store.memory .empty
    let full : Bytes := (reply sampleAuthority stored (sampleQuery 1232)).1.complete
    (handleStream sampleAuthority stored "192.0.2.7" .reset
      (frame (sampleMessage 1232) ++ (frame [] ++ frame (sampleMessage 1232)))).1 =
        .ok [frame full] := by
  intro stored full
  let large : Exchange sampleAuthority stored :=
    ⟨sampleMessage 1232, sampleQuery 1232, by decide, by cbv, by decide +kernel⟩
  have fits : large.Fits := by decide +kernel
  let served : Served sampleAuthority stored :=
    ⟨sampleMessage 1232, sampleQuery 1232, full, by decide, large.parsed,
      large.toWire_reply.trans (if_pos fits)⟩
  have unread : Query.ofWire? [] = none := by cbv
  have ends : Unanswered (frame [] ++ frame (sampleMessage 1232)) := .unread (by decide) unread _
  have heard : Ending.reset ≠ .deaf := by decide
  obtain ⟨⟨_, handled, _⟩, _⟩ :=
    stream_answered sampleAuthority stored "192.0.2.7" heard [served] ends
  exact congrArg Prod.fst handled

end ChallengeDns.Transport
