import ChallengeDns.Answer.Authority
import ChallengeDns.Message.Reader
import ChallengeDns.Message.Writer
/-!
# Datagrams

One datagram holds one query and gets at most one reply.  A message that cannot be read gets none; a
reply that is too long for the client is sent without its answer and marked as truncated.
-/

namespace ChallengeDns

namespace Transport

def logger : Text := "acmetxt.dns.server"

/-- What is reported about a message that cannot be read. -/
def dropped (client : Text) : LogEntry :=
  ⟨.warning, logger, "Dropping unparsable DNS message from " ++ client ++ ": malformed message"⟩

/-- The line of the access log about a reply.  It names no question; hyphens stand for its name and
its type. -/
def answered (r : Reply) : LogEntry := ⟨.debug, "acmetxt.access", "- - " ++ r.code.text⟩

/-- The reply to a query.  A standard query without a question is blamed for its format. -/
def reply (a : Authority) (s : Store) (q : Query) : Reply × List LogEntry :=
  if q.questions.isEmpty && q.opcode = .query then
    ({ Reply.toQuery q with code := .formatError },
      [⟨.warning, logger, "Received DNS message id=" ++ Text.ofNat q.id.toNat
        ++ " without question"⟩])
  else a.answer s q

/-- The greatest datagram that a client takes if it does not say so. -/
def datagramLimit : Nat := 512

/-- The greatest datagram that a client takes. -/
def limitOf (q : Query) : Nat :=
  match q.extension with
  | none => datagramLimit
  | some e => max e.payload.toNat datagramLimit

/-- A reply without its answer. -/
def truncate (r : Reply) : Reply := { r with answer := none, truncated := true }

/-- A reply as a datagram, and the reply that was written in the end. -/
def datagram (q : Query) (r : Reply) : Except WriteFault (Bytes × Reply) :=
  match r.toWireWithin (limitOf q) with
  | .ok wire => .ok (wire, r)
  | .error .oversizedRecord => .error .oversizedRecord
  | .error .tooBig => (truncate r).toWire.map fun wire => (wire, truncate r)

/-- Handles a datagram from a client; gives the datagrams that are sent. -/
def handleDatagram (a : Authority) (s : Store) (client : Text) (data : Bytes) :
    Except WriteFault (List Bytes) × List LogEntry :=
  match Query.ofWire? data with
  | none => (.ok [], [dropped client])
  | some q =>
    let (r, logs) := reply a s q
    match datagram q r with
    | .error f => (.error f, logs)
    | .ok (wire, sent) => (.ok [wire], logs ++ [answered sent])

end Transport

end ChallengeDns
