import ChallengeDns.Transport.Udp
/-!
# Connections

On a connection each message stands behind its length in two octets.  Queries are answered in order
until the client stops sending, sends something that cannot be read, or no longer takes replies.
-/

namespace ChallengeDns

namespace Transport

/-- How a client ends its side of a connection. -/
inductive Ending where
  /-- It closes the connection. -/
  | closed
  /-- It sends nothing more, until the server gives up. -/
  | stalled
  /-- The connection breaks. -/
  | reset
  /-- It closes the connection and takes no replies. -/
  | deaf
deriving DecidableEq

namespace Ending

/-- Whether reading beyond what was sent fails. -/
def failsReading : Ending → Bool
  | .stalled => true
  | .reset => true
  | _ => false

end Ending

/-- A message behind its length. -/
def frame (wire : Bytes) : Bytes := Wire.two wire.length ++ wire

/-- What is reported about a connection on which reading fails. -/
def closing (client : Text) : LogEntry :=
  ⟨.debug, logger, "Closing idle DNS TCP connection from " ++ client⟩

/-- What comes of a connection. -/
structure Conversation where
  /-- What is sent back, message by message. -/
  sent : List Bytes
  /-- Why a reply could not be written, which is the end of the connection. -/
  fault : Option WriteFault
  logs : List LogEntry

/-- The end of a connection on which a message is incomplete. -/
def incomplete (client : Text) (ending : Ending) : Conversation :=
  ⟨[], none, if ending.failsReading then [closing client] else []⟩

/-- Answers what a client sends on a connection. -/
def converse (a : Authority) (s : Store) (client : Text) (ending : Ending) (stream : Bytes) :
    Conversation :=
  match stream with
  | high :: low :: rest =>
    let length := high.toNat * 256 + low.toNat
    if rest.length < length then incomplete client ending
    else match Query.ofWire? (rest.take length) with
      | none => ⟨[], none, [dropped client]⟩
      | some q =>
        let (r, logs) := reply a s q
        match r.toWire with
        | .error f => ⟨[], some f, logs⟩
        | .ok wire =>
          -- The first reply that the client does not take ends the connection.
          if ending = .deaf then ⟨[], none, logs⟩
          else
            let more := converse a s client ending (rest.drop length)
            ⟨frame wire :: more.sent, more.fault, logs ++ answered r :: more.logs⟩
  | _ => incomplete client ending
termination_by stream.length
decreasing_by
  exact Nat.lt_succ_of_le (Nat.le_succ_of_le (List.length_drop ▸ Nat.sub_le rest.length _))

/-- Handles what a client sends on a connection; gives what is sent back if all replies can be
written, and otherwise the fault that escapes the handler. -/
def handleStream (a : Authority) (s : Store) (client : Text) (ending : Ending)
    (stream : Bytes) : Except WriteFault (List Bytes) × List LogEntry :=
  let c := converse a s client ending stream
  (match c.fault with
    | none => .ok c.sent
    | some f => .error f, c.logs)

end Transport

end ChallengeDns
