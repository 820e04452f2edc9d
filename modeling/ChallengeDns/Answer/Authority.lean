import ChallengeDns.Answer.Serial
import ChallengeDns.Config.Settings
import ChallengeDns.Message.Basic
import ChallengeDns.Store.Basic
/-!
# Answers

Each query ends in one of four ways.  The server knows its name and has answers, perhaps none; it
does not know the name; it does not do what is asked; or something went wrong.  Texts come from the
store, but only for names that the access table makes eligible; an eligible name without values is
known.  Everything else comes from the settings.
-/

namespace ChallengeDns

/-- How a query ends. -/
inductive Outcome where
  | authoritative
  | notFound
  | notImplemented
  | serverError
deriving DecidableEq

namespace Outcome

def text : Outcome → Text
  | .authoritative => "authoritative"
  | .notFound => "not_found"
  | .notImplemented => "not_implemented"
  | .serverError => "server_error"

def code : Outcome → ResponseCode
  | .authoritative => .noError
  | .notFound => .noSuchName
  | .notImplemented => .notImplemented
  | .serverError => .serverFailure

/-- Whether the server vouches for a reply. -/
def isAuthoritative : Outcome → Bool
  | .authoritative => true
  | .notFound => true
  | _ => false

def all : List Outcome := [.authoritative, .notFound, .notImplemented, .serverError]

end Outcome

/-- Why a query has no answer. -/
inductive AnswerError where
  | noQuestion
  | name (e : NameError)
  | clock (e : CalendarError)
  /-- An IPv6 address with a zone has no record. -/
  | zonedAddress (shown : Text)
  /-- A published text holds halves of surrogate pairs. -/
  | unencodable (e : Text.EncodeError)
  /-- A published value is no text. -/
  | notText
  /-- The store or the clock does not work. -/
  | outside (message : Text)

def AnswerError.message : AnswerError → Text
  | .noQuestion => "list index out of range"
  | .name e => e.message
  | .clock e => e.message
  | .zonedAddress shown => "Text input is malformed: " ++ shown
  | .unencodable e => e.message
  | .notText => "'bytes' object has no attribute 'encode'"
  | .outside message => message

/-- What the server answers from, apart from the store. -/
structure Authority where
  zone : ZoneSettings
  records : RecordSettings
  access : AccessControl
  now : DateTime

/-- What may change from answer to answer, and what may fail: the published values of names, and the
time. -/
structure Backing where
  values : Name → Except AnswerError (List TxtValue)
  now : Except AnswerError DateTime

namespace Authority

def logger : Text := "acmetxt.dns.answer"

/-- The pieces of at most `size` octets that make up a list, each but the last one full. -/
def chunks (size : Nat) (h : 0 < size) (b : Bytes) : List Bytes :=
  if b.length ≤ size then [b]
  else b.take size :: chunks size h (b.drop size)
termination_by b.length
decreasing_by simp; omega

/-- The character strings of a text. -/
def strings (b : Bytes) : List Bytes := chunks 255 (by decide) b

def textRecord (v : TxtValue) : Except AnswerError RecordData :=
  match v with
  | .octets _ => .error .notText
  | .text t =>
    match Text.encode? t with
    | some b => .ok (.txt (strings b))
    | none => .error (.unencodable (Text.encodeError Text.isHalf t))

/-- What is known about a name, if it is known. -/
abbrev Known := Outcome × List RecordData

/-- The published values of a name. -/
def answerText (a : Authority) (b : Backing) (n : Name) : Except AnswerError Known :=
  if a.access.isEligible n then do
    let values ← b.values n
    return (.authoritative, ← values.mapM textRecord)
  else .ok (.notFound, [])

/-- Refresh, retry, expiry and minimum of the zone, in seconds: 24 hours, 2 hours, 1000 hours and 2
days. -/
def timers : List Nat := [86400, 7200, 3600000, 172800]

/-- The start of the zone. -/
def answerStart (a : Authority) (b : Backing) (n : Name) : Except AnswerError Known :=
  if a.zone.domain.same n then do
    let contact ← (Contact.name a.zone.contact).mapError .name
    let now ← b.now
    let serial ← (zoneSerial now).mapError .clock
    return (.authoritative, [.soa a.zone.nameServer contact serial timers])
  else .ok (.notFound, [])

/-- The addresses of a name that `record` turns into records. -/
def answerAddresses (a : Authority) (n : Name)
    (record : Address → Except AnswerError (Option RecordData)) : Except AnswerError Known :=
  match a.records.addresses.get? n with
  | none => .ok (.notFound, [])
  | some as => do
    let ds ← as.mapM record
    return (.authoritative, ds.filterMap id)

/-- The record of an address, if it is one of the version; records are read from the texts of
addresses. -/
def addressRecord (version : Nat) (read? : Text → Option RecordData) (x : Address) :
    Except AnswerError (Option RecordData) :=
  if x.version = version then
    match read? x.text with
    | some d => .ok (some d)
    | none => .error (.zonedAddress x.text)
  else .ok none

def v4Record : Address → Except AnswerError (Option RecordData) :=
  addressRecord 4 fun t => (Address.readV4? t).map .a

def v6Record : Address → Except AnswerError (Option RecordData) :=
  addressRecord 6 fun t => (Address.readV6? t).map .aaaa

/-- The name servers of a name. -/
def answerNameServers (a : Authority) (n : Name) : Known :=
  match a.records.nameServers.get? n with
  | none => (.notFound, [])
  | some targets => (.authoritative, targets.map .ns)

/-- What is known about a question. -/
def answerQuestion (a : Authority) (b : Backing) (q : Question) : Except AnswerError Known :=
  if q.kind = .txt then a.answerText b q.name
  else if q.kind = .soa then a.answerStart b q.name
  else if q.kind = .a then a.answerAddresses q.name v4Record
  else if q.kind = .aaaa then a.answerAddresses q.name v6Record
  else if q.kind = .ns then .ok (a.answerNameServers q.name)
  else .ok (.notImplemented, [])

/-- How a query ends; the first question decides. -/
def lookUp (a : Authority) (b : Backing) (q : Query) : Except AnswerError Known :=
  if q.opcode ≠ .query || q.isReply then .ok (.notImplemented, [])
  else match q.questions with
    | [] => .error .noQuestion
    | question :: _ => a.answerQuestion b question

/-- A query in a message of the log. -/
def summary (q : Query) : Text :=
  match q.questions with
  | [] => "id=" ++ Text.ofNat q.id.toNat ++ " (no question)"
  | question :: _ => question.name.text ++ " " ++ question.kind.text

/-- The reply with an outcome's records. -/
def replyWith (q : Query) (known : Known) : Reply :=
  { Reply.toQuery q with
    authoritative := known.1.isAuthoritative
    code := known.1.code
    answer := match known, q.questions with
      | (.authoritative, d :: ds), question :: _ =>
        some ⟨question.name, question.kind, RecordData.dedupe (d :: ds)⟩
      | _, _ => none }

/-- Answers a query.  Whatever goes wrong is reported and not shown to the client. -/
def respond (a : Authority) (b : Backing) (q : Query) : Reply × List LogEntry :=
  let (known, logs) : Known × List LogEntry := match a.lookUp b q with
    | .ok known => (known, [])
    | .error _ => ((.serverError, []),
        [⟨.error, logger, "Error answering DNS query " ++ summary q⟩])
  (replyWith q known, logs ++ [⟨.debug, logger, "DNS " ++ summary q ++ " -> " ++ known.1.text
    ++ " (" ++ Text.ofNat known.2.length ++ " answer(s))"⟩])

/-- A store and a clock that work. -/
def backing (a : Authority) (s : Store) : Backing where
  values n := .ok (s.get (.name n))
  now := .ok a.now

def answer (a : Authority) (s : Store) (q : Query) : Reply × List LogEntry :=
  a.respond (a.backing s) q

end Authority

end ChallengeDns
