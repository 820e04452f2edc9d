import ChallengeDns.Address.Reader
import ChallengeDns.Name.Reader
/-!
# DNS messages

Questions, the records that answer them, queries as far as they matter for an answer, and replies.
-/

namespace ChallengeDns

/-- The type of a record. -/
structure RecordType where
  code : UInt16
deriving DecidableEq

namespace RecordType

/-- The types that answers have. -/
def a : RecordType := ⟨1⟩

/-- A name server of a zone. -/
def ns : RecordType := ⟨2⟩

/-- The start of a zone. -/
def soa : RecordType := ⟨6⟩

def txt : RecordType := ⟨16⟩

def aaaa : RecordType := ⟨28⟩

/-- The record that extends a message. -/
def opt : RecordType := ⟨41⟩

/-- The signature of a message. -/
def tsig : RecordType := ⟨250⟩

/-- The types that have names; each number is followed by the names of the types from there on. -/
def runs : List (Nat × List String) :=
  [(1, ["A", "NS", "MD", "MF", "CNAME", "SOA", "MB", "MG", "MR", "NULL", "WKS", "PTR", "HINFO",
      "MINFO", "MX", "TXT", "RP", "AFSDB", "X25", "ISDN", "RT", "NSAP", "NSAP-PTR", "SIG", "KEY",
      "PX", "GPOS", "AAAA", "LOC", "NXT"]),
    (33, ["SRV"]), (35, ["NAPTR", "KX", "CERT", "A6", "DNAME"]),
    (41, ["OPT", "APL", "DS", "SSHFP", "IPSECKEY", "RRSIG", "NSEC", "DNSKEY", "DHCID", "NSEC3",
      "NSEC3PARAM", "TLSA", "SMIMEA"]),
    (55, ["HIP", "NINFO"]),
    (59, ["CDS", "CDNSKEY", "OPENPGPKEY", "CSYNC", "ZONEMD", "SVCB", "HTTPS", "DSYNC"]),
    (99, ["SPF"]), (103, ["UNSPEC", "NID", "L32", "L64", "LP", "EUI48", "EUI64"]),
    (249, ["TKEY", "TSIG", "IXFR", "AXFR", "MAILB", "MAILA", "ANY", "URI", "CAA", "AVC"]),
    (260, ["AMTRELAY", "RESINFO", "WALLET"]), (32768, ["TA", "DLV"])]

/-- The name in a run of names. -/
def nameIn (n : Nat) : List (Nat × List String) → Option String
  | [] => none
  | (first, names) :: runs =>
    match (if n < first then none else names[n - first]?) with
    | some name => some name
    | none => nameIn n runs

def text (t : RecordType) : Text :=
  match nameIn t.code.toNat runs with
  | some name => name
  | none => "TYPE" ++ Text.ofNat t.code.toNat

end RecordType

structure Question where
  name : Name
  kind : RecordType
  /-- The class of the question. -/
  space : UInt16
deriving DecidableEq

/-- The data of a record that answers a question. -/
inductive RecordData where
  | a (bits : BitVec 32)
  | aaaa (bits : BitVec 128)
  | ns (target : Name)
  | soa (primary contact : Name) (serial : Nat) (timers : List Nat)
  | txt (strings : List Bytes)
deriving DecidableEq

namespace RecordData

/-- Whether two records hold the same data; names are compared without case. -/
def same : RecordData → RecordData → Bool
  | .ns m, .ns n => m.same n
  | .soa p c s t, .soa p' c' s' t' => p.same p' && c.same c' && s == s' && t == t'
  | d, d' => d == d'

/-- Records in order, each of them once. -/
def dedupe (ds : List RecordData) : List RecordData :=
  ds.foldl (fun kept d => if kept.any (·.same d) then kept else kept ++ [d]) []

/-- The groups of an IPv6 address with its last 32 bits as an IPv4 address where only those are set,
or where they are marked as one. -/
def v6Text (bits : BitVec 128) : Text :=
  let gs := Address.groups bits
  let (start, length) := Address.longestZeros 0 gs
  let v4 := (Address.v4 (bits.setWidth 32)).text
  if start = 0 && length = 6 then "::" ++ v4
  else if start = 0 && length = 5 && gs[5]? = some 0xFFFF then "::ffff:" ++ v4
  else Address.v6Text bits

/-- An octet of a string as it is written in zone files. -/
def stringOctet (b : UInt8) : Text :=
  if b = 0x22 || b = 0x5C then [.scalar '\\', .scalar (Char.ofNat b.toNat)]
  else if 0x20 ≤ b && b < 0x7F then [.scalar (Char.ofNat b.toNat)]
  else .scalar '\\' :: Text.padded 3 b.toNat

/-- A string as it is written in zone files. -/
def stringText (octets : Bytes) : Text := "\"" ++ octets.flatMap stringOctet ++ "\""

/-- The data as it is written in zone files. -/
def text : RecordData → Text
  | .a bits => (Address.v4 bits).text
  | .aaaa bits => v6Text bits
  | .ns target => target.text
  | .soa primary contact serial timers =>
    Text.join " " (primary.text :: contact.text :: (serial :: timers).map Text.ofNat)
  | .txt strings => Text.join " " (strings.map stringText)

end RecordData

/-- The kinds of messages. -/
structure Opcode where
  code : UInt16
deriving DecidableEq

namespace Opcode

/-- A standard query. -/
def query : Opcode := ⟨0⟩

/-- A change of a zone. -/
def update : Opcode := ⟨5⟩

def text (o : Opcode) : Text :=
  match o.code.toNat with
  | 0 => "QUERY"
  | 1 => "IQUERY"
  | 2 => "STATUS"
  | 4 => "NOTIFY"
  | 5 => "UPDATE"
  | n => Text.ofNat n

/-- The kind in a header. -/
def ofFlags (flags : UInt16) : Opcode := ⟨flags >>> 11 &&& 15⟩

/-- The kind's bits in a header. -/
def toFlags (o : Opcode) : UInt16 := (o.code &&& 15) <<< 11

end Opcode

/-- The result that a reply reports. -/
inductive ResponseCode where
  | noError
  | formatError
  | serverFailure
  | noSuchName
  | notImplemented
deriving DecidableEq

namespace ResponseCode

def code : ResponseCode → UInt16
  | .noError => 0
  | .formatError => 1
  | .serverFailure => 2
  | .noSuchName => 3
  | .notImplemented => 4

def text : ResponseCode → Text
  | .noError => "NOERROR"
  | .formatError => "FORMERR"
  | .serverFailure => "SERVFAIL"
  | .noSuchName => "NXDOMAIN"
  | .notImplemented => "NOTIMP"

end ResponseCode

/-- What a query's extension says. -/
structure Extension where
  version : Nat
  /-- The greatest reply that the client takes. -/
  payload : UInt16
  /-- Whether replies should be padded. -/
  padded : Bool
deriving DecidableEq

structure Query where
  id : UInt16
  /-- The bits of the header. -/
  flags : UInt16
  questions : List Question
  extension : Option Extension
deriving DecidableEq

namespace Query

/-- The kind of a query. -/
def opcode (q : Query) : Opcode := .ofFlags q.flags

def isReply (q : Query) : Bool := q.flags &&& 0x8000 != 0

/-- Whether the client wishes recursion. -/
def recursionDesired (q : Query) : Bool := q.flags &&& 0x0100 != 0

end Query

/-- The extension of a reply. -/
structure ReplyExtension where
  /-- The greatest reply that the client takes. -/
  requested : UInt16
  padded : Bool
deriving DecidableEq

/-- The records of a reply; they have one owner and one type. -/
structure Answer where
  owner : Name
  kind : RecordType
  records : List RecordData
deriving DecidableEq

structure Reply where
  id : UInt16
  opcode : Opcode
  authoritative : Bool
  truncated : Bool
  recursionDesired : Bool
  code : ResponseCode
  questions : List Question
  answer : Option Answer
  extension : Option ReplyExtension
deriving DecidableEq

namespace Reply

/-- The bits of the header. -/
def flags (r : Reply) : UInt16 :=
  let bit (b : Bool) (mask : UInt16) : UInt16 := if b then mask else 0
  0x8000 ||| r.opcode.toFlags ||| bit r.authoritative 0x0400 ||| bit r.truncated 0x0200
    ||| bit r.recursionDesired 0x0100 ||| r.code.code

/-- The time for which answers may be kept; published values change and nothing should be kept. -/
def timeToLive : Nat := 1

/-- The class of all answers, the internet. -/
def space : UInt16 := 1

/-- The greatest message that the server takes, as its extension says. -/
def payload : UInt16 := 8192

/-- An empty reply to a query.  A message that says it is a reply itself gets no extension. -/
def toQuery (q : Query) : Reply where
  id := q.id
  opcode := q.opcode
  authoritative := false
  truncated := false
  recursionDesired := q.recursionDesired
  code := .noError
  questions := q.questions
  answer := none
  extension :=
    if q.isReply then none else q.extension.map fun e => ⟨e.payload, e.padded⟩

end Reply

end ChallengeDns
