import ChallengeDns.Message.Basic
/-!
# Writing replies

Replies as octets.  The end of a name that was written before is replaced by a pointer to it, names
being compared without case.  The record that extends a reply comes last; it may be padded so that
the whole reply fills blocks of 468 octets.
-/

namespace ChallengeDns

/-- Why a reply cannot be written. -/
inductive WriteFault where
  /-- It takes more octets than the client accepts. -/
  | tooBig
  /-- The data of a record takes more octets than its length can say. -/
  | oversizedRecord
deriving DecidableEq

/-- Where the ends of names have been written. -/
abbrev Suffixes := List (List Label × Nat)

namespace Wire

/-- A number in two octets. -/
def two (n : Nat) : Bytes := [(n / 256).toUInt8, n.toUInt8]

/-- A number in four octets. -/
def four (n : Nat) : Bytes := two (n / 65536) ++ two (n % 65536)

/-- A text behind its length. -/
def counted (b : Bytes) : Bytes := b.length.toUInt8 :: b

/-- The last place that a pointer can point to. -/
def lastTarget : Nat := 0x3FFF

/-- Where the end of a name was written. -/
def target? (table : Suffixes) (labels : List Label) : Option Nat :=
  (table.find? fun e => e.1 == Name.lowerLabels labels).map (·.2)

/-- Writes the labels of an absolute name at an offset.  The ends that come to stand within reach
are noted. -/
def labels (offset : Nat) (table : Suffixes) : List Label → Bytes × Suffixes
  | [] => ([0], table)
  | l :: ls =>
    match target? table (l :: ls) with
    | some place => (two (0xC000 + place), table)
    | none =>
      let table :=
        if offset ≤ lastTarget then (Name.lowerLabels (l :: ls), offset) :: table else table
      let (rest, table) := labels (offset + 1 + l.length) table ls
      (counted l ++ rest, table)

def name (offset : Nat) (table : Suffixes) (n : Name) : Bytes × Suffixes :=
  labels offset table n.labels

def question (offset : Nat) (table : Suffixes) (q : Question) : Bytes × Suffixes :=
  let (owner, table) := name offset table q.name
  (owner ++ two q.kind.code.toNat ++ two q.space.toNat, table)

def data (offset : Nat) (table : Suffixes) : RecordData → Bytes × Suffixes
  | .a bits => (Address.octets 4 bits.toNat, table)
  | .aaaa bits => (Address.octets 16 bits.toNat, table)
  | .ns target => name offset table target
  | .soa primary contact serial timers =>
    let (p, table) := name offset table primary
    let (c, table) := name (offset + p.length) table contact
    (p ++ c ++ four serial ++ timers.flatMap four, table)
  | .txt strings => (strings.flatMap counted, table)

/-- Writes one after the other, each with `one`. -/
def sequence {α : Type} (one : Nat → Suffixes → α → Bytes × Suffixes) (offset : Nat)
    (table : Suffixes) : List α → Bytes × Suffixes
  | [] => ([], table)
  | a :: as =>
    let (first, table) := one offset table a
    let (rest, table) := sequence one (offset + first.length) table as
    (first ++ rest, table)

/-- Writes the data of a record behind its length. -/
def record (owner : Name) (kind : RecordType) (offset : Nat) (table : Suffixes) (d : RecordData) :
    Bytes × Suffixes :=
  let (n, table) := name offset table owner
  let (content, table) := data (offset + n.length + 10) table d
  (n ++ two kind.code.toNat ++ two Reply.space.toNat ++ four Reply.timeToLive
    ++ two content.length ++ content, table)

/-- Whether the data of a record fits behind its length; names always do. -/
def fits : RecordData → Bool
  | .txt strings => (strings.flatMap counted).length < 65536
  | _ => true

/-- The octets that a header takes. -/
def headerLength : Nat := 12

/-- Writes a header. -/
def header (r : Reply) : Bytes :=
  [r.id.toNat, r.flags.toNat, r.questions.length, (r.answer.map (·.records.length)).getD 0, 0,
    if r.extension.isSome then 1 else 0].flatMap two

/-- The octets that an extension without options takes. -/
def extensionLength : Nat := 11

/-- The octets of an option without data. -/
def optionLength : Nat := 4

/-- Padded replies take a multiple of so many octets. -/
def block : Nat := 468

/-- Writes the extension of a reply behind `offset` octets. -/
def extension (offset : Nat) (e : ReplyExtension) : Bytes :=
  let option : Bytes :=
    if e.padded then
      let n := (block - (offset + extensionLength + optionLength) % block) % block
      two 12 ++ two n ++ List.replicate n 0
    else []
  [0] ++ two RecordType.opt.code.toNat ++ two Reply.payload.toNat ++ four 0 ++ two option.length
    ++ option

end Wire

namespace Reply

/-- The octets that a message has at least and at most. -/
def clampLimit (n : Nat) : Nat := min (max n 512) 65535

/-- The limit where none is given: what the client said that it takes. -/
def ownLimit (r : Reply) : Nat :=
  match r.extension with
  | some e => if e.requested = 0 then 65535 else e.requested.toNat
  | none => 65535

/-- The octets that are kept free for the extension. -/
def reserved (r : Reply) : Nat :=
  match r.extension with
  | some e => Wire.extensionLength + if e.padded then Wire.optionLength else 0
  | none => 0

/-- Header, questions and answer. -/
def questionOctets (r : Reply) : Bytes × Suffixes :=
  Wire.sequence Wire.question Wire.headerLength [] r.questions

/-- The octets of the answer behind the questions. -/
def answerOctets (r : Reply) (offset : Nat) (table : Suffixes) : Bytes :=
  match r.answer with
  | none => []
  | some a => (Wire.sequence (Wire.record a.owner a.kind) offset table a.records).1

/-- Writes a reply that takes at most `limit` octets. -/
def toWireWithin (r : Reply) (limit : Nat) : Except WriteFault Bytes :=
  let limit := clampLimit limit
  let (questions, table) := r.questionOctets
  let room := limit - r.reserved
  if room < Wire.headerLength + questions.length then .error .tooBig
  -- The records are written before it is known whether all of them fit.
  else if (r.answer.map (·.records)).getD [] |>.any (!Wire.fits ·) then .error .oversizedRecord
  else
    let body := questions ++ r.answerOctets (Wire.headerLength + questions.length) table
    let offset := Wire.headerLength + body.length
    if room < offset then .error .tooBig
    else
      let extension := match r.extension with
        | some e => Wire.extension offset e
        | none => []
      if limit < offset + extension.length then .error .tooBig
      else .ok (Wire.header r ++ body ++ extension)

/-- Writes a reply that takes what the client said that it takes. -/
def toWire (r : Reply) : Except WriteFault Bytes := r.toWireWithin r.ownLimit

end Reply

end ChallengeDns
