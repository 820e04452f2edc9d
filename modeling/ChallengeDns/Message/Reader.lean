import ChallengeDns.Message.Basic
import ChallengeDns.Message.RecordFormat
/-!
# Reading queries

A message is a header, questions, and records in three sections.  One record may extend the message;
it stands in the last section and belongs to the root.  Signed messages are refused, since no keys
are known.  The sections of a change of a zone have rules of their own.  Nothing may follow the last
record.
-/

namespace ChallengeDns

namespace Query

open WireReader

/-- The sections of records. -/
inductive Section where
  | answer
  | authority
  | additional
deriving DecidableEq

/-- The classes that stand for other classes: none and any. -/
def isMetaClass (space : Nat) : Bool := space = 254 || space = 255

/-- What has been read of a message. -/
structure Partial where
  opcode : Opcode
  questions : List Question
  extension : Option Extension

def question : WireReader Question := do
  let name ← WireReader.name
  let kind ← number 2
  let space ← number 2
  return ⟨name, ⟨kind.toUInt16⟩, space.toUInt16⟩

/-- Whether the questions are allowed: a change of a zone names at most one zone, by its start. -/
def questionsAllowed (opcode : Opcode) (qs : List Question) : Bool :=
  opcode ≠ .update
    || (qs.length ≤ 1
      && qs.all fun q => q.kind == .soa && !isMetaClass q.space.toNat)

def extensionData (length ttl payload : Nat) : WireReader Extension := do
  let codes ← within length RecordFormat.options
  -- The field for the time to live holds the code and version, the one for the class the payload.
  return ⟨ttl / 65536 % 256, payload.toUInt16, codes.contains 12⟩

/-- Reads the data of a record in a change of a zone.  Where the class is `any`, and among the
conditions also where it is `none`, there is no data; otherwise both mean the class of the zone. -/
def changeData (p : Partial) (s : Section) (space kind length : Nat) : WireReader Unit :=
  match p.questions with
  | [] => fail
  | zone :: _ =>
    if space = 255 || (space = 254 && s = .answer) then require (length = 0)
    else
      let space := if space = 254 then zone.space.toNat else space
      within length (RecordFormat.data space kind)

def record (p : Partial) (s : Section) : WireReader Partial := do
  let name ← WireReader.name
  let kind ← number 2
  let space ← number 2
  let ttl ← number 4
  let length ← number 2
  if kind = RecordType.opt.code.toNat then
    require (s = .additional && p.extension.isNone && name = .root)
    return { p with extension := some (← extensionData length ttl space) }
  -- Signatures cannot be checked, since the server has no keys.
  else if kind = RecordType.tsig.code.toNat then fail
  else if p.opcode = .update then
    changeData p s space kind length
    return p
  else
    within length (RecordFormat.data space kind)
    return p

/-- Reads the records of a section. -/
def records (s : Section) : Nat → Partial → WireReader Partial
  | 0, p => pure p
  | n + 1, p => do records s n (← record p s)

def message : WireReader Query := do
  let id ← number 2
  let flags ← number 2
  let questionCount ← number 2
  let answerCount ← number 2
  let authorityCount ← number 2
  let additionalCount ← number 2
  let opcode := Opcode.ofFlags flags.toUInt16
  let qs ← times question questionCount
  require (questionsAllowed opcode qs)
  let p ← records .answer answerCount ⟨opcode, qs, none⟩
  let p ← records .authority authorityCount p
  let p ← records .additional additionalCount p
  require ((← remaining) = 0)
  return ⟨id.toUInt16, flags.toUInt16, qs, p.extension⟩

/-- The query in a message, if it can be read. -/
def ofWire? (wire : Bytes) : Option Query :=
  (message.run ⟨wire.toArray, 0, 0, wire.length⟩).map (·.1)

end Query

end ChallengeDns
