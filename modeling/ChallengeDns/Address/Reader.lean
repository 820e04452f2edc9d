import ChallengeDns.Address.Basic
import ChallengeDns.Text.Table
/-!
# Addresses as text

IPv4 addresses are four decimal octets without leading zeros.  IPv6 addresses are eight groups of up
to four hexadecimal digits; `::` stands for one or more groups of zeros, the last two groups may be
written as an IPv4 address, and a zone may follow a percent sign.  A network is an address with a
length behind a slash; an IPv4 network may have a netmask or a hostmask there instead.

Addresses are printed in their shortest form, with `::` for the longest run of zero groups.
-/

namespace ChallengeDns

namespace Address

/-- Whether a text is a non-empty run of ASCII digits. -/
def isNumber (t : Text) : Bool := !t.isEmpty && t.all fun c => c.digit?.isSome

/-- A decimal octet of at most three digits without leading zeros. -/
def octet? (t : Text) : Option Nat :=
  if !isNumber t || 3 < t.length then none
  else if t.head? = some (.scalar '0') && 1 < t.length then none
  else if 255 < t.natural then none
  else some t.natural

def readV4? (t : Text) : Option (BitVec 32) :=
  match t.splitAt (.scalar '.') with
  | [a, b, c, d] => do
    let a ← octet? a
    let b ← octet? b
    let c ← octet? c
    let d ← octet? d
    return BitVec.ofNat 32 (((a * 256 + b) * 256 + c) * 256 + d)
  | _ => none

/-- A group of one to four hexadecimal digits. -/
def group? (t : Text) : Option Nat :=
  if t.isEmpty || 4 < t.length then none
  else t.foldl (fun n c => do
    let n ← n
    let ch ← c.char?
    let d ← Table.hexDigit? ch
    return n * 16 + d) (some 0)

/-- The pieces between colons, with a final IPv4 address turned into two groups. -/
def groups? (pieces : List Text) : Option (List Text) :=
  match pieces.getLast? with
  | none => none
  | some last =>
    if last.contains (.scalar '.') then
      match readV4? last with
      | none => none
      | some bits =>
        some (pieces.dropLast ++ [.hex 1 (bits.toNat / 65536), .hex 1 (bits.toNat % 65536)])
    else some pieces

/-- The positions of empty pieces that are neither first nor last. -/
def gaps (pieces : List Text) : List Nat :=
  (List.range pieces.length).filter fun i =>
    0 < i && i + 1 < pieces.length && pieces[i]? = some []

/-- The groups before and after the place where zero groups are left out; an empty first or last
piece is allowed only beside that place. -/
def splitGroups? (pieces : List Text) : Option (List Text × List Text) :=
  match gaps pieces with
  | [] => if pieces.length = 8 then some (pieces, []) else none
  | [i] =>
    let before := pieces.take i
    let after := pieces.drop (i + 1)
    -- An empty first or last piece belongs to the colons of the gap.
    let before := if pieces.head? = some [] then before.drop 1 else before
    let leading := pieces.head? = some [] && !before.isEmpty
    let behind := if pieces.getLast? = some [] then after.dropLast else after
    let trailing := pieces.getLast? = some [] && !behind.isEmpty
    if leading || trailing || 7 < before.length + behind.length then none
    else some (before, behind)
  | _ => none

/-- Reads an IPv6 address without a zone. -/
def readV6? (t : Text) : Option (BitVec 128) :=
  let pieces := t.splitAt (.scalar ':')
  if pieces.length < 3 then none
  else do
    let pieces ← groups? pieces
    if 9 < pieces.length then none
    else
      let (before, after) ← splitGroups? pieces
      let before ← before.mapM group?
      let after ← after.mapM group?
      let zeros := List.replicate (8 - before.length - after.length) 0
      return BitVec.ofNat 128 ((before ++ zeros ++ after).foldl (fun n g => n * 65536 + g) 0)

/-- The address and the zone behind a percent sign. -/
def splitZone? (t : Text) : Option (Text × Option Text) :=
  match t.cut? (.scalar '%') with
  | none => some (t, none)
  | some (a, zone) =>
    if zone.isEmpty || zone.contains (.scalar '%') then none else some (a, some zone)

/-- Reads an IPv6 address, perhaps with a zone. -/
def readZoned? (t : Text) : Option Address := do
  let (a, zone) ← splitZone? t
  let bits ← readV6? a
  return .v6 bits zone

def read? (t : Text) : Option Address :=
  if t.contains (.scalar '/') then none
  else match readV4? t with
    | some bits => some (.v4 bits)
    | none => readZoned? t

def groups (bits : BitVec 128) : List Nat :=
  (List.range 8).map fun i => bits.toNat / Nat.pow 65536 (7 - i) % 65536

/-- The start and the length of the first longest run of zeros; `position` is that of the list's
head. -/
def longestZeros (position : Nat) : List Nat → Nat × Nat
  | [] => (position, 0)
  | g :: gs =>
    let run := ((g :: gs).takeWhile (· == 0)).length
    let (start, length) := longestZeros (position + 1) gs
    if length ≤ run then (position, run) else (start, length)

/-- Groups in hexadecimal with colons between them. -/
def joinGroups (gs : List Nat) : Text := Text.join ":" (gs.map (Text.hex 1))

def v6Text (bits : BitVec 128) : Text :=
  let gs := groups bits
  let (start, length) := longestZeros 0 gs
  if length ≤ 1 then joinGroups gs
  else joinGroups (gs.take start) ++ "::" ++ joinGroups (gs.drop (start + length))

def text : Address → Text
  | .v4 bits => Text.join "." ((octets 4 bits.toNat).map fun b => Text.ofNat b.toNat)
  | .v6 bits none => v6Text bits
  | .v6 bits (some zone) => v6Text bits ++ "%" ++ zone

end Address

namespace Network

/-- The length written after the slash as a number. -/
def length? (width : Nat) (t : Text) : Option Nat :=
  if Address.isNumber t && t.natural ≤ width then some t.natural else none

/-- The length of a netmask: ones followed by zeros. -/
def maskLength? (bits : BitVec 32) : Option Nat :=
  (List.range 33).find? fun n => Address.mask 32 n == bits

/-- The length that an IPv4 network has behind its slash, as a number, as a netmask, or as the
complement of one. -/
def lengthV4? (t : Text) : Option Nat :=
  match length? 32 t with
  | some n => some n
  | none => do
    let bits ← Address.readV4? t
    match maskLength? bits with
    | some n => some n
    | none => maskLength? (~~~bits)

/-- Reads a network; host bits are cleared. -/
def read? (t : Text) : Option Network :=
  match t.splitAt (.scalar '/') with
  | [a] => (Address.read? a).map fun a => around a (if a.version = 4 then 32 else 128)
  | [a, length] =>
    let v4 := do
      let bits ← Address.readV4? a
      let n ← lengthV4? length
      return around (.v4 bits) n
    match v4 with
    | some net => some net
    | none => do
      let address ← Address.readZoned? a
      let n ← length? 128 length
      return around address n
  | _ => none

/-- The network that consists of one address. -/
def single (a : Address) : Network := around a (if a.version = 4 then 32 else 128)

def text : Network → Text
  | .v4 base length => (Address.v4 base).text ++ "/" ++ Text.ofNat length
  | .v6 base zone length => (Address.v6 base zone).text ++ "/" ++ Text.ofNat length

end Network

end ChallengeDns
