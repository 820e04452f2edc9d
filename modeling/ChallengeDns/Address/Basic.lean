import ChallengeDns.Text.Utf8
/-!
# Addresses and networks

IPv4 and IPv6 addresses as words of 32 and 128 bits; an IPv6 address may name a zone.  A network is
a base address with the bits behind its length cleared.  An address lies in a network of its own
family when clearing the same bits gives the base; zones play no part in that.

An IPv4-mapped IPv6 address counts as the IPv4 address inside it once it has been `unmapped`.
-/

namespace ChallengeDns

/-- An internet address. -/
inductive Address where
  | v4 (bits : BitVec 32)
  | v6 (bits : BitVec 128) (zone : Option Text)
deriving DecidableEq

namespace Address

/-- The mask that keeps the first `length` of `w` bits. -/
def mask (w length : Nat) : BitVec w := ~~~(BitVec.allOnes w >>> length)

/-- 4 or 6. -/
def version : Address → Nat
  | .v4 _ => 4
  | .v6 _ _ => 6

/-- The IPv4 address that is written inside an IPv6 address, and every other address itself. -/
def unmapped : Address → Address
  | .v4 bits => .v4 bits
  | .v6 bits zone =>
    if bits >>> 32 = 0xFFFF#128 then .v4 (bits.setWidth 32) else .v6 bits zone

/-- The address with the given number: IPv4 as far as that goes, IPv6 beyond. -/
def ofInt? : Int → Option Address
  | .ofNat n =>
    if n < Nat.pow 2 32 then some (.v4 (BitVec.ofNat 32 n))
    else if n < Nat.pow 2 128 then some (.v6 (BitVec.ofNat 128 n) none)
    else none
  | .negSucc _ => none

/-- The number that octets write, the first one the most significant. -/
def number (bytes : Bytes) : Nat := bytes.foldl (fun n b => n * 256 + b.toNat) 0

/-- The address of 4 or of 16 octets. -/
def ofBytes? (bytes : Bytes) : Option Address :=
  if bytes.length = 4 then some (.v4 (BitVec.ofNat 32 (number bytes)))
  else if bytes.length = 16 then some (.v6 (BitVec.ofNat 128 (number bytes)) none)
  else none

/-- The `count` octets of a number, the most significant first. -/
def octets : Nat → Nat → Bytes
  | 0, _ => []
  | count + 1, n => octets count (n / 256) ++ [n.toUInt8]

end Address

/-- A range of addresses that agree in their first bits. -/
inductive Network where
  | v4 (base : BitVec 32) (length : Nat)
  | v6 (base : BitVec 128) (zone : Option Text) (length : Nat)
deriving DecidableEq

namespace Network

/-- The network of the given length around an address.  A zone is kept only when there were no bits
to clear. -/
def around (a : Address) (length : Nat) : Network :=
  match a with
  | .v4 bits => .v4 (bits &&& Address.mask 32 length) length
  | .v6 bits zone =>
    let base := bits &&& Address.mask 128 length
    .v6 base (if base = bits then zone else none) length

def contains : Network → Address → Bool
  | .v4 base length, .v4 bits => bits &&& Address.mask 32 length == base
  | .v6 base _ length, .v6 bits _ => bits &&& Address.mask 128 length == base
  | _, _ => false

end Network

namespace Address

/-- The addresses of this machine. -/
def isLoopback : Address → Bool
  | .v4 bits => (Network.v4 0x7F000000#32 8).contains (.v4 bits)
  | .v6 bits _ => bits == 1#128

/-- The addresses of private networks: three IPv4 ranges and the unique local IPv6 addresses. -/
def isPrivate (a : Address) : Bool :=
  [Network.v4 0x0A000000#32 8, .v4 0xAC100000#32 12, .v4 0xC0A80000#32 16,
    .v6 (0xFC00#128 <<< 112) none 7].any (·.contains a)

end Address

end ChallengeDns
