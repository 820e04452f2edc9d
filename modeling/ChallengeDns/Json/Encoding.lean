import ChallengeDns.Json.Reader
/-!
# JSON in octets

JSON texts come as UTF-8, UTF-16 or UTF-32.  A byte order mark says which; without one the places of
zero octets do, since a JSON text starts with ASCII characters.  Halves of surrogate pairs may stand
alone.
-/

namespace ChallengeDns.Json

/-- The order of the octets of a number. -/
inductive OctetOrder where
  | big
  | little
deriving DecidableEq

/-- How a text is written in octets, and how many of them make up its mark. -/
inductive Encoding where
  | utf8 (mark : Nat)
  | utf16 (order : OctetOrder) (mark : Nat)
  | utf32 (order : OctetOrder) (mark : Nat)
deriving DecidableEq

namespace Encoding

/-- The encoding of a JSON text. -/
def ofOctets : Bytes → Encoding
  | 0x00 :: 0x00 :: 0xFE :: 0xFF :: _ => .utf32 .big 4
  | 0xFF :: 0xFE :: 0x00 :: 0x00 :: _ => .utf32 .little 4
  | 0xFE :: 0xFF :: _ => .utf16 .big 2
  | 0xFF :: 0xFE :: _ => .utf16 .little 2
  | 0xEF :: 0xBB :: 0xBF :: _ => .utf8 3
  | [0, _] => .utf16 .big 0
  | [_, 0] => .utf16 .little 0
  | a :: b :: c :: d :: _ =>
    if a = 0 then (if b = 0 then .utf32 .big 0 else .utf16 .big 0)
    else if b = 0 then (if c = 0 ∧ d = 0 then .utf32 .little 0 else .utf16 .little 0)
    else .utf8 0
  | _ => .utf8 0

/-- The number that octets write. -/
def number (order : OctetOrder) (b : Bytes) : Nat :=
  let ordered : Bytes := match order with
    | .big => b
    | .little => b.reverse
  ordered.foldl (fun n b => n * 256 + b.toNat) 0

/-- The numbers of so many octets each that fill a list. -/
def numbers (order : OctetOrder) (size : Nat) (h : 0 < size) (b : Bytes) : Option (List Nat) :=
  if b.isEmpty then some []
  else if b.length < size then none
  else (numbers order size h (b.drop size)).map (number order (b.take size) :: ·)
termination_by b.length
decreasing_by simp; omega

/-- The code points of UTF-16 units. -/
def ofUnits : List Nat → Text
  | [] => []
  | [u] => (CodePoint.ofNat? u).toList
  | u :: v :: rest =>
    if 0xD800 ≤ u ∧ u < 0xDC00 ∧ 0xDC00 ≤ v ∧ v < 0xE000 then
      (CodePoint.ofNat? (joinSurrogates u v)).toList ++ ofUnits rest
    else (CodePoint.ofNat? u).toList ++ ofUnits (v :: rest)

def decode? : Encoding → Bytes → Option Text
  | .utf8 mark, b => Text.decodePassing 0 (b.drop mark)
  | .utf16 order mark, b => (numbers order 2 (by decide) (b.drop mark)).map ofUnits
  | .utf32 order mark, b =>
    (numbers order 4 (by decide) (b.drop mark)).bind fun ns => ns.mapM CodePoint.ofNat?

end Encoding

/-- Reads a JSON text in octets; `none` if they are no text. -/
def readOctets (b : Bytes) : Option (Except ReadError Value) :=
  ((Encoding.ofOctets b).decode? b).map readAny

end ChallengeDns.Json
