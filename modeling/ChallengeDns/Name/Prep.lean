import ChallengeDns.Name.PrepTables
import ChallengeDns.Name.Punycode
import ChallengeDns.Text.Normal
/-!
# Preparation of internationalised labels

The octets of a label that was given as text (IDNA 2003).  An ASCII label stands for itself.  Any
other is folded, normalised and checked, and is written in Punycode behind `xn--` unless it has
become ASCII.  Only labels of 1 to 63 octets come out.
-/

namespace ChallengeDns.Prep

/-- Folds case and leaves out what leaves no trace. -/
def fold (codes : List Nat) : List Nat :=
  codes.flatMap fun n => (CodeMap.nameFolding.get? n).getD [n]

/-- A prepared sequence mixes no directions: if a character is written from right to left, then the
first and the last are, and none from left to right. -/
def directionsAgree (codes : List Nat) : Bool :=
  let right n := CodeRanges.rightToLeft.contains n
  !codes.any right
    || (!codes.any CodeRanges.leftToRight.contains
        && codes.head?.all right && codes.getLast?.all right)

/-- The prepared form of a sequence of code points; none if it holds what no name may hold. -/
def prepare (codes : List Nat) : Option (List Nat) :=
  let prepared := Normal.normalize (fold codes)
  if prepared.any CodeRanges.prohibitedInNames.contains then none
  else if !directionsAgree prepared then none
  else some prepared

/-- The octets `xn--`. -/
def acePrefix : Bytes := [0x78, 0x6E, 0x2D, 0x2D]

/-- Octets that have the length of a label. -/
def sized (bytes : Bytes) : Option Bytes :=
  if 0 < bytes.length && bytes.length < 64 then some bytes else none

def labelBytes? (label : Text) : Option Bytes :=
  let codes := label.map CodePoint.value
  if codes.all (· < 0x80) then sized (codes.map Nat.toUInt8)
  else do
    let prepared ← prepare codes
    if prepared.all (· < 0x80) then sized (prepared.map Nat.toUInt8)
    else if acePrefix.isPrefixOf ((prepared.take 4).map Nat.toUInt8)
        && (prepared.take 4).all (· < 0x80) then none
    else sized (acePrefix ++ Punycode.encode prepared)

end ChallengeDns.Prep
