import ChallengeDns.Text.Utf8
/-!
# Base64

Bytes as texts over an alphabet of 64 characters.  A character stands for six bits; the last group
of a text may be shorter, and `=` signs then fill it up to four.

Reading is lenient: characters outside the alphabet are passed over, and padding that completes a
group ends the text.  Writing gives the one text without padding.
-/

namespace ChallengeDns.Base64

/-- Why a text gives no bytes. -/
inductive Fault where
  /-- A last group of one character, behind `count` characters altogether. -/
  | loneCharacter (count : Nat)
  /-- A last group that is not filled up. -/
  | padding
deriving DecidableEq

def Fault.message : Fault → Text
  | .loneCharacter count =>
    "Invalid base64-encoded string: number of data characters (" ++ Text.ofNat count
      ++ ") cannot be 1 more than a multiple of 4"
  | .padding => "Incorrect padding"

/-- The two characters for 62 and 63. -/
structure Alphabet where
  c62 : Char
  c63 : Char

/-- The common alphabet. -/
def Alphabet.standard : Alphabet := ⟨'+', '/'⟩

/-- The alphabet for names and addresses. -/
def Alphabet.url : Alphabet := ⟨'-', '_'⟩

/-- The value of a character. -/
def Alphabet.value? (a : Alphabet) (c : Char) : Option Nat :=
  if 'A' ≤ c ∧ c ≤ 'Z' then some (c.toNat - 65)
  else if 'a' ≤ c ∧ c ≤ 'z' then some (c.toNat - 71)
  else if '0' ≤ c ∧ c ≤ '9' then some (c.toNat + 4)
  else if c = a.c62 then some 62
  else if c = a.c63 then some 63
  else none

/-- The character of a value below 64. -/
def Alphabet.char (a : Alphabet) (n : Nat) : Char :=
  if n < 26 then Char.ofNat (n + 65)
  else if n < 52 then Char.ofNat (n + 71)
  else if n < 62 then Char.ofNat (n - 4)
  else if n = 62 then a.c62
  else a.c63

/-- Where the reading of a group stands: how many characters of it were read, the bits that are left
over, and how many padding signs stand behind them. -/
structure Group where
  size : Nat
  left : Nat
  padding : Nat

/-- Reads the rest of a text; `count` characters of the alphabet came before. -/
def decodeFrom (a : Alphabet) (count : Nat) (g : Group) : List Char → Except Fault Bytes
  | [] =>
    if g.size = 0 then .ok []
    else if g.size = 1 then .error (.loneCharacter count)
    else .error .padding
  | c :: cs =>
    if c = '=' then
      -- Padding that completes a group ends the text.
      if 2 ≤ g.size ∧ 4 ≤ g.size + g.padding + 1 then .ok []
      else decodeFrom a count ⟨g.size, g.left, if 2 ≤ g.size then g.padding + 1 else g.padding⟩ cs
    else match a.value? c with
      -- Characters outside the alphabet are passed over.
      | none => decodeFrom a count g cs
      | some n =>
        let rest (size left : Nat) := decodeFrom a (count + 1) ⟨size, left, 0⟩ cs
        match g.size with
        | 0 => rest 1 n
        | 1 => (rest 2 (n % 16)).map (UInt8.ofNat (g.left * 4 + n / 16) :: ·)
        | 2 => (rest 3 (n % 4)).map (UInt8.ofNat (g.left * 16 + n / 4) :: ·)
        | _ => (rest 0 0).map (UInt8.ofNat (g.left * 64 + n) :: ·)

/-- The bytes of a text. -/
def decode (a : Alphabet) (cs : List Char) : Except Fault Bytes := decodeFrom a 0 ⟨0, 0, 0⟩ cs

/-- The text of bytes, without padding. -/
def encode (a : Alphabet) : Bytes → List Char
  | [] => []
  | [x] => [x.toNat / 4, x.toNat % 4 * 16].map a.char
  | [x, y] => [x.toNat / 4, x.toNat % 4 * 16 + y.toNat / 16, y.toNat % 16 * 4].map a.char
  | x :: y :: z :: bytes =>
    [x.toNat / 4, x.toNat % 4 * 16 + y.toNat / 16, y.toNat % 16 * 4 + z.toNat / 64,
      z.toNat % 64].map a.char ++ encode a bytes

end ChallengeDns.Base64
