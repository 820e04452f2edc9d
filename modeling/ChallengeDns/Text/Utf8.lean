import ChallengeDns.Text.Basic
/-!
# UTF-8

`encode?` writes a text as UTF-8; only a lone surrogate makes it fail.  `encodeKept?` writes the
octets that some of the lone surrogates are kept for.  `decode` reads UTF-8 and names the octets at
fault otherwise: the longest correct beginning of a character is blamed as a whole, and a start octet
that can start nothing is blamed alone.
-/

namespace ChallengeDns

/-- A sequence of octets. -/
abbrev Bytes := List UInt8

namespace Text

/-- The octets of a number that is written in the bits of one to four octets. -/
def utf8Octets (n : Nat) : Bytes :=
  if n < 0x80 then [n.toUInt8]
  else if n < 0x800 then [(0xC0 + n / 64).toUInt8, (0x80 + n % 64).toUInt8]
  else if n < 0x10000 then
    [(0xE0 + n / 4096).toUInt8, (0x80 + n / 64 % 64).toUInt8, (0x80 + n % 64).toUInt8]
  else
    [(0xF0 + n / 262144).toUInt8, (0x80 + n / 4096 % 64).toUInt8, (0x80 + n / 64 % 64).toUInt8,
      (0x80 + n % 64).toUInt8]

/-- UTF-8 of one character. -/
def utf8Char (c : Char) : Bytes := utf8Octets c.toNat

/-- UTF-8 of a text; a text with a lone surrogate has none. -/
def encode? : Text → Option Bytes
  | [] => some []
  | .scalar c :: t => (encode? t).map (utf8Char c ++ ·)
  | .surrogate _ :: _ => none

/-- The octets of a code point where octets that are no UTF-8 are kept as halves of surrogate pairs;
other halves have none. -/
def keptOctets? : CodePoint → Option Bytes
  | .scalar c => some (utf8Char c)
  | .surrogate low =>
    if 0x480 ≤ low.val ∧ low.val < 0x500 then some [(low.val - 0x400).toUInt8] else none

/-- UTF-8 of a text in which octets may be kept. -/
def encodeKept? (t : Text) : Option Bytes := (t.mapM keptOctets?).map List.flatten

/-- Why a text has no octets: a half of a surrogate pair, where it stands, and how many halves there
are from there on. -/
structure EncodeError where
  half : Nat
  position : Nat
  count : Nat
deriving DecidableEq

def EncodeError.message (e : EncodeError) : Text :=
  (if e.count = 1 then
    "'utf-8' codec can't encode character '\\u" ++ hex 4 e.half ++ "' in position "
      ++ ofNat e.position
  else "'utf-8' codec can't encode characters in position " ++ ofNat e.position ++ "-"
    ++ ofNat (e.position + e.count - 1) : Text) ++ ": surrogates not allowed"

/-- Whether a code point is half a surrogate pair. -/
def isHalf (c : CodePoint) : Bool := c.char?.isNone

/-- The error of a text in which the code points that are `bad` have no octets. -/
def encodeError (bad : CodePoint → Bool) (t : Text) : EncodeError :=
  let position := (t.takeWhile fun c => !bad c).length
  let halves := (t.drop position).takeWhile isHalf
  ⟨(halves.head?.map CodePoint.value).getD 0, position, halves.length⟩

/-- UTF-8 of a text, with nothing written for a lone surrogate. -/
def utf8 (t : Text) : Bytes :=
  t.flatMap fun c => match c with
    | .scalar c => utf8Char c
    | .surrogate _ => []

/-- Why some octets are no UTF-8. -/
inductive Utf8Fault where
  | invalidStart
  | invalidContinuation
  | unexpectedEnd
deriving DecidableEq

/-- Octets that are no UTF-8: the first of them, how many they are, and what is wrong. -/
structure Utf8Error where
  octet : UInt8
  position : Nat
  length : Nat
  fault : Utf8Fault
deriving DecidableEq

/-- A reading of one character: the number it stands for and how many octets it takes. -/
inductive Utf8Step where
  | read (value : Nat) (length : Nat)
  | bad (length : Nat) (fault : Utf8Fault)

/-- Whether an octet continues a character. -/
def isTail (b : UInt8) : Bool := 0x80 ≤ b && b < 0xC0

/-- The six bits that a continuation octet carries. -/
def tailBits (b : UInt8) : Nat := b.toNat - 0x80

/-- The second octets that may follow `first`: what else would be an overlong form, a surrogate, or
a number beyond the last code point. -/
def isSecond (first second : UInt8) : Bool :=
  if first = 0xE0 then 0xA0 ≤ second && second < 0xC0
  else if first = 0xED then 0x80 ≤ second && second < 0xA0
  else if first = 0xF0 then 0x90 ≤ second && second < 0xC0
  else if first = 0xF4 then 0x80 ≤ second && second < 0x90
  else isTail second

/-- Reads the character that starts with `first`; `rest` is what follows it. -/
def utf8Step (first : UInt8) (rest : Bytes) : Utf8Step :=
  if first < 0x80 then .read first.toNat 1
  else if first < 0xC2 then .bad 1 .invalidStart
  else if first < 0xE0 then
    match rest with
    | [] => .bad 1 .unexpectedEnd
    | b :: _ =>
      if isTail b then .read ((first.toNat - 0xC0) * 64 + tailBits b) 2
      else .bad 1 .invalidContinuation
  else if first < 0xF0 then
    match rest with
    | [] => .bad 1 .unexpectedEnd
    | b :: rest =>
      if !isSecond first b then .bad 1 .invalidContinuation
      else match rest with
        | [] => .bad 2 .unexpectedEnd
        | c :: _ =>
          if isTail c then
            .read ((first.toNat - 0xE0) * 4096 + tailBits b * 64 + tailBits c) 3
          else .bad 2 .invalidContinuation
  else if first < 0xF5 then
    match rest with
    | [] => .bad 1 .unexpectedEnd
    | b :: rest =>
      if !isSecond first b then .bad 1 .invalidContinuation
      else match rest with
        | [] => .bad 2 .unexpectedEnd
        | c :: rest =>
          if !isTail c then .bad 2 .invalidContinuation
          else match rest with
            | [] => .bad 3 .unexpectedEnd
            | d :: _ =>
              if isTail d then
                .read ((first.toNat - 0xF0) * 262144 + tailBits b * 4096 + tailBits c * 64
                  + tailBits d) 4
              else .bad 3 .invalidContinuation
  else .bad 1 .invalidStart

/-- Reads octets as UTF-8; `skip` octets still belong to the character read last. -/
def decodeFrom (position skip : Nat) : Bytes → Except Utf8Error Text
  | [] => .ok []
  | b :: rest =>
    match skip with
    | skip + 1 => decodeFrom (position + 1) skip rest
    | 0 =>
      match utf8Step b rest with
      | .bad length fault => .error ⟨b, position, length, fault⟩
      | .read value length =>
        match decodeFrom (position + 1) (length - 1) rest with
        | .error e => .error e
        | .ok t => .ok ((CodePoint.ofNat? value).toList ++ t)

def decode (bytes : Bytes) : Except Utf8Error Text := decodeFrom 0 0 bytes

/-- Reads UTF-8 in which a surrogate may stand in its three-octet form. -/
def decodePassing : Nat → Bytes → Option Text
  | _, [] => some []
  | skip + 1, _ :: rest => decodePassing skip rest
  | 0, b :: rest =>
    match utf8Step b rest with
    | .read value length => do
      let t ← decodePassing (length - 1) rest
      let c ← CodePoint.ofNat? value
      return c :: t
    -- What is refused may still be a surrogate in three octets.
    | .bad _ _ =>
      match b, rest with
      | 0xED, c :: d :: _ =>
        if 0xA0 ≤ c && c < 0xC0 && isTail d then do
          let t ← decodePassing 2 rest
          let s ← CodePoint.ofNat? (0xD000 + tailBits c * 64 + tailBits d)
          return s :: t
        else none
      | _, _ => none

/-- Octets in two lower-case hexadecimal digits each. -/
def ofBytes (bytes : Bytes) : Text := bytes.flatMap fun b => hex 2 b.toNat

namespace Utf8Fault

def message : Utf8Fault → Text
  | .invalidStart => "invalid start byte"
  | .invalidContinuation => "invalid continuation byte"
  | .unexpectedEnd => "unexpected end of data"

end Utf8Fault

/-- The wording of an error: one octet is shown, several are given by their positions. -/
def Utf8Error.message (e : Utf8Error) : Text :=
  if e.length = 1 then
    "'utf-8' codec can't decode byte 0x" ++ hex 2 e.octet.toNat ++ " in position "
      ++ ofNat e.position ++ ": " ++ e.fault.message
  else
    "'utf-8' codec can't decode bytes in position " ++ ofNat e.position ++ "-"
      ++ ofNat (e.position + e.length - 1) ++ ": " ++ e.fault.message

/-- Reads octets as UTF-8 where each sequence at fault becomes one replacement character. -/
def decodeReplacing : Nat → Bytes → Text
  | _, [] => []
  | skip + 1, _ :: rest => decodeReplacing skip rest
  | 0, b :: rest =>
    match utf8Step b rest with
    | .bad length _ => '\uFFFD' :: decodeReplacing (length - 1) rest
    | .read value length => (CodePoint.ofNat? value).toList ++ decodeReplacing (length - 1) rest

/-- Reads octets as UTF-8 where each octet at fault is shown as `\x` and its two hexadecimal
digits. -/
def decodeShowing : Nat → Bytes → Text
  | _, [] => []
  | skip + 1, _ :: rest => decodeShowing skip rest
  | 0, b :: rest =>
    match utf8Step b rest with
    | .bad _ _ => "\\x" ++ hex 2 b.toNat ++ decodeShowing 0 rest
    | .read value length => (CodePoint.ofNat? value).toList ++ decodeShowing (length - 1) rest

end Text

end ChallengeDns
