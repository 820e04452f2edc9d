import ChallengeDns.Message.Cursor
import ChallengeDns.Text.Digit
import ChallengeDns.Text.Utf8
/-!
# Formats of records

What the data of records of each type looks like.  Messages with a record that breaks its format are
not answered, so queries are read with all these formats, although nothing but the options of the
extending record matters for the answer.  Types that are not listed hold any octets.
-/

namespace ChallengeDns.RecordFormat

open WireReader

/-- Reads an octet, which has to satisfy `p`. -/
def octetWhere (p : Nat → Bool) : WireReader Unit := do require (p (← octet))

/-- Passes octets. -/
def skip (n : Nat) : WireReader Unit := do let _ ← octets n

def anything : WireReader Unit := do let _ ← rest

def text : WireReader Unit := do let _ ← counted

def domain : WireReader Unit := do let _ ← name

/-- One or more texts. -/
def texts : WireReader Unit := do
  require (0 < (← remaining))
  let _ ← many counted

/-- A window of a map of types: its number, and up to 32 octets. -/
def window : WireReader Nat := do
  let n ← octet
  let bits ← counted
  require (0 < bits.length ∧ bits.length ≤ 32)
  return n

/-- Whether each number is greater than the one before. -/
def ascending : List Nat → Bool
  | m :: n :: ns => m < n && ascending (n :: ns)
  | _ => true

/-- Whether no number is smaller than the one before. -/
def sorted : List Nat → Bool
  | m :: n :: ns => m ≤ n && sorted (n :: ns)
  | _ => true

/-- A map of types: windows in order. -/
def typeMap : WireReader Unit := do require (ascending (← many window))

/-- A gateway of some kind: none, an address, or a name. -/
def gateway (kind : Nat) : WireReader Unit :=
  match kind with
  | 0 => pure ()
  | 1 => skip 4
  | 2 => skip 16
  | 3 => domain
  | _ => fail

/-- The digest of a key: its algorithm's length, where that is known. -/
def keyDigest (deletion : Bool) : WireReader Unit := do
  skip 3
  let kind ← octet
  let n := (← rest).length
  require (match kind with
    | 0 => deletion && n = 1
    | 1 => n = 20
    | 2 => n = 32
    | 3 => n = 32
    | 4 => n = 48
    | _ => true)

/-- A decimal number as geographical positions have it: a sign, digits, a point, digits. -/
def decimal? (digits : Text) : Bool :=
  let unsigned := match digits with
    | .scalar '+' :: rest => rest
    | .scalar '-' :: rest => rest
    | _ => digits
  let number (t : Text) : Bool := t.all CodePoint.isDigit
  match Text.splitAt '.' unsigned with
  | [whole] => !whole.isEmpty && number whole
  | [whole, fraction] => !(whole.isEmpty && fraction.isEmpty) && number whole && number fraction
  | _ => false

/-- Whether a decimal number lies between `-bound` and `bound`. -/
def bounded (bound : Nat) (digits : Text) : Bool :=
  let unsigned := digits.filter fun c => c ≠ .scalar '+' ∧ c ≠ .scalar '-'
  match Text.splitAt '.' unsigned with
  | whole :: fraction =>
    let value (t : Text) : Nat := t.foldl (fun n c => n * 10 + c.digit?.getD 0) 0
    Text.isAscii unsigned
      && (value whole < bound || (value whole = bound && value fraction.flatten = 0))
  | [] => false

/-- A number in a geographical position. -/
def coordinate (bound : Option Nat) : WireReader Unit := do
  match Text.decode (← counted) with
  | .error _ => fail
  | .ok t =>
    require (decimal? t)
    match bound with
    | some b => require (bounded b t)
    | none => pure ()

/-- A size in a location: a digit and an exponent. -/
def size : WireReader Unit := octetWhere fun n => n % 16 ≤ 9 && n / 16 ≤ 9

/-- An angle in a location, in thousandths of a second around 2^31. -/
def angle (degrees : Nat) : WireReader Unit := do
  let n ← number 4
  require (Nat.pow 2 31 - degrees * 3600000 ≤ n ∧ n ≤ Nat.pow 2 31 + degrees * 3600000)

/-- A list of address ranges. -/
def addressRange : WireReader Unit := do
  let family ← number 2
  let bits ← octet
  let length := (← octet) % 128
  skip length
  require (match family with
    | 1 => length ≤ 4 && bits ≤ 32
    | 2 => length ≤ 16 && bits ≤ 128
    | _ => length ≤ 63)

/-- The parameters that a service binding requires. -/
def mandatory : WireReader (List Nat) := do
  let keys ← many (number 2)
  require (ascending keys && !keys.contains 0)
  return keys

/-- A parameter of a service binding: its key, and the keys that it requires. -/
def parameter : WireReader (Nat × List Nat) := do
  let key ← number 2
  let length ← number 2
  let required ← within length (match key with
    | 0 => mandatory
    | 1 => do
      let ids ← many counted
      require (!ids.any List.isEmpty)
      return []
    | 2 => return []
    | 3 => do skip 2; return []
    | 4 => do let _ ← many (octets 4); return []
    | 6 => do let _ ← many (octets 16); return []
    | 8 => return []
    | _ => do anything; return [])
  return (key, required)

def serviceBinding : WireReader Unit := do
  let priority ← number 2
  domain
  let left ← remaining
  require (!(priority = 0 && 0 < left))
  let parameters ← many parameter
  let keys := parameters.map (·.1)
  -- Of a parameter that comes again the last one counts.
  let required := ((parameters.reverse.find? (·.1 = 0)).map (·.2)).getD []
  require (sorted keys && required.all keys.contains && (!keys.contains 2 || keys.contains 1))

def zoneDigest : WireReader Unit := do
  skip 4
  let scheme ← octet
  let algorithm ← octet
  let n := (← rest).length
  require (scheme ≠ 0 && (match algorithm with
    | 0 => false
    | 1 => n = 48
    | 2 => n = 64
    | _ => true))

/-- A property tag: letters and digits. -/
def propertyTag : WireReader Unit := do
  let tag ← counted
  require (!tag.isEmpty && tag.all fun b => (Char.ofNat b.toNat).isAlphanum)

/-- An option of the extending record; gives its number. -/
def option : WireReader Nat := do
  let code ← number 2
  let length ← number 2
  within length (match code with
    | 8 => do
      let family ← number 2
      let source ← octet
      let scope ← octet
      skip ((source + 7) / 8)
      require (match family with
        | 1 => source ≤ 32 && scope ≤ 32
        | 2 => source ≤ 128 && scope ≤ 128
        | _ => false)
    | 10 => do
      skip 8
      let n := (← rest).length
      require (n = 0 || (8 ≤ n && n ≤ 32))
    | 15 => do
      skip 2
      let text ← rest
      let text := if text.getLast? = some 0 then text.dropLast else text
      require (Text.decode text).isOk
    | 18 => domain
    | _ => anything)
  return code

def options : WireReader (List Nat) := many option

/-- Formats that depend on the class. -/
def inClass (space kind : Nat) : Option (WireReader Unit) :=
  match space, kind with
  | 1, 1 => some (skip 4)
  | 1, 11 => some (do skip 5; anything)
  | 1, 22 => some anything
  | 1, 23 => some domain
  | 1, 26 => some (do skip 2; domain; domain)
  | 1, 28 => some (skip 16)
  | 1, 33 => some (do skip 6; domain)
  | 1, 35 => some (do skip 4; text; text; text; domain)
  | 1, 36 => some (do skip 2; domain)
  | 1, 42 => some (do let _ ← many addressRange)
  | 1, 45 => some (do
    skip 1
    let kind ← octet
    skip 1
    gateway kind
    anything)
  | 1, 49 => some anything
  | 1, 64 => some serviceBinding
  | 1, 65 => some serviceBinding
  | 3, 1 => some (do domain; skip 2)
  | _, _ => none

/-- Formats that are the same in every class. -/
def common (kind : Nat) : WireReader Unit :=
  -- `RecordType.runs` has the names of these types; data of any other type is taken as it is.
  match kind with
  | 2 => domain
  | 5 => domain
  | 6 => do domain; domain; skip 20
  | 12 => domain
  | 13 => do text; text
  | 15 => do skip 2; domain
  | 16 => texts
  | 17 => do domain; domain
  | 18 => do skip 2; domain
  | 19 => text
  | 20 => do
    text
    if 0 < (← remaining) then text
  | 21 => do skip 2; domain
  | 27 => do coordinate (some 90); coordinate (some 180); coordinate none
  | 29 => do
    octetWhere (· = 0)
    size
    size
    size
    angle 90
    angle 180
    skip 4
  | 37 => do skip 5; anything
  | 39 => domain
  | 41 => do let _ ← options
  | 43 => keyDigest false
  | 44 => do skip 2; anything
  | 46 => do skip 18; domain; anything
  | 47 => do domain; typeMap
  | 48 => do skip 4; anything
  | 50 => do skip 4; text; text; typeMap
  | 51 => do skip 4; text
  | 52 => do skip 3; anything
  | 53 => do skip 3; anything
  | 55 => do
    let tagLength ← octet
    skip 1
    let keyLength ← number 2
    skip (tagLength + keyLength)
    let _ ← many name
  | 56 => texts
  | 59 => keyDigest true
  | 60 => do skip 4; anything
  | 62 => do skip 6; typeMap
  | 63 => zoneDigest
  | 66 => do skip 5; domain
  | 99 => texts
  | 104 => skip 10
  | 105 => skip 6
  | 106 => skip 10
  | 107 => do skip 2; domain
  | 108 => skip 6
  | 109 => skip 8
  | 249 => do
    domain
    skip 12
    skip (← number 2)
    skip (← number 2)
  | 256 => do
    skip 4
    require (0 < (← remaining))
    anything
  | 257 => do skip 1; propertyTag; anything
  | 258 => texts
  | 260 => do
    skip 1
    let kind ← octet
    gateway (kind % 128)
  | 261 => texts
  | 262 => texts
  | 32769 => keyDigest false
  | _ => anything

def data (space kind : Nat) : WireReader Unit := (inClass space kind).getD (common kind)

end ChallengeDns.RecordFormat
