import ChallengeDns.Data.Value
import ChallengeDns.Decimal.Nearest
import ChallengeDns.Text.Base64
import ChallengeDns.Text.Digit
import ChallengeDns.Yaml.Token
/-!
# YAML scalars

What a scalar of a YAML 1.1 text is.  A plain scalar without a tag takes its tag from its form
(`Tag.ofPlain`); the value of a scalar then follows from its tag and its text (`Scalar.ofText`).  A
tag that is written out may stand before a text that has not the form the tag needs.
-/

namespace ChallengeDns.Yaml

/-- The tags of nodes. -/
inductive Tag where
  | null
  | bool
  | int
  | float
  | binary
  | timestamp
  | omap
  | pairs
  | set
  | str
  | seq
  | map
  /-- The key that stands for the entries of another mapping. -/
  | merge
  /-- The key that stands for the value of its whole mapping. -/
  | value
  /-- A tag that no value belongs to. -/
  | unknown
deriving DecidableEq

namespace Tag

/-- What the tags of the YAML repository begin with. -/
def leader : Text := "tag:yaml.org,2002:"

/-- The tags of the repository by their names. -/
def named : List (Text × Tag) :=
  [("null", .null), ("bool", .bool), ("int", .int), ("float", .float), ("binary", .binary),
    ("timestamp", .timestamp), ("omap", .omap), ("pairs", .pairs), ("set", .set), ("str", .str),
    ("seq", .seq), ("map", .map), ("merge", .merge), ("value", .value)]

def ofText (t : Text) : Tag :=
  ((named.find? fun e => leader ++ e.1 == t).map (·.2)).getD .unknown

/-! ### The forms of plain scalars -/

/-- A digit or a line below digits. -/
def isSpaced (p : Char → Bool) (c : Char) : Bool := p c || c == '_'

/-- Whether the list is not empty and all its members satisfy `p`. -/
def oneOrMore (p : Char → Bool) (cs : List Char) : Bool := !cs.isEmpty && cs.all p

/-- The text behind a sign. -/
def unsigned (cs : List Char) : List Char :=
  match cs with
  | '+' :: rest => rest
  | '-' :: rest => rest
  | _ => cs

/-- The hexadecimal digits. -/
def isHex (c : Char) : Bool := (Table.hexDigit? c).isSome

/-- The pieces between the colons. -/
def colonPieces : List Char → List (List Char)
  | [] => [[]]
  | c :: cs =>
    if c = ':' then [] :: colonPieces cs
    else match colonPieces cs with
      | [] => [[c]]
      | p :: ps => (c :: p) :: ps

/-- A number of one or two digits below 60. -/
def isSixtieth : List Char → Bool
  | [a] => a.isDigit
  | [a, b] => '0' ≤ a && a ≤ '5' && b.isDigit
  | _ => false

/-- Digits and lines with a digit in front. -/
def isSpacedNumber : List Char → Bool
  | c :: cs => c.isDigit && cs.all (isSpaced Char.isDigit)
  | [] => false

/-- The form of integers. -/
def isInt (cs : List Char) : Bool :=
  match unsigned cs with
  | '0' :: 'b' :: ds => oneOrMore (isSpaced fun c => c == '0' || c == '1') ds
  | '0' :: 'x' :: ds => oneOrMore (isSpaced isHex) ds
  | '0' :: ds => ds.all (isSpaced fun c => '0' ≤ c && c ≤ '7')
  | ds =>
    match colonPieces ds with
    | first :: sixtieths => isSpacedNumber first && sixtieths.all isSixtieth
    | [] => false

/-- An exponent with its sign, or nothing. -/
def isExponent : List Char → Bool
  | [] => true
  | e :: sign :: ds =>
    (e == 'e' || e == 'E') && (sign == '+' || sign == '-') && oneOrMore Char.isDigit ds
  | _ => false

/-- What may follow the point of a number. -/
def isFraction (cs : List Char) : Bool := isExponent (cs.dropWhile (isSpaced Char.isDigit))

/-- The form of floating-point numbers. -/
def isFloat (cs : List Char) : Bool :=
  let ds := unsigned cs
  if ds == ".inf".toList || ds == ".Inf".toList || ds == ".INF".toList then true
  else if cs == ".nan".toList || cs == ".NaN".toList || cs == ".NAN".toList then true
  else match cs with
    | '.' :: d :: rest => d.isDigit && isFraction rest
    | _ =>
      let whole := ds.takeWhile (· != '.')
      match ds.dropWhile (· != '.') with
      | [] => false
      | _ :: rest =>
        match colonPieces whole with
        | [first] => isSpacedNumber first && isFraction rest
        | first :: sixtieths =>
          isSpacedNumber first && sixtieths.all isSixtieth && rest.all (isSpaced Char.isDigit)
        | [] => false

def truthWords : List (String × Bool) :=
  [("yes", true), ("no", false), ("true", true), ("false", false), ("on", true), ("off", false)]

/-- A word in lower case, in upper case, or with a capital. -/
def isWord (word : String) (cs : List Char) : Bool :=
  let lower := word.toList
  cs == lower || cs == lower.map Char.toUpper
    || cs == (lower.take 1).map Char.toUpper ++ lower.drop 1

end Tag

/-! ### Points in time -/

/-- The parts of a point in time. -/
structure TimeParts where
  year : Nat
  month : Nat
  day : Nat
  /-- Hour, minute, second, the digits of the fraction, and the zone: hours and minutes with the
  sign of both. -/
  clock : Option (Nat × Nat × Nat × List Char × Option (Bool × Nat × Nat))
  /-- Whether month and day have two digits each. -/
  full : Bool

namespace TimeParts

def number (cs : List Char) : Nat := cs.foldl (fun n c => n * 10 + (c.toNat - 48)) 0

def oneOrTwo (cs : List Char) : Option (Nat × List Char) :=
  let ds := (cs.take 2).takeWhile Char.isDigit
  if ds.isEmpty then none else some (number ds, cs.drop ds.length)

def digits (n : Nat) (cs : List Char) : Option (Nat × List Char) :=
  let ds := cs.take n
  if ds.length = n && ds.all Char.isDigit then some (number ds, cs.drop n) else none

def mark (c : Char) (cs : List Char) : Option (List Char) :=
  match cs with
  | d :: rest => if c = d then some rest else none
  | [] => none

/-- Reads a zone up to the end. -/
def zone (cs : List Char) : Option (Option (Bool × Nat × Nat)) :=
  match cs.dropWhile fun c => c == ' ' || c == '\t' with
  | [] => if cs.isEmpty then some none else none
  | ['Z'] => some (some (false, 0, 0))
  | sign :: rest =>
    if sign = '+' ∨ sign = '-' then do
      let (hour, rest) ← oneOrTwo rest
      match rest with
      | [] => return some (sign == '-', hour, 0)
      | ':' :: rest =>
        let (minute, rest) ← digits 2 rest
        if rest.isEmpty then return some (sign == '-', hour, minute) else none
      | _ => none
    else none

/-- Reads a time of day up to the end. -/
def clock? (cs : List Char) : Option (Nat × Nat × Nat × List Char × Option (Bool × Nat × Nat)) := do
  let blank (c : Char) : Bool := c == ' ' || c == '\t'
  let rest ← match cs with
    | c :: rest =>
      if c == 'T' || c == 't' then some rest
      else if blank c then some (rest.dropWhile blank)
      else none
    | [] => none
  let (hour, rest) ← oneOrTwo rest
  let (minute, rest) ← digits 2 (← mark ':' rest)
  let (second, rest) ← digits 2 (← mark ':' rest)
  let (fraction, rest) := match rest with
    | '.' :: rest => (rest.takeWhile Char.isDigit, rest.dropWhile Char.isDigit)
    | _ => ([], rest)
  return (hour, minute, second, fraction, ← zone rest)

def read? (cs : List Char) : Option TimeParts := do
  let (year, rest) ← digits 4 cs
  let afterYear ← mark '-' rest
  let (month, rest) ← oneOrTwo afterYear
  let afterMonth ← mark '-' rest
  let (day, rest) ← oneOrTwo afterMonth
  let full := afterYear.length - rest.length = 5
  if rest.isEmpty then return ⟨year, month, day, none, full⟩
  else return ⟨year, month, day, some (← clock? rest), full⟩

/-- Whether a text without a tag is a point in time; a date alone needs all its digits. -/
def isPlain (cs : List Char) : Bool :=
  match read? cs with
  | none => false
  | some p => p.full || p.clock.isSome

/-- The length of a day, which no zone reaches. -/
def zoneFault (seconds : Int) : Text :=
  let days := seconds.fdiv 86400
  let rest := seconds.fmod 86400
  let parts := [("days=" : Text) ++ Text.ofInt days]
    ++ (if rest = 0 then [] else [("seconds=" : Text) ++ Text.ofInt rest])
  "offset must be a timedelta strictly between -timedelta(hours=24) and timedelta(hours=24), "
    ++ "not datetime.timedelta(" ++ Text.join ", " parts ++ ")."

def scalar (p : TimeParts) : Except LoadError Scalar :=
  let date := Date.ofFields p.year p.month p.day
  match p.clock with
  | none =>
    match date with
    | .ok d => .ok (.date d)
    | .error e => .error (.badScalar e.message)
  | some (hour, minute, second, fraction, zone) =>
    let offset : Option Int := zone.map fun (negative, h, m) =>
      let seconds : Int := (h * 60 + m) * 60
      if negative then -seconds else seconds
    if 86400 ≤ (offset.getD 0).natAbs then .error (.badScalar (zoneFault (offset.getD 0)))
    else
      let kept := fraction.take 6
      let micro := number (kept ++ List.replicate (6 - kept.length) '0')
      match DateTime.ofFields date hour minute second micro offset with
      | .ok t => .ok (.dateTime t)
      | .error e => .error (.badScalar e.message)

end TimeParts

/-- The tag of a plain scalar. -/
def Tag.ofPlain (cs : List Char) : Tag :=
  if Tag.truthWords.any fun w => Tag.isWord w.1 cs then .bool
  else if Tag.isFloat cs then .float
  else if Tag.isInt cs then .int
  else if cs == ['<', '<'] then .merge
  else if cs.isEmpty || cs == ['~'] || Tag.isWord "null" cs then .null
  else if TimeParts.isPlain cs then .timestamp
  else if cs == ['='] then .value
  else if cs == ['!'] || cs == ['&'] || cs == ['*'] then .unknown
  else .str

/-! ### Numbers with a tag -/

namespace Number

def isBlank (c : CodePoint) : Bool :=
  match c with
  | .scalar c => c == ' ' || ('\t' ≤ c && c ≤ '\r') || ('\x1c' ≤ c && c ≤ '\x1f') || c == '\u0085'
      || c == '\u00a0' || c == '\u1680' || ('\u2000' ≤ c && c ≤ '\u200a') || c == '\u2028'
      || c == '\u2029' || c == '\u202f' || c == '\u205f' || c == '\u3000'
  | .surrogate _ => false

def sign (t : Text) : Bool × Text :=
  match t with
  | .scalar '-' :: rest => (true, rest)
  | .scalar '+' :: rest => (false, rest)
  | _ => (false, t)

/-- The value of a digit; letters follow the decimal digits. -/
def digit? (base : Nat) (c : CodePoint) : Option Nat :=
  let n? := match c.decimal? with
    | some d => some d
    | none => match c with
      | .scalar c =>
        if 'a' ≤ c ∧ c ≤ 'z' then some (c.toNat - 87)
        else if 'A' ≤ c ∧ c ≤ 'Z' then some (c.toNat - 55)
        else none
      | .surrogate _ => none
  n?.filter (· < base)

/-- The letter behind a zero that may stand before digits of a base. -/
def baseLetter (base : Nat) : List CodePoint :=
  if base = 2 then ['b', 'B'] else if base = 8 then ['o', 'O']
  else if base = 16 then ['x', 'X'] else []

/-- The integer that a text writes in some base. -/
def integer (base : Nat) (t : Text) : Except LoadError Int :=
  let fault : Except LoadError Int := .error (.badScalar
    ("invalid literal for int() with base " ++ Text.ofNat base ++ ": " ++ t.quoted))
  let (negative, unsigned) := sign (t.trim isBlank)
  let ds := match unsigned with
    | .scalar '0' :: letter :: ds => if letter ∈ baseLetter base then ds else unsigned
    | _ => unsigned
  if ds.isEmpty then fault
  else if base = 10 && Text.maxDigits < ds.length && ds.all (fun c => (digit? 10 c).isSome) then
    .error (.badScalar ("Exceeds the limit (4300 digits) for integer string conversion: value has "
      ++ Text.ofNat ds.length
      ++ " digits; use sys.set_int_max_str_digits() to increase the limit"))
  else match ds.mapM (digit? base) with
    | none => fault
    | some ns =>
      let n : Int := (ns.foldl (fun n d => n * base + d) 0 : Nat)
      .ok (if negative then -n else n)

/-- The integer that numbers between colons write in base 60. -/
def sexagesimal (t : Text) : Except LoadError Int := do
  let ns ← (t.splitAt ':').mapM (integer 10)
  return ns.foldl (fun n d => n * 60 + d) 0

def int (t : Text) : Except LoadError Int := do
  let t := t.filter (· ≠ .scalar '_')
  if t.isEmpty then throw .emptyNumber
  let (negative, t) := sign t
  let signed (n : Int) : Int := if negative then -n else n
  match t with
  | [] => throw .emptyNumber
  | [.scalar '0'] => return 0
  | .scalar '0' :: .scalar 'b' :: ds => return signed (← integer 2 ds)
  | .scalar '0' :: .scalar 'x' :: ds => return signed (← integer 16 ds)
  | .scalar '0' :: _ => return signed (← integer 8 t)
  | _ =>
    if t.contains ':' then return signed (← sexagesimal t)
    else return signed (← integer 10 t)

def float? (t : Text) : Option Float :=
  let (negative, t) := sign (t.trim isBlank)
  let word := t.toLowerAscii
  let size : Option Float :=
    if word == ("inf" : Text) || word == ("infinity" : Text) then some (1.0 / 0.0)
    else if word == ("nan" : Text) then some (0.0 / 0.0)
    else
      let digits (t : Text) : List Nat := (t.map CodePoint.decimal?).takeWhile Option.isSome
        |>.filterMap id
      let whole := digits t
      let rest := t.drop whole.length
      let (fraction, rest) := match rest with
        | .scalar '.' :: rest => (digits rest, rest.drop (digits rest).length)
        | _ => ([], rest)
      if whole.isEmpty && fraction.isEmpty then none
      else
        let mantissa := (whole ++ fraction).foldl (fun n d => n * 10 + d) 0
        let scaled (e : Int) : Float := Decimal.toFloat false mantissa (e - fraction.length)
        -- Behind the digits there may be an exponent and nothing else.
        match rest with
        | [] => some (scaled 0)
        | .scalar c :: rest =>
          if c == 'e' || c == 'E' then
            let (below, rest) := sign rest
            let ds := digits rest
            if ds.isEmpty || ds.length != rest.length then none
            else
              let e : Int := (ds.foldl (fun n d => n * 10 + d) 0 : Nat)
              some (scaled (if below then -e else e))
          else none
        | .surrogate _ :: _ => none
  size.map fun x => if negative then -x else x

/-- The floating-point number of a text, or the fault of it. -/
def readFloat (t : Text) : Except LoadError Float :=
  match float? t with
  | some x => .ok x
  | none => .error (.badScalar ("could not convert string to float: " ++ t.quoted))

def float (t : Text) : Except LoadError Float := do
  let t := Text.toLowerAscii (t.filter (· ≠ .scalar '_'))
  if t.isEmpty then throw .emptyNumber
  let (negative, t) := sign t
  let signed (x : Float) : Float := if negative then -x else x
  if t == (".inf" : Text) then return signed (1.0 / 0.0)
  else if t == (".nan" : Text) then return 0.0 / 0.0
  else if t.contains ':' then
    let parts ← (t.splitAt ':').mapM readFloat
    let step (total base x : Float) : Float := total + x * base
    let (total, _) := parts.reverse.foldl (fun (total, base) x => (step total base x, base * 60))
      ((0.0 : Float), (1.0 : Float))
    return signed total
  else return signed (← readFloat t)

end Number

def scalarOf (tag : Tag) (t : Text) : Except LoadError Scalar :=
  match tag with
  | .null => .ok .null
  | .bool =>
    match Tag.truthWords.find? fun w => Text.ofString w.1 == t.toLowerAscii with
    | some w => .ok (.bool w.2)
    | none => .error (.unknownTruth t.toLowerAscii)
  | .int => (Number.int t).map .int
  | .float => (Number.float t).map .float
  | .binary =>
    if !t.isAscii then .error .malformed
    else match Base64.decode .standard (t.chars?.getD []) with
      | .ok bytes => .ok (.bytes bytes)
      | .error _ => .error .malformed
  | .timestamp =>
    match t.chars?.bind TimeParts.read? with
    | some p => p.scalar
    | none => .error .noTimestamp
  | .str => .ok (.text t)
  | _ => .error .malformed

end ChallengeDns.Yaml
