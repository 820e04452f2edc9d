import ChallengeDns.Data.Value
import ChallengeDns.Decimal.Nearest
/-!
# JSON tokens

The tokens of a JSON text with their positions, counted in code points.  Besides the standard's
literals there are `NaN` and the infinities.  Blanks are skipped; the list ends with the first token
that cannot be read, which then says why.
-/

namespace ChallengeDns.Json

/-- What is wrong at some position of a text. -/
inductive Fault where
  | byteOrderMark
  | expectedValue
  | expectedName
  | expectedColon
  | expectedComma
  | extraData
  | unterminatedString
  | controlCharacter
  | badEscape
  | badHexEscape
deriving DecidableEq

/-- A token. -/
inductive Token where
  | openObject
  | closeObject
  | openArray
  | closeArray
  | colon
  | comma
  | scalar (s : Scalar)
  /-- Something that looks like a string but is none; the fault lies at the given position. -/
  | faulty (fault : Fault) (position : Nat)
  /-- A whole number with more digits than are converted. -/
  | oversized (digits : Nat)
  /-- Nothing that a token starts with. -/
  | unknown

/-- Where the reading of a string stands. -/
inductive StringState where
  | plain
  | escape
  | hex (count value : Nat)

/-- The character that a backslash and one more character stand for. -/
def escaped? : CodePoint → Option CodePoint
  | .scalar '"' => some '"'
  | .scalar '\\' => some '\\'
  | .scalar '/' => some '/'
  | .scalar 'b' => some '\x08'
  | .scalar 'f' => some '\x0c'
  | .scalar 'n' => some '\n'
  | .scalar 'r' => some '\r'
  | .scalar 't' => some '\t'
  | _ => none

def hexValue? (c : CodePoint) : Option Nat := c.char?.bind Table.hexDigit?

/-- The character that two surrogates stand for together. -/
def joinSurrogates (high low : Nat) : Nat := 0x10000 + (high - 0xD800) * 0x400 + (low - 0xDC00)

/-- Adds an escaped code point to a string that is read backwards.  `high` is the number of a first
half that was escaped just before. -/
def pushEscaped (acc : Text) (high : Option Nat) (n : Nat) : Text × Option Nat :=
  match high with
  | some h =>
    if 0xDC00 ≤ n && n < 0xE000 then
      ((CodePoint.ofNat? (joinSurrogates h n)).toList ++ acc.tail, none)
    else ((CodePoint.ofNat? n).toList ++ acc, if 0xD800 ≤ n && n < 0xDC00 then some n else none)
  | none => ((CodePoint.ofNat? n).toList ++ acc, if 0xD800 ≤ n && n < 0xDC00 then some n else none)

/-- Reads what follows the opening quote at `start`; gives the token and the position behind it. -/
def string (start : Nat) : Nat → Text → Option Nat → StringState → Text → Token × Nat
  | pos, _, _, _, [] => (.faulty .unterminatedString start, pos)
  | pos, acc, high, .plain, c :: rest =>
    if c = .scalar '"' then (.scalar (.text acc.reverse), pos + 1)
    else if c = .scalar '\\' then string start (pos + 1) acc high .escape rest
    else if c.value < 0x20 then (.faulty .controlCharacter pos, pos)
    else string start (pos + 1) (c :: acc) none .plain rest
  | pos, acc, high, .escape, c :: rest =>
    if c = .scalar 'u' then
      -- The four digits must not be the last characters of the text.
      if (rest.take 5).length < 5 then (.faulty .badHexEscape pos, pos)
      else string start (pos + 1) acc high (.hex 0 0) rest
    else match escaped? c with
      | some e => string start (pos + 1) (e :: acc) none .plain rest
      | none => (.faulty .badEscape (pos - 1), pos)
  | pos, acc, high, .hex count value, c :: rest =>
    match hexValue? c with
    | none => (.faulty .badHexEscape (pos - count - 1), pos)
    | some d =>
      let value := value * 16 + d
      if count < 3 then string start (pos + 1) acc high (.hex (count + 1) value) rest
      else
        let (acc, high) := pushEscaped acc high value
        string start (pos + 1) acc high .plain rest

/-- The decimal digits at the start of a text. -/
def digits (t : Text) : Text := t.takeWhile fun c => c.digit?.isSome

/-- The digits of a whole number: a zero alone, or digits that start with another one. -/
def wholeDigits (t : Text) : Text :=
  match t with
  | .scalar '0' :: _ => ['0']
  | _ => digits t

/-- The digits behind a decimal point, if there are any. -/
def fractionDigits (t : Text) : Text :=
  match t with
  | .scalar '.' :: rest => digits rest
  | _ => []

/-- The length and the value of an exponent, if there is one. -/
def exponent (t : Text) : Nat × Int :=
  match t with
  | .scalar c :: rest =>
    if c = 'e' || c = 'E' then
      let (sign, rest) : Nat × Text := match rest with
        | .scalar '-' :: r => (2, r)
        | .scalar '+' :: r => (1, r)
        | _ => (0, rest)
      let ds := digits rest
      if ds.isEmpty then (0, 0)
      else
        let n : Int := Text.natural ds
        (1 + (if sign = 0 then 0 else 1) + ds.length, if sign = 2 then -n else n)
    else (0, 0)
  | _ => (0, 0)

/-- Reads a number; gives the token and its length. -/
def number? (t : Text) : Option (Token × Nat) :=
  let negative := t.head? = some (.scalar '-')
  let unsigned := if negative then t.drop 1 else t
  let whole := wholeDigits unsigned
  if whole.isEmpty then none
  else
    let rest := unsigned.drop whole.length
    let fraction := fractionDigits rest
    let rest := if fraction.isEmpty then rest else rest.drop (fraction.length + 1)
    let (exponentLength, e) := exponent rest
    let length := (if negative then 1 else 0) + whole.length
      + (if fraction.isEmpty then 0 else fraction.length + 1) + exponentLength
    if fraction.isEmpty && exponentLength = 0 then
      if Text.maxDigits < whole.length then some (.oversized whole.length, length)
      else
        let n : Int := Text.natural whole
        some (.scalar (.int (if negative then -n else n)), length)
    else
      let x := Decimal.toFloat negative (Text.natural (whole ++ fraction)) (e - fraction.length)
      some (.scalar (.float x), length)

/-- The literals of letters. -/
def literals : List (Text × Scalar) :=
  [("null", .null), ("true", .bool true), ("false", .bool false), ("NaN", .float (0.0 / 0.0)),
    ("Infinity", .float (1.0 / 0.0)), ("-Infinity", .float (-1.0 / 0.0))]

/-- Reads the token at the start of a text whose position is `pos`; gives its length too. -/
def tokenAt (pos : Nat) (c : CodePoint) (rest : Text) : Token × Nat :=
  match c with
  | .scalar '{' => (.openObject, 1)
  | .scalar '}' => (.closeObject, 1)
  | .scalar '[' => (.openArray, 1)
  | .scalar ']' => (.closeArray, 1)
  | .scalar ':' => (.colon, 1)
  | .scalar ',' => (.comma, 1)
  | .scalar '"' =>
    let (token, stop) := string pos (pos + 1) [] none .plain rest
    (token, stop - pos)
  | _ =>
    match literals.find? fun l => l.1.isPrefixOf (c :: rest) with
    | some (word, s) => (.scalar s, word.length)
    | none => (number? (c :: rest)).getD (.unknown, 1)

def isBlank : CodePoint → Bool
  | .scalar c => c == ' ' || c == '\t' || c == '\n' || c == '\r'
  | .surrogate _ => false

/-- Whether the tokens end with this one because nothing behind it can be read. -/
def Token.isLast : Token → Bool
  | .faulty _ _ => true
  | .oversized _ => true
  | .unknown => true
  | _ => false

/-- The tokens of a text that starts at `pos`, of which `skip` code points belong to the token read
last. -/
def tokensFrom : Nat → Nat → Text → List (Nat × Token)
  | _, _, [] => []
  | pos, skip + 1, _ :: rest => tokensFrom (pos + 1) skip rest
  | pos, 0, c :: rest =>
    if isBlank c then tokensFrom (pos + 1) 0 rest
    else
      let (token, length) := tokenAt pos c rest
      (pos, token) :: if token.isLast then [] else tokensFrom (pos + 1) (length - 1) rest

def tokens (t : Text) : List (Nat × Token) := tokensFrom 0 0 t

end ChallengeDns.Json
