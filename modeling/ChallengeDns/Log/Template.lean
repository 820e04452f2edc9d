import ChallengeDns.Data.Value
import ChallengeDns.Decimal.Rounded
/-!
# Message templates

A template is a text with places for values.  A place starts with a percent sign; a key in
parentheses, flags, a width and a precision may follow, and then a letter for the kind of text.  Two
percent signs are one that stands for itself.  Values come from a list, one for each place, or by
their keys from a mapping.  `Template.fill` fails if a place cannot be read, if a value does not
have the kind of its place, or if values are missing or left over.
-/

namespace ChallengeDns.Template

/-- A width or a precision: a number, or the next value. -/
inductive Extent where
  | given (n : Nat)
  | next
deriving DecidableEq

/-- A place for a value. -/
structure Place where
  key : Option Text
  flags : List Char
  width : Option Extent
  precision : Option Extent
  kind : Char
deriving DecidableEq

/-- A part of a template. -/
inductive Piece where
  | plain (c : CodePoint)
  | place (p : Place)
deriving DecidableEq

/-! ### Reading templates -/

/-- The key up to the parenthesis that closes it, and what follows. -/
def takeKey : Nat → Text → Option (Text × Text)
  | _, [] => none
  | depth, c :: rest =>
    if c = .scalar ')' then
      match depth with
      | 0 => some ([], rest)
      | depth + 1 => (takeKey depth rest).map fun (key, rest) => (c :: key, rest)
    else
      (takeKey (if c = .scalar '(' then depth + 1 else depth) rest).map fun (key, rest) =>
        (c :: key, rest)

def takeKey? (t : Text) : Option (Option Text × Text) :=
  match t with
  | .scalar '(' :: rest => (takeKey 0 rest).map fun (key, rest) => (some key, rest)
  | t => some (none, t)

def isFlag (c : CodePoint) : Bool := c.char?.any "#0- +".toList.contains

def takeExtent (t : Text) : Option Extent × Text :=
  match t with
  | .scalar '*' :: rest => (some .next, rest)
  | t =>
    let digits := t.takeWhile fun c => c.digit?.isSome
    if digits.isEmpty then (none, t)
    else (some (.given (Text.natural digits)), t.drop digits.length)

/-- A precision behind its point; nothing behind the point means zero. -/
def takePrecision (t : Text) : Option Extent × Text :=
  match t with
  | .scalar '.' :: rest =>
    let (precision, rest) := takeExtent rest
    (some (precision.getD (.given 0)), rest)
  | t => (none, t)

/-- The text without a letter for the size of numbers, which says nothing. -/
def dropSize (t : Text) : Text :=
  match t with
  | .scalar c :: rest => if "hlL".toList.contains c then rest else .scalar c :: rest
  | t => t

def takePlace (t : Text) : Option (Place × Text) := do
  let (key, t) ← takeKey? t
  let flags := t.takeWhile isFlag
  let (width, t) := takeExtent (t.drop flags.length)
  let (precision, t) := takePrecision t
  match dropSize t with
  | .scalar kind :: rest =>
    return (⟨key, flags.filterMap CodePoint.char?, width, precision, kind⟩, rest)
  | _ => none

/-- The parts of a template; the first number is how much of the text belongs to the place
before. -/
def piecesFrom : Nat → Text → Option (List Piece)
  | _, [] => some []
  | skip + 1, _ :: rest => piecesFrom skip rest
  | 0, c :: rest =>
    if c = .scalar '%' then
      if rest.head? = some c then (piecesFrom 1 rest).map (.plain c :: ·)
      else match takePlace rest with
        | none => none
        | some (p, after) => (piecesFrom (rest.length - after.length) rest).map (.place p :: ·)
    else (piecesFrom 0 rest).map (.plain c :: ·)

def pieces (t : Text) : Option (List Piece) := piecesFrom 0 t

/-! ### Values in their places -/

/-- The values for a template. -/
inductive Arguments where
  | listed (values : List Value)
  /-- A mapping; `whole` is whether it can still be a value itself. -/
  | named (entries : List (Scalar × Value)) (whole : Bool)

namespace Arguments

/-- The values of a list; a mapping alone in it gives values by their keys. -/
def ofList (values : List Value) : Arguments :=
  match values with
  | [.mapping (e :: es)] => .named (e :: es) true
  | vs => .listed vs

def next? : Arguments → Option (Value × Arguments)
  | .listed (v :: vs) => some (v, .listed vs)
  | .listed [] => none
  | .named es true => some (.mapping es, .named es false)
  | .named _ false => none

/-- The value of a key, or the next one. -/
def take? (a : Arguments) (key : Option Text) : Option (Value × Arguments) :=
  match key, a with
  | none, a => a.next?
  | some key, .named es _ => (Value.lookup es (.text key)).map fun v => (v, .named es false)
  | some _, .listed _ => none

def isDone : Arguments → Bool
  | .listed vs => vs.isEmpty
  | .named _ _ => true

end Arguments

/-- A number in some base with its least number of digits. -/
def digitsIn (base : Nat) (least : Nat) (n : Nat) : Text :=
  let digits := Nat.toDigits base n
  Text.ofChars (List.replicate (least - digits.length) '0' ++ digits)

/-- The text of a value with escapes for all that is not ASCII. -/
def asciiLiteral (v : Value) : Text :=
  v.literal.flatMap fun c =>
    if c.isAscii then [c]
    else if c.value < 0x100 then "\\x" ++ Text.hex 2 c.value
    else if c.value < 0x10000 then "\\u" ++ Text.hex 4 c.value
    else "\\U" ++ Text.hex 8 c.value

/-- The whole number that a value counts as; a floating-point number loses its fraction. -/
def whole? (v : Value) : Option Int :=
  match v with
  | .scalar (.float x) =>
    match Decimal.measure x with
    | (negative, .finite b) =>
      let n : Int := b.value.floor
      some (if negative then -n else n)
    | _ => none
  | v => v.integer?

/-- The floating-point number that a value counts as. -/
def float? (v : Value) : Option Float :=
  match v with
  | .scalar (.float x) => some x
  | v => v.integer?.bind fun n =>
    let x := Float.ofInt n
    if x.isInf then none else some x

/-- The character that a value counts as. -/
def character? (v : Value) : Option Text :=
  match v with
  | .scalar (.text [c]) => some [c]
  | .scalar (.text _) => none
  | v => v.integer?.bind fun n =>
    if n < 0 then none else (CodePoint.ofNat? n.toNat).map ([·])

/-- A number before it is padded: what stands before its digits, and the digits. -/
structure NumberText where
  lead : Text
  digits : Text

/-- The sign of a number; a flag may ask for one before numbers that have none. -/
def signText (flags : List Char) (negative : Bool) : Text :=
  if negative then "-"
  else if flags.contains '+' then "+"
  else if flags.contains ' ' then " "
  else ""

def floatText (kind : Char) (flags : List Char) (precision : Option Nat) (x : Float) : NumberText :=
  let (negative, size) := Decimal.measure x
  let places := precision.getD 6
  let point := flags.contains '#'
  let digits : Text := match size with
    | .infinite => "inf"
    | .noNumber => "nan"
    | .finite b =>
      if kind = 'f' ∨ kind = 'F' then Decimal.fixedText places point b.value
      else if kind = 'e' ∨ kind = 'E' then Decimal.scientificText places point b.value
      else Decimal.generalText places point b.value
  let lead := signText flags (match size with
    | .noNumber => false
    | _ => negative)
  let capital (c : CodePoint) : CodePoint := (c.char?.map Char.toUpper).elim c .scalar
  ⟨lead, if kind.isUpper then digits.map capital else digits⟩

def wholeText (kind : Char) (flags : List Char) (precision : Option Nat) (n : Int) : NumberText :=
  let least := precision.getD 1
  let marked (mark : Text) : Text :=
    signText flags (n < 0) ++ Text.when (flags.contains '#') mark
  match kind with
  | 'x' => ⟨marked "0x", digitsIn 16 least n.natAbs⟩
  | 'X' => ⟨marked "0X",
      (digitsIn 16 least n.natAbs).map fun c => (c.char?.map Char.toUpper).elim c .scalar⟩
  | 'o' => ⟨marked "0o", digitsIn 8 least n.natAbs⟩
  | _ => ⟨signText flags (n < 0), digitsIn 10 least n.natAbs⟩

def padText (flags : List Char) (width : Nat) (t : Text) : Text :=
  if flags.contains '-' then Text.padRight width t else Text.padLeft width t

/-- A number padded with blanks, or with zeros behind its sign. -/
def padNumber (flags : List Char) (width : Nat) (n : NumberText) : Text :=
  if flags.contains '0' ∧ ¬ flags.contains '-' then
    n.lead ++ List.replicate (width - n.lead.length - n.digits.length) (.scalar '0') ++ n.digits
  else padText flags width (n.lead ++ n.digits)

/-- The text of a value in a place; a number that is too long has none in decimal. -/
def valueText (kind : Char) (flags : List Char) (width : Nat) (precision : Option Nat) (v : Value) :
    Option Text :=
  let shown (t : Text) : Option Text :=
    if v.isShown then
      some (padText flags width (match precision with
        | some n => t.take n
        | none => t))
    else none
  if kind = 's' then shown v.text
  else if kind = 'r' then shown v.literal
  else if kind = 'a' then shown (asciiLiteral v)
  else if kind = 'c' then (character? v).map (padText flags width)
  else if kind = 'd' ∨ kind = 'i' ∨ kind = 'u' then
    (whole? v).bind fun n =>
      if (Scalar.int n).isShown then some (padNumber flags width (wholeText kind flags precision n))
      else none
  -- Other bases have no limit on the number of digits.
  else if kind = 'x' ∨ kind = 'X' ∨ kind = 'o' then
    v.integer?.map fun n => padNumber flags width (wholeText kind flags precision n)
  else if "eEfFgG".toList.contains kind then
    (float? v).map fun x => padNumber flags width (floatText kind flags precision x)
  else none

/-- The number of a width or a precision; a negative width from the values aligns to the left. -/
def extent? (e : Option Extent) (a : Arguments) : Option (Option Int × Arguments) :=
  match e with
  | none => some (none, a)
  | some (.given n) => some (some n, a)
  | some .next =>
    match a.next? with
    | some (.scalar s, a) => s.integer?.map fun n => (some n, a)
    | _ => none

/-- The text in a place, and the values behind it. -/
def fillPlace (p : Place) (a : Arguments) : Option (Text × Arguments) := do
  let (width, a) ← extent? p.width a
  let (precision, a) ← extent? p.precision a
  let flags := if width.any (· < 0) then '-' :: p.flags else p.flags
  let (v, a) ← a.take? p.key
  let t ← valueText p.kind flags ((width.map Int.natAbs).getD 0) (precision.map Int.toNat) v
  return (t, a)

def fillPieces : List Piece → Arguments → Option Text
  | [], a => if a.isDone then some [] else none
  | .plain c :: rest, a => (fillPieces rest a).map (c :: ·)
  | .place p :: rest, a =>
    match fillPlace p a with
    | none => none
    | some (t, a) => (fillPieces rest a).map (t ++ ·)

/-- A template with its values; without values it is a plain text. -/
def fill (template : Text) (values : List Value) : Option Text :=
  if values.isEmpty then some template
  else (pieces template).bind fun ps => fillPieces ps (.ofList values)

end ChallengeDns.Template
