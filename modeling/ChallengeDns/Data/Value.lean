import ChallengeDns.Calendar.Basic
import ChallengeDns.Decimal.Shortest
import ChallengeDns.Text.Quoted
/-!
# Data values

The values that configuration files, state files and requests hold.  Mappings keep their entries in
the order in which they were written; a key that comes again keeps its place and takes the last
value.  Numbers and truth values are the same key when they are equal as numbers.

`Value.literal` shows a value in a message, `Value.text` is its plain text (a text stands for
itself) and `Value.kind` names its type.  A value with a very long number in it cannot be shown.
-/

namespace ChallengeDns

/-- A value without parts; these can be keys. -/
inductive Scalar where
  | null
  | bool (b : Bool)
  | int (n : Int)
  | float (x : Float)
  | text (t : Text)
  | bytes (b : Bytes)
  | date (d : Date)
  | dateTime (t : DateTime)
deriving Inhabited

/-- A data value. -/
inductive Value where
  | scalar (s : Scalar)
  | list (items : List Value)
  | pair (first second : Value)
  | set (items : List Scalar)
  | mapping (entries : List (Scalar × Value))
deriving Inhabited

namespace Scalar

/-- A number as an integer, if it has that value. -/
def integer? : Scalar → Option Int
  | .bool b => some (if b then 1 else 0)
  | .int n => some n
  | _ => none

/-- Whether a floating-point number equals an integer. -/
def floatIs (x : Float) (n : Int) : Bool :=
  match Decimal.measure x with
  | (negative, .finite b) =>
    let size := b.value
    let whole : Int := size.floor
    size.num % size.den = 0 && (if negative then -whole else whole) == n
  | _ => false

/-- Whether two scalars are the same key. -/
def sameKey : Scalar → Scalar → Bool
  | .null, .null => true
  | .text s, .text t => s == t
  | .bytes s, .bytes t => s == t
  | .date s, .date t => s == t
  | .dateTime s, .dateTime t => s == t
  -- Numbers are one key if they are equal, whatever their kind.
  | .float x, .float y => x == y
  | .float x, s => match s.integer? with
    | some n => floatIs x n
    | none => false
  | s, .float y => match s.integer? with
    | some n => floatIs y n
    | none => false
  | s, t => match s.integer?, t.integer? with
    | some m, some n => m == n
    | _, _ => false

/-- The offset of a date and time as its literal shows it. -/
def offsetLiteral (offset : Int) : Text :=
  if offset = 0 then "datetime.timezone.utc"
  else
    let part (name : Text) (n : Int) : List Text :=
      if n = 0 then [] else [name ++ "=" ++ Text.ofInt n]
    let seconds := offset.fdiv 1000000
    let parts := part "days" (seconds.fdiv 86400) ++ part "seconds" (seconds.fmod 86400)
      ++ part "microseconds" (offset.fmod 1000000)
    "datetime.timezone(datetime.timedelta(" ++ Text.join ", " parts ++ "))"

/-- The fields of a time that its literal shows: seconds and microseconds only up to the last one
that is not zero. -/
def timeFields (t : DateTime) : List Nat :=
  [t.date.year, t.date.month, t.date.day, t.hour, t.minute]
    ++ (if t.microsecond ≠ 0 then [t.second, t.microsecond]
      else if t.second ≠ 0 then [t.second] else [])

def literal : Scalar → Text
  | .null => "None"
  | .bool true => "True"
  | .bool false => "False"
  | .int n => Text.ofInt n
  | .float x => Decimal.text "inf" "nan" x
  | .text t => t.quoted
  | .bytes b => Text.quotedBytes b
  | .date d =>
    "datetime.date(" ++ Text.join ", " ([d.year, d.month, d.day].map Text.ofNat) ++ ")"
  | .dateTime t =>
    "datetime.datetime(" ++ Text.join ", " ((timeFields t).map Text.ofNat)
      ++ (match t.offset with
        | none => ")"
        | some o => ", tzinfo=" ++ offsetLiteral o ++ ")" : Text)

/-- Whether a scalar can be shown: it is no number that is too long. -/
def isShown : Scalar → Bool
  | .int n => (Nat.toDigits 10 n.natAbs).length ≤ Text.maxDigits
  | _ => true

/-- What is said where a number that is too long would have to be shown. -/
def oversized : Text :=
  "Exceeds the limit (" ++ Text.ofNat Text.maxDigits
    ++ " digits) for integer string conversion; use sys.set_int_max_str_digits() to increase the limit"

/-- The plain text of a scalar. -/
def plain : Scalar → Text
  | .text t => t
  | .date d => d.text
  | .dateTime t => t.text " "
  | s => s.literal

/-- Whether a scalar counts as true: it is no null, no zero and not empty. -/
def holds : Scalar → Bool
  | .null => false
  | .bool b => b
  | .int n => n != 0
  | .float x => x != 0.0
  | .text t => !t.isEmpty
  | .bytes b => !b.isEmpty
  | .date _ => true
  | .dateTime _ => true

def kind : Scalar → Text
  | .null => "NoneType"
  | .bool _ => "bool"
  | .int _ => "int"
  | .float _ => "float"
  | .text _ => "str"
  | .bytes _ => "bytes"
  | .date _ => "date"
  | .dateTime _ => "datetime"

end Scalar

namespace Value

abbrev ofText (t : Text) : Value := .scalar (.text t)

abbrev ofInt (n : Int) : Value := .scalar (.int n)

abbrev null : Value := .scalar .null

def text? : Value → Option Text
  | .scalar (.text t) => some t
  | _ => none

/-- The number of an integer or a truth value. -/
def integer? : Value → Option Int
  | .scalar s => s.integer?
  | _ => none

def items? : Value → Option (List Value)
  | .list vs => some vs
  | _ => none

def entries? : Value → Option (List (Scalar × Value))
  | .mapping es => some es
  | _ => none

/-- Whether a value counts as true: it is no null, no zero and not empty. -/
def holds : Value → Bool
  | .scalar s => s.holds
  | .list vs => !vs.isEmpty
  | .pair _ _ => true
  | .set ss => !ss.isEmpty
  | .mapping es => !es.isEmpty

def kind : Value → Text
  | .scalar s => s.kind
  | .list _ => "list"
  | .pair _ _ => "tuple"
  | .set _ => "set"
  | .mapping _ => "dict"

mutual

def literal : Value → Text
  | .scalar s => s.literal
  | .list vs => "[" ++ Text.join ", " (literals vs) ++ "]"
  | .pair a b => "(" ++ literal a ++ ", " ++ literal b ++ ")"
  | .set [] => "set()"
  | .set ss => "\x7b" ++ Text.join ", " (ss.map Scalar.literal) ++ "\x7d"
  | .mapping es => "\x7b" ++ Text.join ", " (entryLiterals es) ++ "\x7d"

def literals : List Value → List Text
  | [] => []
  | v :: vs => literal v :: literals vs

def entryLiterals : List (Scalar × Value) → List Text
  | [] => []
  | (k, v) :: es => (k.literal ++ ": " ++ literal v) :: entryLiterals es

end

mutual

/-- Whether a value can be shown: it holds no number that is too long. -/
def isShown : Value → Bool
  | .scalar s => s.isShown
  | .list vs => areShown vs
  | .pair a b => isShown a && isShown b
  | .set ss => ss.all Scalar.isShown
  | .mapping es => entriesShown es

def areShown : List Value → Bool
  | [] => true
  | v :: vs => isShown v && areShown vs

def entriesShown : List (Scalar × Value) → Bool
  | [] => true
  | (k, v) :: es => k.isShown && isShown v && entriesShown es

end

mutual

/-- How many lists and mappings stand in each other. -/
def depth : Value → Nat
  | .list vs => itemsDepth vs + 1
  | .mapping es => entriesDepth es + 1
  | _ => 0

def itemsDepth : List Value → Nat
  | [] => 0
  | v :: vs => max (depth v) (itemsDepth vs)

def entriesDepth : List (Scalar × Value) → Nat
  | [] => 0
  | (_, v) :: es => max (depth v) (entriesDepth es)

end

/-- How many lists and mappings may stand in each other before the interpreter gives up: it allows
1000 calls in each other, every list or mapping takes one, and up to thirty are in use where values
are read, gone through or written. -/
def maxDepth : Nat := 970

/-- The plain text of a value. -/
def text : Value → Text
  | .scalar s => s.plain
  | v => v.literal

/-- The value of a key. -/
def lookup (entries : List (Scalar × Value)) (key : Scalar) : Option Value :=
  (entries.find? fun e => e.1.sameKey key).map (·.2)

def get? (v : Value) (key : Text) : Option Value :=
  match v with
  | .mapping es => lookup es (.text key)
  | _ => none

/-- Gives a key a new value; a key that is there keeps its place and its form. -/
def insertEntry (key : Scalar) (value : Value) :
    List (Scalar × Value) → List (Scalar × Value)
  | [] => [(key, value)]
  | e :: es => if e.1.sameKey key then (e.1, value) :: es else e :: insertEntry key value es

/-- The entries of a mapping that is written entry by entry. -/
def entriesOf (written : List (Scalar × Value)) : List (Scalar × Value) :=
  written.foldl (fun es e => insertEntry e.1 e.2 es) []

end Value

end ChallengeDns
