/-!
# Text

A text is a list of code points.  A code point is a Unicode scalar value or, because texts also
come out of `\uD800`-style escapes, one half of a surrogate pair that stands alone.  Only texts
without such halves can be encoded; everything else (comparison, searching, printing) treats all
code points alike.

String literals are accepted wherever a text is expected.
-/

namespace ChallengeDns

/-- A Unicode code point: a scalar value, or a surrogate that stands alone. -/
inductive CodePoint where
  | scalar (c : Char)
  | surrogate (low : Fin 2048)
deriving DecidableEq, Inhabited

/-- A text is a sequence of code points. -/
abbrev Text := List CodePoint

instance : Coe Char CodePoint := ⟨.scalar⟩

namespace CodePoint

/-- The number of a code point, below `0x110000`. -/
def value : CodePoint → Nat
  | .scalar c => c.toNat
  | .surrogate low => 0xD800 + low.val

/-- The code point with the given number, if there is one. -/
def ofNat? (n : Nat) : Option CodePoint :=
  if h : n.isValidChar then some (.scalar (Char.ofNatAux n h))
  else if h : 0xD800 ≤ n ∧ n < 0xE000 then some (.surrogate ⟨n - 0xD800, by omega⟩)
  else none

/-- The scalar value of a code point that has one. -/
def char? : CodePoint → Option Char
  | .scalar c => some c
  | .surrogate _ => none

def isAscii (c : CodePoint) : Bool := c.value < 0x80

/-- ASCII letters in lower case, everything else unchanged. -/
def toLowerAscii : CodePoint → CodePoint
  | .scalar c => .scalar c.toLower
  | c => c

/-- An ASCII decimal digit's value. -/
def digit? : CodePoint → Option Nat
  | .scalar c => if c.isDigit then some (c.toNat - 48) else none
  | .surrogate _ => none

end CodePoint

namespace Text

/-- The text with the given characters. -/
def ofChars (cs : List Char) : Text := cs.map .scalar

/-- The text of a string literal. -/
def ofString (s : String) : Text := ofChars s.toList

instance : Coe String Text := ⟨ofString⟩

/-- The characters of a text without lone surrogates. -/
def chars? (t : Text) : Option (List Char) := t.mapM CodePoint.char?

/-- The string of a text; a lone surrogate becomes the replacement character. -/
def toString (t : Text) : String :=
  String.ofList (t.map fun c => c.char?.getD '\uFFFD')

/-- The greatest number of decimal digits that a number is read from or written with. -/
def maxDigits : Nat := 4300

/-- A natural number in decimal. -/
def ofNat (n : Nat) : Text := ofChars (Nat.toDigits 10 n)

/-- The number that decimal digits write. -/
def natural (t : Text) : Nat := t.foldl (fun n c => n * 10 + c.digit?.getD 0) 0

def ofInt : Int → Text
  | .ofNat n => ofNat n
  | .negSucc n => .scalar '-' :: ofNat (n + 1)

/-- A number in lower-case hexadecimal, padded with zeros to `width`. -/
def hex (width n : Nat) : Text :=
  let digits := Nat.toDigits 16 n
  ofChars (List.replicate (width - digits.length) '0' ++ digits)

/-- A number in decimal, padded with zeros to `width`. -/
def padded (width n : Nat) : Text :=
  let digits := Nat.toDigits 10 n
  ofChars (List.replicate (width - digits.length) '0' ++ digits)

/-- The text if the condition holds, and the empty text otherwise. -/
def when (condition : Bool) (t : Text) : Text := if condition then t else []

/-- Texts put one after the other with a separator between them. -/
def join (separator : Text) : List Text → Text
  | [] => []
  | [t] => t
  | t :: ts => t ++ separator ++ join separator ts

def isAscii (t : Text) : Bool := t.all CodePoint.isAscii

def toLowerAscii (t : Text) : Text := t.map CodePoint.toLowerAscii

/-- The order of texts by the numbers of their code points. -/
def before : Text → Text → Bool
  | [], [] => false
  | [], _ :: _ => true
  | _ :: _, [] => false
  | a :: s, b :: t => a.value < b.value || (a.value == b.value && before s t)

/-- `before` or equal, the order in which names and keys are sorted. -/
def notAfter (s t : Text) : Bool := !before t s

/-- What stands before and after the first `c`. -/
def cut? (c : CodePoint) : Text → Option (Text × Text)
  | [] => none
  | d :: t =>
    if d = c then some ([], t) else (cut? c t).map fun (s, r) => (d :: s, r)

/-- The pieces between the occurrences of `c`; a text without `c` is its own single piece. -/
def splitAt (c : CodePoint) : Text → List Text
  | [] => [[]]
  | d :: t =>
    if d = c then [] :: splitAt c t
    else match splitAt c t with
      | [] => [[d]]
      | p :: ps => (d :: p) :: ps

/-- Every `c` replaced by `new`. -/
def replace (c : CodePoint) (new : Text) (t : Text) : Text :=
  t.flatMap fun d => if d = c then new else [d]

/-- The text padded with blanks on the right to `width`. -/
def padRight (width : Nat) (t : Text) : Text :=
  t ++ List.replicate (width - t.length) (.scalar ' ')

/-- The text padded with blanks on the left to `width`. -/
def padLeft (width : Nat) (t : Text) : Text :=
  List.replicate (width - t.length) (.scalar ' ') ++ t

/-- The text without the code points that satisfy `p` at both ends. -/
def trim (p : CodePoint → Bool) (t : Text) : Text :=
  ((t.dropWhile p).reverse.dropWhile p).reverse

/-- The text with line ends `CR LF` and `CR` turned into `LF`. -/
def unifyNewlines : Text → Text
  | [] => []
  | .scalar '\r' :: .scalar '\n' :: t => .scalar '\n' :: unifyNewlines t
  | .scalar '\r' :: t => .scalar '\n' :: unifyNewlines t
  | c :: t => c :: unifyNewlines t

end Text

end ChallengeDns
