import ChallengeDns.Data.Value
/-!
# Writing JSON

Values as JSON in ASCII: what is no visible ASCII character or blank is escaped, characters beyond
`U+FFFF` as two surrogates.  A `Layout` says what stands between parts; the indented one puts each
part on a line of its own.  A value without a JSON form makes the writing fail, unless the layout
lets it be written as its plain text.
-/

namespace ChallengeDns.Json

/-- Why a value has no JSON form. -/
inductive WriteError where
  | value (kind : Text)
  | key (kind : Text)
deriving DecidableEq

def WriteError.message : WriteError → Text
  | .value kind => "Object of type " ++ kind ++ " is not JSON serializable"
  | .key kind => "keys must be str, int, float, bool or None, not " ++ kind

/-- How JSON is laid out. -/
structure Layout where
  /-- What follows a part that is not the last one. -/
  comma : Text
  colon : Text
  /-- The blanks by which each level is indented, if parts have their own lines. -/
  indent : Option Nat
  /-- Whether names are sorted. -/
  sorted : Bool
  /-- Whether values without a JSON form are written as their plain text. -/
  lenient : Bool

namespace Layout

/-- On one line with blanks behind commas and colons. -/
def spaced : Layout := ⟨", ", ": ", none, false, false⟩

/-- On one line without blanks. -/
def compact : Layout := ⟨",", ":", none, false, false⟩

/-- On many lines, indented by two blanks, with sorted names. -/
def indented : Layout := ⟨",", ": ", some 2, true, false⟩

/-- On one line, where any value can be written. -/
def lenientLine : Layout := ⟨", ", ": ", none, false, true⟩

/-- The line end before a part at some level. -/
def lineBreak (l : Layout) (level : Nat) : Text :=
  match l.indent with
  | none => []
  | some n => .scalar '\n' :: List.replicate (n * level) (.scalar ' ')

end Layout

/-- A code unit as an escape. -/
def unitEscape (n : Nat) : Text := "\\u" ++ Text.hex 4 n

/-- A code point inside a string. -/
def stringPoint (c : CodePoint) : Text :=
  if c = .scalar '"' then "\\\""
  else if c = .scalar '\\' then "\\\\"
  else if c = .scalar '\n' then "\\n"
  else if c = .scalar '\r' then "\\r"
  else if c = .scalar '\t' then "\\t"
  else if c = .scalar '\x0c' then "\\f"
  else if c = .scalar '\x08' then "\\b"
  else if 0x20 ≤ c.value && c.value < 0x7F then [c]
  else if c.value < 0x10000 then unitEscape c.value
  else unitEscape (0xD800 + (c.value - 0x10000) / 0x400)
    ++ unitEscape (0xDC00 + (c.value - 0x10000) % 0x400)

def stringText (t : Text) : Text := .scalar '"' :: t.flatMap stringPoint ++ [.scalar '"']

def floatText (x : Float) : Text := Decimal.text "Infinity" "NaN" x

/-- A scalar, if it has a JSON form. -/
def scalarText? : Scalar → Option Text
  | .null => some "null"
  | .bool true => some "true"
  | .bool false => some "false"
  | .int n => some (Text.ofInt n)
  | .float x => some (floatText x)
  | .text t => some (stringText t)
  | _ => none

def scalarText (l : Layout) (s : Scalar) : Except WriteError Text :=
  match scalarText? s with
  | some t => .ok t
  | none => if l.lenient then .ok (stringText s.plain) else .error (.value s.kind)

/-- A key as the name in an object. -/
def keyText (s : Scalar) : Except WriteError Text :=
  match s with
  | .text t => .ok t
  | .null => .ok "null"
  | .bool true => .ok "true"
  | .bool false => .ok "false"
  | .int n => .ok (Text.ofInt n)
  | .float x => .ok (floatText x)
  | s => .error (.key s.kind)

/-- Parts between brackets, each behind a line end of its level. -/
def bracketed (l : Layout) (level : Nat) (opening closing : Text) (parts : List Text) : Text :=
  if parts.isEmpty then opening ++ closing
  else
    opening ++ l.lineBreak (level + 1) ++ Text.join (l.comma ++ l.lineBreak (level + 1)) parts
      ++ l.lineBreak level ++ closing

/-- The parts of an object from names and written values, sorted by name if the layout says so. -/
def members (l : Layout) (parts : List (Text × Text)) : List Text :=
  let parts := if l.sorted then parts.mergeSort (fun a b => a.1.notAfter b.1) else parts
  parts.map fun (name, value) => stringText name ++ l.colon ++ value

mutual

/-- A value at some level. -/
def valueText (l : Layout) (level : Nat) : Value → Except WriteError Text
  | .scalar s => scalarText l s
  | .list vs =>
    match valueTexts l (level + 1) vs with
    | .error e => .error e
    | .ok parts => .ok (bracketed l level "[" "]" parts)
  | .pair a b =>
    match valueText l (level + 1) a, valueText l (level + 1) b with
    | .ok a, .ok b => .ok (bracketed l level "[" "]" [a, b])
    | .error e, _ => .error e
    | _, .error e => .error e
  | .set ss =>
    if l.lenient then .ok (stringText (Value.literal (.set ss))) else .error (.value "set")
  | .mapping es =>
    match memberTexts l (level + 1) es with
    | .error e => .error e
    | .ok parts => .ok (bracketed l level "\x7b" "\x7d" (members l parts))

def valueTexts (l : Layout) (level : Nat) : List Value → Except WriteError (List Text)
  | [] => .ok []
  | v :: vs =>
    match valueText l level v with
    | .error e => .error e
    | .ok t =>
      match valueTexts l level vs with
      | .error e => .error e
      | .ok ts => .ok (t :: ts)

def memberTexts (l : Layout) (level : Nat) :
    List (Scalar × Value) → Except WriteError (List (Text × Text))
  | [] => .ok []
  | (k, v) :: es =>
    match keyText k with
    | .error e => .error e
    | .ok name =>
      match valueText l level v with
      | .error e => .error e
      | .ok value =>
        match memberTexts l level es with
        | .error e => .error e
        | .ok rest => .ok ((name, value) :: rest)

end

def write (l : Layout) (v : Value) : Except WriteError Text := valueText l 0 v

end ChallengeDns.Json
