import ChallengeDns.Json.Token
/-!
# Reading JSON

A machine reads the tokens of a text one by one.  Its frames are the arrays and objects that are
open; what it awaits next decides which token is in order and which complaint is due otherwise.  Of
two entries with one key the later value counts.  Arrays and objects are nested to a limited depth.
-/

namespace ChallengeDns.Json

/-- Why a text is no JSON. -/
inductive ReadError where
  /-- A fault at a line, a column and a position; lines and columns are counted from one. -/
  | syntaxFault (fault : Fault) (line column position : Nat)
  | oversizedNumber (digits : Nat)
  | nestedArray
  | nestedObject
deriving DecidableEq

def Fault.message : Fault → Text
  | .byteOrderMark => "Unexpected UTF-8 BOM (decode using utf-8-sig)"
  | .expectedValue => "Expecting value"
  | .expectedName => "Expecting property name enclosed in double quotes"
  | .expectedColon => "Expecting ':' delimiter"
  | .expectedComma => "Expecting ',' delimiter"
  | .extraData => "Extra data"
  | .unterminatedString => "Unterminated string starting at"
  | .controlCharacter => "Invalid control character at"
  | .badEscape => "Invalid \\escape"
  | .badHexEscape => "Invalid \\uXXXX escape"

def ReadError.message : ReadError → Text
  | .syntaxFault fault line column position =>
    fault.message ++ ": line " ++ Text.ofNat line ++ " column " ++ Text.ofNat column ++ " (char "
      ++ Text.ofNat position ++ ")"
  | .oversizedNumber n =>
    "Exceeds the limit (" ++ Text.ofNat Text.maxDigits
      ++ " digits) for integer string conversion: value has " ++ Text.ofNat n
      ++ " digits; use sys.set_int_max_str_digits() to increase the limit"
  | .nestedArray =>
    "maximum recursion depth exceeded while decoding a JSON array from a unicode string"
  | .nestedObject =>
    "maximum recursion depth exceeded while decoding a JSON object from a unicode string"

/-- An array or an object that is open; parts are kept with the last one first. -/
inductive Frame where
  | array (items : List Value)
  /-- An object; `key` is the name whose value is awaited. -/
  | object (entries : List (Scalar × Value)) (key : Text)

/-- What the machine awaits. -/
inductive Awaited where
  | value
  /-- A value or the end of an array that has just been opened. -/
  | firstItem
  /-- A name or the end of an object that has just been opened. -/
  | firstName
  | name
  | colon
  /-- A comma, or the end of the innermost frame. -/
  | comma
  /-- The end of the text; the value is complete. -/
  | nothing (value : Value)

/-- The state of the machine, the innermost frame first. -/
structure Machine where
  frames : List Frame
  awaited : Awaited

/-- A complaint before its line and column are known. -/
inductive Complaint where
  | fault (f : Fault) (position : Nat)
  | oversized (digits : Nat)
  | nestedArray
  | nestedObject

/-- How deeply arrays and objects may be nested. -/
def maxDepth : Nat := Value.maxDepth

namespace Machine

def start : Machine := ⟨[], .value⟩

/-- A value is complete: it belongs to the innermost frame, if one is open. -/
def complete (frames : List Frame) (v : Value) : Machine :=
  match frames with
  | [] => ⟨[], .nothing v⟩
  | .array items :: frames => ⟨.array (v :: items) :: frames, .comma⟩
  | .object entries key :: frames => ⟨.object ((.text key, v) :: entries) key :: frames, .comma⟩

/-- The value of a frame that is closed. -/
def closed : Frame → Value
  | .array items => .list items.reverse
  | .object entries _ => .mapping (Value.entriesOf entries.reverse)

/-- The token where a value must stand. -/
def value (frames : List Frame) (pos : Nat) : Token → Except Complaint Machine
  | .scalar s => .ok (complete frames (.scalar s))
  | .openArray =>
    if maxDepth ≤ frames.length then .error .nestedArray
    else .ok ⟨.array [] :: frames, .firstItem⟩
  | .openObject =>
    if maxDepth ≤ frames.length then .error .nestedObject
    else .ok ⟨.object [] [] :: frames, .firstName⟩
  | .faulty f position => .error (.fault f position)
  | .oversized n => .error (.oversized n)
  | _ => .error (.fault .expectedValue pos)

/-- The token where a name must stand. -/
def name (frames : List Frame) (pos : Nat) : Token → Except Complaint Machine
  | .scalar (.text key) =>
    match frames with
    | .object entries _ :: frames => .ok ⟨.object entries key :: frames, .colon⟩
    | _ => .error (.fault .expectedName pos)
  | .faulty f position => .error (.fault f position)
  | _ => .error (.fault .expectedName pos)

/-- One token more. -/
def step (m : Machine) (pos : Nat) (token : Token) : Except Complaint Machine :=
  match m.awaited with
  | .value => value m.frames pos token
  -- An array may end here, but not behind a comma.
  | .firstItem =>
    match token, m.frames with
    | .closeArray, frame :: frames => .ok (complete frames (closed frame))
    | _, _ => value m.frames pos token
  | .firstName =>
    match token, m.frames with
    | .closeObject, frame :: frames => .ok (complete frames (closed frame))
    | _, _ => name m.frames pos token
  | .name => name m.frames pos token
  | .colon =>
    match token with
    | .colon => .ok ⟨m.frames, .value⟩
    | _ => .error (.fault .expectedColon pos)
  | .comma =>
    match token, m.frames with
    | .comma, .array _ :: _ => .ok ⟨m.frames, .value⟩
    | .comma, .object _ _ :: _ => .ok ⟨m.frames, .name⟩
    | .closeArray, .array items :: frames => .ok (complete frames (closed (.array items)))
    | .closeObject, .object entries key :: frames =>
      .ok (complete frames (closed (.object entries key)))
    | _, _ => .error (.fault .expectedComma pos)
  | .nothing _ => .error (.fault .extraData pos)

/-- What the end of the text at `pos` means. -/
def finish (m : Machine) (pos : Nat) : Except Complaint Value :=
  match m.awaited with
  | .nothing v => .ok v
  | .value => .error (.fault .expectedValue pos)
  | .firstItem => .error (.fault .expectedValue pos)
  | .firstName => .error (.fault .expectedName pos)
  | .name => .error (.fault .expectedName pos)
  | .colon => .error (.fault .expectedColon pos)
  | .comma => .error (.fault .expectedComma pos)

/-- Reads tokens up to the end of the text at `stop`. -/
def run (stop : Nat) : Machine → List (Nat × Token) → Except Complaint Value
  | m, [] => m.finish stop
  | m, (pos, token) :: tokens =>
    match m.step pos token with
    | .error c => .error c
    | .ok m => run stop m tokens

end Machine

def locate : Nat → Nat → Nat → Text → Nat × Nat
  | line, column, 0, _ => (line, column)
  | line, column, _, [] => (line, column)
  | line, column, n + 1, c :: rest =>
    if c = .scalar '\n' then locate (line + 1) 1 n rest else locate line (column + 1) n rest

/-- A complaint about a text with its line and column. -/
def located (t : Text) : Complaint → ReadError
  | .fault f position =>
    let (line, column) := locate 1 1 position t
    .syntaxFault f line column position
  | .oversized n => .oversizedNumber n
  | .nestedArray => .nestedArray
  | .nestedObject => .nestedObject

/-- Reads a JSON text that may start with a byte order mark as any other character. -/
def readAny (t : Text) : Except ReadError Value :=
  match Machine.start.run t.length (tokens t) with
  | .ok v => .ok v
  | .error c => .error (located t c)

def read (t : Text) : Except ReadError Value :=
  if t.head? = some (.scalar '\uFEFF') then .error (located t (.fault .byteOrderMark 0))
  else readAny t

end ChallengeDns.Json
