import ChallengeDns.Name.Basic
import ChallengeDns.Name.Prep
import ChallengeDns.Text.Digit
/-!
# Names as text

Labels are separated by dots; a final dot makes the name absolute.  In a label a backslash takes
what follows literally, or three decimal digits of any script as the number of a code point up to
255.  `@` is the empty name.  Text with a character beyond ASCII follows the rules of
internationalised names: each label is prepared, and three more characters count as dots.

`Name.text` writes a name so that reading gives it back.
-/

namespace ChallengeDns

namespace Name

/-- What a backslash before the current position has begun. -/
inductive Escape where
  /-- No escape is open. -/
  | closed
  /-- The backslash came last. -/
  | opened
  /-- So many digits have come, with this value. -/
  | digits (count value : Nat)

def isDot (c : CodePoint) : Bool :=
  c.value == 0x2E || c.value == 0x3002 || c.value == 0xFF0E || c.value == 0xFF61

/-- Reads the labels of a text.  `label` is the label read so far, last code point first, and
`encode` gives a finished label its octets.  An empty last label stands for the root. -/
def scan (encode : Text → Except NameFault Label) :
    Text → Escape → Text → Except NameFault (List Label)
  | label, .closed, [] =>
    if label.isEmpty then .ok [[]]
    else match encode label.reverse with
      | .error f => .error f
      | .ok l => .ok [l]
  | _, _, [] => .error .badEscape
  | label, .closed, c :: rest =>
    if isDot c then
      if label.isEmpty then .error .emptyLabel
      else match encode label.reverse with
        | .error f => .error f
        | .ok l => (scan encode [] .closed rest).map (l :: ·)
    else if c = .scalar '\\' then scan encode label .opened rest
    else scan encode (c :: label) .closed rest
  | label, .opened, c :: rest =>
    -- Three decimal digits are the number of an octet; any other character stands for itself.
    match c.decimal? with
    | none => scan encode (c :: label) .closed rest
    | some d => scan encode label (.digits 1 d) rest
  | label, .digits count value, c :: rest =>
    match c.decimal? with
    | none => .error .badEscape
    | some d =>
      let value := value * 10 + d
      if count < 2 then scan encode label (.digits (count + 1) value) rest
      else if 255 < value then .error .badEscape
      else scan encode ((CodePoint.ofNat? value).toList ++ label) .closed rest

/-- A label of ASCII text stands for its octets. -/
def plainLabel (label : Text) : Except NameFault Label :=
  .ok (label.map fun c => c.value.toUInt8)

/-- A label of international text is prepared; one without octets is blamed on its length. -/
def preparedLabel (label : Text) : Except NameFault Label :=
  match Prep.labelBytes? label with
  | some l => .ok l
  | none => .error .labelTooLong

/-- The labels of a text and whether it ends with a dot. -/
def splitText (text : Text) : Except NameFault (List Label × Bool) :=
  if text.isEmpty || text = [.scalar '@'] then .ok ([], false)
  else if text.all isDot && text.length = 1 then .ok ([], true)
  else
    let encode := if text.isAscii then plainLabel else preparedLabel
    match scan encode [] .closed text with
    | .error e => .error e
    | .ok labels =>
      if labels.getLast? = some [] then .ok (labels.dropLast, true) else .ok (labels, false)

/-- Reads a name; `origin` says whether the root is implied when no dot ends the text. -/
def read (origin : Bool) (text : Text) : Except NameFault Name :=
  match splitText text with
  | .error e => .error e
  | .ok (labels, dotted) => ofLabels labels (dotted || origin)

/-- An octet as it is written in a label: special characters behind a backslash, octets that are no
visible ASCII character as three digits. -/
def octetText (b : UInt8) : Text :=
  if b = 0x22 || b = 0x28 || b = 0x29 || b = 0x2E || b = 0x3B || b = 0x5C || b = 0x40 || b = 0x24
  then [.scalar '\\', .scalar (Char.ofNat b.toNat)]
  else if 0x20 < b && b < 0x7F then [.scalar (Char.ofNat b.toNat)]
  else .scalar '\\' :: Text.padded 3 b.toNat

/-- A label as it is written. -/
def labelText (l : Label) : Text := l.flatMap octetText

/-- A name as it is written: `@` for the empty name, a dot for the root. -/
def text (n : Name) : Text :=
  if n.labels.isEmpty then (if n.absolute then "." else "@")
  else Text.join "." (n.labels.map labelText) ++ (if n.absolute then "." else "")

end Name

/-- Why no name could be made from what a client or the configuration gives. -/
inductive NameError where
  | invalidDomain (text : Text) (fault : NameFault)
  | invalidSubdomain (text : Text) (fault : NameFault)
  | cannotQualify (subdomain domain : Text) (fault : NameFault)
  | notFullyQualified (name : Text)
deriving DecidableEq

def NameError.message : NameError → Text
  | .invalidDomain text fault => "invalid domain name \"" ++ text ++ "\": " ++ fault.message
  | .invalidSubdomain text fault => "invalid subdomain \"" ++ text ++ "\": " ++ fault.message
  | .cannotQualify subdomain domain fault =>
    "cannot qualify \"" ++ subdomain ++ "\" with \"" ++ domain ++ "\": " ++ fault.message
  | .notFullyQualified name =>
    "TXT store key is not a fully qualified name: \"" ++ name ++ "\""

namespace Name

/-- Reads an absolute name; the final dot may be left out. -/
def readAbsolute (text : Text) : Except NameError Name :=
  match read true text with
  | .ok n => .ok n
  | .error f => .error (.invalidDomain text f)

/-- Reads a name that is relative unless a dot ends it. -/
def readRelative (text : Text) : Except NameError Name :=
  match read false text with
  | .ok n => .ok n
  | .error f => .error (.invalidSubdomain text f)

/-- The subdomain with the domain behind it. -/
def qualify (subdomain domain : Name) : Except NameError Name :=
  match subdomain.append domain with
  | .ok n => .ok n
  | .error f => .error (.cannotQualify subdomain.text domain.text f)

end Name

end ChallengeDns
