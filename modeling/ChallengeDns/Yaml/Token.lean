import ChallengeDns.Text.Table
import ChallengeDns.Text.Utf8
/-!
# YAML tokens

The token stream of a YAML 1.1 text.  Block structure is told from indentation: deeper columns open
collections, and the way back closes them.  A scalar, an alias or a flow collection is a simple key
when a colon follows on its line; the `key` token is then put in front of it.
-/

namespace ChallengeDns.Yaml

/-- Why a text gives no value. -/
inductive LoadError where
  /-- The text breaks the rules of the format, or its nodes those of their tags. -/
  | malformed
  /-- A numeric escape beyond the last code point. -/
  | escapeBeyondUnicode
  /-- A numeric escape that does not even fit a machine word. -/
  | escapeTooLarge
  /-- A scalar whose text does not have the form that its tag needs. -/
  | badScalar (message : Text)
  /-- An empty scalar where a number is needed. -/
  | emptyNumber
  /-- A scalar that is no truth value. -/
  | unknownTruth (text : Text)
  /-- A scalar that is no point in time. -/
  | noTimestamp
deriving DecidableEq

inductive Directive where
  | version (major minor : Nat)
  | tagHandle (handle leader : Text)
  | other
deriving DecidableEq

inductive Token where
  | streamEnd
  | directive (d : Directive)
  | documentStart
  | documentEnd
  | blockSequenceStart
  | blockMappingStart
  | blockEnd
  | flowSequenceStart
  | flowSequenceEnd
  | flowMappingStart
  | flowMappingEnd
  | key
  | value
  | blockEntry
  | flowEntry
  | alias (name : Text)
  | anchor (name : Text)
  | tag (handle : Option Text) (suffix : Text)
  | scalar (value : Text) (plain : Bool)
deriving DecidableEq

/-- A place where a simple key may have started. -/
structure SimpleKey where
  /-- The number of tokens before it. -/
  number : Nat
  /-- Whether the block structure breaks if it turns out to be no key. -/
  required : Bool
  index : Nat
  line : Nat
  column : Nat

structure Scanner where
  rest : List Char
  index : Nat
  line : Nat
  column : Nat
  flowLevel : Nat
  /-- The column of the innermost block collection, -1 outside of all. -/
  indent : Int
  /-- The columns of the block collections around it. -/
  indents : List Int
  /-- Whether a simple key may start here. -/
  allowKey : Bool
  /-- The possible simple key of each flow level. -/
  keys : List (Nat × SimpleKey)
  /-- The tokens so far, the last one first. -/
  tokens : List Token
  count : Nat

/-- Scanning reads and changes the state and may fail. -/
abbrev Scan := StateT Scanner (Except LoadError)

namespace Scan

/-- The characters that end a line. -/
def isBreak (c : Char) : Bool :=
  c == '\r' || c == '\n' || c == '\u0085' || c == '\u2028' || c == '\u2029'

/-- The end of the text or of a line. -/
def endsLine (c : Char) : Bool := c == '\x00' || isBreak c

/-- The end of a line, or a blank. -/
def endsWord (c : Char) : Bool := endsLine c || c == ' '

/-- The end of a line, a blank or a tab. -/
def isSpace (c : Char) : Bool := endsWord c || c == '\t'

def fail {α : Type} : Scan α := throw .malformed

def require (condition : Bool) : Scan Unit := if condition then pure () else fail

/-- The character `k` places ahead; behind the end there are zeros. -/
def peek (k : Nat) : Scan Char := do
  return (← get).rest[k]?.getD '\x00'

def ahead (k : Nat) : Scan (List Char) := do
  return (← get).rest.take k

def passOne (s : Scanner) : Scanner :=
  match s.rest with
  | [] => s
  | c :: rest =>
    let s := { s with rest := rest, index := s.index + 1 }
    if c == '\n' || c == '\u0085' || c == '\u2028' || c == '\u2029'
        || (c == '\r' && rest.head? != some '\n') then
      { s with line := s.line + 1, column := 0 }
    else if c != '\uFEFF' then { s with column := s.column + 1 }
    else s

def skip (k : Nat) : Scan Unit := modify fun s => k.repeat passOne s

/-- Passes the characters that satisfy `p` and gives them. -/
def skipWhile (p : Char → Bool) : Scan (List Char) := do
  let cs := (← get).rest.takeWhile p
  skip cs.length
  return cs

/-- Passes a line end; gives the character it stands for, or nothing where there is none. -/
def lineBreak : Scan Text := do
  let c ← peek 0
  if c == '\r' || c == '\n' || c == '\u0085' then
    if (← ahead 2) == ['\r', '\n'] then skip 2 else skip 1
    return "\n"
  else if c == '\u2028' || c == '\u2029' then
    skip 1
    return [.scalar c]
  else return []

/-- Whether a document marker of three characters `c` stands here. -/
def atMarker (c : Char) : Scan Bool := do
  return (← ahead 3) == [c, c, c] && isSpace (← peek 3)

/-- Whether some document marker stands here. -/
def atSeparator : Scan Bool := do
  return (← atMarker '-') || (← atMarker '.')

def push (t : Token) : Scan Unit :=
  modify fun s => { s with tokens := t :: s.tokens, count := s.count + 1 }

/-- Puts a token where `number` tokens come before it. -/
def insert (number : Nat) (t : Token) : Scan Unit :=
  modify fun s =>
    let k := s.count - number
    { s with tokens := s.tokens.take k ++ t :: s.tokens.drop k, count := s.count + 1 }

/-! ### Simple keys and indentation -/

/-- Gives up the possible key of the current flow level. -/
def dropKey : Scan Unit := do
  let s ← get
  match s.keys.find? (·.1 == s.flowLevel) with
  | none => pure ()
  | some (_, key) =>
    require !key.required
    set { s with keys := s.keys.filter (·.1 != s.flowLevel) }

/-- Notes that a simple key may start here. -/
def saveKey : Scan Unit := do
  let s ← get
  if s.allowKey then
    dropKey
    let required := s.flowLevel == 0 && s.indent == s.column
    let key : SimpleKey := ⟨s.count, required, s.index, s.line, s.column⟩
    modify fun s => { s with keys := (s.flowLevel, key) :: s.keys }

/-- Gives up the keys that have got no colon on their line or within 1024 characters. -/
def dropStaleKeys : Scan Unit := do
  let s ← get
  let stale (k : SimpleKey) : Bool := k.line != s.line || 1024 < s.index - k.index
  require !(s.keys.any fun e => stale e.2 && e.2.required)
  set { s with keys := s.keys.filter fun e => !stale e.2 }

/-- Closes the block collections that are deeper than `column`. -/
def unwindFrom (column : Int) : List Int → Scan Unit
  | [] => pure ()
  | outer :: rest => do
    if column < (← get).indent then
      modify fun s => { s with indent := outer, indents := rest }
      push .blockEnd
      unwindFrom column rest

/-- Closes the block collections that are deeper than `column`, outside of flow collections. -/
def unwind (column : Int) : Scan Unit := do
  let s ← get
  if s.flowLevel == 0 then unwindFrom column s.indents

/-- Opens a block collection at `column` if it is deeper than the innermost one. -/
def openBlock (column : Nat) : Scan Bool := do
  let s ← get
  if s.indent < column then
    set { s with indents := s.indent :: s.indents, indent := (column : Int) }
    return true
  else return false

/-- Sets whether a simple key may start next. -/
def allow (b : Bool) : Scan Unit := modify fun s => { s with allowKey := b }

/-! ### Blanks, directives, anchors and tags -/

def comment : Scan Unit := do
  if (← peek 0) == '#' then discard <| skipWhile (!endsLine ·)

/-- Passes blanks, comments and line ends up to the next token. -/
def toNextToken : Nat → Scan Unit
  | 0 => fail
  | fuel + 1 => do
    discard <| skipWhile (· == ' ')
    comment
    if (← lineBreak).isEmpty then pure ()
    else
      if (← get).flowLevel == 0 then allow true
      toNextToken fuel

def isWordChar (c : Char) : Bool := c.isAlphanum || c == '-' || c == '_'

/-- Passes the rest of a line that may hold blanks and a comment only. -/
def blankLine : Scan Unit := do
  discard <| skipWhile (· == ' ')
  comment
  require (endsLine (← peek 0))
  discard lineBreak

def versionNumber : Scan Nat := do
  let ds ← skipWhile Char.isDigit
  require !ds.isEmpty
  return ds.foldl (fun n c => n * 10 + (c.toNat - 48)) 0

def tagHandle : Scan Text := do
  require ((← peek 0) == '!')
  let word := ((← get).rest.drop 1).takeWhile isWordChar
  if (← peek 1) == ' ' then
    skip 1
    return "!"
  else
    require ((← peek (word.length + 1)) == '!')
    skip (word.length + 2)
    return .scalar '!' :: Text.ofChars word ++ [.scalar '!']

/-- Octets written as percent signs with two hexadecimal digits each. -/
def uriOctets : Nat → Scan Bytes
  | 0 => return []
  | fuel + 1 => do
    if (← peek 0) == '%' then
      match Table.hexDigit? (← peek 1), Table.hexDigit? (← peek 2) with
      | some a, some b =>
        skip 3
        return (a * 16 + b).toUInt8 :: (← uriOctets fuel)
      | _, _ => fail
    else return []

/-- The characters of a tag beside the percent sign. -/
def isUriChar (c : Char) : Bool :=
  isWordChar c || ";/?:@&=+$,.!~*'()[]".toList.contains c

/-- The pieces of a tag. -/
def uriPieces : Nat → Scan Text
  | 0 => return []
  | fuel + 1 => do
    let plain ← skipWhile isUriChar
    if (← peek 0) == '%' then
      let octets ← uriOctets (← get).rest.length
      match Text.decode octets with
      | .error _ => fail
      | .ok t => return Text.ofChars plain ++ t ++ (← uriPieces fuel)
    else return Text.ofChars plain

def uri : Scan Text := do
  require (isUriChar (← peek 0) || (← peek 0) == '%')
  uriPieces (← get).rest.length

def directive : Scan Directive := do
  skip 1
  let name ← skipWhile isWordChar
  require !name.isEmpty
  require (endsWord (← peek 0))
  let d ← if name == "YAML".toList then do
      discard <| skipWhile (· == ' ')
      let major ← versionNumber
      require ((← peek 0) == '.')
      skip 1
      let minor ← versionNumber
      require (endsWord (← peek 0))
      pure (.version major minor)
    else if name == "TAG".toList then do
      discard <| skipWhile (· == ' ')
      let handle ← tagHandle
      require ((← peek 0) == ' ')
      discard <| skipWhile (· == ' ')
      let leader ← uri
      require (endsWord (← peek 0))
      pure (.tagHandle handle leader)
    else do
      -- Unknown directives are passed over.
      discard <| skipWhile (!endsLine ·)
      pure .other
  blankLine
  return d

def anchorName : Scan Text := do
  skip 1
  let name ← skipWhile isWordChar
  require !name.isEmpty
  let c ← peek 0
  require (isSpace c || "?:,]\x7d%@\x60".toList.contains c)
  return Text.ofChars name

def tag : Scan Token := do
  let c ← peek 1
  let t ← if c == '<' then do
      skip 2
      let suffix ← uri
      require ((← peek 0) == '>')
      skip 1
      pure (.tag none suffix)
    else if isSpace c then do
      skip 1
      pure (.tag none "!")
    else do
      let word := ((← get).rest.drop 1).takeWhile fun c => !endsWord c
      -- A second exclamation mark ends a handle with a name.
      if word.contains '!' then
        let handle ← tagHandle
        pure (.tag (some handle) (← uri))
      else
        skip 1
        pure (.tag (some "!") (← uri))
  require (endsWord (← peek 0))
  return t

/-! ### Scalars -/

/-- Line ends between the lines of a block scalar, with the indentation that follows them. -/
def blockBreaks (indent : Nat) : Nat → Scan Text
  | 0 => return []
  | fuel + 1 => do
    let column := (← get).column
    let blanks := (← get).rest.takeWhile (· == ' ')
    skip (min blanks.length (indent - column))
    if isBreak (← peek 0) then
      let b ← lineBreak
      return b ++ (← blockBreaks indent fuel)
    else return []

/-- The blank lines at the start of a block scalar, and the deepest column among its first
blanks. -/
def blockIndentation (deepest : Nat) : Nat → Scan (Text × Nat)
  | 0 => return ([], deepest)
  | fuel + 1 => do
    let c ← peek 0
    if c == ' ' then
      skip 1
      blockIndentation (max deepest (← get).column) fuel
    else if isBreak c then
      let b ← lineBreak
      let (bs, deepest) ← blockIndentation deepest fuel
      return (b ++ bs, deepest)
    else return ([], deepest)

/-- What happens to the line ends at the end of a block scalar. -/
inductive Chomping where
  | clip
  | strip
  | keep
deriving DecidableEq

/-- The sign in a block scalar's header. -/
def chomping? (c : Char) : Option Chomping :=
  if c == '+' then some .keep else if c == '-' then some .strip else none

/-- The indentation digit in a block scalar's header. -/
def increment : Scan (Option Nat) := do
  let c ← peek 0
  if c.isDigit then
    require (c != '0')
    skip 1
    return some (c.toNat - 48)
  else return none

def blockHeader : Scan (Chomping × Option Nat) := do
  let header ← match chomping? (← peek 0) with
    | some chomping => do
      skip 1
      pure (chomping, ← increment)
    | none => do
      match ← increment with
      | none => pure (.clip, none)
      | some n =>
        match chomping? (← peek 0) with
        | some chomping => do
          skip 1
          pure (chomping, some n)
        | none => pure (.clip, some n)
  require (endsWord (← peek 0))
  return header

/-- The lines of a block scalar: the text, its last line end, and the blank lines behind it. -/
def blockLines (folded : Bool) (indent : Nat) :
    Nat → Text → Text → Text → Scan (Text × Text × Text)
  | 0, text, lastBreak, breaks => return (text, lastBreak, breaks)
  | fuel + 1, text, lastBreak, breaks => do
    if (← get).column == indent && (← peek 0) != '\x00' then
      let leading ← peek 0
      let line ← skipWhile (!endsLine ·)
      let text := text ++ breaks ++ Text.ofChars line
      let lastBreak ← lineBreak
      let breaks ← blockBreaks indent (← get).rest.length.succ
      let next ← peek 0
      if (← get).column == indent && next != '\x00' then
        -- A line end is folded unless one of the two lines begins with a blank.
        let blankLed (c : Char) : Bool := c == ' ' || c == '\t'
        let text :=
          if folded && lastBreak == "\n" && !blankLed leading && !blankLed next then
            text ++ Text.when breaks.isEmpty " "
          else text ++ lastBreak
        blockLines folded indent fuel text lastBreak breaks
      else return (text, lastBreak, breaks)
    else return (text, lastBreak, breaks)

/-- A block scalar, literal or folded. -/
def blockScalar (folded : Bool) : Scan Text := do
  skip 1
  let (chomping, increment) ← blockHeader
  blankLine
  let least := ((← get).indent + 1).toNat.max 1
  let fuel := (← get).rest.length.succ
  -- Without a digit in the header the first line with content sets the indentation.
  let (breaks, indent) ← match increment with
    | none => do
      let (breaks, deepest) ← blockIndentation 0 fuel
      pure (breaks, max least deepest)
    | some n => do
      let indent := least + n - 1
      pure (← blockBreaks indent fuel, indent)
  let (text, lastBreak, breaks) ← blockLines folded indent fuel [] [] breaks
  return match chomping with
    | .clip => text ++ lastBreak
    | .strip => text
    | .keep => text ++ lastBreak ++ breaks

/-- The line ends between the lines of a quoted scalar. -/
def quotedBreaks : Nat → Scan Text
  | 0 => return []
  | fuel + 1 => do
    require !(← atSeparator)
    discard <| skipWhile fun c => c == ' ' || c == '\t'
    if isBreak (← peek 0) then
      let b ← lineBreak
      return b ++ (← quotedBreaks fuel)
    else return []

/-- Blanks inside a quoted scalar: on one line they stay, across lines they are folded. -/
def quotedSpaces : Scan Text := do
  let blanks ← skipWhile fun c => c == ' ' || c == '\t'
  let c ← peek 0
  require (c != '\x00')
  if isBreak c then
    let first ← lineBreak
    let breaks ← quotedBreaks (← get).rest.length.succ
    if first != "\n" then return first ++ breaks
    else if breaks.isEmpty then return " "
    else return breaks
  else return Text.ofChars blanks

/-- The character of a one-letter escape. -/
def escape? : Char → Option Char
  | '0' => some '\x00'
  | 'a' => some '\x07'
  | 'b' => some '\x08'
  | 't' => some '\t'
  | '\t' => some '\t'
  | 'n' => some '\n'
  | 'v' => some '\x0b'
  | 'f' => some '\x0c'
  | 'r' => some '\r'
  | 'e' => some '\x1b'
  | ' ' => some ' '
  | '"' => some '"'
  | '\\' => some '\\'
  | '/' => some '/'
  | 'N' => some '\u0085'
  | '_' => some '\u00a0'
  | 'L' => some '\u2028'
  | 'P' => some '\u2029'
  | _ => none

/-- The number of hexadecimal digits of a numeric escape. -/
def escapeWidth? : Char → Option Nat
  | 'x' => some 2
  | 'u' => some 4
  | 'U' => some 8
  | _ => none

/-- What a backslash in a double-quoted scalar stands for. -/
def escape : Scan Text := do
  skip 1
  let c ← peek 0
  match escape? c, escapeWidth? c with
  | some e, _ =>
    skip 1
    return [.scalar e]
  | none, some width =>
    skip 1
    let ds ← ahead width
    require (ds.length == width && ds.all fun d => (Table.hexDigit? d).isSome)
    let n := Table.hexNumber ds
    match CodePoint.ofNat? n with
    | some p =>
      skip width
      return [p]
    | none => throw (if n < Nat.pow 2 31 then .escapeBeyondUnicode else .escapeTooLarge)
  | none, none =>
    require (isBreak c)
    discard lineBreak
    quotedBreaks (← get).rest.length.succ

/-- What stands between blanks in a quoted scalar. -/
def quotedWord (double : Bool) : Nat → Scan Text
  | 0 => return []
  | fuel + 1 => do
    let plain ← skipWhile fun c => !isSpace c && c != '\'' && c != '"' && c != '\\'
    let c ← peek 0
    let more ← if !double && c == '\'' && (← peek 1) == '\'' then do
        skip 2
        pure (some [CodePoint.scalar '\''])
      else if (double && c == '\'') || (!double && (c == '"' || c == '\\')) then do
        skip 1
        pure (some [CodePoint.scalar c])
      else if double && c == '\\' then do
        pure (some (← escape))
      else pure none
    match more with
    | none => return Text.ofChars plain
    | some t => return Text.ofChars plain ++ t ++ (← quotedWord double fuel)

/-- The words and blanks of a quoted scalar up to its closing quote. -/
def quotedParts (quote : Char) : Nat → Scan Text
  | 0 => fail
  | fuel + 1 => do
    let word ← quotedWord (quote == '"') (← get).rest.length.succ
    if (← peek 0) == quote then
      skip 1
      return word
    else
      let blanks ← quotedSpaces
      return word ++ blanks ++ (← quotedParts quote fuel)

def quotedScalar : Scan Text := do
  let quote ← peek 0
  skip 1
  quotedParts quote (← get).rest.length.succ

/-- The length of the part of a plain scalar up to a blank, a colon that ends a key, or, inside of
flow collections, one of their signs. -/
def plainLength (flow : Bool) : List Char → Nat
  | [] => 0
  | c :: rest =>
    let next := rest.head?.getD '\x00'
    if isSpace c || (c == ':' && (isSpace next || (flow && ",[]\x7b\x7d".toList.contains next)))
        || (flow && ",?[]\x7b\x7d".toList.contains c) then 0
    else 1 + plainLength flow rest

/-- Line ends inside a plain scalar; none when a document ends among them. -/
def plainBreaks : Nat → Scan (Option Text)
  | 0 => return some []
  | fuel + 1 => do
    let c ← peek 0
    if c == ' ' then
      skip 1
      plainBreaks fuel
    else if isBreak c then
      let b ← lineBreak
      if ← atSeparator then return none
      else return (← plainBreaks fuel).map (b ++ ·)
    else return some []

/-- Blanks behind a part of a plain scalar; none when the scalar ends with them. -/
def plainSpaces : Scan (Option Text) := do
  let blanks ← skipWhile (· == ' ')
  if isBreak (← peek 0) then
    let first ← lineBreak
    allow true
    if ← atSeparator then return none
    else
      match ← plainBreaks (← get).rest.length.succ with
      | none => return none
      | some breaks =>
        -- One line end is folded into a blank; of several the first is left out.
        if first != "\n" then return some (first ++ breaks)
        else if breaks.isEmpty then return some " "
        else return some breaks
  else if blanks.isEmpty then return none
  else return some (Text.ofChars blanks)

/-- The parts of a plain scalar; `blanks` is what stands before the next part. -/
def plainParts (indent : Int) : Nat → Text → Scan Text
  | 0, _ => return []
  | fuel + 1, blanks => do
    let s ← get
    if (← peek 0) == '#' then return []
    else
      let length := plainLength (s.flowLevel != 0) s.rest
      if length == 0 then return []
      else
        allow false
        let part := Text.ofChars (s.rest.take length)
        skip length
        match ← plainSpaces with
        | none => return blanks ++ part
        | some spaces =>
          let s ← get
          if (← peek 0) == '#' || (s.flowLevel == 0 && (s.column : Int) < indent) then
            return blanks ++ part
          else return blanks ++ part ++ (← plainParts indent fuel spaces)

def plainScalar : Scan Text := do
  let s ← get
  plainParts (s.indent + 1) s.rest.length.succ []

/-- Whether a plain scalar may start here. -/
def startsPlain : Scan Bool := do
  let c ← peek 0
  let next ← peek 1
  return !(isSpace c || "-?:,[]\x7b\x7d#&*!|>'\"%@`".toList.contains c)
    || (!isSpace next && (c == '-' || ((← get).flowLevel == 0 && (c == '?' || c == ':'))))

/-! ### Tokens -/

def streamEnd : Scan Unit := do
  unwind (-1)
  dropKey
  push .streamEnd

def documentMarker (t : Token) : Scan Unit := do
  unwind (-1)
  dropKey
  allow false
  skip 3
  push t

def flowStart (t : Token) : Scan Unit := do
  saveKey
  modify fun s => { s with flowLevel := s.flowLevel + 1 }
  allow true
  skip 1
  push t

def flowEnd (t : Token) : Scan Unit := do
  require ((← get).flowLevel != 0)
  dropKey
  modify fun s => { s with flowLevel := s.flowLevel - 1 }
  allow false
  skip 1
  push t

def flowEntry : Scan Unit := do
  allow true
  dropKey
  skip 1
  push .flowEntry

/-- The dash before an item. -/
def blockEntry : Scan Unit := do
  if (← get).flowLevel == 0 then
    require (← get).allowKey
    if ← openBlock (← get).column then push .blockSequenceStart
  allow true
  dropKey
  skip 1
  push .blockEntry

/-- The question mark before a key. -/
def explicitKey : Scan Unit := do
  let flow := (← get).flowLevel != 0
  if !flow then
    require (← get).allowKey
    if ← openBlock (← get).column then push .blockMappingStart
  allow !flow
  dropKey
  skip 1
  push .key

/-- The colon before a value. -/
def mappingValue : Scan Unit := do
  let s ← get
  match s.keys.find? (·.1 == s.flowLevel) with
  -- The key is marked in front of the token that it started with.
  | some (_, key) =>
    set { s with keys := s.keys.filter (·.1 != s.flowLevel) }
    insert key.number .key
    if s.flowLevel == 0 then
      if ← openBlock key.column then insert key.number .blockMappingStart
    allow false
  | none =>
    if s.flowLevel == 0 then
      require s.allowKey
      if ← openBlock s.column then push .blockMappingStart
    allow (s.flowLevel == 0)
    dropKey
  skip 1
  push .value

/-- A token that may be a simple key. -/
def keyLike (token : Scan Token) : Scan Unit := do
  saveKey
  allow false
  push (← token)

/-- A block scalar's token. -/
def blockScalarToken (folded : Bool) : Scan Unit := do
  allow true
  dropKey
  push (.scalar (← blockScalar folded) false)

/-- Scans one token; gives whether the text has ended. -/
def token : Scan Bool := do
  toNextToken (← get).rest.length.succ
  dropStaleKeys
  unwind (← get).column
  let c ← peek 0
  let next ← peek 1
  let s ← get
  let flow := s.flowLevel != 0
  if c == '\x00' then
    streamEnd
    return true
  -- Directives and document markers stand at the start of a line.
  if c == '%' && s.column == 0 then
    unwind (-1)
    dropKey
    allow false
    push (.directive (← directive))
  else if s.column == 0 && (← atMarker '-') then documentMarker .documentStart
  else if s.column == 0 && (← atMarker '.') then documentMarker .documentEnd
  else if c == '[' then flowStart .flowSequenceStart
  else if c == '\x7b' then flowStart .flowMappingStart
  else if c == ']' then flowEnd .flowSequenceEnd
  else if c == '\x7d' then flowEnd .flowMappingEnd
  else if c == ',' then flowEntry
  -- Outside of brackets these signs count only with a blank behind them.
  else if c == '-' && isSpace next then blockEntry
  else if c == '?' && (flow || isSpace next) then explicitKey
  else if c == ':' && (flow || isSpace next) then mappingValue
  else if c == '*' then keyLike (return .alias (← anchorName))
  else if c == '&' then keyLike (return .anchor (← anchorName))
  else if c == '!' then keyLike tag
  else if c == '|' && !flow then blockScalarToken false
  else if c == '>' && !flow then blockScalarToken true
  else if c == '\'' || c == '"' then keyLike (return .scalar (← quotedScalar) false)
  else if ← startsPlain then keyLike (return .scalar (← plainScalar) true)
  else fail
  return false

end Scan

/-- The characters that a text may hold. -/
def isAllowed (c : Char) : Bool :=
  c == '\t' || c == '\n' || c == '\r' || (' ' ≤ c && c ≤ '~') || c == '\u0085'
    || ('\u00a0' ≤ c && c != '\uFFFE' && c != '\uFFFF')

/-- The tokens of a text as far as they can be read, and what is wrong behind them. -/
structure TokenStream where
  tokens : List Token
  fault : Option LoadError

/-- The tokens before a fault.  One that may still turn out to be a key is not known before the
text behind it is. -/
def Scanner.usable (s : Scanner) : List Token :=
  s.tokens.reverse.take (s.keys.foldl (fun n k => min n k.2.number) s.count)

/-- Scans tokens up to the end of the text or the first fault. -/
def scanFrom : Nat → Scanner → TokenStream
  | 0, s => ⟨s.usable, some .malformed⟩
  | fuel + 1, s =>
    match Scan.token.run s with
    | .error e => ⟨s.usable, some e⟩
    | .ok (true, s) => ⟨s.tokens.reverse, none⟩
    | .ok (false, s) => scanFrom fuel s

def tokens (text : List Char) : TokenStream :=
  if !text.all isAllowed then ⟨[], some .malformed⟩
  else
    let text := if text.head? == some '\uFEFF' then text.drop 1 else text
    scanFrom (text.length + 2) ⟨text, 0, 0, 0, 0, -1, [], true, [], [], 0⟩

end ChallengeDns.Yaml
