import ChallengeDns.Text.Digit
import ChallengeDns.Text.Quoted
/-!
# Arguments of the command line

Each word is first understood by itself: a switch, perhaps with a value attached, a word that looks
like a switch and is none, or a value.  Long switches may be shortened as long as one switch alone
is meant, and short ones may share a word.  Behind a word of two hyphens nothing is a switch.
-/

namespace ChallengeDns

/-- A switch. -/
inductive Switch where
  | help
  | config
  | debug
  | validateOnly
  | version
deriving DecidableEq

namespace Switch

def spellings : List (String × Switch) :=
  [("-h", .help), ("--help", .help), ("-c", .config), ("--config", .config), ("--debug", .debug),
    ("--validate-only", .validateOnly), ("-v", .version), ("--version", .version)]

def ofSpelling? (t : Text) : Option Switch :=
  (spellings.find? fun e => Text.ofString e.1 == t).map (·.2)

/-- Whether a value belongs to a switch. -/
def takesValue (s : Switch) : Bool := s = .config

/-- A switch in messages, with all its spellings. -/
def title (s : Switch) : Text :=
  Text.join "/" ((spellings.filter fun e => e.2 = s).map fun e => Text.ofString e.1)

/-- The switches that a shortened long spelling may mean. -/
def startingWith (t : Text) : List (Text × Switch) :=
  (spellings.map fun e => (Text.ofString e.1, e.2)).filter fun e => t.isPrefixOf e.1

end Switch

/-- What is wrong with a command line. -/
inductive Misuse where
  | ambiguous (word : Text) (meanings : List Text)
  | valueMissing (s : Switch)
  | valueRefused (s : Switch) (value : Text)
  | required (s : Switch)
  | unrecognized (words : List Text)
deriving DecidableEq

def Misuse.message : Misuse → Text
  | .ambiguous word meanings =>
    "ambiguous option: " ++ word ++ " could match " ++ Text.join ", " meanings
  | .valueMissing s => "argument " ++ s.title ++ ": expected one argument"
  | .valueRefused s value =>
    "argument " ++ s.title ++ ": ignored explicit argument " ++ value.quoted
  | .required s => "the following arguments are required: " ++ s.title
  | .unrecognized words => "unrecognized arguments: " ++ Text.join " " words

/-- What is attached to a switch in its word; `marked` is whether an equals sign stands between. -/
structure Attached where
  marked : Bool
  text : Text
deriving DecidableEq

/-- A word as it is understood by itself. -/
inductive Word where
  | value
  /-- Two hyphens. -/
  | separator
  /-- A switch with one hyphen or two, and what is attached to it. -/
  | switch (s : Switch) (short : Bool) (attached : Option Attached)
  /-- A word that looks like a switch. -/
  | unknown
deriving DecidableEq

namespace Word

def isNegativeNumber (t : Text) : Bool :=
  let digits (t : Text) : Bool := !t.isEmpty && t.all fun c => c.decimal?.isSome
  match t with
  | .scalar '-' :: rest =>
    digits rest || (match Text.cut? '.' rest with
      | some (whole, fraction) => (whole.isEmpty || digits whole) && digits fraction
      | none => false)
  | _ => false

/-- A word that is no spelling of a switch and does not mean one. -/
def other (t : Text) : Word :=
  if isNegativeNumber t || t.contains (.scalar ' ') then .value else .unknown

/-- A word of two hyphens and more. -/
def long (t : Text) : Except Misuse Word :=
  let (spelling, attached) : Text × Option Attached := match Text.cut? '=' t with
    | some (spelling, given) => (spelling, some ⟨true, given⟩)
    | none => (t, none)
  match Switch.startingWith spelling with
  | [] => .ok (other t)
  | [(_, s)] => .ok (.switch s false attached)
  | meanings => .error (.ambiguous t (meanings.map fun e => e.1))

/-- A word of one hyphen and more: the first letter may be a switch to which the rest is
attached. -/
def short (t : Text) : Word :=
  match Switch.ofSpelling? (t.take 2) with
  | some s => .switch s true (some ⟨false, t.drop 2⟩)
  | none => other t

/-- Understands a word. -/
def read (t : Text) : Except Misuse Word :=
  match t with
  | .scalar '-' :: second :: rest =>
    let whole := Switch.ofSpelling? t
    let equation := (Text.cut? '=' t).bind fun (spelling, given) =>
      (Switch.ofSpelling? spelling).map (·, given)
    let single := second ≠ .scalar '-'
    match whole, equation with
    | some s, _ => .ok (.switch s single none)
    | none, some (s, given) => .ok (.switch s single (some ⟨true, given⟩))
    | none, none => if single then .ok (short t) else long (.scalar '-' :: second :: rest)
  | _ => .ok .value

/-- Understands all words of a command line. -/
def readAll : List Text → Except Misuse (List (Text × Word))
  | [] => .ok []
  | t :: ts =>
    if t == ("--" : Text) then .ok ((t, .separator) :: ts.map fun t => (t, .value))
    else do
      let w ← read t
      return (t, w) :: (← readAll ts)

end Word

/-- What the program is asked to do. -/
structure Options where
  /-- The path of the configuration. -/
  config : Text
  debug : Bool
  validateOnly : Bool
deriving DecidableEq

/-- What a command line means. -/
inductive Reading where
  | help
  | version
  | run (o : Options)
  | misuse (m : Misuse)
deriving DecidableEq

/-- What the words so far mean. -/
structure Gathered where
  config : Option Text
  debug : Bool
  validateOnly : Bool
  /-- The words that mean nothing. -/
  left : List Text
deriving DecidableEq

namespace Gathered

/-- Nothing is said. -/
def nothing : Gathered := ⟨none, false, false, []⟩

/-- What it means when all words are understood. -/
def finish (g : Gathered) : Reading :=
  match g.config with
  | none => .misuse (.required .config)
  | some path =>
    if g.left.isEmpty then .run ⟨path, g.debug, g.validateOnly⟩
    else .misuse (.unrecognized g.left)

/-- Switches one after the other; two of them settle everything. -/
def act (g : Gathered) : List (Switch × Text) → Except Reading Gathered
  | [] => .ok g
  | (.help, _) :: _ => .error .help
  | (.version, _) :: _ => .error .version
  | (.config, value) :: rest => act { g with config := some value } rest
  | (.debug, _) :: rest => act { g with debug := true } rest
  | (.validateOnly, _) :: rest => act { g with validateOnly := true } rest

end Gathered

/-- The switches that share a word: those whose values are known, one that may await its value, and
what is no switch at the end of the word. -/
structure Sharing where
  acts : List (Switch × Text)
  last : Option Switch
  left : Option Text
deriving DecidableEq

/-- The switches in a word from one on to which a text is attached. -/
def Sharing.from (s : Switch) (single marked : Bool) : Text → Except Misuse Sharing
  | [] => if s.takesValue then .ok ⟨[(s, [])], none, none⟩ else .error (.valueRefused s [])
  | c :: rest =>
    if s.takesValue then .ok ⟨[(s, c :: rest)], none, none⟩
    else if !single || marked || c = .scalar '-' then .error (.valueRefused s (c :: rest))
    else match Switch.ofSpelling? ['-', c] with
      | none => .ok ⟨[(s, [])], none, some ('-' :: c :: rest)⟩
      | some next =>
        let more : Except Misuse Sharing := match rest with
          | [] => .ok ⟨[], some next, none⟩
          | .scalar '=' :: rest => Sharing.from next true true rest
          | d :: rest => Sharing.from next true false (d :: rest)
        more.map fun m => { m with acts := (s, []) :: m.acts }

/-- The switches in a word. -/
def Sharing.ofWord (s : Switch) (single : Bool) (attached : Option Attached) :
    Except Misuse Sharing :=
  match attached with
  | none => .ok ⟨[], some s, none⟩
  | some a => Sharing.from s single a.marked a.text

/-- What the words mean behind what is gathered.  A switch that awaits its value takes the next
word, and then the switches before it in its word act. -/
def gather (g : Gathered) (pending : List (Switch × Text)) (awaited : Option Switch) :
    List (Text × Word) → Reading
  | [] =>
    match awaited with
    | some s => .misuse (.valueMissing s)
    | none => g.finish
  | (t, w) :: rest =>
    match awaited with
    | some s =>
      -- The switches in front of this one act only now that its value is there.
      if w = .value then
        match g.act (pending ++ [(s, t)]) with
        | .error reading => reading
        | .ok g => gather g [] none rest
      else .misuse (.valueMissing s)
    | none =>
      match w with
      | .switch s single attached =>
        match Sharing.ofWord s single attached with
        | .error m => .misuse m
        | .ok shared =>
          let g := { g with left := g.left ++ shared.left.toList }
          match shared.last with
          | some last =>
            if last.takesValue then gather g shared.acts (some last) rest
            else match g.act (shared.acts ++ [(last, [])]) with
              | .error reading => reading
              | .ok g => gather g [] none rest
          | none =>
            match g.act shared.acts with
            | .error reading => reading
            | .ok g => gather g [] none rest
      -- Nothing takes the word; it is complained about in the end.
      | _ => gather { g with left := g.left ++ [t] } [] none rest

/-- What a command line means. -/
def Reading.ofWords (words : List Text) : Reading :=
  match Word.readAll words with
  | .error m => .misuse m
  | .ok words => gather .nothing [] none words

namespace CommandLine

def usage : Text := "usage: acmetxt [-h] -c PATH [--debug] [--validate-only] [-v]\n"

def version : Text := "acmetxt 1.0.0\n"

/-- What the program says about itself. -/
def help : Text := usage ++ "\nACMETXT: authoritative DNS responder for ACME DNS-01 challenges\n\n"
  ++ "options:\n"
  ++ "  -h, --help            show this help message and exit\n"
  ++ "  -c PATH, --config PATH\n"
  ++ "                        Path to the configuration file (YAML or JSON).\n"
  ++ "  --debug               Enable debug output (full tracebacks, verbose\n"
  ++ "                        logging).\n"
  ++ "  --validate-only       Validate the configuration file and exit.\n"
  ++ "  -v, --version         show program's version number and exit\n"

def complaint (t : Text) : Text := "acmetxt: error: " ++ t ++ "\n"

end CommandLine

end ChallengeDns
