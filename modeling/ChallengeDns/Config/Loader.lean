import ChallengeDns.Config.Environment
import ChallengeDns.Config.Settings
import ChallengeDns.Json.Reader
import ChallengeDns.Log.Entry
import ChallengeDns.Store.Path
import ChallengeDns.Yaml.Reader
/-!
# Loading the configuration

A configuration file is JSON, or YAML if its name says so.  References to the environment are
resolved first; then everything that is wrong is reported together.
-/

namespace ChallengeDns

/-- Why a configuration cannot be used. -/
inductive ConfigError where
  | json (e : Json.ReadError)
  | yaml (e : Yaml.LoadError)
  | undecodable (e : Text.Utf8Error)
  | reference (f : Reference.Fault)
  | invalid (problems : List Text)
  | check (f : CheckFault)
  | settings (f : SettingsFault)

namespace ConfigError

/-- All problems of a configuration in one message. -/
def listing (problems : List Text) : Text :=
  "Configuration validation failed:\n" ++ Text.join "\n" (problems.map ("  - " ++ ·))

/-- What is wrong with a YAML text; of most faults only the fact is told. -/
def yamlMessage : Yaml.LoadError → Text
  | .malformed => "malformed YAML"
  | .escapeBeyondUnicode => "chr() arg not in range(0x110000)"
  | .escapeTooLarge => "Python int too large to convert to C int"
  | .badScalar message => message
  | .emptyNumber => "string index out of range"
  | .unknownTruth t => t.quoted
  | .noTimestamp => "'NoneType' object has no attribute 'groupdict'"

def message : ConfigError → Text
  | .json e => e.message
  | .yaml e => yamlMessage e
  | .undecodable e => e.message
  | .reference f => f.message
  | .invalid problems => listing problems
  | .check f => f.message
  | .settings f => f.message

end ConfigError

/-- A configuration that can be used. -/
structure Config where
  /-- The path of its file as it is shown. -/
  path : Text
  /-- Its data with all references resolved. -/
  data : Value
  settings : Settings

namespace Config

def isYaml (path : Text) : Bool :=
  let suffix := Path.suffix path
  suffix == (".yaml" : Text) || suffix == (".yml" : Text)

/-- A root that is no mapping. -/
def noMapping (kind : Text) : ConfigError :=
  .invalid ["configuration root must be a mapping (got " ++ kind ++ ")"]

/-- The value in a file's text. -/
def parse (path text : Text) : Except ConfigError Value :=
  if isYaml path then (Yaml.read text).mapError .yaml else (Json.read text).mapError .json

/-- The root mapping in a file's text; an empty file is an empty mapping. -/
def readRoot (path text : Text) : Except ConfigError Value := do
  match ← parse path text with
  | .scalar .null => return .mapping []
  | .mapping es => return .mapping es
  | v => throw (noMapping v.kind)

/-- The warnings as they are logged. -/
def warning (t : Text) : LogEntry :=
  ⟨.warning, "acmetxt.config.acmetxt_config", "Config warning: " ++ t⟩

/-- Checks the data of a configuration and reads its settings. -/
def ofData (path : Text) (data : Value) : Except ConfigError Config × List LogEntry :=
  match check data with
  | .error f => (.error (.check f), [])
  | .ok findings =>
    let logs := findings.warnings.map warning
    if findings.problems.isEmpty then
      match Settings.read data with
      | .ok settings => (.ok ⟨Path.shown path, data, settings⟩, logs)
      | .error f => (.error (.settings f), logs)
    else (.error (.invalid findings.problems), logs)

/-- The data of a configuration with all references resolved; they are replaced where they stand in
a mapping or a list, and a text alone stands in none. -/
def resolve (env : Environment) (root : Value) : Except ConfigError Value :=
  match root with
  | .scalar s => .ok (.scalar s)
  | root =>
    match Reference.resolve env Value.maxDepth (.text []) root with
    | .error (.unresolved u) => .error (.invalid [u.message])
    | .error (.fault f) => .error (.reference f)
    | .ok data => .ok data

/-- Loads a configuration from a file's text. -/
def load (env : Environment) (path text : Text) : Except ConfigError Config × List LogEntry :=
  match readRoot path text with
  | .error e => (.error e, [])
  | .ok root =>
    match resolve env root with
    | .error e => (.error e, [])
    | .ok data => ofData path data

def loadOctets (env : Environment) (path : Text) (content : Bytes) :
    Except ConfigError Config × List LogEntry :=
  match Text.decode content with
  | .error e => (.error (.undecodable e), [])
  | .ok text => load env path text.unifyNewlines

/-- A configuration in messages for developers. -/
def describe (c : Config) : Text := "<AcmetxtConfig config_file=" ++ c.path ++ ">"

/-- The variables of the environment that a file refers to. -/
def referencedNames (path : Text) (content : Bytes) : List Text :=
  match Text.decode content with
  | .error _ => []
  | .ok text =>
    match readRoot path text.unifyNewlines with
    | .ok root => Reference.names root
    | .error _ => []

/-- What stands at a path of keys with dots between them. -/
def get? (c : Config) (path : Text) : Option Value :=
  (path.splitAt '.').foldl (fun v key => v.bind (·.get? key)) (some c.data)

end Config

end ChallengeDns
