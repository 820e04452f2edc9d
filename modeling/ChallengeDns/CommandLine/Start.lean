import ChallengeDns.CommandLine.Arguments
import ChallengeDns.Config.Loader
import ChallengeDns.Log.Policy
import ChallengeDns.Server.Basic
/-!
# Starting the program

From the command line to a server that is ready to listen.  Until the configuration is loaded,
warnings are written as they are; from then on the configuration says what is logged and how.
Errors that are expected end the program with a complaint; others, and with `--debug` most of them,
are passed on.
-/

namespace ChallengeDns

/-- What the program finds around itself. -/
structure Surroundings where
  environment : Environment
  /-- The content of the file at a path, if there is a file. -/
  file? : Text → Option Bytes
  /-- What is where the state file should be. -/
  disk : Text → Disk
  /-- The microseconds since the start of 1970. -/
  now : Int

/-- An error that ends the program without a complaint of its own. -/
inductive StartError where
  | config (e : ConfigError)
  | build (e : BuildError)

/-- How the program ends before it serves. -/
inductive Ending where
  | code (n : Nat)
  | passedOn (e : StartError)

/-- A server with what it logs. -/
structure Ready where
  server : Server
  policy : LogPolicy

/-- What the program writes until it serves, and what comes of it. -/
structure Start where
  output : Text
  errors : Text
  result : Except Ending Ready

namespace CommandLine

/-- Ends the program with a code. -/
def finish (code : Nat) (output errors : Text) : Start := ⟨output, errors, .error (.code code)⟩

/-- The lines about entries before the configuration is loaded. -/
def earlyLines (debug : Bool) (entries : List LogEntry) : Text :=
  let least := (if debug then LogLevel.debug else .warning).number
  (entries.filter fun e => least ≤ e.level.number).flatMap fun e =>
    e.level.text ++ ": " ++ e.message ++ "\n"

/-- A summary of the settings. -/
def summary (s : Settings) : List LogEntry :=
  let say (t : Text) : LogEntry := ⟨.info, Server.logger, t⟩
  let place (bind port : Value) : Text :=
    bind.text ++ ":" ++ Text.ofInt (port.integer?.getD 0)
  [say ("Zone: " ++ s.zone.domain.text ++ " (NS " ++ s.zone.nameServer.text ++ ", admin "
      ++ s.zone.contact ++ ")"),
    say ("DNS: udp " ++ place s.dns.udpBind s.dns.udpPort ++ ", tcp "
      ++ place s.dns.tcpBind s.dns.tcpPort),
    say ("API: " ++ place s.api.bind s.api.port),
    say ("Store: " ++ s.statePath.getD "in-memory"),
    say ("ACL: " ++ Text.ofNat s.grants.length ++ " network(s)")]

/-- What is logged under the settings. -/
def policy (s : LoggingSettings) : LogPolicy := LogPolicy.ofWords s.level.text s.format.text

def isExpected : BuildError → Bool
  | .store e => e.isPersistence
  | .name _ => false

/-- Starts the program with a configuration; `early` is what has been written so far. -/
def serve (around : Surroundings) (o : Options) (early : Text) (c : Config) : Start :=
  let policy := policy c.settings.logging
  let introduction := early ++ policy.lines around.now (summary c.settings)
  if o.validateOnly then finish 0 [] introduction
  else
    -- From here on the log is written as the settings say.
    let (result, logs) := Server.build c.settings around.disk
    let errors := introduction ++ policy.lines around.now logs
    match result with
    | .ok server => ⟨[], errors, .ok ⟨server, policy⟩⟩
    | .error e =>
      if isExpected e ∧ ¬ o.debug then
        finish 1 [] (errors ++ complaint ("cannot open TXT store: " ++ e.message))
      else ⟨[], errors, .error (.passedOn (.build e))⟩

/-- Starts the program with its options. -/
def load (around : Surroundings) (o : Options) : Start :=
  let path := Path.shown o.config
  match around.file? path with
  | none => finish 1 [] (complaint ("configuration file not found: " ++ path))
  | some content =>
    let (result, logs) := Config.loadOctets around.environment path content
    let early := earlyLines o.debug logs
    match result with
    | .ok c => serve around o early c
    | .error (.invalid problems) =>
      finish 1 [] (early ++ complaint (ConfigError.listing problems))
    | .error e =>
      -- When debugging, the error itself is shown.
      if o.debug then ⟨[], early, .error (.passedOn (.config e))⟩
      else finish 1 [] (early ++ complaint ("failed to load configuration: " ++ e.message))

def start (around : Surroundings) (words : List Text) : Start :=
  match Reading.ofWords words with
  | .help => finish 0 help []
  | .version => finish 0 version []
  | .misuse m => finish 2 [] (usage ++ complaint m.message)
  | .run o => load around o

/-- What is written when the responder cannot listen. -/
def cannotListen (fault : Text) : Text := complaint ("cannot bind DNS listeners: " ++ fault)

/-- What is written about the end of a server that was serving; `failed` is whether an error ended
it. -/
def closing (around : Surroundings) (r : Ready) (failed : Bool) : Text :=
  r.policy.lines around.now (r.server.drain.2 ++ if failed then [] else [Server.stopped])

end CommandLine

end ChallengeDns
