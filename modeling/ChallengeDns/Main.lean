import ChallengeDns.CommandLine.Start
import ChallengeDns.Transport.Tcp
import Std.Time.DateTime.Timestamp
/-!
# The program

The standard streams are one connection of the responder: messages come in behind their lengths,
replies go out in the same way, and everything that is reported goes to the error stream.
-/

namespace ChallengeDns.Program

/-- What reading at a path finds. -/
def read (path : Text) : IO (Except IO.Error Bytes) := do
  try return .ok (← IO.FS.readBinFile path.toString).toList
  catch e => return .error e

def look (path : Text) : IO Disk := do
  match ← read path with
  | .ok content => return ⟨path, .present, .file content, false⟩
  | .error (.inappropriateType _ 21 _) => return ⟨path, .present, .folder, false⟩
  | .error (.inappropriateType ..) => return ⟨path, .notFolder, .absent, false⟩
  | .error _ =>
    match ← read (Path.folder path) with
    | .error (.noFileOrDirectory ..) => return ⟨path, .missing, .absent, false⟩
    | _ => return ⟨path, .present, .absent, false⟩

def content? (path : Text) : IO (Option Bytes) := do
  match (← look path).place with
  | .file content => return some content
  | _ => return none

def environmentOf (names : List Text) : IO Environment :=
  names.filterMapM fun name => do
    return (← IO.getEnv name.toString).map fun value => (name, Text.ofString value)

/-- The microseconds since the start of 1970. -/
def clock : IO Int := do
  return (← Std.Time.Timestamp.now).toNanosecondsSinceUnixEpoch.toInt / 1000

/-- The path of the state file in the configuration, if both are there. -/
def statePath? (environment : Environment) (path : Text) (content : Bytes) : Option Text :=
  match (Config.loadOctets environment path content).1 with
  | .ok c => c.settings.statePath.map Path.shown
  | .error _ => none

/-- What the program finds around itself. -/
def surroundings (words : List Text) : IO Surroundings := do
  let now ← clock
  let nothing : Surroundings :=
    ⟨[], fun _ => none, fun path => ⟨path, .missing, .absent, false⟩, now⟩
  match Reading.ofWords words with
  | .run o =>
    let path := Path.shown o.config
    match ← content? path with
    | none => return nothing
    | some content =>
      let environment ← environmentOf (Config.referencedNames path content)
      let disk ← match statePath? environment path content with
        | none => pure (nothing.disk [])
        | some state => look state
      return ⟨environment, fun p => if p = path then some content else none, fun _ => disk, now⟩
  | _ => return nothing

/-- Puts the content of a state file in its place, all of it or nothing. -/
def save (d : Disk) : IO Unit := do
  match d.place with
  | .file content =>
    IO.FS.writeBinFile d.temporary.toString content.toByteArray
    IO.FS.rename d.temporary.toString d.path.toString
  | _ => pure ()

/-- All octets that are still to come. -/
partial def readAll (input : IO.FS.Stream) (before : ByteArray) : IO ByteArray := do
  let more ← input.read 65536
  if more.isEmpty then return before else readAll input (before ++ more)

/-- Serves the connection of the standard streams. -/
def serve (around : Surroundings) (ready : Ready) : IO UInt32 := do
  let write (entries : List LogEntry) : IO Unit := do
    IO.eprint (ready.policy.lines (← clock) entries).toString
  write [ready.server.serving]
  let stream ← readAll (← IO.getStdin) .empty
  match DateTime.ofUnix (← clock) with
  | .error _ => return 1
  | .ok now =>
    let authority := ready.server.authority now
    let conversation :=
      Transport.converse authority ready.server.state.store "-" .closed stream.toList
    write conversation.logs
    let output ← IO.getStdout
    conversation.sent.forM fun m => output.write m.toByteArray
    output.flush
    IO.eprint (CommandLine.closing around ready false).toString
    return 0

end ChallengeDns.Program

open ChallengeDns in
def main (args : List String) : IO UInt32 := do
  let words := args.map Text.ofString
  let around ← Program.surroundings words
  let start := CommandLine.start around words
  IO.print start.output.toString
  IO.eprint start.errors.toString
  match start.result with
  | .error (.code n) => return n.toUInt32
  | .error (.passedOn (.config e)) => throw (IO.userError e.message.toString)
  | .error (.passedOn (.build e)) => throw (IO.userError e.message.toString)
  | .ok ready =>
    match ready.server.state.store.disk with
    | some d => Program.save d
    | none => pure ()
    Program.serve around ready
