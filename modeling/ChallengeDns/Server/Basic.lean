import ChallengeDns.Api.Routes
import ChallengeDns.Answer.Authority
/-!
# The server

A server is built from its settings: the store, the access control, and what counts running
updates.  The responder and the update interface share the store.
-/

namespace ChallengeDns

structure Server where
  settings : Settings
  access : AccessControl
  state : Api.State

/-- Why a server cannot be built. -/
inductive BuildError where
  | store (e : StoreError)
  | name (e : NameError)

def BuildError.message : BuildError → Text
  | .store e => e.message
  | .name e => e.message

namespace Server

/-- The part of the program that reports about the server's start and end. -/
def logger : Text := "acmetxt.cli.main"

/-- Builds a server; `disk` tells what is at the state file's path. -/
def build (settings : Settings) (disk : Text → Disk) : Except BuildError Server × List LogEntry :=
  let store := Store.configured settings.statePath disk
  match store.result with
  | .error e => (.error (.store e), store.logs)
  | .ok s =>
    match AccessControl.ofGrants settings.zone.domain settings.grants with
    | .error e => (.error (.name e), store.logs)
    | .ok access =>
      (.ok ⟨settings, access, ⟨s, .initial⟩⟩, store.logs ++ access.loaded :: Api.created)

/-- What answers are made from at a time. -/
def authority (s : Server) (now : DateTime) : Authority :=
  ⟨s.settings.zone, s.settings.records, s.access, now⟩

def serving (s : Server) : LogEntry :=
  ⟨.info, logger, "ACMETXT serving zone " ++ s.settings.zone.domain.text⟩

/-- The server stops accepting updates; those that have begun are waited for. -/
def drain (s : Server) : Server × List LogEntry :=
  let running := s.state.shutdown.inFlight
  let (shutdown, logs) := s.state.shutdown.perform
  let waiting : List LogEntry :=
    if running = 0 then []
    else [⟨.info, logger, "Waiting for " ++ Text.ofInt running ++ " in-flight update(s)"⟩]
  ({ s with state := { s.state with shutdown := shutdown } }, waiting ++ logs)

def stopped : LogEntry := ⟨.info, logger, "ACMETXT stopped"⟩

end Server

end ChallengeDns
