import ChallengeDns.Log.Entry
/-!
# Shutting down

Updates that have begun are counted, so that the server can let them end before it stops.  Once it
is shutting down it accepts no further requests; operations that begin all the same are warned
about.
-/

namespace ChallengeDns

/-- What is known about operations and the shutdown. -/
structure Shutdown where
  /-- The operations that have begun and not ended. -/
  inFlight : Int
  /-- Whether the server is shutting down. -/
  shuttingDown : Bool
  /-- Whether it has been asked to. -/
  requested : Bool
deriving DecidableEq

namespace Shutdown

def logger : Text := "acmetxt.app.shutdown"

/-- At the start nothing has begun. -/
def initial : Shutdown := ⟨0, false, false⟩

/-- An operation begins. -/
def enter (c : Shutdown) (name : Text) : Shutdown × List LogEntry :=
  ({ c with inFlight := c.inFlight + 1 },
    if c.shuttingDown then
      [⟨.warning, logger, "Operation '" ++ name ++ "' starting during shutdown"⟩]
    else [])

/-- An operation ends, well or not. -/
def leave (c : Shutdown) : Shutdown := { c with inFlight := c.inFlight - 1 }

/-- Asks the server to shut down. -/
def request (c : Shutdown) : Shutdown := { c with requested := true }

/-- The server shuts down and does not wait for operations. -/
def perform (c : Shutdown) : Shutdown × List LogEntry :=
  if c.shuttingDown then (c, [])
  else
    ({ c with shuttingDown := true, requested := true },
      [⟨.info, logger, "Graceful shutdown initiated"⟩,
        if 0 < c.inFlight then ⟨.warning, logger, "Shutdown timeout expired with "
          ++ Text.ofInt c.inFlight ++ " operations in flight"⟩
        else ⟨.info, logger, "All in-flight operations completed"⟩])

def signals : List (Int × String) :=
  [(1, "SIGHUP"), (2, "SIGINT"), (3, "SIGQUIT"), (4, "SIGILL"), (5, "SIGTRAP"), (6, "SIGABRT"),
    (7, "SIGBUS"), (8, "SIGFPE"), (9, "SIGKILL"), (10, "SIGUSR1"), (11, "SIGSEGV"),
    (12, "SIGUSR2"), (13, "SIGPIPE"), (14, "SIGALRM"), (15, "SIGTERM"), (16, "SIGSTKFLT"),
    (17, "SIGCHLD"), (18, "SIGCONT"), (19, "SIGSTOP"), (20, "SIGTSTP"), (21, "SIGTTIN"),
    (22, "SIGTTOU"), (23, "SIGURG"), (24, "SIGXCPU"), (25, "SIGXFSZ"), (26, "SIGVTALRM"),
    (27, "SIGPROF"), (28, "SIGWINCH"), (29, "SIGIO"), (30, "SIGPWR"), (31, "SIGSYS"),
    (34, "SIGRTMIN"), (64, "SIGRTMAX")]

/-- A number that is no signal. -/
structure UnknownSignal where
  number : Int
deriving DecidableEq

def UnknownSignal.message (u : UnknownSignal) : Text :=
  Text.ofInt u.number ++ " is not a valid Signals"

/-- A signal asks the server to shut down. -/
def signal (c : Shutdown) (number : Int) : Except UnknownSignal (Shutdown × List LogEntry) :=
  match signals.find? (·.1 == number) with
  | none => .error ⟨number⟩
  | some (_, name) =>
    .ok (c.request,
      [⟨.info, logger, "Received " ++ Text.ofString name ++ ", initiating graceful shutdown"⟩])

end Shutdown

end ChallengeDns
