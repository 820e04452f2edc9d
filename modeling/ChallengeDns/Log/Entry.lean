import ChallengeDns.Text.Basic
/-!
# Log entries

What the server reports while it works: a level, the part of the program that reports, and a
message.
-/

namespace ChallengeDns

/-- How serious an entry is. -/
inductive LogLevel where
  | debug
  | info
  | warning
  | error
deriving DecidableEq

namespace LogLevel

/-- The number of a level; more serious ones have greater numbers. -/
def number : LogLevel → Nat
  | .debug => 10
  | .info => 20
  | .warning => 30
  | .error => 40

def text : LogLevel → Text
  | .debug => "DEBUG"
  | .info => "INFO"
  | .warning => "WARNING"
  | .error => "ERROR"

end LogLevel

/-- An entry of the log. -/
structure LogEntry where
  level : LogLevel
  logger : Text
  message : Text
deriving DecidableEq

/-- What comes of an operation: its result, the state behind it, and what it reports. -/
structure Attempt (σ ε α : Type) where
  result : Except ε α
  state : σ
  logs : List LogEntry

end ChallengeDns
