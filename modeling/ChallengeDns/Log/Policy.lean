import ChallengeDns.Log.Line
import ChallengeDns.Text.Upper
/-!
# Log policy

Which records are written, and how.  Records of the access log have a level of their own, which is
never above `INFO`: who asked for less still sees who was served.  A level of zero leaves the
decision to the usual level, that of warnings.
-/

namespace ChallengeDns

/-- What is logged. -/
structure LogPolicy where
  level : Int
  accessLevel : Int
  layout : LogLayout
deriving DecidableEq

namespace LogPolicy

/-- The level of access lines about requests. -/
def accessBound : Int := LogLevel.info.number

/-- The level from which messages of the web framework are written. -/
def frameworkLevel : Int := LogLevel.warning.number

/-- The policy with a word for the level and one for the layout.  A word that is no level means
`INFO`, one that is no layout means text. -/
def ofWords (level layout : Text) : LogPolicy :=
  let n := (LogLevel.ofName? (Text.toUpper level)).getD LogLevel.info.number
  ⟨n, min n accessBound, (LogLayout.ofWord? layout).getD .text⟩

/-- Whether a logger belongs to the access log. -/
def isAccess (logger : Text) : Bool :=
  logger == ("acmetxt.access" : Text) || (Text.ofString "acmetxt.access.").isPrefixOf logger

/-- The level from which a logger's records are written. -/
def threshold (p : LogPolicy) (logger : Text) : Int :=
  let own := if isAccess logger ∧ p.accessLevel ≠ 0 then p.accessLevel else p.level
  if own = 0 then LogLevel.warning.number else own

def isEnabled (p : LogPolicy) (r : LogRecord) : Bool := p.threshold r.logger ≤ r.level

def line? (p : LogPolicy) (c : LogContext) (r : LogRecord) : Option Text :=
  if p.isEnabled r then r.line? c p.layout else none

/-- The lines of entries at a time; they belong to no query and to no request. -/
def lines (p : LogPolicy) (created : Int) (entries : List LogEntry) : Text :=
  entries.flatMap fun e => (p.line? ⟨[], none⟩ (e.record created)).getD []

end LogPolicy

end ChallengeDns
