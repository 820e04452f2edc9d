import ChallengeDns.Json.Reader
import ChallengeDns.Json.Writer
import ChallengeDns.Log.Record
/-!
# Log lines

A record is written as a JSON object on one line, or as a line of text behind which the error and
the stack stand on lines of their own.  Times are universal.
-/

namespace ChallengeDns

/-- How records are written. -/
inductive LogLayout where
  | text
  | json
deriving DecidableEq

namespace LogLayout

def word : LogLayout → Text
  | .text => "text"
  | .json => "json"

def all : List LogLayout := [.text, .json]

def ofWord? (t : Text) : Option LogLayout := all.find? fun l => l.word == t

end LogLayout

namespace LogRecord

/-- Whether a field of the context says something. -/
def isSet : Value → Bool
  | .scalar .null => false
  | .scalar (.text t) => t != ("-" : Text)
  | _ => true

/-- The members of a record's JSON object.  Extras cannot take the place of other members; the error
and the stack take that of an extra. -/
def members (r : LogRecord) (c : LogContext) (time : DateTime) (message : Text) :
    List (Scalar × Value) :=
  let context := ContextField.all.filterMap fun f =>
    let v := r.field c f
    if isSet v then some (Scalar.text f.name, v) else none
  let first : List (Scalar × Value) := [(.text "timestamp", .ofText (time.text "T")),
    (.text "level", .ofText (LogLevel.nameOf r.level)), (.text "logger", .ofText r.logger),
    (.text "message", .ofText message)] ++ context
  let extras := (r.ownExtras.map fun e => (Scalar.text e.1, e.2)).filter fun e =>
    (Value.lookup first e.1).isNone
  let last := (r.exception.toList.map fun t => (Scalar.text "exception", Value.ofText t))
    ++ (r.stack.toList.filter (!·.isEmpty)).map fun t => (Scalar.text "stack_info", Value.ofText t)
  Value.entriesOf (first ++ extras ++ last)

/-- A record as a JSON object, unless a number in it is too long or values stand too deep in each
other. -/
def jsonText (r : LogRecord) (c : LogContext) (time : DateTime) (message : Text) : Option Text :=
  let data := Value.mapping (r.members c time message)
  if data.isShown && data.depth ≤ Json.maxDepth then (Json.write .lenientLine data).toOption
  else none

/-- Puts a text on lines of its own. -/
def appendLines (t more : Text) : Text :=
  if more.isEmpty then t
  else t ++ Text.when (t.getLast? != some (.scalar '\n')) "\n" ++ more

/-- A record as text, unless a number in it is too long. -/
def plainText (r : LogRecord) (c : LogContext) (time : DateTime) (message : Text) : Option Text :=
  let line := time.date.text ++ " " ++ time.clockText ++ " "
    ++ Text.padRight 8 (LogLevel.nameOf r.level) ++ " [" ++ (r.field c .transport).text ++ " "
    ++ (r.field c .requestId).text ++ "] " ++ (r.field c .client).text ++ " " ++ r.logger ++ ": "
    ++ message
  if [ContextField.transport, .requestId, .client].all fun f => (r.field c f).isShown then
    some (appendLines (appendLines line (r.exception.getD [])) (r.stack.getD []))
  else none

/-- The line of a record, unless its values do not fit its template, its time is beyond all dates or
something in it cannot be written. -/
def line? (r : LogRecord) (c : LogContext) (l : LogLayout) : Option Text := do
  let time ← (DateTime.ofUnix r.created).toOption
  let message ← r.message?
  let t ← match l with
    | .text => r.plainText c time message
    | .json => r.jsonText c time message
  return t ++ "\n"

end LogRecord

end ChallengeDns
